import Mathlib.Data.List.Sort
import PrinterHmi.Enrollment.Acceptance
import PrinterHmi.Receiver.Config

/-!
# The documents of a relay's configuration

A relay keeps two documents: `relay-enrollment.json`, with its identity as a peer and
the challenges it has sent out and not seen answered, and `relay-receiver.json`, the
configuration its receiver starts from, with the enrolled devices. It reads two more,
which come from elsewhere and may hold anything: the pairing offer of an agent, and the
receipt the agent signs.

This module has the documents, what each must satisfy to be read, and what is taken
from it: `checkRelayState`, `ReceiverDocument.load`, `readOffer` and `matchReceipt`, each
with the inversion that says when it returns. The operations that write the documents
are in the module on the manager.
-/

namespace PrinterHmi

/-! ### Reading a file -/

/-- `RelayConfigurationError(message)`. -/
def configurationError (message : String) : Exn := ⟨.relayConfigurationError, message⟩

/-- What `_decode` of the configuration module raises. -/
def invalidEncodedKey : Exn := configurationError "invalid encoded key"

/-- `json.loads`, where `malformed` is made of a `JSONDecodeError`. An integer of more digits than
`int()` takes is a plain `ValueError`, and a value too deep for the stack a `RecursionError`. -/
def loadsJson (P : Platform) (text : List Char) (malformed : Exn) : Except Exn Json :=
  match Json.decode P.limits text with
  | .ok document => .ok document
  | .error .malformed => .error malformed
  | .error (.stopped .tooLong) =>
    .error ⟨.valueError, "Exceeds the limit for integer string conversion"⟩
  | .error (.stopped .tooDeep) => .error ⟨.recursionError, "maximum recursion depth exceeded"⟩

theorem loadsJson_eq_ok {P : Platform} {text : List Char} {malformed : Exn} {document : Json} :
    loadsJson P text malformed = .ok document ↔ Json.decode P.limits text = .ok document := by
  rw [loadsJson]
  split
  · next h => rw [h, Except.ok.injEq, Except.ok.injEq]
  all_goals
    next h =>
      rw [h]
      exact iff_of_false nofun nofun

/-- `_read_json`, on what the file holds, if it can be opened. Only a file that cannot be opened
and a `JSONDecodeError` are handled: bytes that are no UTF-8 and what the reader gives up raise
what nothing handles. -/
def readJson (P : Platform) (file : Option Bytes) (label : String) : Except Exn Json := do
  let raw ← orRaise file (configurationError (label ++ " could not be read"))
  let text ← orRaise (utf8? raw) ⟨.valueError, "invalid utf-8"⟩
  let document ← loadsJson P text.toList (configurationError (label ++ " could not be read"))
  require (document.isObj) (configurationError ("invalid " ++ label))
  pure document

/-- A record of texts, with the schema version. -/
def IsRecord (document : Json) : Prop :=
  ∃ fields, document = .obj fields ∧ ∀ e ∈ fields, e.2 = schemaVersion ∨ ∃ s, e.2 = .str s

theorem IsRecord.isObj {document : Json} (h : IsRecord document) : document.isObj = true := by
  obtain ⟨fields, rfl, -⟩ := h
  rfl

/-- A record is within the limits of every reader. -/
theorem IsRecord.fits (P : Platform) {document : Json} (h : IsRecord document) :
    Json.fits P.limits 0 document = true := by
  obtain ⟨fields, rfl, hfields⟩ := h
  have hdepth : 0 < P.limits.depth := Nat.lt_of_lt_of_le (by decide) P.depth_limits
  have hversion : Json.fits P.limits 1 schemaVersion = true :=
    (Option.all_eq_true _ _).mpr fun n hn =>
      decide_eq_true ((by decide : 1 ≤ 640).trans (P.digits_limits n hn))
  rw [Json.fits, decide_eq_true hdepth, Bool.true_and]
  induction fields with
  | nil => rfl
  | cons e fields ih =>
    have hvalue : Json.fits P.limits 1 e.2 = true := by
      rcases hfields e List.mem_cons_self with hversion' | ⟨s, hs⟩
      · rw [hversion']
        exact hversion
      · rw [hs]
        rfl
    rw [Json.fitsFields, hvalue, Bool.true_and]
    exact ih fun e' he' => hfields e' (List.mem_cons_of_mem _ he')

theorem IsRecord.withSignature {document : Json} (h : IsRecord document) (signature : Signature) :
    IsRecord (withSignature document signature) := by
  obtain ⟨fields, rfl, hfields⟩ := h
  refine ⟨_, rfl, fun e he => ?_⟩
  rcases Entries.mem_insert_keys he with rfl | he
  · exact .inr ⟨_, rfl⟩
  · exact hfields e he

/-- A file that holds the canonical text of a record is read as that record. -/
theorem readJson_canonical {P : Platform} {d : Json} (hd : d.ordered = true) (hrecord : IsRecord d)
    (label : String) : readJson P (some (canonical d)) label = .ok d := by
  simp only [readJson, Except.bind_eq_ok, require_eq_ok, exists_const, orRaise_eq_ok]
  refine ⟨canonical d, rfl, _, utf8?_utf8 _, d, ?_, hrecord.isObj, rfl⟩
  rw [String.toList_ofList, loadsJson_eq_ok]
  exact Json.decode_encode hd (hrecord.fits P)

theorem isRecord_enrollmentReceipt {challengeId relayId pairingId deviceId devicePublicKey peerId
    peerPublicKey enrolledAt : String} : IsRecord (enrollmentReceipt challengeId relayId pairingId
      deviceId devicePublicKey peerId peerPublicKey enrolledAt) :=
  ⟨_, rfl, by simp⟩

/-- A file that holds a signed receipt is read as that receipt. -/
theorem readJson_enrollmentReceipt {P : Platform} {challengeId relayId pairingId deviceId
    devicePublicKey peerId peerPublicKey enrolledAt : String} (signature : Signature)
    (label : String) :
    readJson P (some (canonical (withSignature (enrollmentReceipt challengeId relayId pairingId
      deviceId devicePublicKey peerId peerPublicKey enrolledAt) signature))) label =
        .ok (withSignature (enrollmentReceipt challengeId relayId pairingId deviceId
          devicePublicKey peerId peerPublicKey enrolledAt) signature) :=
  readJson_canonical (ordered_withSignature ordered_enrollmentReceipt signature)
    (isRecord_enrollmentReceipt.withSignature signature) label

/-! ### The enrollment state -/

/-- A challenge sent out and not yet answered. -/
structure PendingChallenge where
  deviceId : String
  devicePublicKey : String
  expiresAt : Json

/-- `relay-enrollment.json`. Its schema version is a constant. -/
structure RelayState where
  relayId : String
  peerId : String
  peerPublicKey : String
  peerPrivateKey : String
  createdAt : String
  pendingChallenges : Dict String PendingChallenge

/-- A pending challenge, as the state has it. -/
def PendingChallenge.json (pending : PendingChallenge) : Json :=
  .obj [("device_id", .str pending.deviceId),
    ("device_public_key", .str pending.devicePublicKey), ("expires_at", pending.expiresAt)]

/-- The document of an enrollment state. -/
def RelayState.json (state : RelayState) : Json :=
  .obj [("created_at", .str state.createdAt), ("peer_id", .str state.peerId),
    ("peer_private_key", .str state.peerPrivateKey),
    ("peer_public_key", .str state.peerPublicKey),
    ("pending_challenges",
      .obj (state.pendingChallenges.entries.map fun entry => (entry.1, entry.2.json))),
    ("relay_id", .str state.relayId), ("schema_version", schemaVersion)]

/-- The fields of an enrollment state. -/
def relayStateFields : List String :=
  ["created_at", "peer_id", "peer_private_key", "peer_public_key", "pending_challenges",
    "relay_id", "schema_version"]

/-- What a state that is none raises. -/
def invalidRelayState : Exn := configurationError "invalid relay enrollment state"

/-- What a state without a key pair raises. -/
def invalidRelayIdentity : Exn := configurationError "invalid relay enrollment identity"

section State

variable (P : Platform)

/-- The checks of `_load_state`. -/
def checkRelayState (state : Json) : Except Exn Unit := do
  require (state.hasFields relayStateFields ∧ state.fieldEq "schema_version" schemaVersion)
    invalidRelayState
  let _ ← patternText invalidRelayState relayIdPattern (state.field "relay_id")
  let _ ← patternText invalidRelayState peerIdPattern (state.field "peer_id")
  require ((state.field "pending_challenges").isObj) invalidRelayState
  let privateBytes ← b64decode invalidEncodedKey (state.field "peer_private_key")
  let publicBytes ← b64decode invalidEncodedKey (state.field "peer_public_key")
  let privateKey ← keyBytes invalidRelayIdentity privateBytes
  let publicKey ← keyBytes invalidRelayIdentity publicBytes
  require (P.publicKey privateKey = publicKey)
    (configurationError "relay enrollment identity does not match")

variable {P}

/-- **What a state that loads is**: its names have their form, and its keys are a
pair. -/
theorem checkRelayState_json {s : RelayState} :
    checkRelayState P s.json = .ok () ↔ relayIdPattern s.relayId = true ∧
      peerIdPattern s.peerId = true ∧ ∃ key : Bytes32,
        b64decodeText invalidEncodedKey s.peerPrivateKey = .ok key.1 ∧
        b64decodeText invalidEncodedKey s.peerPublicKey = .ok (P.publicKey key).1 := by
  have hrelay : s.json.field "relay_id" = .str s.relayId := rfl
  have hpeer : s.json.field "peer_id" = .str s.peerId := rfl
  have hprivate (e : Exn) : b64decode e (s.json.field "peer_private_key") =
      b64decodeText e s.peerPrivateKey := rfl
  have hpublic (e : Exn) : b64decode e (s.json.field "peer_public_key") =
      b64decodeText e s.peerPublicKey := rfl
  simp only [checkRelayState, Except.bind_eq_ok, require_eq_ok, exists_const, patternText_eq_ok,
    keyBytes_eq_ok, hrelay, hpeer, hprivate, hpublic, and_assoc, Json.str.injEq]
  constructor
  · rintro ⟨-, -, _, rfl, hr, _, rfl, hp, -, _, hkey, _, hkey', key, rfl, key', rfl, rfl⟩
    exact ⟨hr, hp, key, hkey, hkey'⟩
  · rintro ⟨hr, hp, key, hkey, hkey'⟩
    exact ⟨rfl, rfl, _, rfl, hr, _, rfl, hp, rfl, _, hkey, _, hkey', key, rfl, _, rfl, rfl⟩

/-- Whether a state loads does not depend on what is pending. -/
theorem checkRelayState_pending {s : RelayState} (h : checkRelayState P s.json = .ok ())
    (pending : Dict String PendingChallenge) :
    checkRelayState P (RelayState.json { s with pendingChallenges := pending }) = .ok () :=
  checkRelayState_json.mpr (checkRelayState_json.mp h)

end State

/-! ### The receiver configuration -/

/-- An enrolled device. -/
structure EnrolledDevice where
  deviceId : String
  publicKey : String
  deriving DecidableEq

/-- `relay-receiver.json`. Its schema version is a constant. -/
structure ReceiverDocument where
  enabled : Json
  relayId : String
  listenHost : String
  listenPort : ℤ
  apiSocket : String
  stateFile : String
  certFile : String
  keyFile : String
  staleAfter : ℤ
  devices : List EnrolledDevice

/-- A device, as the configuration has it. -/
def EnrolledDevice.json (device : EnrolledDevice) : Json :=
  .obj [("device_id", .str device.deviceId), ("public_key", .str device.publicKey)]

/-- The document of a receiver configuration. -/
def ReceiverDocument.json (config : ReceiverDocument) : Json :=
  .obj [("api_socket", .str config.apiSocket), ("cert_file", .str config.certFile),
    ("devices", .arr (config.devices.map EnrolledDevice.json)), ("enabled", config.enabled),
    ("key_file", .str config.keyFile), ("listen_host", .str config.listenHost),
    ("listen_port", .int config.listenPort), ("relay_id", .str config.relayId),
    ("schema_version", schemaVersion), ("stale_after", .int config.staleAfter),
    ("state_file", .str config.stateFile)]

section Receiver

variable (P : Platform)

/-- `RelayReceiverConfig.load`, with its exception raised as one of the configuration. -/
def ReceiverDocument.load (paths : Paths) (config : ReceiverDocument) :
    Except Exn ReceiverConfig :=
  match ReceiverConfig.load P paths config.json with
  | .ok parsed => .ok parsed
  | .error e =>
    if e.cls = .relayReceiverError then .error (configurationError e.message) else .error e

/-- The identifier of the device is the one its key has. -/
def EnrolledDevice.Derived (device : EnrolledDevice) : Prop :=
  publicKeyPattern device.publicKey = true ∧
    ∃ key : Bytes32, b64decodeText invalidDeviceKey device.publicKey = .ok key.1 ∧
      device.deviceId = PrinterHmi.deviceId P key.1

/-- **A configuration that loads.** -/
structure ReceiverDocument.Valid (paths : Paths) (config : ReceiverDocument) : Prop where
  enabled : ∃ enabled, config.enabled = .bool enabled ∧ (enabled = true → config.devices ≠ [])
  relayId : relayIdPattern config.relayId = true
  listenHost : P.isLoopback config.listenHost = some true
  listenPort : 1 ≤ config.listenPort ∧ config.listenPort ≤ 65535
  staleAfter : 5 ≤ config.staleAfter ∧ config.staleAfter ≤ 3600
  count : config.devices.length ≤ 10000
  derived : ∀ device ∈ config.devices, device.Derived P
  nodup : (config.devices.map EnrolledDevice.deviceId).Nodup
  apiSocket : config.apiSocket ≠ ""
  stateFile : config.stateFile ≠ ""
  certFile : config.certFile ≠ "" ∧ paths.isFile (paths.resolve config.certFile) = true
  keyFile : config.keyFile ≠ "" ∧ paths.isFile (paths.resolve config.keyFile) = true

variable {P} {paths : Paths}

theorem readDevice_json {device : EnrolledDevice} {e : String × String} :
    readDevice P device.json = .ok e ↔
      device.Derived P ∧ e = (device.deviceId, device.publicKey) := by
  obtain ⟨id, publicKey⟩ := e
  have hid : device.json.field "device_id" = .str device.deviceId := rfl
  have hkey : device.json.field "public_key" = .str device.publicKey := rfl
  rw [readDevice_eq_ok, hid, hkey]
  simp only [Json.str.injEq, EnrolledDevice.Derived, Prod.mk.injEq]
  constructor
  · rintro ⟨-, rfl, rfl, hpattern, hderived⟩
    exact ⟨⟨hpattern, hderived⟩, rfl, rfl⟩
  · rintro ⟨⟨hpattern, hderived⟩, rfl, rfl⟩
    exact ⟨rfl, rfl, rfl, hpattern, hderived⟩

/-- The devices that are read are those of the document. -/
theorem readDevices_json {devices : List EnrolledDevice} :
    (∃ r, readDevices P (devices.map EnrolledDevice.json) ∅ = .ok r) ↔
      (∀ device ∈ devices, device.Derived P) ∧ (devices.map EnrolledDevice.deviceId).Nodup := by
  have hitems (h : ∀ device ∈ devices, device.Derived P) :
      (devices.map EnrolledDevice.json).map (readDevice P) =
        (devices.map fun device => (device.deviceId, device.publicKey)).map Except.ok := by
    rw [List.map_map, List.map_map]
    exact List.map_congr_left fun device hdevice => readDevice_json.mpr ⟨h device hdevice, rfl⟩
  have hids : (devices.map fun device => (device.deviceId, device.publicKey)).map Prod.fst =
      devices.map EnrolledDevice.deviceId := List.map_map
  constructor
  · rintro ⟨r, hr⟩
    obtain ⟨entries, hentries, hnodup, -⟩ := exists_of_readDevices hr
    have hderived : ∀ device ∈ devices, device.Derived P := by
      -- each item was read, and an item is read only if it is derived
      intro device hdevice
      have hmem : readDevice P device.json ∈ entries.map Except.ok := by
        rw [← hentries]
        exact List.mem_map_of_mem (List.mem_map_of_mem hdevice)
      obtain ⟨e, -, he⟩ := List.mem_map.mp hmem
      exact (readDevice_json.mp he.symm).1
    rw [hitems hderived] at hentries
    obtain rfl := (List.map_injective_iff.mpr fun _ _ => Except.ok.inj) hentries
    exact ⟨hderived, hids ▸ hnodup⟩
  · rintro ⟨hderived, hnodup⟩
    exact ⟨_, readDevices_eq_ok (hitems hderived) (hids ▸ hnodup) fun _ _ => rfl⟩

theorem load_eq_ok {config : ReceiverDocument} {parsed : ReceiverConfig} :
    config.load P paths = .ok parsed ↔ ReceiverConfig.load P paths config.json = .ok parsed := by
  rw [ReceiverDocument.load]
  cases hload : ReceiverConfig.load P paths config.json with
  | ok _ => rfl
  | error e =>
    dsimp only
    split_ifs
    · exact iff_of_false nofun nofun
    · rfl

/-- **What a configuration that loads is**, and whose. -/
theorem valid_of_load {config : ReceiverDocument} {parsed : ReceiverConfig}
    (h : config.load P paths = .ok parsed) :
    config.Valid P paths ∧ parsed.relayId = config.relayId := by
  obtain ⟨-, -, henabled, hrelay, hrelay', hhost, hloopback, hport, hlow, hhigh, hstale, hleast,
    hmost, ⟨items, hitems, hcount, hnonempty, hread⟩, hapi, hfile, hcert, hkey⟩ :=
    ReceiverConfig.load_eq_ok.mp (load_eq_ok.mp h)
  -- the fields that were read are those of the document
  obtain rfl := Json.arr.inj (hitems.symm.trans rfl)
  obtain ⟨hderived, hnodup⟩ := readDevices_json.mp ⟨_, hread⟩
  obtain ⟨_, hapi, hapi', -, -⟩ := configPath_eq_ok.mp hapi
  obtain ⟨_, hfile, hfile', -, -⟩ := configPath_eq_ok.mp hfile
  obtain ⟨_, hcert, hcert', hcert'', -⟩ := configPath_eq_ok.mp hcert
  obtain ⟨_, hkey, hkey', hkey'', -⟩ := configPath_eq_ok.mp hkey
  obtain rfl := Json.str.inj (hapi.symm.trans rfl)
  obtain rfl := Json.str.inj (hfile.symm.trans rfl)
  obtain rfl := Json.str.inj (hcert.symm.trans rfl)
  obtain rfl := Json.str.inj (hkey.symm.trans rfl)
  have hrelayId : parsed.relayId = config.relayId := Json.str.inj (hrelay.symm.trans rfl)
  have hhostEq : parsed.listenHost = config.listenHost := Json.str.inj (hhost.symm.trans rfl)
  have hportEq : parsed.listenPort = config.listenPort := Json.int.inj (hport.symm.trans rfl)
  have hstaleEq : parsed.staleAfter = (config.staleAfter : ℚ) :=
    Option.some.inj (hstale.symm.trans rfl)
  rw [hrelayId] at hrelay'
  rw [hhostEq] at hloopback
  rw [hportEq] at hlow hhigh
  rw [hstaleEq] at hleast hmost
  refine ⟨⟨⟨_, henabled, fun he hnil => hnonempty he (List.map_eq_nil_iff.mpr hnil)⟩, hrelay',
    hloopback, ⟨hlow, hhigh⟩, ⟨by exact_mod_cast hleast, by exact_mod_cast hmost⟩, ?_, hderived,
    hnodup, hapi', hfile', ⟨hcert', hcert'' rfl⟩, ⟨hkey', hkey'' rfl⟩⟩, hrelayId⟩
  rw [List.length_map] at hcount
  exact hcount

/-- **A valid configuration loads.** -/
theorem ReceiverDocument.Valid.load {config : ReceiverDocument} (h : config.Valid P paths) :
    ∃ parsed, config.load P paths = .ok parsed := by
  obtain ⟨enabled, henabled, hnonempty⟩ := h.enabled
  obtain ⟨devices, hread⟩ := readDevices_json.mpr ⟨h.derived, h.nodup⟩
  have hcount : (config.devices.map EnrolledDevice.json).length ≤ 10000 := by
    rw [List.length_map]
    exact h.count
  have hleast : (5 : ℚ) ≤ config.staleAfter := by exact_mod_cast h.staleAfter.1
  have hmost : (config.staleAfter : ℚ) ≤ 3600 := by exact_mod_cast h.staleAfter.2
  refine ⟨⟨enabled, config.relayId, config.listenHost, config.listenPort,
    paths.resolve config.apiSocket, paths.resolve config.stateFile, paths.resolve config.certFile,
    paths.resolve config.keyFile, config.staleAfter, devices⟩, load_eq_ok.mpr
      (ReceiverConfig.load_eq_ok.mpr ⟨rfl, rfl, henabled, rfl, h.relayId, rfl, h.listenHost, rfl,
        h.listenPort.1, h.listenPort.2, rfl, hleast, hmost, ⟨_, rfl, hcount, fun he hnil =>
          hnonempty he (List.map_eq_nil_iff.mp hnil), hread⟩, ?_, ?_, ?_, ?_⟩)⟩
  · exact configPath_eq_ok.mpr ⟨_, rfl, h.apiSocket, nofun, rfl⟩
  · exact configPath_eq_ok.mpr ⟨_, rfl, h.stateFile, nofun, rfl⟩
  · exact configPath_eq_ok.mpr ⟨_, rfl, h.certFile.1, fun _ => h.certFile.2, rfl⟩
  · exact configPath_eq_ok.mpr ⟨_, rfl, h.keyFile.1, fun _ => h.keyFile.2, rfl⟩

/-- A device of a configuration that loads is looked up by its identifier. -/
theorem get?_of_load {config : ReceiverDocument} {parsed : ReceiverConfig}
    (h : config.load P paths = .ok parsed) {device : EnrolledDevice} (hmem : device ∈ config.devices) :
    parsed.devices.get? device.deviceId = some device.publicKey := by
  have hderived := (valid_of_load h).1.derived device hmem
  obtain ⟨-, -, -, -, -, -, -, -, -, -, -, -, -, ⟨items, hitems, -, -, hread⟩, -⟩ :=
    ReceiverConfig.load_eq_ok.mp (load_eq_ok.mp h)
  obtain rfl := Json.arr.inj (hitems.symm.trans rfl)
  exact (get?_of_readDevices hread).2 device.json (List.mem_map_of_mem hmem) _
    (readDevice_json.mpr ⟨hderived, rfl⟩)

/-- What is looked up was there before, or it has been read. -/
theorem readDevice_of_get? {items : List Json} {devices r : Dict String String}
    (h : readDevices P items devices = .ok r) {id publicKey : String}
    (hget : r.get? id = some publicKey) :
    devices.get? id = some publicKey ∨ ∃ item ∈ items, readDevice P item = .ok (id, publicKey) := by
  induction items generalizing devices with
  | nil =>
    obtain rfl := Except.ok.inj h
    exact .inl hget
  | cons item items ih =>
    simp only [readDevices, Except.bind_eq_ok, require_eq_ok, exists_const] at h
    obtain ⟨⟨id', publicKey'⟩, hitem, -, hrest⟩ := h
    rcases ih hrest with hold | ⟨other, hmem, hread⟩
    · rw [Dict.get?_insert] at hold
      split_ifs at hold with hid
      · obtain rfl := Option.some.inj hold
        exact .inr ⟨item, List.mem_cons_self, hid ▸ hitem⟩
      · exact .inl hold
    · exact .inr ⟨other, List.mem_cons_of_mem _ hmem, hread⟩

/-- What is looked up in a configuration that loads is one of its devices. -/
theorem mem_of_get?_of_load {config : ReceiverDocument} {parsed : ReceiverConfig}
    (h : config.load P paths = .ok parsed) {id publicKey : String}
    (hget : parsed.devices.get? id = some publicKey) : ⟨id, publicKey⟩ ∈ config.devices := by
  obtain ⟨-, -, -, -, -, -, -, -, -, -, -, -, -, ⟨items, hitems, -, -, hread⟩, -⟩ :=
    ReceiverConfig.load_eq_ok.mp (load_eq_ok.mp h)
  obtain rfl := Json.arr.inj (hitems.symm.trans rfl)
  rcases readDevice_of_get? hread hget with hempty | ⟨item, hmem, hitem⟩
  · cases hempty
  · obtain ⟨⟨id', publicKey'⟩, hdevice, rfl⟩ := List.mem_map.mp hmem
    obtain ⟨-, heq⟩ := readDevice_json.mp hitem
    obtain ⟨rfl, rfl⟩ := Prod.mk.inj heq
    exact hdevice

end Receiver

/-! ### Offers -/

/-- `PAIRING_CODE_PATTERN.fullmatch`. -/
def pairingCodePattern (s : String) : Bool :=
  matchesClass (· ∈ pairingAlphabet) 5 5 (s.toList.take 5) && (s.toList.drop 5).head? == some '-' &&
    matchesClass (· ∈ pairingAlphabet) 5 5 (s.toList.drop 6)

/-- What a relay takes from a pairing offer. -/
structure RelayOffer where
  pairingId : String
  deviceId : String
  publicKey : String
  code : String

/-- The fields of a pairing offer. -/
def pairingOfferFields : List String :=
  ["code", "device_id", "device_public_key", "expires_at", "pairing_id", "schema_version"]

/-- What an offer that is none raises. -/
def invalidOffer : Exn := configurationError "invalid pairing offer"

/-- What an offer without an expiry raises. -/
def invalidOfferExpiry : Exn := configurationError "invalid pairing offer expiry"

section Offer

variable (P : Platform)

/-- The checks `_create_enrollment_request_locked` makes on an offer, at a clock
reading. An expiry that reads as a moment without an offset cannot be compared with the
clock. -/
def readOffer (now : Time) (offer : Json) : Except Exn RelayOffer := do
  require (offer.hasFields pairingOfferFields ∧ offer.fieldEq "schema_version" schemaVersion)
    invalidOffer
  let pairingId ← uuidText invalidOffer (offer.field "pairing_id")
  let keyBytes ← b64decode invalidEncodedKey (offer.field "device_public_key")
  let id ← patternText invalidOffer deviceIdPattern (offer.field "device_id")
  let publicKey ← patternText invalidOffer publicKeyPattern (offer.field "device_public_key")
  require (keyBytes.length = 32 ∧ deviceId P keyBytes = id) invalidOffer
  let code ← patternText invalidOffer pairingCodePattern (offer.field "code")
  let expiresAt ← orRaise (offer.field "expires_at").str? invalidOfferExpiry
  let expiresText ← orRaise (zuluText? expiresAt) invalidOfferExpiry
  let expires ← orRaise (P.fromisoformat expiresText) invalidOfferExpiry
  require (expires.aware)
    (⟨.typeError, "can't compare offset-naive and offset-aware datetimes"⟩ : Exn)
  require (now < expires.time) (configurationError "pairing offer has expired")
  pure ⟨pairingId, id, publicKey, code⟩

variable {P}

/-- What an offer that is read says of its device. -/
theorem derived_of_readOffer {now : Time} {d : Json} {offer : RelayOffer}
    (h : readOffer P now d = .ok offer) :
    isUuidText offer.pairingId = true ∧
      (⟨offer.deviceId, offer.publicKey⟩ : EnrolledDevice).Derived P ∧
      d.field "device_id" = .str offer.deviceId ∧
      d.field "device_public_key" = .str offer.publicKey := by
  simp only [readOffer, Except.bind_eq_ok, require_eq_ok, exists_const, uuidText_eq_ok,
    patternText_eq_ok, and_assoc] at h
  obtain ⟨-, -, pairingId, -, huuid, decoded, hdecoded, id, hid, -, publicKey, hkey, hpattern,
    hlen, hderived, code, -, -, _, -, _, -, _, -, -, -, hoffer⟩ := h
  obtain rfl := Except.ok.inj hoffer
  rw [hkey] at hdecoded
  exact ⟨huuid, ⟨hpattern, ⟨decoded, hlen⟩, b64decodeText_eq_ok hdecoded, hderived.symm⟩, hid,
    hkey⟩

/-- A pairing code as it is handed out has the form of one. -/
theorem pairingCodePattern_displayCode (code : PairingCode) :
    pairingCodePattern (displayCode code) = true := by
  obtain ⟨t, hlen, hmem⟩ := code
  have hfirst : (t.take 5).length = 5 := by
    rw [List.length_take, hlen]
    rfl
  have hsecond : (t.drop 5).length = 5 := by
    rw [List.length_drop, hlen]
    rfl
  have hall (l : List Char) (hl : ∀ c ∈ l, c ∈ t) (h5 : l.length = 5) :
      matchesClass (· ∈ pairingAlphabet) 5 5 l = true := by
    have hpassed : l.all (· ∈ pairingAlphabet) = true :=
      List.all_eq_true.mpr fun c hc => decide_eq_true (hmem c (hl c hc))
    rw [matchesClass, h5, hpassed]
    rfl
  have htake : (t.take 5 ++ '-' :: t.drop 5).take 5 = t.take 5 := List.take_left' hfirst
  have hdrop : (t.take 5 ++ '-' :: t.drop 5).drop 5 = '-' :: t.drop 5 := List.drop_left' hfirst
  have hdrop' : (t.take 5 ++ '-' :: t.drop 5).drop 6 = t.drop 5 := by
    rw [show 6 = 5 + 1 from rfl, ← List.drop_drop, hdrop]
    rfl
  rw [pairingCodePattern, displayCode, String.toList_ofList, htake, hdrop, hdrop',
    hall _ (fun c hc => List.mem_of_mem_take hc) hfirst,
    hall _ (fun c hc => List.mem_of_mem_drop hc) hsecond]
  rfl

/-- The device an identity makes, as a relay enrolls it. -/
def Identity.device (identity : Identity) : EnrolledDevice :=
  ⟨identity.deviceId, identity.publicKey⟩

/-- An identity that checks out makes a device whose identifier is that of its key. -/
theorem derived_of_checkIdentity {identity : Identity} {key : Bytes32}
    (h : checkIdentity P identity = .ok key) : identity.device.Derived P := by
  obtain ⟨hpublic, hid⟩ := checkIdentity_eq_ok h
  refine ⟨?_, P.publicKey key, ?_, hid⟩
  · rw [Identity.device, hpublic]
    exact publicKeyPattern_b64encode _
  · rw [Identity.device, hpublic]
    exact b64decodeText_b64encode _ _

/-- An offer is in normal form. -/
theorem ordered_pairingOffer (env : Supply) (ttl : ℤ) (identity : Identity) :
    (pairingOffer P env ttl identity).ordered = true := by
  have hsorted : pairingOfferFields.Pairwise (· < ·) := by decide
  exact Json.ordered_obj.mpr ⟨hsorted, by simp [Json.ordered, schemaVersion]⟩

theorem isRecord_pairingOffer (env : Supply) (ttl : ℤ) (identity : Identity) :
    IsRecord (pairingOffer P env ttl identity) :=
  ⟨_, rfl, by simp⟩

/-- A file that holds an offer is read as that offer. -/
theorem readJson_pairingOffer (env : Supply) (ttl : ℤ) (identity : Identity) (label : String) :
    readJson P (some (canonical (pairingOffer P env ttl identity))) label =
      .ok (pairingOffer P env ttl identity) :=
  readJson_canonical (ordered_pairingOffer env ttl identity)
    (isRecord_pairingOffer env ttl identity) label

/-- **The offer of a device is read by the relay**, until it expires. -/
theorem readOffer_pairingOffer {env : Supply} {ttl : ℤ} {identity : Identity} {now : Time}
    (hderived : identity.device.Derived P) (hlive : now < env.now + seconds ttl) :
    readOffer P now (pairingOffer P env ttl identity) =
      .ok ⟨env.pairingId.1, identity.deviceId, identity.publicKey, displayCode env.code⟩ := by
  obtain ⟨hpattern, key, hkey, hid⟩ := hderived
  have hpattern' : deviceIdPattern identity.deviceId = true := by
    rw [show identity.deviceId = deviceId P key.1 from hid]
    exact deviceIdPattern_deviceId P key.1
  simp only [readOffer, Except.bind_eq_ok, require_eq_ok, exists_const, uuidText_eq_ok,
    patternText_eq_ok, orRaise_eq_ok, Json.str?_eq_some, and_assoc]
  exact ⟨rfl, rfl, _, rfl, env.pairingId.2, key.1, b64decodeText_eq_ok hkey, _, rfl, hpattern', _,
    rfl, hpattern, key.2, hid.symm, _, rfl, pairingCodePattern_displayCode _, _, rfl, _,
    zuluText?_timestamp P _, _, P.fromisoformat_stem _, rfl, hlive, rfl⟩

end Offer

/-! ### Receipts -/

/-- What a receipt that answers no pending challenge raises. -/
def unmatchedReceipt : Exn :=
  configurationError "enrollment receipt does not match a pending challenge"

/-- `state["pending_challenges"].get(challenge_id)`, with the identifier: a list or an
object is no key. -/
def RelayState.pendingOf (state : RelayState) (challengeId : Json) :
    Except Exn (Option (String × PendingChallenge)) :=
  match challengeId with
  | .str text => .ok ((state.pendingChallenges.get? text).map fun pending => (text, pending))
  | .arr _ | .obj _ => .error ⟨.typeError, "unhashable type"⟩
  | _ => .ok none

section Receipt

variable (P : Platform)

/-- `verify_enrollment_receipt`, with its exception raised as one of the configuration. -/
def verifiedReceipt (receipt : Json) : Except Exn Json :=
  match verifyEnrollmentReceipt P receipt with
  | .ok verified => .ok verified
  | .error e =>
    if e.cls = .enrollmentError then
      .error (configurationError "invalid enrollment receipt")
    else .error e

/-- The checks `_add_receipt_locked` makes on a receipt: the challenge it answers, and
the device. The device is that of the receipt, which is that of the challenge. -/
def matchReceipt (state : RelayState) (receipt : Json) :
    Except Exn (String × EnrolledDevice) := do
  let verified ← verifiedReceipt P receipt
  require (verified.fieldEq "relay_id" (.str state.relayId) ∧
      verified.fieldEq "peer_id" (.str state.peerId) ∧
      verified.fieldEq "peer_public_key" (.str state.peerPublicKey))
    (configurationError "enrollment receipt is not addressed to this relay")
  match ← state.pendingOf (verified.field "challenge_id") with
  | none => .error unmatchedReceipt
  | some (challengeId, pending) => do
    require (verified.fieldEq "device_id" (.str pending.deviceId) ∧
        verified.fieldEq "device_public_key" (.str pending.devicePublicKey))
      unmatchedReceipt
    pure (challengeId, ⟨pending.deviceId, pending.devicePublicKey⟩)

/-- **A receipt for a device**: signed with the key of the device, over the names and the
key of a relay and over a challenge. -/
structure ReceiptFor (relayId peerId peerPublicKey challengeId : String) (device : EnrolledDevice)
    (receipt : Json) : Prop where
  form : receipt.hasFields enrollmentReceiptFields = true ∧
    receipt.fieldEq "schema_version" schemaVersion = true ∧
    receipt.field "type" = .str "agent.enrollment-receipt"
  relay : receipt.field "relay_id" = .str relayId
  peer : receipt.field "peer_id" = .str peerId
  peerKey : receipt.field "peer_public_key" = .str peerPublicKey
  challenge : receipt.field "challenge_id" = .str challengeId
  deviceId : receipt.field "device_id" = .str device.deviceId
  deviceKey : receipt.field "device_public_key" = .str device.publicKey
  signed : ∃ (key : Bytes32) (signature : Signature),
    b64decodeText invalidEncoded device.publicKey = .ok key.1 ∧
    device.deviceId = PrinterHmi.deviceId P key.1 ∧
    b64decode invalidEncoded (receipt.field "signature") = .ok signature.1 ∧
    P.verify key (enrollmentReceiptDomain ++ canonical (receipt.erase "signature"))
      signature = true

variable {P}

theorem verifiedReceipt_eq_ok {d verified : Json} :
    verifiedReceipt P d = .ok verified ↔ verifyEnrollmentReceipt P d = .ok verified := by
  rw [verifiedReceipt]
  cases verifyEnrollmentReceipt P d with
  | ok _ => rfl
  | error e =>
    dsimp only
    split_ifs
    · exact iff_of_false nofun nofun
    · rfl

/-- **Which receipts are accepted**: those for a device and a pending challenge sent to
it. -/
theorem matchReceipt_eq_ok {state : RelayState} {d : Json} {challengeId : String}
    {device : EnrolledDevice} :
    matchReceipt P state d = .ok (challengeId, device) ↔
      ReceiptFor P state.relayId state.peerId state.peerPublicKey challengeId device d ∧
        ∃ pending, state.pendingChallenges.get? challengeId = some pending ∧
          pending.deviceId = device.deviceId ∧ pending.devicePublicKey = device.publicKey := by
  have hother {name : String} (h : name ≠ "signature") :
      (d.erase "signature").field name = d.field name := Json.field_erase_of_ne h d
  rw [matchReceipt, Except.bind_eq_ok]
  simp only [verifiedReceipt_eq_ok, verifyEnrollmentReceipt_eq_ok, Except.bind_eq_ok,
    require_eq_ok, exists_const, Json.fieldEq_str_iff]
  constructor
  · rintro ⟨verified, ⟨hfields, hversion, htype, rfl, key, signature, hkey, hid, hsig, hverify⟩,
      ⟨hrelay, hpeer, hpeerKey⟩, found, hfound, hrest⟩
    rw [hother (by decide)] at hrelay hpeer hpeerKey hfound
    rcases found with _ | ⟨id, pending⟩
    · cases hrest
    simp only [Except.bind_eq_ok, require_eq_ok, exists_const] at hrest
    obtain ⟨⟨hdevice, hdeviceKey⟩, hr⟩ := hrest
    obtain ⟨rfl, rfl⟩ := Prod.mk.inj (Except.ok.inj hr)
    rw [hother (by decide)] at hdevice hdeviceKey
    -- only a text can be pending
    obtain ⟨hchallenge, hpending⟩ : d.field "challenge_id" = .str id ∧
        state.pendingChallenges.get? id = some pending := by
      cases hc : d.field "challenge_id" with
      | str text =>
        rw [hc, RelayState.pendingOf, Except.ok.injEq, Option.map_eq_some_iff] at hfound
        obtain ⟨p, hp, heq⟩ := hfound
        obtain ⟨rfl, rfl⟩ := Prod.mk.inj heq
        exact ⟨rfl, hp⟩
      | _ =>
        rw [hc] at hfound
        cases hfound
    rw [hdeviceKey] at hkey
    refine ⟨⟨⟨hfields, hversion, htype⟩, hrelay, hpeer, hpeerKey, hchallenge, hdevice, hdeviceKey,
      key, signature, hkey, ?_, hsig, hverify⟩, pending, hpending, rfl, rfl⟩
    exact Json.field_str_inj hdevice hid
  · rintro ⟨⟨⟨hfields, hversion, htype⟩, hrelay, hpeer, hpeerKey, hchallenge, hdevice, hdeviceKey,
      key, signature, hkey, hid, hsig, hverify⟩, pending, hpending, hpid, hpkey⟩
    refine ⟨_, ⟨hfields, hversion, htype, rfl, key, signature, ?_, ?_, hsig, hverify⟩, ?_,
      some (challengeId, pending), ?_, ?_⟩
    · rw [hdeviceKey]
      exact hkey
    · rw [hdevice, hid]
    · rw [hother (by decide), hother (by decide), hother (by decide)]
      exact ⟨hrelay, hpeer, hpeerKey⟩
    · rw [hother (by decide), hchallenge, RelayState.pendingOf, hpending]
      rfl
    · simp only [Except.bind_eq_ok, require_eq_ok, exists_const]
      rw [hother (by decide), hother (by decide), hpid, hpkey]
      exact ⟨⟨hdevice, hdeviceKey⟩, rfl⟩

end Receipt

end PrinterHmi
