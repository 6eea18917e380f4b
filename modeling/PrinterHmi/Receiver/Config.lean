import PrinterHmi.Transport.Session

/-!
# The configuration of a receiver

`RelayReceiverConfig.load` reads the document an operator keeps: where the receiver
listens and keeps its files, and which devices are enrolled, each with its public
key. A document it accepts is described by `ReceiverConfig.load_eq_ok`; of the
devices it says that every identifier is the one its key has
(`readDevices_eq_ok`).
-/

namespace PrinterHmi

/-- `RelayReceiverError(message)`. -/
def receiverError (message : String) : Exn := ⟨.relayReceiverError, message⟩

/-- What the configuration asks of the file system. -/
structure Paths where
  /-- The absolute path a configured one denotes, a relative one being below the
  directory of the configuration. -/
  resolve : String → String
  /-- `path.is_file()`. -/
  isFile : String → Bool

/-- `RelayReceiverConfig`. -/
structure ReceiverConfig where
  enabled : Bool
  relayId : String
  listenHost : String
  listenPort : ℤ
  apiSocket : String
  stateFile : String
  certFile : String
  keyFile : String
  staleAfter : ℚ
  devices : Dict String String

/-- `_path`. -/
def configPath (paths : Paths) (value : Json) (label : String) (mustExist : Bool) :
    Except Exn String := do
  let text ← orRaise value.str? (receiverError ("invalid " ++ label ++ " path"))
  require (text ≠ "") (receiverError ("invalid " ++ label ++ " path"))
  require (mustExist = true → paths.isFile (paths.resolve text))
    (receiverError (label ++ " file was not found"))
  pure (paths.resolve text)

theorem configPath_eq_ok {paths : Paths} {value : Json} {label r : String} {mustExist : Bool} :
    configPath paths value label mustExist = .ok r ↔ ∃ text, value = .str text ∧ text ≠ "" ∧
      (mustExist = true → paths.isFile (paths.resolve text) = true) ∧ r = paths.resolve text := by
  simp only [configPath, Except.bind_eq_ok, require_eq_ok, exists_const, orRaise_eq_ok,
    Json.str?_eq_some]
  refine exists_congr fun text => and_congr_right fun _ => and_congr_right fun _ =>
    and_congr_right fun _ => ⟨fun h => (Except.ok.inj h).symm, fun h => h ▸ rfl⟩

/-- The middle between the largest double below `2 ^ (54 + k)` and this power. -/
def roundedUp (k : ℕ) : ℕ := (2 ^ 54 - 1) * 2 ^ k

/-- `float(value)` does not overflow: an integer is not rounded up to `2 ^ 1024`. -/
def floatable : Json → Bool
  | .int n => n.natAbs < roundedUp 970
  | _ => true

theorem lt_roundedUp (k : ℕ) : 3600 < roundedUp k :=
  calc 3600 < 2 ^ 54 - 1 := by norm_num
    _ ≤ (2 ^ 54 - 1) * 2 ^ k := Nat.le_mul_of_pos_right _ (Nat.two_pow_pos k)

/-- A small number is converted. -/
theorem floatable_of_le {value : Json} {x : ℚ} (h : value.real? = some x) (hleast : 5 ≤ x)
    (hmost : x ≤ 3600) : floatable value = true := by
  cases value with
  | int n =>
    obtain rfl := Option.some.inj h
    have hlow : 5 ≤ n := by exact_mod_cast hleast
    have hhigh : n ≤ 3600 := by exact_mod_cast hmost
    have habs : n.natAbs ≤ 3600 := by omega
    rw [floatable, decide_eq_true_eq]
    exact habs.trans_lt (lt_roundedUp 970)
  | _ => rfl

section Load

variable (P : Platform)

/-- What a public key that is none raises. -/
def invalidDeviceKey : Exn := receiverError "invalid enrolled device public key"

/-- One entry of the list of devices: its identifier and its key. The pattern leaves
only texts that the decoder of the standard library reads like `_decode` does. -/
def readDevice (item : Json) : Except Exn (String × String) := do
  require (item.hasFields ["device_id", "public_key"])
    (receiverError "invalid receiver device entry")
  let id ← patternText (receiverError "invalid enrolled device identifier") deviceIdPattern
    (item.field "device_id")
  let publicKey ← patternText invalidDeviceKey publicKeyPattern (item.field "public_key")
  let decoded ← b64decodeText invalidDeviceKey publicKey
  require (decoded.length = 32 ∧ id = deviceId P decoded)
    (receiverError "invalid or duplicate enrolled device")
  pure (id, publicKey)

/-- The loop over the list of devices. -/
def readDevices : List Json → Dict String String → Except Exn (Dict String String)
  | [], devices => .ok devices
  | item :: items, devices => do
    let (id, publicKey) ← readDevice P item
    require ((devices.get? id).isNone) (receiverError "invalid or duplicate enrolled device")
    readDevices items (devices.insert id publicKey)

/-- The fields of a receiver configuration. -/
def receiverConfigFields : List String :=
  ["api_socket", "cert_file", "devices", "enabled", "key_file", "listen_host", "listen_port",
    "relay_id", "schema_version", "stale_after", "state_file"]

/-- `RelayReceiverConfig.load`, once the file has been read. -/
def ReceiverConfig.load (paths : Paths) (document : Json) : Except Exn ReceiverConfig := do
  require (document.hasFields receiverConfigFields) (receiverError "invalid receiver configuration")
  require (document.fieldEq "schema_version" schemaVersion)
    (receiverError "unsupported receiver configuration version")
  let enabled ← orRaise (document.field "enabled").bool?
    (receiverError "invalid receiver enabled flag")
  let relayId ← patternText (receiverError "invalid relay identifier") relayIdPattern
    (document.field "relay_id")
  let host ← orRaise (document.field "listen_host").str? (receiverError "invalid receiver host")
  let loopback ← orRaise (P.isLoopback host) (receiverError "receiver host must be a loopback IP")
  require (loopback) (receiverError "receiver foundation is restricted to loopback")
  let port ← orRaise (document.field "listen_port").int? (receiverError "invalid receiver port")
  require (1 ≤ port ∧ port ≤ 65535) (receiverError "invalid receiver port")
  let staleAfter ← orRaise (document.field "stale_after").real?
    (receiverError "invalid receiver stale interval")
  require (floatable (document.field "stale_after"))
    ⟨.overflowError, "int too large to convert to float"⟩
  require (5 ≤ staleAfter ∧ staleAfter ≤ 3600) (receiverError "invalid receiver stale interval")
  let items ← orRaise (document.field "devices").arr?
    (receiverError "receiver requires enrolled devices")
  require (items.length ≤ 10000) (receiverError "receiver requires enrolled devices")
  require (enabled = true → items ≠ [])
    (receiverError "enabled receiver requires enrolled devices")
  let devices ← readDevices P items ∅
  let apiSocket ← configPath paths (document.field "api_socket") "API socket" false
  let stateFile ← configPath paths (document.field "state_file") "state file" false
  let certFile ← configPath paths (document.field "cert_file") "certificate" true
  let keyFile ← configPath paths (document.field "key_file") "private key" true
  pure ⟨enabled, relayId, host, port, apiSocket, stateFile, certFile, keyFile, staleAfter, devices⟩

variable {P}

/-- **What an entry of the list of devices is.** -/
theorem readDevice_eq_ok {item : Json} {id publicKey : String} :
    readDevice P item = .ok (id, publicKey) ↔
      item.hasFields ["device_id", "public_key"] = true ∧ item.field "device_id" = .str id ∧
        item.field "public_key" = .str publicKey ∧ publicKeyPattern publicKey = true ∧
        ∃ key : Bytes32, b64decodeText invalidDeviceKey publicKey = .ok key.1 ∧
          id = deviceId P key.1 := by
  simp only [readDevice, Except.bind_eq_ok, require_eq_ok, exists_const, patternText_eq_ok,
    and_assoc]
  constructor
  · rintro ⟨hfields, id', hid, -, key', hkey, hpattern, decoded, hdecoded, hlen, hderived, hr⟩
    obtain ⟨rfl, rfl⟩ := Prod.mk.inj (Except.ok.inj hr)
    exact ⟨hfields, hid, hkey, hpattern, ⟨decoded, hlen⟩, hdecoded, hderived⟩
  · rintro ⟨hfields, hid, hkey, hpattern, key, hdecoded, rfl⟩
    exact ⟨hfields, _, hid, deviceIdPattern_deviceId P key.1, _, hkey, hpattern, _, hdecoded,
      key.2, rfl, rfl⟩

/-- **The devices that are read**: the entries, no identifier twice. -/
theorem readDevices_eq_ok {entries : List (String × String)} {items : List Json}
    {devices : Dict String String}
    (hitems : items.map (readDevice P) = entries.map Except.ok)
    (hnodup : (entries.map Prod.fst).Nodup)
    (hnew : ∀ e ∈ entries, devices.get? e.1 = none) :
    readDevices P items devices =
      .ok (entries.foldl (fun devices e => devices.insert e.1 e.2) devices) := by
  induction entries generalizing items devices with
  | nil =>
    obtain rfl : items = [] := List.map_eq_nil_iff.mp hitems
    rfl
  | cons e entries ih =>
    obtain ⟨item, items, rfl, hitem, hitems⟩ := List.map_eq_cons_iff.mp hitems
    obtain ⟨hne, hnodup⟩ := List.nodup_cons.mp hnodup
    rw [List.forall_mem_cons] at hnew
    have hnone : (devices.get? e.1).isNone = true := by rw [hnew.1]; rfl
    rw [readDevices, Except.ok_bind_eq hitem]
    dsimp only
    rw [require_pos hnone]
    refine ih hitems hnodup fun e' he' => ?_
    have hother : e.1 ≠ e'.1 := fun hc => hne (hc ▸ List.mem_map_of_mem he')
    rw [Dict.get?_insert, if_neg hother]
    exact hnew.2 e' he'

/-- Devices that are read are entries, each its own, of which none was there before. -/
theorem exists_of_readDevices {items : List Json} {devices r : Dict String String}
    (h : readDevices P items devices = .ok r) :
    ∃ entries : List (String × String), items.map (readDevice P) = entries.map Except.ok ∧
      (entries.map Prod.fst).Nodup ∧ ∀ e ∈ entries, devices.get? e.1 = none := by
  induction items generalizing devices with
  | nil => exact ⟨[], rfl, List.nodup_nil, fun e he => (List.not_mem_nil he).elim⟩
  | cons item items ih =>
    simp only [readDevices, Except.bind_eq_ok, require_eq_ok, exists_const] at h
    obtain ⟨⟨id, publicKey⟩, hitem, hnone, hrest⟩ := h
    obtain ⟨entries, hitems, hnodup, hnew⟩ := ih hrest
    -- what is read later is not what has just been put in, nor what was there
    have hlater : ∀ e ∈ entries, id ≠ e.1 ∧ devices.get? e.1 = none := by
      intro e he
      have hget := hnew e he
      rw [Dict.get?_insert] at hget
      split_ifs at hget with hid
      exact ⟨hid, hget⟩
    refine ⟨(id, publicKey) :: entries, ?_, ?_, ?_⟩
    · rw [List.map_cons, List.map_cons, hitem, hitems]
    · refine List.nodup_cons.mpr ⟨fun hmem => ?_, hnodup⟩
      obtain ⟨e, he, heq⟩ := List.mem_map.mp hmem
      exact (hlater e he).1 heq.symm
    · rw [List.forall_mem_cons]
      exact ⟨Option.isNone_iff_eq_none.mp hnone, fun e he => (hlater e he).2⟩

/-- **What is read is looked up**: the devices that were there, and those of the list. -/
theorem get?_of_readDevices {items : List Json} {devices r : Dict String String}
    (h : readDevices P items devices = .ok r) :
    (∀ id publicKey, devices.get? id = some publicKey → r.get? id = some publicKey) ∧
      ∀ item ∈ items, ∀ e, readDevice P item = .ok e → r.get? e.1 = some e.2 := by
  induction items generalizing devices with
  | nil =>
    obtain rfl := Except.ok.inj h
    exact ⟨fun _ _ => id, fun item hitem => (List.not_mem_nil hitem).elim⟩
  | cons item items ih =>
    simp only [readDevices, Except.bind_eq_ok, require_eq_ok, exists_const] at h
    obtain ⟨⟨id, publicKey⟩, hitem, hnone, hrest⟩ := h
    obtain ⟨hkept, hread⟩ := ih hrest
    -- a device is not put over another, so what is put stays
    have hinserted : r.get? id = some publicKey := by
      refine hkept id publicKey ?_
      rw [Dict.get?_insert, if_pos rfl]
    refine ⟨fun id' publicKey' hget => hkept id' publicKey' ?_, ?_⟩
    · have hother : id ≠ id' := by
        rintro rfl
        rw [hget] at hnone
        cases hnone
      rw [Dict.get?_insert, if_neg hother]
      exact hget
    · rw [List.forall_mem_cons]
      refine ⟨fun e he => ?_, hread⟩
      obtain rfl := Except.ok.inj (hitem.symm.trans he)
      exact hinserted

/-- **What a document that loads is**, field by field. -/
theorem ReceiverConfig.load_eq_ok {paths : Paths} {d : Json} {r : ReceiverConfig} :
    ReceiverConfig.load P paths d = .ok r ↔
      d.hasFields receiverConfigFields = true ∧
      d.fieldEq "schema_version" schemaVersion = true ∧
      d.field "enabled" = .bool r.enabled ∧
      d.field "relay_id" = .str r.relayId ∧ relayIdPattern r.relayId = true ∧
      d.field "listen_host" = .str r.listenHost ∧ P.isLoopback r.listenHost = some true ∧
      d.field "listen_port" = .int r.listenPort ∧ 1 ≤ r.listenPort ∧ r.listenPort ≤ 65535 ∧
      (d.field "stale_after").real? = some r.staleAfter ∧ 5 ≤ r.staleAfter ∧
      r.staleAfter ≤ 3600 ∧
      (∃ items, d.field "devices" = .arr items ∧ items.length ≤ 10000 ∧
        (r.enabled = true → items ≠ []) ∧ readDevices P items ∅ = .ok r.devices) ∧
      configPath paths (d.field "api_socket") "API socket" false = .ok r.apiSocket ∧
      configPath paths (d.field "state_file") "state file" false = .ok r.stateFile ∧
      configPath paths (d.field "cert_file") "certificate" true = .ok r.certFile ∧
      configPath paths (d.field "key_file") "private key" true = .ok r.keyFile := by
  simp only [ReceiverConfig.load, Except.bind_eq_ok, require_eq_ok, exists_const, orRaise_eq_ok,
    patternText_eq_ok, Json.bool?_eq_some, Json.str?_eq_some, Json.int?_eq_some,
    Json.arr?_eq_some, and_assoc]
  constructor
  · rintro ⟨hfields, hversion, enabled, henabled, relay, hrelay, hrelay', host, hhost, loopback,
      hloopback, hloop, port, hport, hlow, hhigh, stale, hstale, -, hleast, hmost, items, hitems,
      hcount, hnonempty, devices, hdevices, api, hapi, file, hfile, cert, hcert, key, hkey, hr⟩
    obtain rfl := Except.ok.inj hr
    rw [hloop] at hloopback
    exact ⟨hfields, hversion, henabled, hrelay, hrelay', hhost, hloopback, hport, hlow, hhigh,
      hstale, hleast, hmost, ⟨items, hitems, hcount, hnonempty, hdevices⟩, hapi, hfile, hcert, hkey⟩
  · rintro ⟨hfields, hversion, henabled, hrelay, hrelay', hhost, hloopback, hport, hlow, hhigh,
      hstale, hleast, hmost, ⟨items, hitems, hcount, hnonempty, hdevices⟩, hapi, hfile, hcert, hkey⟩
    exact ⟨hfields, hversion, _, henabled, _, hrelay, hrelay', _, hhost, true, hloopback, rfl, _,
      hport, hlow, hhigh, _, hstale, floatable_of_le hstale hleast hmost, hleast, hmost, items,
      hitems, hcount, hnonempty, _, hdevices, _, hapi, _, hfile, _, hcert, _, hkey, rfl⟩

end Load

end PrinterHmi
