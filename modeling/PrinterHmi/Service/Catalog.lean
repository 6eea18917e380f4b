import PrinterHmi.Monitor.Clients
import PrinterHmi.Protocol.Schemas
import PrinterHmi.Service.Discovery
import PrinterHmi.Service.Monitoring

/-!
# The catalog

An instance is known by an identifier made of the machine's own and the path of its socket
(`instanceIdentity`), so it keeps it as long as both stay. The catalog tells for every socket what
the host there says of itself: `server.info` decides whether it is reachable, and `printer.info` may
add a name.

Whatever the hosts answer, and if they do not, the catalog conforms to its schema, with one item for
each socket (`catalog_conforms`).
-/

namespace PrinterHmi

/-! ### Identifiers -/

section Identity

variable (m : AgentMachine)

/-- A text as it is read from a file. -/
def universalNewlines : List Char → List Char
  | '\r' :: '\n' :: rest => '\n' :: universalNewlines rest
  | '\r' :: rest => '\n' :: universalNewlines rest
  | c :: rest => c :: universalNewlines rest
  | [] => []

/-- The loop of `machine_identity` over the contents of its files. -/
def firstIdentity : List (Option Bytes) → Except Exn String
  | [] => .ok "machine-id-unavailable"
  | none :: rest => firstIdentity rest
  | some content :: rest => do
    let text ← orRaise (utf8? content) (⟨.valueError, "invalid start byte"⟩ : Exn)
    let value := strip (universalNewlines text.toList)
    if value ≠ "" then pure value else firstIdentity rest

/-- `machine_identity`. -/
def machineIdentity : Except Exn String := firstIdentity [m.machineId, m.dbusMachineId]

/-- A byte of a digest. -/
def digestByte (digest : Bytes) (i : ℕ) : UInt8 := digest.getD i 0

/-- A byte of the UUID of a digest, with the version and the variant put in. -/
def uuidByte (version : UInt8) (digest : Bytes) (i : ℕ) : UInt8 :=
  if i = 6 then (digestByte digest i &&& (0x0f : UInt8)) ||| (version <<< (4 : UInt8))
  else if i = 8 then (digestByte digest i &&& (0x3f : UInt8)) ||| (0x80 : UInt8)
  else digestByte digest i

/-- The hexadecimal digits of some of its bytes. -/
def uuidDigits (version : UInt8) (digest : Bytes) (places : List ℕ) : List Char :=
  places.flatMap fun i => hexByte (uuidByte version digest i)

/-- The text of the UUID of a digest. -/
def uuidTextOf (version : UInt8) (digest : Bytes) : List Char :=
  uuidDigits version digest [0, 1, 2, 3] ++ '-' :: uuidDigits version digest [4, 5] ++
    '-' :: uuidDigits version digest [6, 7] ++ '-' :: uuidDigits version digest [8, 9] ++
    '-' :: uuidDigits version digest [10, 11, 12, 13, 14, 15]

/-- A digit of a byte. -/
theorem hexDigit_mem (n : ℕ) : hexAlphabet[n]?.getD '0' ∈ hexAlphabet := by
  by_cases hn : n < hexAlphabet.length
  · rw [List.getElem?_eq_getElem hn]
    exact List.getElem_mem hn
  · rw [List.getElem?_eq_none (not_lt.mp hn)]
    decide

theorem isUuidText_uuidTextOf (version : UInt8) (digest : Bytes) :
    isUuidText (String.ofList (uuidTextOf version digest)) = true := by
  rw [isUuidText, String.toList_ofList]
  simp [uuidTextOf, uuidDigits, hexByte, List.zipIdx, hexDigit_mem]

/-- `uuid.NAMESPACE_URL.bytes`. -/
def namespaceUrl : Bytes :=
  [0x6b, 0xa7, 0xb8, 0x11, 0x9d, 0xad, 0x11, 0xd1, 0x80, 0xb4, 0x00, 0xc0, 0x4f, 0xd4, 0x30, 0xc8]

/-- `uuid.uuid5(uuid.NAMESPACE_URL, seed)`. -/
def uuid5 (seed : String) : Uuid :=
  ⟨String.ofList (uuidTextOf 5 (m.sha1 (namespaceUrl ++ utf8 seed))), isUuidText_uuidTextOf _ _⟩

/-- What the identifier of an instance is made of. -/
def instanceSeed (hostIdentity : String) (canonical : AbsolutePath) : String :=
  "printerhmi-moonraker://" ++ hostIdentity ++ "/" ++ canonical.text

/-- `instance_identity`, of a path by its text. -/
def instanceIdentity (socketPath hostIdentity : String) : Except Exn Uuid := do
  let expanded ← m.expanduser socketPath
  let canonical ← m.resolve expanded
  pure (uuid5 m (instanceSeed hostIdentity canonical))

end Identity

/-! ### Instances -/

/-- `MoonrakerInstance`. -/
structure MoonrakerInstance where
  instanceId : Uuid
  socketPath : String
  dataPath : String
  hostname : Option String
  moonrakerVersion : Option String
  klippyState : Option String
  reachable : Bool
  error : Option String

/-- A text, or nothing. -/
def textOrNull (o : Option String) : Json := o.elim .null .str

/-- `to_dict`. -/
def MoonrakerInstance.toDict (item : MoonrakerInstance) : Json :=
  .obj [("data_path", .str item.dataPath), ("error", textOrNull item.error),
    ("hostname", textOrNull item.hostname), ("instance_id", .str item.instanceId.1),
    ("klippy_state", textOrNull item.klippyState),
    ("moonraker_version", textOrNull item.moonrakerVersion), ("reachable", .bool item.reachable),
    ("socket_path", .str item.socketPath)]

/-- `type(exc).__name__`. -/
def ExnClass.name : ExnClass → String
  | .enrollmentError => "EnrollmentError"
  | .relayTransportError => "RelayTransportError"
  | .relayConfigurationError => "RelayConfigurationError"
  | .relayReceiverError => "RelayReceiverError"
  | .moonrakerProtocolError => "MoonrakerProtocolError"
  | .osError => "OSError"
  | .valueError => "ValueError"
  | .typeError => "TypeError"
  | .attributeError => "AttributeError"
  | .runtimeError => "RuntimeError"
  | .overflowError => "OverflowError"
  | .recursionError => "RecursionError"
  | .limitOverrunError => "LimitOverrunError"

/-- An exception, as a payload or a catalog tells it. -/
def Exn.failure (e : Exn) : Failure := ⟨e.cls.name, e.message⟩

/-- What comes of a connection to a host, for a method: the first frame it sends, or what connecting
or waiting raises. -/
abbrev Replies := String → Except Failure Bytes

section Inspect

variable (m : AgentMachine) (pyStr : Json → String)

/-- `moonraker.request`. -/
def ask (replies : Replies) (method : String) : Except Failure Json := do
  let frame ← replies method
  (Moonraker.takeResponse pyStr frame).mapError Exn.failure

/-- `_optional_text`. -/
def optionalText (value : Json) : Option String := value.str?.filter (· ≠ "")

/-- `inspect_instance`, of a socket and what its host replies. -/
def inspectInstance (socketPath : AbsolutePath) (replies : Replies) :
    Except Exn MoonrakerInstance := do
  let hostId ← machineIdentity m
  let identifier ← instanceIdentity m socketPath.text hostId
  let dataPath := socketPath.parent.parent
  match ask pyStr replies "server.info" with
  | .error e => pure ⟨identifier, socketPath.text, dataPath.text, none, none, none, false,
      some (e.typeName ++ ": " ++ e.text)⟩
  | .ok info =>
    let printerInfo := (ask pyStr replies "printer.info").toOption.getD (.obj [])
    let hostname := ((optionalText (printerInfo.field "hostname")).or
      (optionalText (info.field "hostname"))).getD dataPath.name
    pure ⟨identifier, socketPath.text, dataPath.text, some hostname,
      optionalText (info.field "moonraker_version"), optionalText (info.field "klippy_state"), true,
      none⟩

/-- `build_catalog`. -/
def buildCatalog (replies : AbsolutePath → Replies) (paths : List AbsolutePath) :
    Except Exn (List MoonrakerInstance) :=
  paths.mapM fun path => inspectInstance m pyStr path (replies path)

/-- The catalog, as it is told. -/
def catalogDocument (catalog : List MoonrakerInstance) : Json :=
  .arr (catalog.map MoonrakerInstance.toDict)

end Inspect

/-! ### What the catalog says -/

section Says

variable {m : AgentMachine} {pyStr : Json → String} {path : AbsolutePath} {replies : Replies}
  {item : MoonrakerInstance}

/-- A path that is as `resolve` leaves it. -/
def AgentMachine.Canonical (m : AgentMachine) (p : AbsolutePath) : Prop := m.resolve p.text = .ok p

/-- **The identifier of a canonical path.** -/
theorem instanceIdentity_eq_ok (hpath : m.Canonical path) {hostId : String} {u : Uuid} :
    instanceIdentity m path.text hostId = .ok u ↔ u = uuid5 m (instanceSeed hostId path) := by
  rw [instanceIdentity, m.expanduser_text, Except.ok_bind_eq rfl, Except.ok_bind_eq hpath]
  exact ⟨fun h => (Except.ok.inj h).symm, fun h => h ▸ rfl⟩

/-- **An item of the catalog**: whose it is, and how it has been reached. -/
structure MoonrakerInstance.Describes (m : AgentMachine) (pyStr : Json → String)
    (item : MoonrakerInstance) (path : AbsolutePath) (replies : Replies) : Prop where
  identity : ∃ hostId, machineIdentity m = .ok hostId ∧
    item.instanceId = uuid5 m (instanceSeed hostId path)
  socket : item.socketPath = path.text
  data : item.dataPath = path.parent.parent.text
  answered : item.reachable = true ↔ ∃ info, ask pyStr replies "server.info" = .ok info
  told : ∀ info, ask pyStr replies "server.info" = .ok info →
    item.moonrakerVersion = optionalText (info.field "moonraker_version") ∧
      item.klippyState = optionalText (info.field "klippy_state") ∧ item.error = none
  failed : ∀ e, ask pyStr replies "server.info" = .error e →
    item.hostname = none ∧ item.moonrakerVersion = none ∧ item.klippyState = none ∧
      item.error = some (e.typeName ++ ": " ++ e.text)

/-- **An inspection describes its socket.** -/
theorem describes_of_inspect (hpath : m.Canonical path)
    (h : inspectInstance m pyStr path replies = .ok item) : item.Describes m pyStr path replies := by
  obtain ⟨hostId, hhost, h⟩ := Except.bind_eq_ok.mp h
  obtain ⟨identifier, hid, h⟩ := Except.bind_eq_ok.mp h
  have hidentity := (instanceIdentity_eq_ok hpath).mp hid
  cases hask : ask pyStr replies "server.info" with
  | error e =>
    rw [hask] at h
    obtain rfl := Except.ok.inj h
    exact ⟨⟨hostId, hhost, hidentity⟩, rfl, rfl, by simp [hask], by simp [hask], by simp [hask]⟩
  | ok info =>
    rw [hask] at h
    obtain rfl := Except.ok.inj h
    exact ⟨⟨hostId, hhost, hidentity⟩, rfl, rfl, by simp [hask], by simp [hask], by simp [hask]⟩

/-- What may be a text conforms. -/
theorem conforms_textOrNull {formats : String → String → Bool} (o : Option String) :
    (Schema.kinds [.string, .null]).conforms formats (textOrNull o) = true := by
  cases o <;> rfl

/-- **An item conforms**, whatever it says. -/
theorem conforms_toDict {P : Platform} (F : Formats P) (item : MoonrakerInstance) :
    (Schema.closed ["instance_id", "socket_path", "data_path", "reachable"]
      [("instance_id", uuidSchema), ("socket_path", .kinds [.string]), ("data_path", .kinds [.string]),
        ("hostname", .kinds [.string, .null]), ("moonraker_version", .kinds [.string, .null]),
        ("klippy_state", .kinds [.string, .null]), ("reachable", .kinds [.boolean]),
        ("error", .kinds [.string, .null])]).conforms F.check item.toDict = true := by
  have hnames : item.toDict.names = ["data_path", "error", "hostname", "instance_id", "klippy_state",
    "moonraker_version", "reachable", "socket_path"] := rfl
  rw [Schema.conforms_closed, hnames]
  refine ⟨rfl, by decide, by decide, fun member hmember v hv => ?_⟩
  simp only [List.mem_cons, List.not_mem_nil, or_false] at hmember
  rcases hmember with rfl | rfl | rfl | rfl | rfl | rfl | rfl | rfl <;> cases hv
  · exact conforms_uuid.mpr ⟨_, rfl, F.uuid item.instanceId⟩
  · rfl
  · rfl
  · exact conforms_textOrNull _
  · exact conforms_textOrNull _
  · exact conforms_textOrNull _
  · rfl
  · exact conforms_textOrNull _

/-- A list of what returns for every member. -/
theorem mapM_eq_ok {α β : Type} {f : α → Except Exn β} {l : List α} {l' : List β} :
    l.mapM f = .ok l' ↔ List.Forall₂ (fun a b => f a = .ok b) l l' := by
  induction l generalizing l' with
  | nil =>
    rw [List.mapM_nil, List.forall₂_nil_left_iff]
    exact ⟨fun h => (Except.ok.inj h).symm, fun h => h ▸ rfl⟩
  | cons a l ih =>
    rw [List.mapM_cons, Except.bind_eq_ok, List.forall₂_cons_left_iff]
    constructor
    · rintro ⟨b, hb, h⟩
      obtain ⟨bs, hbs, h⟩ := Except.bind_eq_ok.mp h
      exact ⟨b, bs, hb, ih.mp hbs, (Except.ok.inj h).symm⟩
    · rintro ⟨b, bs, hb, hbs, rfl⟩
      exact ⟨b, hb, Except.bind_eq_ok.mpr ⟨bs, ih.mpr hbs, rfl⟩⟩

/-- Each member on the right has one on the left. -/
theorem exists_of_mem_right {α β : Type} {R : α → β → Prop} {l : List α} {l' : List β}
    (h : List.Forall₂ R l l') {b : β} (hb : b ∈ l') : ∃ a ∈ l, R a b := by
  induction h with
  | nil => exact absurd hb List.not_mem_nil
  | @cons a b' l l' hab hrest ih =>
    rcases List.mem_cons.mp hb with rfl | hb
    · exact ⟨a, List.mem_cons_self, hab⟩
    · obtain ⟨a', ha', hab'⟩ := ih hb
      exact ⟨a', List.mem_cons_of_mem a ha', hab'⟩

/-- **The catalog has an item for each socket.** -/
theorem describes_of_buildCatalog {replies : AbsolutePath → Replies} {paths : List AbsolutePath}
    {catalog : List MoonrakerInstance} (hpaths : ∀ p ∈ paths, m.Canonical p)
    (h : buildCatalog m pyStr replies paths = .ok catalog) :
    List.Forall₂ (fun p item => MoonrakerInstance.Describes m pyStr item p (replies p))
      paths catalog := by
  have hitems := mapM_eq_ok.mp h
  clear h
  induction hitems with
  | nil => exact .nil
  | @cons p item paths catalog hitem hitems ih =>
    exact .cons (describes_of_inspect (hpaths p List.mem_cons_self) hitem)
      (ih fun q hq => hpaths q (List.mem_cons_of_mem p hq))

/-- **No two seeds of a machine's sockets have the same digest.** -/
def AgentMachine.Distinguishes (m : AgentMachine) (paths : List AbsolutePath) : Prop :=
  ∀ hostId, machineIdentity m = .ok hostId → ∀ p ∈ paths, ∀ q ∈ paths,
    uuid5 m (instanceSeed hostId p) = uuid5 m (instanceSeed hostId q) →
      instanceSeed hostId p = instanceSeed hostId q

/-- Paths with the same seed are the same. -/
theorem instanceSeed_injective {hostId : String} {p q : AbsolutePath}
    (h : instanceSeed hostId p = instanceSeed hostId q) : p = q :=
  AbsolutePath.text_injective
    ((String.append_right_inj ("printerhmi-moonraker://" ++ hostId ++ "/")).mp h)

/-- **No host makes an inspection raise.** -/
theorem inspect_returns (hpath : m.Canonical path) {hostId : String}
    (hhost : machineIdentity m = .ok hostId) :
    ∃ item, inspectInstance m pyStr path replies = .ok item := by
  rw [inspectInstance, Except.ok_bind_eq hhost,
    Except.ok_bind_eq ((instanceIdentity_eq_ok hpath).mpr rfl)]
  cases ask pyStr replies "server.info" with
  | error e => exact ⟨_, rfl⟩
  | ok info => exact ⟨_, rfl⟩

/-- The catalog is built, whatever the hosts reply. -/
theorem buildCatalog_returns {paths : List AbsolutePath} (hpaths : ∀ p ∈ paths, m.Canonical p)
    {hostId : String} (hhost : machineIdentity m = .ok hostId) (replies : AbsolutePath → Replies) :
    ∃ catalog, buildCatalog m pyStr replies paths = .ok catalog := by
  induction paths with
  | nil => exact ⟨[], rfl⟩
  | cons p paths ih =>
    obtain ⟨item, hitem⟩ : ∃ item, inspectInstance m pyStr p (replies p) = .ok item :=
      inspect_returns (hpaths p List.mem_cons_self) hhost
    obtain ⟨catalog, hcatalog⟩ := ih fun q hq => hpaths q (List.mem_cons_of_mem p hq)
    exact ⟨item :: catalog, mapM_eq_ok.mpr (.cons hitem (mapM_eq_ok.mp hcatalog))⟩

/-- What is discovered is as `resolve` leaves it, and each socket is there once. -/
theorem canonical_of_discover {home : Option String} {explicit : Option (List String)}
    {paths : List AbsolutePath} (h : discoverSocketPaths m home explicit = .ok paths) :
    (∀ p ∈ paths, m.Canonical p) ∧ paths.Nodup := by
  obtain ⟨-, hsorted, hmem⟩ := discover_iff.mp h
  refine ⟨fun p hp => ?_, hsorted.imp fun hlt heq => absurd (heq ▸ hlt) (lt_irrefl _)⟩
  obtain ⟨-, c, -, hc⟩ := (hmem p).mp hp
  exact m.resolve_text c p hc

/-- **The instances of different sockets have different identifiers.** -/
theorem nodup_of_describes {replies : AbsolutePath → Replies} {paths : List AbsolutePath}
    {catalog : List MoonrakerInstance} (hnodup : paths.Nodup) (hdistinct : m.Distinguishes paths)
    (h : List.Forall₂ (fun p item => MoonrakerInstance.Describes m pyStr item p (replies p))
      paths catalog) : (catalog.map MoonrakerInstance.instanceId).Nodup := by
  induction h with
  | nil => exact List.nodup_nil
  | @cons p item paths catalog hitem hitems ih =>
    obtain ⟨hnew, hnodup⟩ := List.nodup_cons.mp hnodup
    refine List.nodup_cons.mpr ⟨fun hmem => ?_, ih hnodup fun hostId hhost q hq r hr =>
      hdistinct hostId hhost q (List.mem_cons_of_mem p hq) r (List.mem_cons_of_mem p hr)⟩
    obtain ⟨other, hother, hid⟩ := List.mem_map.mp hmem
    obtain ⟨q, hq, hdescribes⟩ := exists_of_mem_right hitems hother
    obtain ⟨hostId, hhost, hidentity⟩ := hitem.identity
    obtain ⟨hostId', hhost', hidentity'⟩ := hdescribes.identity
    obtain rfl := Except.ok.inj (hhost.symm.trans hhost')
    have hseed := hdistinct hostId hhost p List.mem_cons_self q (List.mem_cons_of_mem p hq)
      (hidentity.symm.trans (hid.symm.trans hidentity'))
    exact hnew (instanceSeed_injective hseed ▸ hq)

/-- **The catalog.** For the sockets that are discovered a catalog is built whatever their hosts
reply, if they do. It conforms to its schema, no two instances of it have the same identifier, and it
has one item for each socket, in their order: whether an instance is reachable, its version and its
state are what `server.info` says, and no answer or failure of `printer.info` changes them. -/
theorem catalog_conforms {P : Platform} (F : Formats P) {home : Option String}
    {explicit : Option (List String)} {paths : List AbsolutePath}
    (hpaths : discoverSocketPaths m home explicit = .ok paths) {hostId : String}
    (hhost : machineIdentity m = .ok hostId) (hdistinct : m.Distinguishes paths)
    (replies : AbsolutePath → Replies) : ∃ catalog,
      buildCatalog m pyStr replies paths = .ok catalog ∧
      CatalogV1.schema.conforms F.check (catalogDocument catalog) = true ∧
      (catalog.map MoonrakerInstance.instanceId).Nodup ∧
      List.Forall₂ (fun p item => MoonrakerInstance.Describes m pyStr item p (replies p))
        paths catalog := by
  obtain ⟨hcanonical, hnodup⟩ := canonical_of_discover hpaths
  obtain ⟨catalog, hcatalog⟩ : ∃ catalog, buildCatalog m pyStr replies paths = .ok catalog :=
    buildCatalog_returns hcanonical hhost replies
  have hdescribes := describes_of_buildCatalog hcanonical hcatalog
  refine ⟨catalog, hcatalog, ?_, nodup_of_describes hnodup hdistinct hdescribes, hdescribes⟩
  refine Schema.conforms_all.mpr (List.forall_mem_cons.mpr ⟨rfl, List.forall_mem_singleton.mpr ?_⟩)
  rw [Schema.conforms, catalogDocument, Json.arr?, Option.all_some, List.all_eq_true]
  intro item hitem
  obtain ⟨item, -, rfl⟩ := List.mem_map.mp hitem
  exact conforms_toDict F item

end Says

/-! ### A sample machine -/

namespace Sample

/-- The socket of a data directory of the sample machine. -/
def printerSocket : AbsolutePath :=
  ⟨["home", "pi", "printer_data", "comms", "moonraker.sock"], by decide⟩

def voronSocket : AbsolutePath :=
  ⟨["home", "pi", "voron_data", "comms", "moonraker.sock"], by decide⟩

/-- The paths there are. -/
def knownPath (text : String) : Except Exn AbsolutePath :=
  if text = printerSocket.text then .ok printerSocket
  else if text = voronSocket.text then .ok voronSocket
  else .error ⟨.runtimeError, "Symlink loop"⟩

theorem text_of_knownPath {text : String} {p : AbsolutePath} (h : knownPath text = .ok p) :
    knownPath p.text = .ok p := by
  rw [knownPath] at h
  split_ifs at h with hprinter hvoron
  · obtain rfl := Except.ok.inj h
    rw [← hprinter, knownPath, if_pos hprinter]
  · obtain rfl := Except.ok.inj h
    rw [← hvoron, knownPath, if_neg hprinter, if_pos hvoron]

/-- The identity of the sample machine. -/
def machineText : String := "4f1a9c7e2b6d48f0a3c5e7d9b1f20a68"

/-- `sha1`, at the seeds of the two sockets. -/
def sha1 (b : Bytes) : Bytes :=
  if b = namespaceUrl ++ utf8 (instanceSeed machineText printerSocket) then
    [0x74, 0xa3, 0x7e, 0xaa, 0xed, 0x89, 0x43, 0x39, 0x32, 0x89, 0xd1, 0xb7, 0xb9, 0x73, 0x2c, 0x3c,
      0x2b, 0xaa, 0x89, 0x42]
  else
    [0xbb, 0xcd, 0xe2, 0x0e, 0x77, 0x1c, 0xcf, 0xcd, 0xee, 0x4e, 0xb2, 0x02, 0xb6, 0x6b, 0xc2, 0x3b,
      0x55, 0xc9, 0x5a, 0x1f]

/-- A machine with two printers. -/
def machine : AgentMachine where
  configured := ""
  home := .ok "/home/pi"
  expanduser := .ok
  expanduser_text _ := rfl
  directories _ := ["voron_data", "printer_data", "music"]
  occupied text := (knownPath text).isOk
  resolve := knownPath
  resolve_text _ _ := text_of_knownPath
  isSocket _ := true
  machineId := none
  dbusMachineId := some (utf8 (machineText ++ "\n"))
  sha1 := sha1

/-- Both are discovered. -/
theorem discover_machine :
    discoverSocketPaths machine none none = .ok [printerSocket, voronSocket] := by
  decide

theorem machineIdentity_machine : machineIdentity machine = .ok machineText := by
  decide

/-- The seeds of the two sockets have different digests. -/
theorem distinguishes_machine : machine.Distinguishes [printerSocket, voronSocket] := by
  intro hostId hhost p hp q hq h
  obtain rfl := Except.ok.inj (machineIdentity_machine.symm.trans hhost)
  have hne : uuid5 machine (instanceSeed machineText printerSocket) ≠
      uuid5 machine (instanceSeed machineText voronSocket) := by
    decide
  rcases List.mem_pair.mp hp with rfl | rfl
  · rcases List.mem_pair.mp hq with rfl | rfl
    · rfl
    · exact absurd h hne
  · rcases List.mem_pair.mp hq with rfl | rfl
    · exact absurd h.symm hne
    · rfl

/-- One host answers `server.info` only, and nobody is at the other socket. -/
def hostReplies (path : AbsolutePath) (method : String) : Except Failure Bytes :=
  if path = printerSocket ∧ method = "server.info" then
    .ok (canonical (.obj [("id", .int 1), ("result", .obj [("klippy_state", .str "ready")])]) ++
      [frameEnd])
  else .error ⟨"ConnectionRefusedError", "[Errno 111] Connection refused"⟩

end Sample

open Sample in
/-- The catalog of the sample machine. -/
theorem catalog_conforms_sample : ∃ catalog,
    buildCatalog machine (fun _ => "") hostReplies [printerSocket, voronSocket] = .ok catalog ∧
      CatalogV1.schema.conforms (Formats.ofReaders platform).check (catalogDocument catalog) = true ∧
      (catalog.map MoonrakerInstance.instanceId).Nodup := by
  obtain ⟨catalog, hcatalog, hconforms, hnodup, -⟩ := catalog_conforms (Formats.ofReaders platform)
    discover_machine machineIdentity_machine distinguishes_machine hostReplies
  exact ⟨catalog, hcatalog, hconforms, hnodup⟩

end PrinterHmi
