import PrinterHmi.Lib.Redact
import PrinterHmi.Transport.Frame

/-!
# The privacy filter

Before a snapshot leaves the host, `sanitize_snapshot` makes a new document of it:
of every instance the five fields in `snapshotInstanceKeys`, redacted of the keys in
`privateSnapshotKeys`; in place of an error the text `unavailable`; and beside the
instances the version and the time the snapshot was made at.

The receiver makes the same document of what it is sent and refuses what is not
equal to it. That works because the filter leaves its own results as they are
(`sanitizeSnapshot_sanitized`), and because a document the comparison lets through
differs from its filtered form in the spelling of the version at most
(`eq_of_pyEq_sanitizeSnapshot`).
-/

namespace PrinterHmi

/-- `PRIVATE_SNAPSHOT_KEYS`. -/
def privateSnapshotKeys : List String :=
  ["address", "api_key", "filename", "host", "hostname", "ip", "message", "socket_path", "url"]

/-- The fields of an instance that are copied, in order. -/
def snapshotInstanceKeys : List String :=
  ["captured_at", "connected", "eventtime", "instance_id", "status"]

/-- The document `sanitize_snapshot` builds. -/
def snapshotDocument (generatedAt : Json) (instances : List (String × Json)) : Json :=
  .obj [("generated_at", generatedAt), ("instances", .obj instances),
    ("schema_version", protocolVersion)]

section Filter

variable (P : Platform)

/-- `key.lower() not in PRIVATE_SNAPSHOT_KEYS`. -/
def isPublicKey (key : String) : Bool := decide (P.lower key ∉ privateSnapshotKeys)

/-- `_sanitize_snapshot_value`. A JSON value is of one of the kinds it supports. -/
def sanitizeSnapshotValue (value : Json) : Json := value.redact (isPublicKey P)

/-- What `sanitize_snapshot` makes of one instance. -/
def sanitizeInstance (source : Json) : Json :=
  let target := Json.obj (source.select snapshotInstanceKeys (sanitizeSnapshotValue P))
  if (source.field "error").truthy then target.set "error" (.str "unavailable") else target

/-- `sanitize_snapshot`. -/
def sanitizeSnapshot (document : Json) : Except Exn Json := do
  require (document.isObj ∧ document.fieldEq "schema_version" (.int 1))
    (transportError "invalid snapshot document")
  let sources ← orRaise (document.field "instances").obj?
    (transportError "invalid snapshot instances")
  require (∀ source ∈ sources, source.2.isObj) (transportError "invalid snapshot instance")
  let result := snapshotDocument (document.field "generated_at")
    (sources.map fun source => (source.1, sanitizeInstance P source.2))
  require ((canonical result).length ≤ maxFrameBytes / 2)
    (transportError "snapshot exceeds relay payload limit")
  pure result

variable {P}

/-- **What the filter accepts, and what it makes of it.** -/
theorem sanitizeSnapshot_eq_ok {d y : Json} : sanitizeSnapshot P d = .ok y ↔
    d.isObj = true ∧ d.fieldEq "schema_version" (.int 1) = true ∧
      ∃ sources, d.field "instances" = .obj sources ∧
        (∀ source ∈ sources, source.2.isObj = true) ∧
        (canonical y).length ≤ maxFrameBytes / 2 ∧
        y = snapshotDocument (d.field "generated_at")
          (sources.map fun source => (source.1, sanitizeInstance P source.2)) := by
  simp only [sanitizeSnapshot, Except.bind_eq_ok, require_eq_ok, exists_const, orRaise_eq_ok,
    Json.obj?_eq_some, and_assoc]
  refine and_congr_right fun _ => and_congr_right fun _ => exists_congr fun sources =>
    and_congr_right fun _ => and_congr_right fun _ => ?_
  constructor
  · rintro ⟨hlen, hy⟩
    obtain rfl := Except.ok.inj hy
    exact ⟨hlen, rfl⟩
  · rintro ⟨hlen, rfl⟩
    exact ⟨hlen, rfl⟩

/-! ### One instance -/

theorem snapshotInstanceKeys_sorted : snapshotInstanceKeys.Pairwise (· < ·) := by decide

theorem error_notMem_snapshotInstanceKeys : "error" ∉ snapshotInstanceKeys := by decide

/-- **What a filtered instance holds under a name.** -/
theorem get?_sanitizeInstance (source : Json) (name : String) :
    (sanitizeInstance P source).get? name =
      if name ∈ snapshotInstanceKeys then (source.get? name).map (sanitizeSnapshotValue P)
      else if name = "error" ∧ (source.field "error").truthy then some (.str "unavailable")
      else none := by
  have hselect := Json.get?_select (f := sanitizeSnapshotValue P) snapshotInstanceKeys_sorted
    source name
  by_cases herror : (source.field "error").truthy = true
  · rw [sanitizeInstance, if_pos herror, Json.set, Json.get?, Entries.get?_insert, hselect]
    by_cases hname : "error" = name
    · subst hname
      rw [if_pos rfl, if_neg error_notMem_snapshotInstanceKeys, if_pos ⟨rfl, herror⟩]
    · have hnot : ¬(name = "error" ∧ (source.field "error").truthy = true) :=
        fun hc => hname hc.1.symm
      rw [if_neg hname, if_neg hnot]
  · have hnot : ¬(name = "error" ∧ (source.field "error").truthy = true) := fun hc => herror hc.2
    rw [sanitizeInstance, if_neg herror, Json.get?, hselect, if_neg hnot]

theorem sanitizeInstance_isObj (source : Json) : (sanitizeInstance P source).isObj = true := by
  rw [sanitizeInstance]
  split <;> rfl

/-- The error of a filtered instance is there when the error of the instance is. -/
theorem truthy_error_sanitizeInstance (source : Json) :
    ((sanitizeInstance P source).field "error").truthy = (source.field "error").truthy := by
  rw [Json.field, get?_sanitizeInstance, if_neg error_notMem_snapshotInstanceKeys]
  cases h : (source.field "error").truthy with
  | true => rw [if_pos ⟨rfl, rfl⟩]; rfl
  | false => rw [if_neg fun hc => by cases hc.2]; rfl

/-- **A filtered instance is left as it is.** -/
theorem sanitizeInstance_sanitized (source : Json) :
    sanitizeInstance P (sanitizeInstance P source) = sanitizeInstance P source := by
  have hselect : (sanitizeInstance P source).select snapshotInstanceKeys (sanitizeSnapshotValue P) =
      source.select snapshotInstanceKeys (sanitizeSnapshotValue P) := by
    refine Json.select_congr fun name hname => ?_
    rw [get?_sanitizeInstance, if_pos hname, Option.map_map]
    exact congrArg (Option.map · _) (funext fun v => Json.redact_redact v)
  rw [sanitizeInstance, hselect, truthy_error_sanitizeInstance]
  rfl

/-- A filtered instance in normal form. -/
theorem ordered_sanitizeInstance {source : Json} (h : source.ordered = true) :
    (sanitizeInstance P source).ordered = true := by
  have hsorted := Json.sorted_select (f := sanitizeSnapshotValue P) snapshotInstanceKeys_sorted source
  have hmembers : ∀ e ∈ source.select snapshotInstanceKeys (sanitizeSnapshotValue P),
      e.2.ordered = true := by
    rintro ⟨name, v⟩ he
    obtain ⟨-, u, hu, rfl⟩ := Json.mem_select.mp he
    exact Json.ordered_redact u (Json.ordered_get? h hu)
  rw [sanitizeInstance]
  split
  · refine Json.ordered_obj.mpr ⟨Entries.sorted_insert hsorted _ _, fun e he => ?_⟩
    rcases Entries.mem_insert_keys he with rfl | hmem
    · rfl
    · exact hmembers e hmem
  · exact Json.ordered_obj.mpr ⟨hsorted, hmembers⟩

/-- **An instance that compares equal to what the filter makes of it is that.** -/
theorem sanitizeInstance_of_pyEq {source : Json} (hordered : source.ordered = true)
    (hobj : source.isObj = true) (h : (sanitizeInstance P source).pyEq source = true) :
    sanitizeInstance P source = source := by
  obtain ⟨fields, rfl⟩ := Json.isObj_iff.mp hobj
  obtain ⟨target, htarget⟩ := Json.isObj_iff.mp (sanitizeInstance_isObj (P := P) (.obj fields))
  have hget := get?_sanitizeInstance (P := P) (.obj fields)
  have hsorted := ordered_sanitizeInstance (P := P) hordered
  rw [htarget] at h hget hsorted ⊢
  rw [Json.pyEq] at h
  refine congrArg Json.obj (Entries.ext (Json.ordered_obj.mp hsorted).1
    (Json.ordered_obj.mp hordered).1 fun name => ?_)
  rcases Json.get?_of_pyEqFields h name with ⟨x, y, hx, hy, hxy⟩ | ⟨hx, hy⟩
  · -- a member that is there is a copied one or the error
    have hname := (hget name).symm.trans hx
    rw [show (Json.obj fields).get? name = some y from hy] at hname
    split at hname
    · obtain rfl : sanitizeSnapshotValue P y = x := Option.some.inj hname
      rw [hx, hy, sanitizeSnapshotValue, Json.eq_redact_of_pyEq y hxy]
    · split at hname
      · obtain rfl := Option.some.inj hname
        rw [hx, hy, Json.str_pyEq_iff.mp hxy]
      · cases hname
  · rw [hx, hy]

/-! ### The document -/

/-- **A filtered snapshot is left as it is.** -/
theorem sanitizeSnapshot_sanitized {d y : Json} (h : sanitizeSnapshot P d = .ok y) :
    sanitizeSnapshot P y = .ok y := by
  obtain ⟨-, -, sources, -, -, hlen, rfl⟩ := sanitizeSnapshot_eq_ok.mp h
  refine sanitizeSnapshot_eq_ok.mpr ⟨rfl, rfl, _, rfl, fun e he => ?_, hlen, ?_⟩
  · obtain ⟨source, -, rfl⟩ := List.mem_map.mp he
    exact sanitizeInstance_isObj source.2
  · rw [List.map_map]
    refine congrArg (snapshotDocument _) (List.map_congr_left fun source _ => ?_)
    exact congrArg (Prod.mk source.1) (sanitizeInstance_sanitized source.2).symm

/-- A filtered snapshot is in normal form. -/
theorem ordered_sanitizeSnapshot {d y : Json} (hd : d.ordered = true)
    (h : sanitizeSnapshot P d = .ok y) : y.ordered = true := by
  obtain ⟨-, -, sources, hsources, -, -, rfl⟩ := sanitizeSnapshot_eq_ok.mp h
  have hinst : (Json.obj sources).ordered = true := hsources ▸ Json.ordered_field hd "instances"
  obtain ⟨hsorted, hmembers⟩ := Json.ordered_obj.mp hinst
  have hmap : (Json.obj (sources.map fun source => (source.1, sanitizeInstance P source.2))).ordered
      = true := by
    refine Json.ordered_obj.mpr ⟨?_, fun e he => ?_⟩
    · rw [Entries.Sorted, List.map_map]
      exact hsorted
    · obtain ⟨source, hsource, rfl⟩ := List.mem_map.mp he
      exact ordered_sanitizeInstance (hmembers source hsource)
  have hnames : ["generated_at", "instances", "schema_version"].Pairwise (· < ·) := by decide
  refine Json.ordered_obj.mpr ⟨hnames, fun e he => ?_⟩
  simp only [List.mem_cons, List.not_mem_nil, or_false] at he
  rcases he with rfl | rfl | rfl
  · exact Json.ordered_field hd _
  · exact hmap
  · rfl

/-- Instances that compare equal to what the filter makes of them are that. -/
theorem sanitizeInstances_of_pyEq {sources : List (String × Json)}
    (hordered : ∀ e ∈ sources, e.2.ordered = true) (hobj : ∀ e ∈ sources, e.2.isObj = true)
    (h : Json.pyEqFields (sources.map fun source => (source.1, sanitizeInstance P source.2)) sources
      = true) :
    sources.map (fun source => (source.1, sanitizeInstance P source.2)) = sources := by
  induction sources with
  | nil => rfl
  | cons e sources ih =>
    obtain ⟨name, source⟩ := e
    rw [List.map_cons, Json.pyEqFields, Bool.and_eq_true, Bool.and_eq_true] at h
    rw [List.forall_mem_cons] at hordered hobj
    rw [List.map_cons, sanitizeInstance_of_pyEq hordered.1 hobj.1 h.1.2,
      ih hordered.2 hobj.2 h.2]

/-- **What the comparison lets through is filtered already**, the spelling of the version
aside. -/
theorem eq_of_pyEq_sanitizeSnapshot {d y : Json} (hd : d.ordered = true)
    (h : sanitizeSnapshot P d = .ok y) (heq : y.pyEq d = true) :
    y = d.set "schema_version" protocolVersion := by
  obtain ⟨hobj, -, sources, hsources, hobjs, -, rfl⟩ := sanitizeSnapshot_eq_ok.mp h
  obtain ⟨fields, rfl⟩ := Json.isObj_iff.mp hobj
  rw [snapshotDocument, Json.pyEq] at heq
  have hkeys := Json.keys_eq_of_pyEqFields heq
  obtain ⟨a, b, c, rfl⟩ : ∃ a b c, fields =
      [("generated_at", a), ("instances", b), ("schema_version", c)] := by
    match fields, hkeys with
    | [(_, a), (_, b), (_, c)], hkeys =>
      simp only [List.map_cons, List.map_nil, List.cons.injEq, and_true] at hkeys
      obtain ⟨rfl, rfl, rfl⟩ := hkeys
      exact ⟨a, b, c, rfl⟩
  obtain rfl : b = .obj sources := hsources
  simp only [Json.pyEqFields, Json.pyEq, Bool.and_eq_true] at heq
  have hmembers := (Json.ordered_obj.mp (Json.ordered_field hd "instances")).2
  rw [sanitizeInstances_of_pyEq hmembers hobjs heq.2.1.2]
  rfl

/-! ### Telemetry -/

/-- The `agent.telemetry` that `send_snapshot` builds around a filtered snapshot. -/
def telemetryEnvelope (sessionId : String) (snapshot : Json) : Json :=
  .obj [("protocol_version", protocolVersion), ("sequence", .int 1),
    ("session_id", .str sessionId), ("snapshot", snapshot), ("type", .str "agent.telemetry")]

variable (P) in
/-- What `send_snapshot` writes once its session is confirmed. -/
def sendTelemetry (sessionId : String) (snapshot : Json) : Except Exn Bytes := do
  let filtered ← sanitizeSnapshot P snapshot
  writeFrame (telemetryEnvelope sessionId filtered)

/-- An envelope of a document in normal form is in normal form. -/
theorem ordered_telemetryEnvelope {sessionId : String} {snapshot : Json}
    (h : snapshot.ordered = true) : (telemetryEnvelope sessionId snapshot).ordered = true := by
  have hnames : ["protocol_version", "sequence", "session_id", "snapshot", "type"].Pairwise
      (· < ·) := by decide
  refine Json.ordered_obj.mpr ⟨hnames, fun e he => ?_⟩
  simp only [List.mem_cons, List.not_mem_nil, or_false] at he
  rcases he with rfl | rfl | rfl | rfl | rfl
  · rfl
  · rfl
  · rfl
  · exact h
  · rfl

/-- **A filtered snapshot fits the frame**: the filter leaves half of it free, and the
envelope takes less. -/
theorem writeFrame_telemetryEnvelope {d y : Json} (h : sanitizeSnapshot P d = .ok y)
    {sessionId : String} (hid : sessionId.toList.length = 36) :
    writeFrame (telemetryEnvelope sessionId y) =
      .ok (canonical (telemetryEnvelope sessionId y) ++ [newline]) := by
  obtain ⟨-, -, sources, -, -, hlen, -⟩ := sanitizeSnapshot_eq_ok.mp h
  have hnames : ∀ s ∈ ["protocol_version", "sequence", "session_id", "snapshot", "type",
      "agent.telemetry"], (Json.encodeString s).length ≤ 206 := fun s hs =>
    (Json.length_encodeString_le s).trans ((by decide : ∀ s ∈ ["protocol_version", "sequence",
      "session_id", "snapshot", "type", "agent.telemetry"], Json.stringBound s ≤ 206) s hs)
  have hvalue := Json.length_encodeString_le sessionId
  have hint : (Json.intText 1).length = 1 := rfl
  rw [Json.stringBound, hid] at hvalue
  rw [length_canonical] at hlen
  simp only [List.forall_mem_cons] at hnames
  refine writeFrame_eq_ok.mpr ⟨?_, rfl⟩
  rw [length_canonical]
  simp only [telemetryEnvelope, protocolVersion, Json.encode, Json.encodeFields, List.length_cons,
    List.length_append, List.length_nil, hint]
  simp only [maxFrameBytes] at hlen ⊢
  omega

/-! ### What is private -/

variable (P) in
/-- No object, at any depth, has a private key. -/
def PrivateFree (d : Json) : Prop := d.onlyNames (isPublicKey P) = true

/-- The keys the filter writes itself. -/
def writtenKeys : List String :=
  ["error", "generated_at", "instances", "schema_version"] ++ snapshotInstanceKeys

/-- No key the filter writes itself is private. -/
theorem isPublicKey_of_written {key : String} (h : key ∈ writtenKeys) :
    isPublicKey P key = true := by
  have hkeys : ∀ key ∈ writtenKeys, (∀ c ∈ key.toList, c.toNat < 128) ∧
      String.ofList (key.toList.map Char.toLower) ∉ privateSnapshotKeys := by decide
  obtain ⟨hascii, hpublic⟩ := hkeys key h
  rw [isPublicKey, P.lower_ascii key hascii]
  exact decide_eq_true hpublic

/-- Nothing below a filtered instance is private. -/
theorem privateFree_sanitizeInstance (source : Json) : PrivateFree P (sanitizeInstance P source) := by
  have hmember : ∀ e ∈ source.select snapshotInstanceKeys (sanitizeSnapshotValue P),
      isPublicKey P e.1 = true ∧ PrivateFree P e.2 := by
    rintro ⟨name, v⟩ he
    obtain ⟨hname, u, -, rfl⟩ := Json.mem_select.mp he
    exact ⟨isPublicKey_of_written (List.mem_append_right _ hname), Json.onlyNames_redact u⟩
  rw [sanitizeInstance]
  split
  · refine Json.onlyNames_obj.mpr fun e he => ?_
    rcases Entries.mem_insert_keys he with rfl | hmem
    · exact ⟨isPublicKey_of_written (by decide), rfl⟩
    · exact hmember e hmem
  · exact Json.onlyNames_obj.mpr hmember

variable (P) in
/-- Nothing private is in what the filter copies as it stands: the time of the snapshot,
and the names of the instances. -/
def CopiedPublic (d : Json) : Prop :=
  PrivateFree P (d.field "generated_at") ∧
    ∀ name ∈ (d.field "instances").names, isPublicKey P name = true

/-- **What the filter lets through that is private** is what it copies. -/
theorem privateFree_sanitizeSnapshot_iff {d y : Json} (h : sanitizeSnapshot P d = .ok y) :
    PrivateFree P y ↔ CopiedPublic P d := by
  obtain ⟨-, -, sources, hsources, -, -, rfl⟩ := sanitizeSnapshot_eq_ok.mp h
  have hwritten : ∀ key ∈ ["generated_at", "instances", "schema_version"],
      isPublicKey P key = true :=
    fun key hkey => isPublicKey_of_written (List.mem_append_left _ (List.mem_cons_of_mem _ hkey))
  have hinstances : PrivateFree P (.obj (sources.map fun source =>
      (source.1, sanitizeInstance P source.2))) ↔
      ∀ name ∈ sources.map Prod.fst, isPublicKey P name = true := by
    rw [PrivateFree, Json.onlyNames_obj, List.forall_mem_map, List.forall_mem_map]
    exact forall₂_congr fun source _ => and_iff_left (privateFree_sanitizeInstance source.2)
  rw [CopiedPublic, hsources, Json.names, ← hinstances, PrivateFree, snapshotDocument,
    Json.onlyNames_obj]
  constructor
  · intro hall
    exact ⟨(hall _ List.mem_cons_self).2,
      (hall _ (List.mem_cons_of_mem _ List.mem_cons_self)).2⟩
  · rintro ⟨htime, hinst⟩ e he
    simp only [List.mem_cons, List.not_mem_nil, or_false] at he
    rcases he with rfl | rfl | rfl
    · exact ⟨hwritten _ (by simp), htime⟩
    · exact ⟨hwritten _ (by simp), hinst⟩
    · exact ⟨hwritten _ (by simp), rfl⟩

end Filter

end PrinterHmi
