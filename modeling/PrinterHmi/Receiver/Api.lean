import PrinterHmi.Receiver.Config
import PrinterHmi.Receiver.Registry
import PrinterHmi.Service.LocalApi

/-!
# The API of the receiver and its client

The receiver tells the same user, on a local socket, how many devices it has
(`Registry.health`), what it knows of each (`Registry.document`) and what a device has
sent last (`Registry.snapshot`). Its client reads the answer with a reader of its own
default limit, as the client of the service does.

Both clients get what they ask for exactly as long as it is short enough
(`answers_read_iff`). A snapshot that the relay protocol admits can be too long for
either (`snapshot_too_long`).
-/

namespace PrinterHmi

/-- `MAX_API_REQUEST_BYTES`. -/
def maxApiRequestBytes : ℕ := 16 * 1024

/-- `RelayReceiverApi`: the registry it answers from, and how long after its last
publication a device counts as online. -/
structure RelayReceiverApi where
  registry : Registry
  staleAfter : Time

section Api

variable (P : Platform)

/-- The result of the method `health`. -/
def RelayReceiverApi.health (api : RelayReceiverApi) (now : Time) : Json :=
  let document := api.registry.document P api.staleAfter now
  let devices := ((document.field "devices").obj?).getD []
  .obj [("device_count", .int devices.length), ("generated_at", document.field "generated_at"),
    ("online_count", .int (devices.countP fun e => (e.2.field "online").truthy))]

/-- The answer of the method `snapshot`. -/
def RelayReceiverApi.snapshot (api : RelayReceiverApi) (deviceId : String) : Json :=
  match api.registry.snapshot deviceId with
  | none => apiError "not_found" "snapshot unavailable"
  | some snapshot => apiResult snapshot

/-- `dispatch`. -/
def RelayReceiverApi.dispatch (api : RelayReceiverApi) (now : Time) (request : Json) :
    Except Exn Json := do
  require (request.isObj ∧ request.fieldEq "protocol_version" protocolVersion)
    (receiverError "invalid API request")
  match request.field "method" with
  | .str "health" => pure (apiResult (api.health P now))
  | .str "devices" => pure (apiResult (api.registry.document P api.staleAfter now))
  | .str "snapshot" =>
    match (request.field "params").field "device_id" with
    | .str deviceId => pure (api.snapshot deviceId)
    | _ => .error (receiverError "device_id is required")
  | _ => .error (receiverError "unknown API method")

/-- `_handle`, until it answers. -/
def RelayReceiverApi.handle (api : RelayReceiverApi) (peer : PeerUser) (now : Time)
    (stream : Bytes) : Except Exn Json := do
  match peer with
    | .same => pure ()
    | .other => .error (receiverError "peer is not authorized")
    | .unavailable => .error (receiverError "peer credentials unavailable")
  let raw ← readLineWithin defaultLimit stream
  require (raw ≠ [] ∧ raw.length ≤ maxApiRequestBytes ∧ raw.getLast? = some newline)
    (receiverError "invalid API request")
  match loadsLine raw with
  | none => .error ⟨.valueError, "Expecting value"⟩
  | some request => api.dispatch P now request

/-- `_handle`: the answer to what arrives on a connection. -/
def RelayReceiverApi.answer (api : RelayReceiverApi) (peer : PeerUser) (now : Time)
    (stream : Bytes) : Json :=
  match api.handle P peer now stream with
  | .ok response => response
  | .error _ => apiError "invalid_request" "request rejected"

/-- `receiver_api_request`, to the API of a user from a process of the same user. -/
def RelayReceiverApi.request (api : RelayReceiverApi) (now : Time) (method : String)
    (deviceId : Option String) : Except Exn Json :=
  askLine (api.answer P .same now) method
    (deviceId.map fun deviceId => .obj [("device_id", .str deviceId)])

end Api

/-! ### What the client reads -/

/-- What a loaded configuration and filtered telemetry make of a registry: the identifiers
of its devices have their form, and the snapshots are in normal form. -/
structure Registry.Normal (r : Registry) : Prop where
  ids : ∀ deviceId ∈ r.deviceIds, deviceIdPattern deviceId = true
  snapshots : ∀ deviceId record, r.records.get? deviceId = some record →
    record.snapshot.ordered = true

section Read

variable {P : Platform} {api : RelayReceiverApi} {now : Time}

/-- The text of a device identifier. -/
theorem length_of_deviceIdPattern {s : String} (h : deviceIdPattern s = true) :
    s.toList.length ≤ 30 := by
  simp only [deviceIdPattern, matchesClass, Bool.and_eq_true, decide_eq_true_eq,
    List.length_drop] at h
  omega

/-- A request that is not too long is dispatched. -/
theorem handle_receiverLine {d : Json} (hd : d.ordered = true)
    (hlen : d.encode.length < maxApiRequestBytes) :
    api.handle P .same now (canonical d ++ [newline]) = api.dispatch P now d := by
  have hlimit : d.encode.length ≤ defaultLimit := by
    rw [maxApiRequestBytes] at hlen
    rw [defaultLimit]
    omega
  have hline : canonical d ++ [newline] ≠ [] := by simp
  rw [RelayReceiverApi.handle, readLineWithin_of_le hlimit]
  change (require _ _ >>= fun _ => _) = _
  rw [require_pos ⟨hline, line_within hlen⟩]
  change (match loadsLine (canonical d ++ [newline]) with
    | none => _
    | some request => _) = _
  rw [loadsLine_line hd]

/-- The request for the snapshot of a device is not too long. -/
theorem request_snapshot {deviceId : String} (h : deviceIdPattern deviceId = true) :
    (requestDocument "snapshot" (some (.obj [("device_id", .str deviceId)]))).ordered = true ∧
      (requestDocument "snapshot" (some (.obj [("device_id", .str deviceId)]))).encode.length <
        maxApiRequestBytes := by
  constructor
  · have hnames : ["method", "params", "protocol_version"].Pairwise (· < ·) := by decide
    exact Json.ordered_obj.mpr ⟨hnames, by
      simp [Json.ordered, Json.orderedFields, Entries.Sorted, protocolVersion]⟩
  · have hlen := length_of_deviceIdPattern h
    refine lt_of_le_of_lt (Json.length_encode_le _) ?_
    have hnames : Json.stringBound "method" + Json.stringBound "snapshot" +
        Json.stringBound "params" + Json.stringBound "device_id" +
        Json.stringBound "protocol_version" ≤ 1000 := by decide
    have hid : Json.stringBound deviceId ≤ 362 := by
      rw [Json.stringBound]
      omega
    have hint : (Json.intText 1).length = 1 := rfl
    simp only [requestDocument, Option.map_some, Option.toList_some, List.cons_append,
      List.nil_append, protocolVersion, Json.lengthBound, Json.lengthBoundFields, hint,
      maxApiRequestBytes]
    omega

/-- What the registry has of a device is in normal form. -/
theorem ordered_deviceDocument (staleAfter : Time) (r : Registry) (now : Time) (deviceId : String) :
    (r.deviceDocument staleAfter now deviceId).ordered = true := by
  have hnames : ["active_sessions", "device_id", "last_seen", "online", "sequence"].Pairwise
      (· < ·) := by decide
  refine Json.ordered_obj.mpr ⟨hnames, fun e he => ?_⟩
  simp only [List.mem_cons, List.not_mem_nil, or_false] at he
  rcases he with rfl | rfl | rfl | rfl | rfl
  · rfl
  · rfl
  · cases r.records.get? deviceId <;> rfl
  · rfl
  · cases r.records.get? deviceId <;> rfl

/-- Entries that are added one by one. -/
theorem get?_foldl_insert {f : String → Json} (deviceIds : List String) (d : Dict String Json)
    {name : String} {v : Json}
    (h : (deviceIds.foldl (fun d deviceId => d.insert deviceId (f deviceId)) d).get? name =
      some v) : d.get? name = some v ∨ v = f name := by
  induction deviceIds generalizing d with
  | nil => exact .inl h
  | cons deviceId deviceIds ih =>
    rcases ih _ h with hd | hv
    · rw [Dict.get?_insert] at hd
      split_ifs at hd with hname
      · exact .inr (hname ▸ (Option.some.inj hd).symm)
      · exact .inl hd
    · exact .inr hv

/-- The overview is in normal form. -/
theorem ordered_document (staleAfter : Time) (r : Registry) (now : Time) :
    (r.document P staleAfter now).ordered = true := by
  have hnames : ["devices", "generated_at", "schema_version"].Pairwise (· < ·) := by decide
  refine Json.ordered_obj.mpr ⟨hnames, fun e he => ?_⟩
  simp only [List.mem_cons, List.not_mem_nil, or_false] at he
  rcases he with rfl | rfl | rfl
  · refine Json.ordered_obj.mpr ⟨Dict.sorted _, fun e he => ?_⟩
    rcases get?_foldl_insert _ _ (Dict.mem_entries_iff.mp he) with hnone | hdocument
    · cases hnone
    · rw [hdocument]
      exact ordered_deviceDocument staleAfter r now e.1
  · rfl
  · rfl

theorem ordered_health : (api.health P now).ordered = true := by
  have hnames : ["device_count", "generated_at", "online_count"].Pairwise (· < ·) := by decide
  refine Json.ordered_obj.mpr ⟨hnames, fun e he => ?_⟩
  simp only [List.mem_cons, List.not_mem_nil, or_false] at he
  rcases he with rfl | rfl | rfl
  · rfl
  · exact Json.ordered_field (ordered_document api.staleAfter api.registry now) "generated_at"
  · rfl

theorem ordered_snapshot (hr : api.registry.Normal) (deviceId : String) :
    (api.snapshot deviceId).ordered = true := by
  rw [RelayReceiverApi.snapshot, Registry.snapshot]
  cases hrecord : api.registry.records.get? deviceId with
  | none => exact ordered_apiError _ _
  | some record =>
    have hnames : ["device_id", "received_at", "sequence", "snapshot"].Pairwise (· < ·) := by
      decide
    refine ordered_apiResult (Json.ordered_obj.mpr ⟨hnames, fun e he => ?_⟩)
    simp only [List.mem_cons, List.not_mem_nil, or_false] at he
    rcases he with rfl | rfl | rfl | rfl
    · rfl
    · rfl
    · rfl
    · exact hr.snapshots deviceId record hrecord

/-- The answer to a request that is not too long. -/
theorem answer_receiverLine {d response : Json} (hd : d.ordered = true)
    (hlen : d.encode.length < maxApiRequestBytes) (hdispatch : api.dispatch P now d = .ok response) :
    api.answer P .same now (canonical d ++ [newline]) = response := by
  rw [RelayReceiverApi.answer, handle_receiverLine hd hlen, hdispatch]

/-- **The clients read what they ask for** exactly if its text is short enough: the worker
the document of its service, and the client of the receiver the state of the receiver, of
its devices, and of each device. -/
theorem answers_read_iff (P : Platform) :
    (∀ (api : LocalAgentApi) (env : ApiSupply), api.store.Normal →
      (api.fetchSnapshot P env = .ok (api.store.documentLocked P env.utcNow) ↔
        (api.store.documentLocked P env.utcNow).encode.length + 42 ≤ defaultLimit)) ∧
    ∀ (api : RelayReceiverApi) (now : Time), api.registry.Normal →
      (api.request P now "health" none = .ok (apiResult (api.health P now)) ↔
        (api.health P now).encode.length + 42 ≤ defaultLimit) ∧
      (api.request P now "devices" none =
          .ok (apiResult (api.registry.document P api.staleAfter now)) ↔
        (api.registry.document P api.staleAfter now).encode.length + 42 ≤ defaultLimit) ∧
      ∀ deviceId ∈ api.registry.deviceIds,
        (api.request P now "snapshot" (some deviceId) = .ok (api.snapshot deviceId) ↔
          (api.snapshot deviceId).encode.length ≤ defaultLimit) := by
  -- each answer is one line, and is read if the line is within the limit
  have hiff {c : Prop} [Decidable c] {d : Json} :
      (if c then Except.ok d else .error chunkTooLong) = .ok d ↔ c := by
    split
    · next hc => exact iff_of_true rfl hc
    · next hc => exact iff_of_false nofun hc
  refine ⟨fun api env hs => ?_, fun api now hr => ⟨?_, ?_, fun deviceId hid => ?_⟩⟩
  · rw [fetchSnapshot_eq hs]
    exact hiff
  · rw [RelayReceiverApi.request, Option.map_none, askLine_answer
      (answer_receiverLine (by decide) (by decide) rfl) (ordered_apiResult ordered_health),
      length_apiResult]
    exact hiff
  · rw [RelayReceiverApi.request, Option.map_none, askLine_answer
      (answer_receiverLine (by decide) (by decide) rfl)
      (ordered_apiResult (ordered_document _ _ _)), length_apiResult]
    exact hiff
  · obtain ⟨hordered, hlen⟩ := request_snapshot (hr.ids deviceId hid)
    rw [RelayReceiverApi.request, Option.map_some, askLine_answer
      (answer_receiverLine hordered hlen rfl) (ordered_snapshot hr deviceId)]
    exact hiff

end Read

/-! ### A sample -/

namespace Sample

/-- A store with one long text in the status of a printer. -/
def longStore (text : String) : SnapshotStore :=
  { StoreLoop.start.store with
    instances := (∅ : Dict String Json).insert "printer-1" (.obj [("status", .str text)]) }

/-- A text of so many letters. -/
def letters (n : ℕ) : String := String.ofList (List.replicate n 'a')

theorem length_letters (n : ℕ) : (Json.encodeString (letters n)).length = n + 2 := by
  have hchars (n : ℕ) : (Json.encodeChars (List.replicate n 'a')).length = n + 1 := by
    induction n with
    | zero => rfl
    | succ n ih =>
      rw [List.replicate_succ, Json.encodeChars, List.length_append, ih]
      have ha : (Json.encodeChar 'a').length = 1 := by decide
      omega
  rw [Json.encodeString, letters, String.toList_ofList, List.length_cons, hchars]

theorem normal_longStore (text : String) : (longStore text).Normal := by
  intro instanceId payload h
  have hinsert : ((∅ : Dict String Json).insert "printer-1" (.obj [("status", .str text)])).get?
      instanceId = some payload := h
  rw [Dict.get?_insert] at hinsert
  split_ifs at hinsert with hid
  · obtain rfl := Option.some.inj hinsert
    exact Json.ordered_obj.mpr ⟨List.pairwise_singleton _ _, by simp [Json.ordered]⟩
  · cases hinsert

/-- The document of the sample store. -/
theorem documentLocked_longStore (text : String) :
    (longStore text).documentLocked platform (moment 4) =
      snapshotDocument (.str "2023-11-14T22:13:24Z") [("printer-1", .obj [("status", .str text)])] := by
  have htime : platform.timestamp (moment 4) = "2023-11-14T22:13:24Z" := by decide
  rw [SnapshotStore.documentLocked, htime]
  rfl

/-- Its text. -/
theorem length_longStore (n : ℕ) :
    ((longStore (letters n)).documentLocked platform (moment 4)).encode.length = n + 98 := by
  have hnames : (Json.encodeString "generated_at").length = 14 ∧
      (Json.encodeString "2023-11-14T22:13:24Z").length = 22 ∧
      (Json.encodeString "instances").length = 11 ∧
      (Json.encodeString "printer-1").length = 11 ∧ (Json.encodeString "status").length = 8 ∧
      (Json.encodeString "schema_version").length = 16 ∧ (Json.intText 1).length = 1 := by decide
  obtain ⟨hgenerated, htime, hinstances, hprinter, hstatus, hschema, hint⟩ := hnames
  rw [documentLocked_longStore]
  simp only [snapshotDocument, protocolVersion, Json.encode, Json.encodeFields, List.length_cons,
    List.length_append, List.length_nil, length_letters, hgenerated, htime, hinstances, hprinter,
    hstatus, hschema, hint]
  omega

/-- The document of the sample store is filtered already. -/
theorem sanitizeSnapshot_longStore {n : ℕ} (hn : n ≤ 130000) :
    sanitizeSnapshot platform ((longStore (letters n)).documentLocked platform (moment 4)) =
      .ok ((longStore (letters n)).documentLocked platform (moment 4)) := by
  have hlen := length_longStore n
  have hinstance (text : String) : sanitizeInstance platform (.obj [("status", .str text)]) =
      .obj [("status", .str text)] := rfl
  rw [documentLocked_longStore] at hlen ⊢
  refine sanitizeSnapshot_eq_ok.mpr ⟨rfl, rfl, _, rfl, by simp [Json.isObj], ?_, ?_⟩
  · rw [length_canonical, maxFrameBytes]
    omega
  · rw [List.map_singleton, hinstance]
    rfl

end Sample

open Sample in
/-- **A snapshot that the protocol admits, and the worker cannot fetch.** -/
theorem snapshot_too_long : ¬ ∀ (P : Platform) (api : LocalAgentApi) (env : ApiSupply) (y : Json),
    api.store.Normal → sanitizeSnapshot P (api.store.documentLocked P env.utcNow) = .ok y →
      api.fetchSnapshot P env = .ok (api.store.documentLocked P env.utcNow) := by
  intro hfetch
  have hfetched := hfetch platform ⟨longStore (letters 70000), []⟩ ⟨moment 4, ⟨['0', '.', '0'], rfl⟩⟩
    _ (normal_longStore _) (sanitizeSnapshot_longStore (by decide))
  rw [fetchSnapshot_eq (normal_longStore _), if_neg ?_] at hfetched
  · cases hfetched
  · rw [length_longStore]
    decide

open Sample in
/-- A short snapshot is fetched, and so is the state of a receiver with one device. -/
theorem answers_read_iff_sample :
    (⟨longStore (letters 3), []⟩ : LocalAgentApi).fetchSnapshot platform
        ⟨moment 4, ⟨['0', '.', '0'], rfl⟩⟩ =
      .ok ((longStore (letters 3)).documentLocked platform (moment 4)) ∧
    (⟨Registry.start [device], seconds 30⟩ : RelayReceiverApi).request platform (moment 4)
        "devices" none =
      .ok (apiResult ((Registry.start [device]).document platform (seconds 30) (moment 4))) := by
  have hstore := (answers_read_iff platform).1 ⟨longStore (letters 3), []⟩
    ⟨moment 4, ⟨['0', '.', '0'], rfl⟩⟩ (normal_longStore _)
  have hregistry : (Registry.start [device]).Normal := by
    refine ⟨fun deviceId hid => ?_, fun deviceId record hrecord => ?_⟩
    · obtain rfl := List.mem_singleton.mp hid
      decide
    · cases hrecord
  obtain ⟨-, hdevices, -⟩ := (answers_read_iff platform).2 ⟨Registry.start [device], seconds 30⟩
    (moment 4) hregistry
  refine ⟨hstore.mpr ?_, hdevices.mpr (by decide +kernel)⟩
  rw [length_longStore]
  decide

end PrinterHmi
