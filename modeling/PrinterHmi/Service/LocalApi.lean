import PrinterHmi.Service.SnapshotStore
import PrinterHmi.Transport.Snapshot

/-!
# The local API and its clients

The service answers requests of the same user on a local socket: one line, a request,
and one line, its answer. The answer is as long as it has to be, and the client reads it
with a reader whose limit nobody has set (`readLineWithin`). So a client gets the answer
exactly if its text is within that limit (`askLine_answer`), and the worker the document
of the store exactly if that document is not too long (`fetchSnapshot_eq`).

The fields of a request and of an answer are written in the order of the dictionary, not
sorted as in a frame. That changes neither the length of the text nor what it denotes.
-/

namespace PrinterHmi

/-! ### Lines -/

/-- The limit of a stream reader that is made without one. -/
def defaultLimit : ℕ := 65536

/-- What `readline` raises on a line that is longer than the limit of the reader. -/
def chunkTooLong : Exn := ⟨.valueError, "Separator is found, but chunk is longer than limit"⟩

/-- `reader.readline()` of a reader with a limit, on all that will arrive. The newline does
not count. -/
def readLineWithin (limit : ℕ) (stream : Bytes) : Except Exn Bytes := do
  require ((stream.takeWhile (· ≠ newline)).length ≤ limit) chunkTooLong
  pure (readLine stream).1

/-- `json.loads(raw.decode("utf-8"))`. -/
def loadsLine (raw : Bytes) : Option Json := (utf8? raw).bind fun text => Json.loads text.toList

/-- A request of a method. -/
def requestDocument (method : String) (params : Option Json) : Json :=
  .obj ([("method", .str method)] ++ (params.map fun params => ("params", params)).toList ++
    [("protocol_version", protocolVersion)])

/-- A client writes a request to a server and reads the answer. -/
def askLine (server : Bytes → Json) (method : String) (params : Option Json) : Except Exn Json := do
  let answer := server (canonical (requestDocument method params) ++ [newline])
  let raw ← readLineWithin defaultLimit (canonical answer ++ [newline])
  match loadsLine raw with
  | none => .error ⟨.valueError, "Expecting value"⟩
  | some response => pure response

/-- A line within the limit is read. -/
theorem readLineWithin_of_le {limit : ℕ} {d : Json} (h : d.encode.length ≤ limit) :
    readLineWithin limit (canonical d ++ [newline]) = .ok (canonical d ++ [newline]) := by
  have hline := readLine_append rfl (newline_notMem_canonical d) []
  rw [List.append_nil] at hline
  rw [readLineWithin, LineReader.takeWhile_line (newline_notMem_canonical d),
    require_pos (by rw [length_canonical]; exact h), hline]
  rfl

/-- A longer one is not. -/
theorem readLineWithin_of_lt {limit : ℕ} {d : Json} (h : limit < d.encode.length) :
    readLineWithin limit (canonical d ++ [newline]) = .error chunkTooLong := by
  rw [readLineWithin, LineReader.takeWhile_line (newline_notMem_canonical d),
    require_neg (by rw [length_canonical]; omega)]
  rfl

/-- The line of a document denotes it. -/
theorem loadsLine_line {d : Json} (hd : d.ordered = true) :
    loadsLine (canonical d ++ [newline]) = some d := by
  rw [loadsLine, utf8_frame, utf8?_utf8, Option.bind_some, String.toList_ofList]
  exact Json.loads_encode_append hd (by decide) (Json.stops_cons (by decide))

/-- **A client gets the answer** exactly if its text is within the limit. -/
theorem askLine_answer {server : Bytes → Json} {method : String} {params : Option Json}
    {answer : Json} (hserver : server (canonical (requestDocument method params) ++ [newline]) =
      answer) (hanswer : answer.ordered = true) :
    askLine server method params =
      if answer.encode.length ≤ defaultLimit then .ok answer else .error chunkTooLong := by
  rw [askLine, hserver]
  split
  · next hle =>
    rw [readLineWithin_of_le hle]
    change (match loadsLine (canonical answer ++ [newline]) with
      | none => _
      | some response => _) = _
    rw [loadsLine_line hanswer]
    rfl
  · next hlt =>
    rw [readLineWithin_of_lt (not_le.mp hlt)]
    rfl

/-! ### The API of the service -/

/-- `LocalApiError`: a code and a text. -/
structure LocalApiError where
  code : String
  message : String

/-- What any other exception is answered with. -/
def internalError : LocalApiError := ⟨"internal_error", "request failed"⟩

/-- `__version__`. -/
def agentVersion : String := "0.1.0.dev0"

/-- `MAX_REQUEST_BYTES`. -/
def maxRequestBytes : ℕ := 16 * 1024

/-- `LocalAgentApi`: the store and the catalog it answers from. -/
structure LocalAgentApi where
  store : SnapshotStore
  catalog : List Json

/-- The user at the other end of a connection. -/
inductive PeerUser : Type where
  | same
  | other
  /-- The system does not tell. -/
  | unavailable

/-- What an answer takes from outside. -/
structure ApiSupply where
  /-- The calendar. -/
  utcNow : Time
  /-- The seconds since the start, to three places. -/
  uptime : Json.FloatText

/-- `_result`. -/
def apiResult (result : Json) : Json :=
  .obj [("ok", .bool true), ("protocol_version", protocolVersion), ("result", result)]

/-- `_error`. -/
def apiError (code message : String) : Json :=
  .obj [("error", .obj [("code", .str code), ("message", .str message)]), ("ok", .bool false),
    ("protocol_version", protocolVersion)]

section Api

variable (P : Platform)

/-- How many instances are connected. A payload that is no object raises. -/
def connectedCount (instances : List (String × Json)) : Except LocalApiError ℕ := do
  require (∀ e ∈ instances, e.2.isObj = true) internalError
  pure (instances.countP fun e => (e.2.field "connected").truthy)

/-- The answer of the method `health`. -/
def LocalAgentApi.health (api : LocalAgentApi) (env : ApiSupply) : Except LocalApiError Json := do
  let connected ← connectedCount api.store.instances.entries
  pure (apiResult (.obj [("agent_version", .str agentVersion), ("connected_count", .int connected),
    ("generated_at", .str (P.timestamp env.utcNow)),
    ("instance_count", .int api.catalog.length),
    ("telemetry_ready_count", .int api.store.instances.entries.length),
    ("uptime_seconds", .float env.uptime)]))

/-- The answer of the method `instance.get`. -/
def LocalAgentApi.instanceGet (api : LocalAgentApi) (params : Json) : Except LocalApiError Json := do
  let instanceId ← match params.field "instance_id" with
    | .str instanceId => pure instanceId
    | _ => .error ⟨"invalid_params", "instance_id is required"⟩
  require (instanceId ≠ "") (⟨"invalid_params", "instance_id is required"⟩ : LocalApiError)
  match (api.store.instances.get? instanceId).getD .null with
  | .null => .error ⟨"not_found", "instance was not found"⟩
  | payload => pure (apiResult payload)

/-- `dispatch`. -/
def LocalAgentApi.dispatch (api : LocalAgentApi) (env : ApiSupply) (request : Json) :
    Except LocalApiError Json := do
  require (request.isObj) (⟨"invalid_request", "request must be an object"⟩ : LocalApiError)
  require (request.fieldEq "protocol_version" protocolVersion)
    (⟨"unsupported_version", "protocol_version must be 1"⟩ : LocalApiError)
  match request.field "method" with
  | .str "health" => api.health P env
  | .str "catalog" => pure (apiResult (.obj [("instances", .arr api.catalog)]))
  | .str "snapshot" => pure (apiResult (api.store.documentLocked P env.utcNow))
  | .str "instance.get" => api.instanceGet (request.field "params")
  | _ => .error ⟨"method_not_found", "unknown read-only method"⟩

/-- `_handle_client`, until it answers. -/
def LocalAgentApi.handle (api : LocalAgentApi) (peer : PeerUser) (env : ApiSupply)
    (stream : Bytes) : Except LocalApiError Json := do
  match peer with
    | .same => pure ()
    | .other => .error ⟨"forbidden", "peer user is not authorized"⟩
    | .unavailable => .error ⟨"peer_unavailable", "peer credentials unavailable"⟩
  let raw ← (readLineWithin defaultLimit stream).mapError fun _ => internalError
  require (raw ≠ []) (⟨"invalid_request", "request is empty"⟩ : LocalApiError)
  require (raw.length ≤ maxRequestBytes ∧ raw.getLast? = some newline)
    (⟨"request_too_large", "request exceeds limit"⟩ : LocalApiError)
  match loadsLine raw with
  | none => .error ⟨"invalid_json", "request is not valid JSON"⟩
  | some request => api.dispatch P env request

/-- `_handle_client`: the answer to what arrives on a connection. -/
def LocalAgentApi.answer (api : LocalAgentApi) (peer : PeerUser) (env : ApiSupply)
    (stream : Bytes) : Json :=
  match api.handle P peer env stream with
  | .ok response => response
  | .error e => apiError e.code e.message

/-- `api_request`, to the API of a user from a process of the same user. -/
def LocalAgentApi.request (api : LocalAgentApi) (env : ApiSupply) (method : String)
    (params : Option Json) : Except Exn Json := do
  let response ← askLine (api.answer P .same env) method params
  require (response.isObj) (⟨.runtimeError, "local API response is not an object"⟩ : Exn)
  pure response

/-- `fetch_snapshot`, of the worker of the same user. -/
def LocalAgentApi.fetchSnapshot (api : LocalAgentApi) (env : ApiSupply) : Except Exn Json := do
  let response ← api.request P env "snapshot" none
  require ((response.field "ok").truthy ∧ (response.field "result").isObj)
    (transportError "local agent snapshot is unavailable")
  pure (response.field "result")

end Api

/-! ### What the worker fetches -/

/-- The payloads of a store are in normal form, as every dictionary is. -/
def SnapshotStore.Normal (s : SnapshotStore) : Prop :=
  ∀ instanceId payload, s.instances.get? instanceId = some payload → payload.ordered = true

section Fetch

variable {P : Platform} {api : LocalAgentApi} {env : ApiSupply}

/-- The document of the store is in normal form. -/
theorem ordered_documentLocked {s : SnapshotStore} (hs : s.Normal) (utcNow : Time) :
    (s.documentLocked P utcNow).ordered = true := by
  have hnames : ["generated_at", "instances", "schema_version"].Pairwise (· < ·) := by decide
  refine Json.ordered_obj.mpr ⟨hnames, fun e he => ?_⟩
  simp only [List.mem_cons, List.not_mem_nil, or_false] at he
  rcases he with rfl | rfl | rfl
  · rfl
  · exact Json.ordered_obj.mpr ⟨s.instances.sorted, fun e he =>
      hs e.1 e.2 (Dict.mem_entries_iff.mp he)⟩
  · rfl

/-- An answer is in normal form if what it tells is. -/
theorem ordered_apiResult {d : Json} (hd : d.ordered = true) : (apiResult d).ordered = true := by
  have hnames : ["ok", "protocol_version", "result"].Pairwise (· < ·) := by decide
  refine Json.ordered_obj.mpr ⟨hnames, fun e he => ?_⟩
  simp only [List.mem_cons, List.not_mem_nil, or_false] at he
  rcases he with rfl | rfl | rfl
  · rfl
  · rfl
  · exact hd

theorem ordered_apiError (code message : String) : (apiError code message).ordered = true := by
  have hnames : ["error", "ok", "protocol_version"].Pairwise (· < ·) := by decide
  have hnames' : ["code", "message"].Pairwise (· < ·) := by decide
  refine Json.ordered_obj.mpr ⟨hnames, fun e he => ?_⟩
  simp only [List.mem_cons, List.not_mem_nil, or_false] at he
  rcases he with rfl | rfl | rfl
  · exact Json.ordered_obj.mpr ⟨hnames', by simp [Json.ordered]⟩
  · rfl
  · rfl

/-- What is around a document in an answer. -/
theorem length_apiResult (d : Json) : (apiResult d).encode.length = d.encode.length + 42 := by
  have hok : (Json.encodeString "ok").length = 4 := by decide
  have hversion : (Json.encodeString "protocol_version").length = 18 := by decide
  have hresult : (Json.encodeString "result").length = 8 := by decide
  have hint : (Json.intText 1).length = 1 := rfl
  simp only [apiResult, protocolVersion, Json.encode, Json.encodeFields, List.length_cons,
    List.length_append, List.length_nil, hok, hversion, hresult, hint]
  omega

/-- A request that is not too long is dispatched. -/
theorem handle_line {d : Json} (hd : d.ordered = true) (hlen : d.encode.length < maxRequestBytes) :
    api.handle P .same env (canonical d ++ [newline]) = api.dispatch P env d := by
  have hlimit : d.encode.length ≤ defaultLimit := by
    rw [maxRequestBytes] at hlen
    rw [defaultLimit]
    omega
  rw [LocalAgentApi.handle, readLineWithin_of_le hlimit]
  change (require (canonical d ++ [newline] ≠ []) _ >>= fun _ => _) = _
  rw [require_pos (by simp)]
  change (require _ _ >>= fun _ => _) = _
  rw [require_pos (line_within hlen)]
  change (match loadsLine (canonical d ++ [newline]) with
    | none => _
    | some request => _) = _
  rw [loadsLine_line hd]

/-- The answer to the request of the worker. -/
theorem answer_snapshot : api.answer P .same env
    (canonical (requestDocument "snapshot" none) ++ [newline]) =
      apiResult (api.store.documentLocked P env.utcNow) := by
  rw [LocalAgentApi.answer, handle_line (by decide) (by decide)]
  rfl

/-- **The worker fetches the document** exactly if the text of the document leaves room for
the answer around it. Otherwise its reader raises. -/
theorem fetchSnapshot_eq (hs : api.store.Normal) : api.fetchSnapshot P env =
    if (api.store.documentLocked P env.utcNow).encode.length + 42 ≤ defaultLimit then
      .ok (api.store.documentLocked P env.utcNow)
    else .error chunkTooLong := by
  rw [LocalAgentApi.fetchSnapshot, LocalAgentApi.request, askLine_answer answer_snapshot
    (ordered_apiResult (ordered_documentLocked hs _)), length_apiResult]
  split
  · rfl
  · rfl

end Fetch

end PrinterHmi
