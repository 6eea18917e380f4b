import PrinterHmi.Monitor.Snapshots

/-!
# Two clients of a printer host

The agent asks a host a single question with `request`, to list it in its catalog, and holds a
conversation with it through a `MoonrakerMonitor`. Both send a request with identifier 1 on a
fresh connection and wait for the answer. The host may send notifications at any time; the
monitor drops what is not its answer, and `request` takes the first frame there is for it.

So the two agree where the answer is the first thing that arrives, or where both fail
(`clients_agree_iff`): a notification before the answer makes `request` fail where the monitor
returns. They also part where the first frame is no object, which only one of them checks.
-/

namespace PrinterHmi

/-! ### Frames -/

/-- The limit of a stream, `asyncio`'s default. -/
def streamLimit : ℕ := 65536

/-- `reader.readuntil(FRAME_END)`, of a frame that has arrived. -/
def readUntil (frame : Bytes) : Except Exn Bytes := do
  require (frame.dropLast.length ≤ streamLimit)
    ⟨.limitOverrunError, "Separator is found, but chunk is longer than limit"⟩
  pure frame

/-- What a frame says, if it is JSON. -/
def document? (frame : Bytes) : Option Json :=
  (utf8? frame.dropLast).bind fun text => Json.loads text.toList

section Clients

variable (pyStr : Json → String)

/-- What `request` does with the frame it has read. -/
def Moonraker.takeResponse (frame : Bytes) : Except Exn Json := do
  let frame ← readUntil frame
  let response ← orRaise (document? frame) (protocolError "invalid JSON-RPC response")
  let id ← getKey response "id"
  require (id.pyEq (.int 1)) (protocolError "unexpected JSON-RPC response id")
  match response.get? "error" with
  | some e => .error (protocolError (pyStr e))
  | none => do
    require ((response.field "result").isObj) (protocolError "JSON-RPC result is not an object")
    pure (response.field "result")

/-- `moonraker.request`, by the frames the host sends on the connection. Without one it waits. -/
def Moonraker.request (frames : List Bytes) : Option (Except Exn Json) :=
  frames.head?.map (Moonraker.takeResponse pyStr)

/-- The loop of `MoonrakerMonitor.request`, by the frames that are left. -/
def MoonrakerMonitor.request (requestId : ℕ) : List Bytes → Option (Except Exn Json)
  | [] => none
  | frame :: frames =>
    match readUntil frame >>= readMessage with
    | .error e => some (.error e)
    | .ok message =>
      match answer? pyStr requestId message with
      | none => MoonrakerMonitor.request requestId frames
      | some result => some result

/-! ### Kinds of frames -/

/-- The frame is within the limit. -/
def Short (frame : Bytes) : Prop := frame.dropLast.length ≤ streamLimit

instance : DecidablePred Short := fun frame =>
  inferInstanceAs (Decidable (frame.dropLast.length ≤ streamLimit))

/-- The frame says this object. -/
def Says (frame : Bytes) (message : Json) : Prop :=
  document? frame = some message ∧ message.isObj = true

/-- **A response with identifier 1.** -/
def IsResponse (frame : Bytes) : Prop :=
  ∃ message, Says frame message ∧ (message.field "id").pyEq (.int 1) = true

/-- A response that has a result: there is no error, and the result is an object. -/
def HasResult (frame : Bytes) (result : Json) : Prop :=
  ∃ message, Says frame message ∧ (message.field "id").pyEq (.int 1) = true ∧
    message.get? "error" = none ∧ message.field "result" = result ∧ result.isObj = true

/-- **Unrelated traffic**: an object within the limit that is no response with identifier 1. -/
def Unrelated (frame : Bytes) : Prop :=
  Short frame ∧ ∃ message, Says frame message ∧ (message.field "id").pyEq (.int 1) = false

/-- A frame of JSON that is no object. -/
def SaysOther (frame : Bytes) : Prop :=
  ∃ document, document? frame = some document ∧ document.isObj = false

/-- **The clients agree**: they return the same result, or both raise `MoonrakerProtocolError`. -/
def Agree (a b : Option (Except Exn Json)) : Prop :=
  (∃ result, a = some (.ok result) ∧ b = some (.ok result)) ∨
    ∃ e e', a = some (.error e) ∧ b = some (.error e') ∧ e.cls = .moonrakerProtocolError ∧
      e'.cls = .moonrakerProtocolError

/-! ### What each client does with a frame -/

variable {pyStr} {frame : Bytes} {frames : List Bytes}

theorem readUntil_short (h : frame.dropLast.length ≤ streamLimit) :
    readUntil frame = .ok frame := by
  rw [readUntil, require_pos h]
  rfl

theorem readUntil_long (h : ¬frame.dropLast.length ≤ streamLimit) : readUntil frame =
    .error ⟨.limitOverrunError, "Separator is found, but chunk is longer than limit"⟩ := by
  rw [readUntil, require_neg h]
  rfl

theorem readMessage_document {document : Json} (h : document? frame = some document) :
    readMessage frame = (do
      require (document.isObj) (protocolError "JSON-RPC message is not an object")
      pure document) := by
  rw [readMessage, show (utf8? frame.dropLast).bind _ = _ from h]

theorem readMessage_none (h : document? frame = none) :
    readMessage frame = .error (protocolError "invalid JSON-RPC message") := by
  rw [readMessage, show (utf8? frame.dropLast).bind _ = _ from h]

/-- What is wrong with an answer is an error of the protocol. -/
theorem cls_of_answer {n : ℕ} {message : Json} {e : Exn}
    (h : answer? pyStr n message = some (.error e)) : e.cls = .moonrakerProtocolError := by
  rw [answer?] at h
  split at h
  · cases h
  · split at h
    · obtain rfl := Except.error.inj (Option.some.inj h)
      rfl
    · split at h
      · cases h
      · obtain rfl := Except.error.inj (Option.some.inj h)
        rfl

/-- An object with the identifier is an answer. -/
theorem answer?_isSome_iff {n : ℕ} {message : Json} :
    (answer? pyStr n message).isSome = true ↔ (message.field "id").pyEq (.int n) = true := by
  rw [answer?]
  cases hid : (message.field "id").pyEq (.int n) with
  | false => exact iff_of_false (by simp) (by simp)
  | true =>
    refine iff_of_true ?_ rfl
    simp only [Bool.not_true, Bool.false_eq_true, if_false]
    split
    · rfl
    · split <;> rfl

/-- Which answers have a result. -/
theorem answer?_eq_ok_iff {message result : Json} (hframe : Says frame message) :
    answer? pyStr 1 message = some (.ok result) ↔ HasResult frame result := by
  constructor
  · intro h
    have hid : (message.field "id").pyEq (.int (1 : ℕ)) = true :=
      answer?_isSome_iff.mp (by rw [h]; rfl)
    rw [answer?, hid] at h
    simp only [Bool.not_true, Bool.false_eq_true, if_false] at h
    split at h
    · cases h
    next herror =>
      split at h
      next hobj =>
        obtain rfl := Except.ok.inj (Option.some.inj h)
        exact ⟨message, hframe, hid, herror, rfl, hobj⟩
      · cases h
  · rintro ⟨message', hframe', hid, herror, rfl, hobj⟩
    obtain rfl := Option.some.inj (hframe.1.symm.trans hframe'.1)
    have hid' : (message.field "id").pyEq (.int (1 : ℕ)) = true := hid
    rw [answer?, hid', herror, if_pos hobj]
    rfl

/-- **`request`, of a frame that says an object**: its answer, or an error of the protocol. -/
theorem takeResponse_object {message : Json} (hshort : Short frame) (h : Says frame message) :
    Moonraker.takeResponse pyStr frame = (answer? pyStr 1 message).getD
      (.error (protocolError "unexpected JSON-RPC response id")) := by
  obtain ⟨hdocument, hobj⟩ := h
  obtain ⟨fields, rfl⟩ := Json.isObj_iff.mp hobj
  have hread : orRaise (document? frame) (protocolError "invalid JSON-RPC response") =
      .ok (.obj fields) := by
    rw [hdocument]
    rfl
  have hid : getKey (.obj fields) "id" = .ok (Json.field (.obj fields) "id") := rfl
  rw [Moonraker.takeResponse, Except.ok_bind_eq (readUntil_short hshort), Except.ok_bind_eq hread,
    Except.ok_bind_eq hid, answer?, Nat.cast_one]
  by_cases hone : (Json.field (.obj fields) "id").pyEq (.int 1) = true
  · rw [require_pos hone, if_neg (by simp [hone])]
    cases (Json.obj fields).get? "error" with
    | some e => rfl
    | none =>
      by_cases hresult : (Json.field (.obj fields) "result").isObj = true
      · simp only [if_pos hresult, require_pos hresult]
        rfl
      · simp only [if_neg hresult, require_neg hresult]
        rfl
  · rw [require_neg hone, if_pos (by simpa using hone)]
    rfl

/-- **The monitor, of a frame that says an object**: its answer, or what comes after it. -/
theorem request_object {message : Json} (hshort : Short frame) (h : Says frame message) :
    MoonrakerMonitor.request pyStr 1 (frame :: frames) =
      (answer? pyStr 1 message).or (MoonrakerMonitor.request pyStr 1 frames) := by
  have hread : readUntil frame >>= readMessage = .ok message := by
    rw [Except.ok_bind_eq (readUntil_short hshort), readMessage_document h.1, require_pos h.2]
    rfl
  rw [MoonrakerMonitor.request, hread]
  dsimp only
  cases answer? pyStr 1 message <;> rfl

/-- The monitor passes over unrelated traffic. The induction is on the frames. -/
theorem request_append {before : List Bytes} (h : ∀ f ∈ before, Unrelated f) :
    MoonrakerMonitor.request pyStr 1 (before ++ frames) =
      MoonrakerMonitor.request pyStr 1 frames := by
  induction before with
  | nil => rfl
  | cons f before ih =>
    obtain ⟨⟨hshort, message, hmeans, hid⟩, hbefore⟩ := List.forall_mem_cons.mp h
    have hnone : answer? pyStr 1 message = none := answer?_eq_none hid
    rw [List.cons_append, request_object hshort hmeans, hnone, Option.none_or, ih hbefore]

/-! ### The law -/

/-- **Where the clients agree**, by the frames before the first one that is no unrelated traffic,
and by that frame: it is within the limit, and if it is the first of all it is no JSON but an
object, and otherwise no response with a result. -/
def AgreeWhen (before : List Bytes) (frame : Bytes) : Prop :=
  Short frame ∧ (before = [] → ¬SaysOther frame) ∧ (before ≠ [] → ¬∃ result, HasResult frame result)

/-- A frame has a result only if it says an object. -/
theorem HasResult.exists_message {result : Json} (h : HasResult frame result) :
    ∃ message, Says frame message :=
  let ⟨message, hmeans, _⟩ := h
  ⟨message, hmeans⟩

variable (pyStr frames) in
/-- **What the clients make of a frame that is within the limit and no unrelated traffic**: both
take its result; or the monitor fails with an error of the protocol, and so does `request`,
unless the frame says something that is no object. -/
theorem decides (hshort : Short frame) (hframe : ¬Unrelated frame) :
    (∃ result, MoonrakerMonitor.request pyStr 1 (frame :: frames) = some (.ok result) ∧
      HasResult frame result ∧ ¬SaysOther frame ∧
      Moonraker.takeResponse pyStr frame = .ok result) ∨
    ∃ e e', MoonrakerMonitor.request pyStr 1 (frame :: frames) = some (.error e) ∧
      e.cls = .moonrakerProtocolError ∧ (¬∃ result, HasResult frame result) ∧
      Moonraker.takeResponse pyStr frame = .error e' ∧
      (e'.cls = .moonrakerProtocolError ↔ ¬SaysOther frame) := by
  -- no JSON: both say so
  cases hdocument : document? frame with
  | none =>
    have hno : ¬SaysOther frame := fun ⟨_, h, _⟩ => by cases hdocument.symm.trans h
    have hfails : ¬∃ result, HasResult frame result := fun ⟨_, h⟩ => by
      obtain ⟨_, h, -⟩ := h.exists_message
      cases hdocument.symm.trans h
    refine .inr ⟨protocolError "invalid JSON-RPC message", protocolError "invalid JSON-RPC response",
      ?_, rfl, hfails, ?_, iff_of_true rfl hno⟩
    · rw [MoonrakerMonitor.request, Except.ok_bind_eq (readUntil_short hshort),
        readMessage_none hdocument]
    · rw [Moonraker.takeResponse, Except.ok_bind_eq (readUntil_short hshort), hdocument]
      rfl
  | some document =>
    by_cases hobj : document.isObj = true
    · -- an object, and so a response: the same answer for both
      have hmeans : Says frame document := ⟨hdocument, hobj⟩
      have hno : ¬SaysOther frame := by
        rintro ⟨document', h, hother⟩
        obtain rfl := Option.some.inj (hdocument.symm.trans h)
        exact absurd hobj (by simp [hother])
      have hid : (document.field "id").pyEq (.int (1 : ℕ)) = true := by
        by_contra hid
        exact hframe ⟨hshort, document, hmeans, by simpa using hid⟩
      have hsome : (answer? pyStr 1 document).isSome = true := answer?_isSome_iff.mpr hid
      obtain ⟨outcome, houtcome⟩ := Option.isSome_iff_exists.mp hsome
      have hmonitor : MoonrakerMonitor.request pyStr 1 (frame :: frames) = some outcome := by
        rw [request_object hshort hmeans, houtcome]
        rfl
      have hrequest : Moonraker.takeResponse pyStr frame = outcome := by
        rw [takeResponse_object hshort hmeans, houtcome]
        rfl
      cases outcome with
      | ok result =>
        exact .inl ⟨result, hmonitor, (answer?_eq_ok_iff hmeans).mp houtcome, hno, hrequest⟩
      | error e =>
        have hcls := cls_of_answer houtcome
        refine .inr ⟨e, e, hmonitor, hcls, fun ⟨result, hresult⟩ => ?_, hrequest,
          iff_of_true hcls hno⟩
        have hok : answer? pyStr 1 document = some (.ok result) :=
          (answer?_eq_ok_iff hmeans).mpr hresult
        cases houtcome.symm.trans hok
    · -- only the monitor checks for an object
      have hfails : ¬∃ result, HasResult frame result := fun ⟨_, h⟩ => by
        obtain ⟨_, h, hobj'⟩ := h.exists_message
        obtain rfl := Option.some.inj (hdocument.symm.trans h)
        exact hobj hobj'
      obtain ⟨e', he', hcls⟩ : ∃ e', getKey document "id" = .error e' ∧
          e'.cls = .attributeError := by
        cases document with
        | obj _ => exact (hobj rfl).elim
        | _ => exact ⟨_, rfl, rfl⟩
      have hother : SaysOther frame := ⟨document, hdocument, by simpa using hobj⟩
      refine .inr ⟨protocolError "JSON-RPC message is not an object", e', ?_, rfl, hfails, ?_,
        iff_of_false (by rw [hcls]; decide) (not_not_intro hother)⟩
      · rw [MoonrakerMonitor.request, Except.ok_bind_eq (readUntil_short hshort),
          readMessage_document hdocument, require_neg hobj]
        rfl
      · rw [Moonraker.takeResponse, Except.ok_bind_eq (readUntil_short hshort), hdocument]
        change getKey document "id" >>= _ = _
        rw [he']
        rfl

/-- With an error on the one side the clients agree exactly if there are errors of the protocol on
both. -/
theorem agree_error_iff {a : Option (Except Exn Json)} {e : Exn} :
    Agree (some (.error e)) a ↔
      e.cls = .moonrakerProtocolError ∧ ∃ e', a = some (.error e') ∧
        e'.cls = .moonrakerProtocolError := by
  constructor
  · rintro (⟨result, h, -⟩ | ⟨e₁, e', h, ha, hcls, hcls'⟩)
    · cases h
    · obtain rfl := Except.error.inj (Option.some.inj h)
      exact ⟨hcls, e', ha, hcls'⟩
  · rintro ⟨hcls, e', ha, hcls'⟩
    exact .inr ⟨e, e', rfl, ha, hcls, hcls'⟩

/-- Unrelated traffic in front makes `request` fail. -/
theorem takeResponse_unrelated (h : Unrelated frame) : Moonraker.takeResponse pyStr frame =
    .error (protocolError "unexpected JSON-RPC response id") := by
  obtain ⟨hshort, message, hmeans, hid⟩ := h
  rw [takeResponse_object hshort hmeans, answer?_eq_none hid]
  rfl

/-- **The first frame that matters**: what the monitor makes of it, and `request`, if there is
none before it. -/
theorem agree_iff_of_split {before : List Bytes} (hbefore : ∀ f ∈ before, Unrelated f)
    (hframe : ¬Unrelated frame) :
    Agree (Moonraker.request pyStr (before ++ frame :: frames))
      (MoonrakerMonitor.request pyStr 1 (before ++ frame :: frames)) ↔ AgreeWhen before frame := by
  rw [request_append hbefore, AgreeWhen]
  by_cases hshort : Short frame
  swap
  · -- the frame is too long for either
    have hmonitor : MoonrakerMonitor.request pyStr 1 (frame :: frames) =
        some (.error ⟨.limitOverrunError, "Separator is found, but chunk is longer than limit"⟩) := by
      rw [MoonrakerMonitor.request, readUntil_long hshort]
      rfl
    rw [hmonitor]
    refine iff_of_false ?_ fun h => hshort h.1
    rintro (⟨result, -, h⟩ | ⟨-, e', -, h, -, hcls⟩)
    · cases h
    · obtain rfl := Except.error.inj (Option.some.inj h)
      cases hcls
  have hdecides := decides pyStr frames hshort hframe
  cases before with
  | nil =>
    -- both clients judge the frame
    change Agree (some (Moonraker.takeResponse pyStr frame)) _ ↔ _
    rcases hdecides with ⟨result, hmonitor, -, hno, hrequest⟩ |
      ⟨e, e', hmonitor, hcls, -, hrequest, hiff⟩
    · rw [hmonitor, hrequest]
      exact iff_of_true (.inl ⟨result, rfl, rfl⟩) ⟨hshort, fun _ => hno, fun h => (h rfl).elim⟩
    · rw [hmonitor, hrequest, agree_error_iff, hiff]
      constructor
      · exact fun h => ⟨hshort, fun _ => h.1, fun hne => (hne rfl).elim⟩
      · exact fun h => ⟨h.2.1 rfl, e, rfl, hcls⟩
  | cons f before =>
    -- one of them has failed already
    change Agree (some (Moonraker.takeResponse pyStr f)) _ ↔ _
    rw [takeResponse_unrelated (hbefore f List.mem_cons_self), agree_error_iff]
    rcases hdecides with ⟨result, hmonitor, hresult, -, -⟩ |
      ⟨e, e', hmonitor, hcls, hfails, -, -⟩
    · rw [hmonitor]
      refine iff_of_false (fun ⟨_, _, h, _⟩ => by cases h) fun h => ?_
      exact h.2.2 (List.cons_ne_nil _ _) ⟨result, hresult⟩
    · rw [hmonitor]
      exact iff_of_true ⟨rfl, e, rfl, hcls⟩
        ⟨hshort, fun h => (List.cons_ne_nil _ _ h).elim, fun _ => hfails⟩

/-- Frames among which there is one that is no unrelated traffic, at the first of these. -/
theorem exists_split (h : ∃ f ∈ frames, ¬Unrelated f) : ∃ before frame rest,
    frames = before ++ frame :: rest ∧ (∀ f ∈ before, Unrelated f) ∧ ¬Unrelated frame := by
  induction frames with
  | nil =>
    obtain ⟨f, hf, -⟩ := h
    cases hf
  | cons f frames ih =>
    by_cases hf : Unrelated f
    · obtain ⟨f', hmem, hother⟩ := h
      rcases List.mem_cons.mp hmem with rfl | hmem
      · exact (hother hf).elim
      · obtain ⟨before, frame, rest, rfl, hbefore, hframe⟩ := ih ⟨f', hmem, hother⟩
        exact ⟨f :: before, frame, rest, rfl, List.forall_mem_cons.mpr ⟨hf, hbefore⟩, hframe⟩
    · exact ⟨[], f, frames, rfl, List.forall_mem_nil _, hf⟩

/-- A response is no unrelated traffic. -/
theorem IsResponse.not_unrelated (h : IsResponse frame) : ¬Unrelated frame := by
  rintro ⟨-, message, hmeans, hid⟩
  obtain ⟨message', hmeans', hid'⟩ := h
  obtain rfl := Option.some.inj (hmeans.1.symm.trans hmeans'.1)
  rw [hid] at hid'
  cases hid'

/-- **When the clients agree**, of the frames of a connection among which there is a response with
identifier 1: exactly if the first frame that is no unrelated traffic is one to agree on. -/
theorem clients_agree_iff (h : ∃ f ∈ frames, IsResponse f) :
    Agree (Moonraker.request pyStr frames) (MoonrakerMonitor.request pyStr 1 frames) ↔
      ∃ before frame rest, frames = before ++ frame :: rest ∧ (∀ f ∈ before, Unrelated f) ∧
        ¬Unrelated frame ∧ AgreeWhen before frame := by
  constructor
  · intro hagree
    obtain ⟨f, hf, hresponse⟩ := h
    obtain ⟨before, frame, rest, rfl, hbefore, hframe⟩ :=
      exists_split ⟨f, hf, hresponse.not_unrelated⟩
    exact ⟨before, frame, rest, rfl, hbefore, hframe,
      (agree_iff_of_split hbefore hframe).mp hagree⟩
  · rintro ⟨before, frame, rest, rfl, hbefore, hframe, hwhen⟩
    exact (agree_iff_of_split hbefore hframe).mpr hwhen

end Clients

/-! ### Samples -/

namespace Sample

/-- The frame of a message. -/
def messageFrame (message : Json) : Bytes := canonical message ++ [frameEnd]

/-- It says the message. -/
theorem says_messageFrame {message : Json} (hordered : message.ordered = true)
    (hobj : message.isObj = true) : Says (messageFrame message) message := by
  refine ⟨?_, hobj⟩
  rw [document?, messageFrame, List.dropLast_concat, canonical, utf8?_utf8, Option.bind_some,
    String.toList_ofList]
  exact Json.loads_encode hordered

/-- A notification. -/
def notification : Json :=
  .obj [("method", .str "notify_proc_stat_update"), ("params", .arr [])]

/-- A response with a result. -/
def resultResponse : Json := .obj [("id", .int 1), ("result", .obj [])]

/-- A response with an error. -/
def errorResponse : Json := .obj [("error", .str "not found"), ("id", .int 1)]

theorem unrelated_notification : Unrelated (messageFrame notification) :=
  ⟨by decide, notification, says_messageFrame (by decide) rfl, rfl⟩

theorem isResponse_resultResponse : IsResponse (messageFrame resultResponse) :=
  ⟨resultResponse, says_messageFrame (by decide) rfl, rfl⟩

theorem isResponse_errorResponse : IsResponse (messageFrame errorResponse) :=
  ⟨errorResponse, says_messageFrame (by decide) rfl, rfl⟩

end Sample

open Sample in
/-- A notification before the response: the monitor returns the result, `request` fails. -/
theorem clients_disagree : ¬ ∀ (pyStr : Json → String) (before rest : List Bytes) (frame : Bytes),
    (∀ f ∈ before, Unrelated f) → IsResponse frame →
      Agree (Moonraker.request pyStr (before ++ frame :: rest))
        (MoonrakerMonitor.request pyStr 1 (before ++ frame :: rest)) := by
  intro h
  have hbefore : ∀ f ∈ [messageFrame notification], Unrelated f :=
    List.forall_mem_singleton.mpr unrelated_notification
  have hagree := h (fun _ => "") [messageFrame notification] [] _ hbefore isResponse_resultResponse
  obtain ⟨-, -, hfails⟩ :=
    (agree_iff_of_split hbefore isResponse_resultResponse.not_unrelated).mp hagree
  exact hfails (List.cons_ne_nil _ _)
    ⟨.obj [], resultResponse, says_messageFrame (by decide) rfl, rfl, rfl, rfl, rfl⟩

open Sample in
/-- A notification before a response with an error: both fail. -/
theorem clients_agree_iff_sample :
    Agree (Moonraker.request (fun _ => "") [messageFrame notification, messageFrame errorResponse])
      (MoonrakerMonitor.request (fun _ => "") 1
        [messageFrame notification, messageFrame errorResponse]) := by
  refine (clients_agree_iff ⟨messageFrame errorResponse, by simp, isResponse_errorResponse⟩).mpr
    ⟨[messageFrame notification], messageFrame errorResponse, [], rfl,
      List.forall_mem_singleton.mpr unrelated_notification,
      isResponse_errorResponse.not_unrelated, by decide, fun h => (List.cons_ne_nil _ _ h).elim,
      fun _ => ?_⟩
  rintro ⟨result, message, hmeans, -, herror, -⟩
  obtain rfl := Option.some.inj ((says_messageFrame (by decide) rfl).1.symm.trans hmeans.1)
  cases herror

end PrinterHmi
