import Mathlib.Data.List.Induction
import PrinterHmi.Monitor.Sharing
import PrinterHmi.Sample

/-!
# The snapshots of a printer

`snapshots()` asks the printer host for its objects, subscribes to them, and yields a snapshot
for the answer and one for each notification after it. Two loops read the one stream: `request`
reads until it has its answer and drops everything else, and `snapshots` reads from there on.

The host sends only what has changed, and it may send a notification before the answer. Such a
notification is dropped, so that every snapshot reflects every notification exactly when what
was notified before the answer is in the answer too (`notifications_reflected_iff`).
-/

namespace PrinterHmi

section Monitor

variable (P : Platform) (pyStr : Json → String)

/-! ### Messages -/

/-- `FRAME_END`. -/
def frameEnd : UInt8 := 3

/-- A `MoonrakerProtocolError`. -/
def protocolError (message : String) : Exn := ⟨.moonrakerProtocolError, message⟩

/-- `read_message`, once its frame has arrived. -/
def readMessage (frame : Bytes) : Except Exn Json :=
  match (utf8? frame.dropLast).bind fun text => Json.loads text.toList with
  | none => .error (protocolError "invalid JSON-RPC message")
  | some message => do
    require (message.isObj) (protocolError "JSON-RPC message is not an object")
    pure message

/-- The frame `request` writes, the members of its parameters in the order of their names. -/
def requestFrame (method : String) (params : Option Json) (requestId : ℕ) : Bytes :=
  let payload : List (String × Json) :=
    [("jsonrpc", .str "2.0"), ("method", .str method), ("id", .int requestId)]
  canonical (.obj (match params with
    | some params => payload ++ [("params", params)]
    | none => payload)) ++ [frameEnd]

/-- What `request` does with a message: it takes its answer, and drops any other. -/
def answer? (requestId : ℕ) (message : Json) : Option (Except Exn Json) :=
  if !(message.field "id").pyEq (.int requestId) then none
  else
    match message.get? "error" with
    | some e => some (.error (protocolError (pyStr e)))
    | none =>
      if (message.field "result").isObj then some (.ok (message.field "result"))
      else some (.error (protocolError "JSON-RPC result is not an object"))

/-- What `snapshots` takes of a message: the update and the time of a notification. -/
def notified? (message : Json) : Option (List (String × Json) × Json) :=
  if !message.fieldEq "method" (.str "notify_status_update") then none
  else
    match message.field "params" with
    | .arr (.obj update :: rest) => some (update, rest.headD .null)
    | _ => none

/-! ### The generator -/

/-- A snapshot, with the status it was made of. -/
structure Yield where
  status : Status
  snapshot : Json

/-- What `snapshots` does that others see. -/
inductive Output : Type where
  | sent (frame : Bytes)
  | yielded (y : Yield)

/-- Where `snapshots` waits: for the list of objects, for the answer to its subscription, or
for notifications; or it has been ended by an exception. -/
inductive Monitor : Type where
  | listing
  | subscribing
  | watching (status : Status)
  | ended (e : Exn)

/-- `_snapshot`. -/
def snapshotOf (now : Time) (status : Status) (eventtime : Json) : Except Exn Json := do
  let sections ← normalizedStatus status
  pure (.obj [("captured_at", .str (P.timestamp now)), ("eventtime", eventtime),
    ("schema_version", .int 1), ("status", sections)])

/-- `yield _snapshot(status, eventtime)`. -/
def yieldSnapshot (now : Time) (status : Status) (eventtime : Json) : Monitor × List Output :=
  match snapshotOf P now status eventtime with
  | .ok snapshot => (.watching status, [.yielded ⟨status, snapshot⟩])
  | .error e => (.ended e, [])

/-- The subscription, as `request` sends it. -/
def subscriptionParams (objects : List Json) : Json :=
  .obj [("objects", .obj ((subscriptionFor (objects.filterMap Json.str?)).entries.map fun e =>
    (e.1, match e.2 with
      | some fields => .arr (fields.map .str)
      | none => .null)))]

/-- What is done once the objects are listed. -/
def subscribe (result : Json) : Monitor × List Output :=
  match (result.get? "objects").getD (.arr []) with
  | .arr objects => (.subscribing,
      [.sent (requestFrame "printer.objects.subscribe" (some (subscriptionParams objects)) 2)])
  | _ => (.ended (protocolError "printer.objects.list returned invalid objects"), [])

/-- The status the answer to the subscription starts with. -/
def initialStatus (result : Json) : Status :=
  match (result.get? "status").getD (.obj []) with
  | .obj update => mergeStatus ∅ update
  | _ => ∅

/-- What a message does. -/
def Monitor.take (now : Time) (message : Json) : Monitor → Monitor × List Output
  | .listing =>
    match answer? pyStr 1 message with
    | none => (.listing, [])
    | some (.error e) => (.ended e, [])
    | some (.ok result) => subscribe result
  | .subscribing =>
    match answer? pyStr 2 message with
    | none => (.subscribing, [])
    | some (.error e) => (.ended e, [])
    | some (.ok result) =>
      yieldSnapshot P now (initialStatus result) ((result.get? "eventtime").getD .null)
  | .watching status =>
    match notified? message with
    | none => (.watching status, [])
    | some (update, eventtime) => yieldSnapshot P now (mergeStatus status update) eventtime
  | .ended e => (.ended e, [])

/-- What a frame does. -/
def Monitor.step (now : Time) (frame : Bytes) (m : Monitor) : Monitor × List Output :=
  match m, readMessage frame with
  | .ended e, _ => (.ended e, [])
  | _, .error e => (.ended e, [])
  | m, .ok message => m.take P pyStr now message

/-- The state after some frames, each of which has come at its time. -/
def Monitor.after (m : Monitor) (frames : List (Time × Bytes)) : Monitor :=
  frames.foldl (fun m f => (m.step P pyStr f.1 f.2).1) m

end Monitor

/-! ### A status of objects -/

/-- Whatever is under a name is an object. -/
def AllObjects (status : Status) : Prop :=
  ∀ name v, status.get? name = some v → v.isObj = true

/-- The value of a field in a status. -/
def Status.told (status : Status) (name field : String) : Option Json :=
  (status.get? name).bind fun fields => fields.get? field

/-- The value of a field in what a host tells. -/
def Printer.told (D : Printer) (name field : String) : Option Json :=
  (D.get? name).bind fun fields => fields.get? field

section Status

variable {status : Status}

theorem isObj_object (h : AllObjects status) (name : String) :
    (status.object name).isObj = true := by
  rw [Status.object]
  cases hv : status.get? name with
  | none => rfl
  | some v => exact h name v hv

theorem exists_getKey {v : Json} (h : v.isObj = true) (key : String) :
    ∃ u, getKey v key = .ok u := by
  obtain ⟨fields, rfl⟩ := Json.isObj_iff.mp h
  exact ⟨_, rfl⟩

theorem exists_progressOf {v w : Json} (hv : v.isObj = true) (hw : w.isObj = true) :
    ∃ u, progressOf v w = .ok u := by
  obtain ⟨u, hu⟩ := exists_getKey hv "progress"
  rw [progressOf, hu]
  change ∃ r, (if u.number?.isSome = true then pure u else getKey w "progress") = .ok r
  split
  · exact ⟨u, rfl⟩
  · exact exists_getKey hw "progress"

/-- **The sections of a status of objects can be made.** -/
theorem exists_normalizedStatus (h : AllObjects status) : ∃ v, normalizedStatus status = .ok v := by
  have hstats : ∀ key, ∃ u, getKey (status.object "print_stats") key = .ok u :=
    exists_getKey (isObj_object h _)
  obtain ⟨progress, hprogress⟩ :=
    exists_progressOf (isObj_object h "virtual_sdcard") (isObj_object h "display_status")
  obtain ⟨state, hstate⟩ := hstats "state"
  obtain ⟨filename, hfilename⟩ := hstats "filename"
  obtain ⟨message, hmessage⟩ := hstats "message"
  obtain ⟨total, htotal⟩ := hstats "total_duration"
  obtain ⟨duration, hduration⟩ := hstats "print_duration"
  obtain ⟨filament, hfilament⟩ := hstats "filament_used"
  obtain ⟨display, hdisplay⟩ := exists_getKey (isObj_object h "display_status") "message"
  have hor : orElse message (getKey (status.object "display_status") "message") =
      .ok (if message.truthy then message else display) := by
    rw [hdisplay, Printer.orElse_ok]
  simp only [normalizedStatus, printSection, hprogress, hstate, hfilename, hmessage, hor, htotal,
    hduration, hfilament, bind, Except.bind, pure, Except.pure]
  exact ⟨_, rfl⟩

variable (D : Printer)

theorem get?_mergeStatus_status (status : Status) (name : String) :
    (mergeStatus status D.status.entries).get? name =
      ((D.get? name).map fun fields => mergeObject (status.get? name) (.obj fields.entries)).or
        (status.get? name) := by
  rw [get?_mergeStatus D.status.sorted]
  change ((D.status.get? name).map (mergeObject (status.get? name))).or (status.get? name) = _
  rw [Printer.get?_status, Option.map_map]
  rfl

theorem allObjects_empty : AllObjects ∅ := fun name v h => by
  rw [Dict.get?_empty] at h
  cases h

theorem allObjects_mergeStatus (h : AllObjects status) :
    AllObjects (mergeStatus status D.status.entries) := by
  intro name v hv
  rw [get?_mergeStatus_status] at hv
  cases hd : D.get? name with
  | none =>
    rw [hd] at hv
    exact h name v hv
  | some fields =>
    rw [hd, Option.map_some, Option.some_or] at hv
    obtain rfl := Option.some.inj hv
    unfold mergeObject
    split <;> simp_all [Json.isObj]

/-- **What is told last wins.** -/
theorem told_mergeStatus (h : AllObjects status) (name field : String) :
    (mergeStatus status D.status.entries).told name field =
      (D.told name field).or (status.told name field) := by
  rw [Status.told, get?_mergeStatus_status, Printer.told, Status.told]
  cases D.get? name with
  | none => rfl
  | some fields =>
    cases hold : status.get? name with
    | none =>
      change fields.get? field = (fields.get? field).or none
      rw [Option.or_none]
    | some old =>
      obtain ⟨entries, rfl⟩ := Json.isObj_iff.mp (h name old hold)
      exact Entries.get?_update fields.sorted entries field

end Status

/-! ### What the host delivers -/

/-- What a message is: the answer to the subscription, with the status it starts with; a
notification, with what it tells; or neither. -/
inductive Kind : Type where
  | response (R : Printer)
  | notification (D : Printer)
  | unrelated

/-- The status that an answer starts with: what is no object starts with nothing. -/
def StartsWith (result : List (String × Json)) (R : Printer) : Prop :=
  Entries.get? "status" result = some (.obj R.status.entries) ∨
    (R = ∅ ∧ ∀ update, Entries.get? "status" result ≠ some (.obj update))

/-- A message is of a kind. -/
def Kind.Describes (message : Json) : Kind → Prop
  | .response R => (message.field "id").pyEq (.int 2) = true ∧ message.get? "error" = none ∧
      ∃ result, message.field "result" = .obj result ∧ StartsWith result R
  | .notification D => (message.field "id").pyEq (.int 2) = false ∧
      message.field "method" = .str "notify_status_update" ∧
      ∃ rest, message.field "params" = .arr (.obj D.status.entries :: rest)
  | .unrelated => (message.field "id").pyEq (.int 2) = false ∧ notified? message = none

/-- **A frame that is delivered**, well formed. -/
structure Delivery where
  now : Time
  frame : Bytes
  kind : Kind
  reads : ∃ message, readMessage frame = .ok message ∧ kind.Describes message

/-- What the notifications have told of a field, the last of them winning. -/
def lastTold (deliveries : List Delivery) (name field : String) : Option Json :=
  deliveries.foldl (fun last d => match d.kind with
    | .notification D => (D.told name field).or last
    | _ => last) none

/-- The field is one the answer tells of. -/
def Answered (deliveries : List Delivery) (name field : String) : Prop :=
  ∃ d ∈ deliveries, ∃ R, d.kind = .response R ∧ (R.told name field).isSome = true

/-- A status has of every field that only notifications have told of what the last of them
has. -/
def Reflects (deliveries : List Delivery) (status : Status) : Prop :=
  ∀ name field v, ¬Answered deliveries name field → lastTold deliveries name field = some v →
    status.told name field = some v

section Run

variable (P : Platform) (pyStr : Json → String)

/-- What a delivery does. -/
def Monitor.deliver (m : Monitor) (d : Delivery) : Monitor × List Output :=
  m.step P pyStr d.now d.frame

/-- The state after some deliveries. -/
def Monitor.afterAll (m : Monitor) (deliveries : List Delivery) : Monitor :=
  m.after P pyStr (deliveries.map fun d => (d.now, d.frame))

/-- **No notification is dropped**: every snapshot that is yielded once the subscription has
been sent is made of a status that reflects what has been delivered by then. -/
def NoneDropped (deliveries : List Delivery) : Prop :=
  ∀ seen d rest, deliveries = seen ++ d :: rest →
    ∀ y, .yielded y ∈ ((Monitor.subscribing.afterAll P pyStr seen).deliver P pyStr d).2 →
      Reflects (seen ++ [d]) y.status

/-! ### What one delivery does -/

variable {P pyStr} {d : Delivery} {status : Status} {D R : Printer}

/-- A delivery is taken as the message it is. -/
theorem deliver_eq {m : Monitor} {message : Json} (h : readMessage d.frame = .ok message) :
    m.deliver P pyStr d = m.take P pyStr d.now message := by
  cases m with
  | ended e => rfl
  | _ =>
    unfold Monitor.deliver Monitor.step
    rw [h]

theorem answer?_eq_none {message : Json} {n : ℕ}
    (h : (message.field "id").pyEq (.int n) = false) : answer? pyStr n message = none := by
  rw [answer?, h]
  rfl

/-- Before the answer, anything else is dropped. -/
theorem deliver_subscribing (h : ∀ R, d.kind ≠ .response R) :
    Monitor.subscribing.deliver P pyStr d = (.subscribing, []) := by
  obtain ⟨message, hread, hkind⟩ := d.reads
  have hid : (message.field "id").pyEq (.int (2 : ℕ)) = false := by
    cases hd : d.kind with
    | response R => exact absurd hd (h R)
    | notification D =>
      rw [hd] at hkind
      exact hkind.1
    | unrelated =>
      rw [hd] at hkind
      exact hkind.1
  rw [deliver_eq hread, Monitor.take, answer?_eq_none hid]

/-- A status of objects is yielded. -/
theorem yieldSnapshot_of_allObjects (P : Platform) (now : Time) (h : AllObjects status)
    (eventtime : Json) : ∃ y : Yield, y.status = status ∧
      yieldSnapshot P now status eventtime = (.watching status, [.yielded y]) := by
  obtain ⟨sections, hsections⟩ := exists_normalizedStatus h
  obtain ⟨snapshot, hsnapshot⟩ : ∃ snapshot, snapshotOf P now status eventtime = .ok snapshot := by
    rw [snapshotOf, hsections]
    exact ⟨_, rfl⟩
  refine ⟨⟨status, snapshot⟩, rfl, ?_⟩
  rw [yieldSnapshot, hsnapshot]

/-- The status starts with what the answer has. -/
theorem initialStatus_of_startsWith {result : List (String × Json)} (h : StartsWith result R) :
    initialStatus (.obj result) = mergeStatus ∅ R.status.entries := by
  have hget : (Json.obj result).get? "status" = Entries.get? "status" result := rfl
  rw [initialStatus, hget]
  rcases h with hstatus | ⟨rfl, hnone⟩
  · rw [hstatus]
    rfl
  · cases hstatus : Entries.get? "status" result with
    | none => rfl
    | some v =>
      cases v with
      | obj update => exact absurd hstatus (hnone update)
      | _ => rfl

/-- **The answer** starts the status. -/
theorem deliver_response (h : d.kind = .response R) :
    ∃ y : Yield, y.status = mergeStatus ∅ R.status.entries ∧
      Monitor.subscribing.deliver P pyStr d =
        (.watching (mergeStatus ∅ R.status.entries), [.yielded y]) := by
  obtain ⟨message, hread, hkind⟩ := d.reads
  rw [h] at hkind
  obtain ⟨hid, herror, result, hresult, hstatus⟩ := hkind
  have hanswer : answer? pyStr 2 message = some (.ok (.obj result)) := by
    have hid' : (message.field "id").pyEq (.int (2 : ℕ)) = true := hid
    rw [answer?, hid', herror, hresult]
    rfl
  rw [deliver_eq hread, Monitor.take, hanswer]
  change ∃ y : Yield, _ ∧ yieldSnapshot P d.now (initialStatus (.obj result)) _ = _
  rw [initialStatus_of_startsWith hstatus]
  exact yieldSnapshot_of_allObjects P d.now (allObjects_mergeStatus R allObjects_empty) _

/-- **A notification** is merged. -/
theorem deliver_notification (hstatus : AllObjects status) (h : d.kind = .notification D) :
    ∃ y : Yield, y.status = mergeStatus status D.status.entries ∧
      (Monitor.watching status).deliver P pyStr d =
        (.watching (mergeStatus status D.status.entries), [.yielded y]) := by
  obtain ⟨message, hread, hkind⟩ := d.reads
  rw [h] at hkind
  obtain ⟨-, hmethod, rest, hparams⟩ := hkind
  have hnotified : notified? message = some (D.status.entries, rest.headD .null) := by
    rw [notified?, Json.fieldEq_str_iff.mpr hmethod, hparams]
    rfl
  rw [deliver_eq hread, Monitor.take, hnotified]
  exact yieldSnapshot_of_allObjects P d.now (allObjects_mergeStatus D hstatus) _

/-- Anything else is dropped. -/
theorem deliver_unrelated (h : d.kind = .unrelated) :
    (Monitor.watching status).deliver P pyStr d = (.watching status, []) := by
  obtain ⟨message, hread, hkind⟩ := d.reads
  rw [h] at hkind
  rw [deliver_eq hread, Monitor.take, hkind.2]

/-! ### Runs -/

theorem afterAll_nil (m : Monitor) : m.afterAll P pyStr [] = m := rfl

theorem afterAll_cons (m : Monitor) (d : Delivery) (ds : List Delivery) :
    m.afterAll P pyStr (d :: ds) = (m.deliver P pyStr d).1.afterAll P pyStr ds := rfl

theorem afterAll_append (m : Monitor) (ds ds' : List Delivery) :
    m.afterAll P pyStr (ds ++ ds') = (m.afterAll P pyStr ds).afterAll P pyStr ds' := by
  induction ds generalizing m with
  | nil => rfl
  | cons d ds ih => exact ih _

/-- What comes before the answer changes nothing. -/
theorem afterAll_subscribing {before : List Delivery}
    (h : ∀ d ∈ before, ∀ R, d.kind ≠ .response R) :
    Monitor.subscribing.afterAll P pyStr before = .subscribing := by
  induction before with
  | nil => rfl
  | cons d before ih =>
    rw [afterAll_cons, deliver_subscribing (h d List.mem_cons_self)]
    exact ih fun d' hd' => h d' (List.mem_cons_of_mem _ hd')

theorem lastTold_append (ds ds' : List Delivery) (name field : String) :
    lastTold (ds ++ ds') name field = (lastTold ds' name field).or (lastTold ds name field) := by
  induction ds' using List.reverseRecOn with
  | nil => rw [List.append_nil]; rfl
  | append_singleton ds' d ih =>
    rw [← List.append_assoc, lastTold, lastTold, List.foldl_concat, List.foldl_concat]
    change (match d.kind with
      | .notification D => (D.told name field).or (lastTold (ds ++ ds') name field)
      | _ => lastTold (ds ++ ds') name field) = (match d.kind with
      | .notification D => (D.told name field).or (lastTold ds' name field)
      | _ => lastTold ds' name field).or (lastTold ds name field)
    rw [ih]
    cases d.kind with
    | notification D => exact (Option.or_assoc ..).symm
    | _ => rfl

/-- What one notification tells. -/
theorem lastTold_notification (h : d.kind = .notification D) (name field : String) :
    lastTold [d] name field = D.told name field := by
  rw [lastTold, List.foldl_cons, List.foldl_nil, h]
  exact Option.or_none

/-- Nothing else tells anything. -/
theorem lastTold_of_ne (h : ∀ D, d.kind ≠ .notification D) (name field : String) :
    lastTold [d] name field = none := by
  rw [lastTold, List.foldl_cons, List.foldl_nil]
  cases hd : d.kind with
  | notification D => exact absurd hd (h D)
  | _ => rfl

/-- **After the answer** the status has what was told last, or what it started with. -/
theorem afterAll_watching {after : List Delivery} (h : ∀ d ∈ after, ∀ R, d.kind ≠ .response R)
    (hstatus : AllObjects status) : ∃ status', AllObjects status' ∧
      (Monitor.watching status).afterAll P pyStr after = .watching status' ∧
      ∀ name field, status'.told name field =
        (lastTold after name field).or (status.told name field) := by
  -- the induction is from the last delivery, as that is what is merged last
  induction after using List.reverseRecOn with
  | nil => exact ⟨status, hstatus, rfl, fun name field => rfl⟩
  | append_singleton after d ih =>
    obtain ⟨status', hobjects, hafter, htold⟩ :=
      ih fun d' hd' => h d' (List.mem_append_left _ hd')
    rw [afterAll_append, hafter, afterAll_cons, afterAll_nil]
    cases hd : d.kind with
    | response R => exact absurd hd (h d (List.mem_append_right _ List.mem_cons_self) R)
    | notification D =>
      obtain ⟨y, -, hdeliver⟩ := deliver_notification hobjects hd
      refine ⟨_, allObjects_mergeStatus D hobjects, congrArg Prod.fst hdeliver, ?_⟩
      intro name field
      rw [told_mergeStatus D hobjects, htold, lastTold_append, lastTold_notification hd,
        Option.or_assoc]
    | unrelated =>
      refine ⟨status', hobjects, congrArg Prod.fst (deliver_unrelated hd), fun name field => ?_⟩
      have hlast : lastTold [d] name field = none := lastTold_of_ne (by simp [hd]) name field
      rw [htold, lastTold_append, hlast, Option.none_or]

/-! ### What is dropped -/

/-- A field has been told of when some notification tells of it. -/
theorem isSome_lastTold {deliveries : List Delivery} {name field : String} :
    (lastTold deliveries name field).isSome = true ↔
      ∃ d ∈ deliveries, ∃ D, d.kind = .notification D ∧ (D.told name field).isSome = true := by
  induction deliveries using List.reverseRecOn with
  | nil => exact iff_of_false (by simp [lastTold]) (by simp)
  | append_singleton deliveries d ih =>
    rw [lastTold_append, Option.isSome_or, Bool.or_eq_true, ih]
    constructor
    · rintro (hlast | ⟨d', hd', hD⟩)
      · by_cases hd : ∃ D, d.kind = .notification D
        · obtain ⟨D, hd⟩ := hd
          rw [lastTold_notification hd] at hlast
          exact ⟨d, List.mem_append_right _ List.mem_cons_self, D, hd, hlast⟩
        · rw [lastTold_of_ne (not_exists.mp hd)] at hlast
          cases hlast
      · exact ⟨d', List.mem_append_left _ hd', hD⟩
    · rintro ⟨d', hd', D, hkind, htold⟩
      rcases List.mem_append.mp hd' with hmem | hmem
      · exact .inr ⟨d', hmem, D, hkind, htold⟩
      · obtain rfl := List.mem_singleton.mp hmem
        exact .inl (by rw [lastTold_notification hkind, htold])

/-- Where an element stands in a list, relative to another. -/
theorem cases_of_append_cons_eq {α : Type} {before after seen rest : List α} {a b : α}
    (h : before ++ a :: after = seen ++ b :: rest) :
    (seen = before ∧ b = a) ∨ (∃ seen', seen = before ++ a :: seen' ∧ after = seen' ++ b :: rest) ∨
      ∃ rest', before = seen ++ b :: rest' := by
  rcases List.append_eq_append_iff.mp h with ⟨seen', rfl, hrest⟩ | ⟨rest', rfl, hrest⟩
  · cases seen' with
    | nil => exact .inl ⟨List.append_nil _, (List.cons.inj hrest).1.symm⟩
    | cons a' seen' =>
      obtain ⟨rfl, rfl⟩ := List.cons.inj hrest
      exact .inr (.inl ⟨seen', rfl, rfl⟩)
  · cases rest' with
    | nil => exact .inl ⟨(List.append_nil _).symm, (List.cons.inj hrest).1⟩
    | cons b' rest' =>
      obtain ⟨rfl, -⟩ := List.cons.inj hrest
      exact .inr (.inr ⟨rest', rfl⟩)

theorem told_initial (R : Printer) (name field : String) :
    (mergeStatus ∅ R.status.entries).told name field = R.told name field := by
  rw [told_mergeStatus R allObjects_empty]
  exact Option.or_none

variable {before after : List Delivery} {response : Delivery}
  (hresponse : response.kind = .response R)
  (hbefore : ∀ d ∈ before, ∀ R, d.kind ≠ .response R)

include hresponse hbefore

/-- What is answered is what the one answer tells. -/
theorem answered_iff (hafter : ∀ d ∈ after, ∀ R, d.kind ≠ .response R) (name field : String) :
    Answered (before ++ response :: after) name field ↔ (R.told name field).isSome = true := by
  constructor
  · rintro ⟨d, hd, R', hR', htold⟩
    rcases List.mem_append.mp hd with hmem | hmem
    · exact absurd hR' (hbefore d hmem R')
    · rcases List.mem_cons.mp hmem with rfl | hmem
      · obtain rfl := Kind.response.inj (hR'.symm.trans hresponse)
        exact htold
      · exact absurd hR' (hafter d hmem R')
  · intro htold
    exact ⟨response, List.mem_append_right _ List.mem_cons_self, R, hresponse, htold⟩

omit hbefore in
theorem lastTold_around (name field : String) :
    lastTold (before ++ response :: after) name field =
      (lastTold after name field).or (lastTold before name field) := by
  have hone : lastTold [response] name field = none :=
    lastTold_of_ne (by simp [hresponse]) name field
  have hsplit : before ++ response :: after = before ++ ([response] ++ after) := rfl
  rw [hsplit, lastTold_append, lastTold_append, hone, Option.or_none]

/-- **The status after the answer reflects what has been delivered**, if the answer has what was
told before it. -/
theorem reflects_of_answered (hafter : ∀ d ∈ after, ∀ R, d.kind ≠ .response R)
    (hanswered : ∀ name field, (lastTold before name field).isSome = true →
      (R.told name field).isSome = true)
    (hstatus : ∀ name field, status.told name field =
      (lastTold after name field).or (R.told name field)) :
    Reflects (before ++ response :: after) status := by
  intro name field v hnot hlast
  rw [answered_iff hresponse hbefore hafter] at hnot
  have hearly : lastTold before name field = none := by
    by_contra hsome
    exact hnot (hanswered name field (Option.isSome_iff_ne_none.mpr hsome))
  rw [lastTold_around hresponse, hearly, Option.or_none] at hlast
  rw [hstatus, hlast]
  rfl

/-- **The state after the answer.** -/
theorem afterAll_answer (P : Platform) (pyStr : Json → String) {seen : List Delivery}
    (hseen : ∀ d ∈ seen, ∀ R, d.kind ≠ .response R) :
    ∃ status, AllObjects status ∧ Monitor.subscribing.afterAll P pyStr
        (before ++ response :: seen) = .watching status ∧
      ∀ name field, status.told name field =
        (lastTold seen name field).or (R.told name field) := by
  obtain ⟨y, -, hdeliver⟩ := deliver_response hresponse
  obtain ⟨status, hobjects, hafter, htold⟩ :=
    afterAll_watching hseen (allObjects_mergeStatus R allObjects_empty)
  refine ⟨status, hobjects, ?_, fun name field => ?_⟩
  · rw [afterAll_append, afterAll_subscribing hbefore, afterAll_cons, hdeliver]
    exact hafter
  · rw [htold, told_initial]

/-- **Every snapshot reflects every notification exactly when the answer has each field that was
told before it.** -/
theorem notifications_reflected_iff (hafter : ∀ d ∈ after, ∀ R, d.kind ≠ .response R) :
    NoneDropped P pyStr (before ++ response :: after) ↔
      ∀ d ∈ before, ∀ D, d.kind = .notification D → ∀ name field,
        (D.told name field).isSome = true → (R.told name field).isSome = true := by
  have hinitial : Monitor.subscribing.afterAll P pyStr before = .subscribing :=
    afterAll_subscribing hbefore
  obtain ⟨y₀, hy₀, hdeliver⟩ : ∃ y : Yield, y.status = mergeStatus ∅ R.status.entries ∧
      Monitor.subscribing.deliver P pyStr response =
        (.watching (mergeStatus ∅ R.status.entries), [.yielded y]) := deliver_response hresponse
  have hnil : ∀ d ∈ ([] : List Delivery), ∀ R, d.kind ≠ .response R := by simp
  constructor
  · intro hnone d hd D hD name field htold
    by_contra hnot
    -- the first snapshot is without the field
    have hreflects := hnone before response after rfl y₀ (by
      rw [hinitial, hdeliver]
      exact List.mem_singleton_self _)
    obtain ⟨v, hv⟩ := Option.isSome_iff_exists.mp (isSome_lastTold.mpr ⟨d, hd, D, hD, htold⟩)
    have hlast : lastTold (before ++ [response]) name field = some v := by
      rw [lastTold_around hresponse, hv]
      rfl
    have hsome := hreflects name field v
      (fun hc => hnot ((answered_iff hresponse hbefore hnil name field).mp hc)) hlast
    rw [hy₀, told_initial] at hsome
    exact hnot (by rw [hsome]; rfl)
  · intro hanswer seen d rest hsplit y hy
    have hanswered : ∀ name field, (lastTold before name field).isSome = true →
        (R.told name field).isSome = true := by
      intro name field hsome
      obtain ⟨d, hd, D, hD, htold⟩ := isSome_lastTold.mp hsome
      exact hanswer d hd D hD name field htold
    rcases cases_of_append_cons_eq hsplit with ⟨rfl, rfl⟩ | ⟨seen', rfl, rfl⟩ | ⟨rest', rfl⟩
    · -- the answer itself
      rw [hinitial, hdeliver] at hy
      obtain rfl := Output.yielded.inj (List.mem_singleton.mp hy)
      refine reflects_of_answered hresponse hbefore hnil hanswered fun name field => ?_
      rw [hy₀, told_initial]
      rfl
    · -- a delivery after the answer
      have hseen : ∀ d ∈ seen', ∀ R, d.kind ≠ .response R := fun d hd =>
        hafter d (List.mem_append_left _ hd)
      obtain ⟨status, hobjects, hstate, htold⟩ := afterAll_answer hresponse hbefore P pyStr hseen
      rw [hstate] at hy
      cases hd : d.kind with
      | response R =>
        exact absurd hd (hafter d (List.mem_append_right _ List.mem_cons_self) R)
      | unrelated =>
        rw [deliver_unrelated hd] at hy
        cases hy
      | notification D =>
        obtain ⟨y', hy', hdeliver'⟩ : ∃ y : Yield, y.status = mergeStatus status D.status.entries ∧
            (Monitor.watching status).deliver P pyStr d =
              (.watching (mergeStatus status D.status.entries), [.yielded y]) :=
          deliver_notification hobjects hd
        rw [hdeliver'] at hy
        obtain rfl := Output.yielded.inj (List.mem_singleton.mp hy)
        have hgrown : ∀ d' ∈ seen' ++ [d], ∀ R, d'.kind ≠ .response R := by
          intro d' hd' R hR
          rcases List.mem_append.mp hd' with hmem | hmem
          · exact hseen d' hmem R hR
          · obtain rfl := List.mem_singleton.mp hmem
            rw [hd] at hR
            cases hR
        rw [List.append_assoc, List.cons_append]
        refine reflects_of_answered hresponse hbefore hgrown hanswered fun name field => ?_
        rw [hy', told_mergeStatus D hobjects, htold, lastTold_append, lastTold_notification hd,
          Option.or_assoc]
    · -- before the answer nothing is yielded
      have hsub : ∀ d' ∈ seen, ∀ R, d'.kind ≠ .response R := fun d' hd' =>
        hbefore d' (List.mem_append_left _ hd')
      have hdropped := hbefore d (List.mem_append_right _ List.mem_cons_self)
      rw [afterAll_subscribing hsub, deliver_subscribing hdropped] at hy
      cases hy

end Run

/-! ### A notification that comes too early -/

section Sample

/-- A frame reads as the message it was written from. -/
theorem readMessage_frame {message : Json} (hordered : message.ordered = true)
    (hobj : message.isObj = true) : readMessage (canonical message ++ [frameEnd]) = .ok message := by
  have hloads : ((utf8? (canonical message ++ [frameEnd]).dropLast).bind fun text =>
      Json.loads text.toList) = some message := by
    rw [List.dropLast_concat, canonical, utf8?_utf8, Option.bind_some, String.toList_ofList,
      Json.loads_encode hordered]
  rw [readMessage, hloads]
  dsimp only
  rw [require_pos hobj]
  rfl

/-- An extruder of which some fields are told. -/
def extruder (fields : Dict String Json) : Printer where
  entries := [("extruder", fields)]
  sorted := List.pairwise_singleton _ _

/-- The extruder is set to 215 degrees. -/
def heating : Printer := extruder ⟨[("target", .int 215)], by decide⟩

/-- The extruder has 20 degrees. -/
def cold : Printer := extruder ⟨[("temperature", .int 20)], by decide⟩

/-- The extruder has 20 degrees and is set to none. -/
def idle : Printer := extruder ⟨[("target", .int 0), ("temperature", .int 20)], by decide⟩

/-- A notification. -/
def notificationMessage (D : Printer) (eventtime : ℤ) : Json :=
  .obj [("jsonrpc", .str "2.0"), ("method", .str "notify_status_update"),
    ("params", .arr [.obj D.status.entries, .int eventtime])]

/-- The answer to the subscription. -/
def responseMessage (R : Printer) (eventtime : ℤ) : Json :=
  .obj [("id", .int 2), ("jsonrpc", .str "2.0"),
    ("result", .obj [("eventtime", .int eventtime), ("status", .obj R.status.entries)])]

/-- A notification that is delivered. -/
def notifying (D : Printer) (eventtime : ℤ)
    (h : (notificationMessage D eventtime).ordered = true) : Delivery where
  now := Sample.moment eventtime
  frame := canonical (notificationMessage D eventtime) ++ [frameEnd]
  kind := .notification D
  reads := ⟨_, readMessage_frame h rfl, rfl, rfl, [.int eventtime], rfl⟩

/-- An answer that is delivered. -/
def responding (R : Printer) (eventtime : ℤ)
    (h : (responseMessage R eventtime).ordered = true) : Delivery where
  now := Sample.moment eventtime
  frame := canonical (responseMessage R eventtime) ++ [frameEnd]
  kind := .response R
  reads := ⟨_, readMessage_frame h rfl, rfl, rfl, _, rfl, .inl rfl⟩

/-- The target is notified before an answer without it. -/
def earlyNotification : Delivery := notifying heating 1 (by decide)

theorem notification_dropped : ¬NoneDropped Sample.platform (fun _ => "")
    [earlyNotification, responding cold 2 (by decide)] := by
  intro h
  have hearly : Monitor.subscribing.afterAll Sample.platform (fun _ => "") [earlyNotification] =
      .subscribing := by
    refine afterAll_subscribing fun d hd R hR => ?_
    obtain rfl := List.mem_singleton.mp hd
    cases hR
  obtain ⟨y, hy, hdeliver⟩ : ∃ y : Yield, y.status = mergeStatus ∅ cold.status.entries ∧
      Monitor.subscribing.deliver Sample.platform (fun _ => "") (responding cold 2 (by decide)) =
        (.watching (mergeStatus ∅ cold.status.entries), [.yielded y]) := deliver_response rfl
  have hreflects := h [earlyNotification] (responding cold 2 (by decide)) [] rfl y (by
    rw [hearly, hdeliver]
    exact List.mem_singleton_self _)
  -- the answer does not tell the target, so the notification should have counted
  have hnot : ¬Answered ([earlyNotification] ++ [responding cold 2 (by decide)])
      "extruder" "target" := by
    rintro ⟨d, hd, R, hR, htold⟩
    simp only [List.singleton_append, List.mem_cons, List.not_mem_nil, or_false] at hd
    rcases hd with rfl | rfl
    · cases hR
    · cases hR
      revert htold
      decide
  have htold := hreflects "extruder" "target" (.int 215) hnot rfl
  rw [hy, told_initial] at htold
  cases htold

/-- A notification before an answer that has its field, and one after it. -/
theorem notifications_reflected_iff_sample : NoneDropped Sample.platform (fun _ => "")
    ([earlyNotification] ++ responding idle 2 (by decide) :: [notifying heating 3 (by decide)]) := by
  refine (notifications_reflected_iff rfl ?_ ?_).mpr ?_
  · intro d hd R hR
    obtain rfl := List.mem_singleton.mp hd
    cases hR
  · intro d hd R hR
    obtain rfl := List.mem_singleton.mp hd
    cases hR
  · intro d hd D hD name field htold
    obtain rfl := List.mem_singleton.mp hd
    cases hD
    simp only [Printer.told, heating, idle, extruder, Dict.get?, Entries.get?] at htold ⊢
    split_ifs at htold ⊢ with hname
    · simp only [Option.bind_some, Entries.get?] at htold ⊢
      split_ifs at htold ⊢ <;> first | rfl | cases htold
    · exact htold

end Sample

end PrinterHmi
