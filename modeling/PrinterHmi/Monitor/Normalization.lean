import PrinterHmi.Monitor.Snapshots

/-!
# When a status can be normalized

Whatever the host tells of an object is merged: fields are put into an object, and anything else
takes the place of what was there. Making the sections of a snapshot asks three of the objects
for fields without looking at what they are, and a value that is no object has no fields to ask
for. `normalizes_iff` says of a sequence of updates whether the sections can be made of what
they come to, in terms of the updates alone: of the last thing told of an object
(`lastValue`), and of a field of it (`lastField`).

The exception ends the generator, so the connection to the host is dropped
(`yieldSnapshot_cases`), and the status of a generator is always one that updates come to
(`ofUpdates_after`).
-/

namespace PrinterHmi

/-! ### Updates -/

/-- **A JSON object**, as `snapshots` accepts it for an update. -/
structure Update where
  entries : List (String × Json)
  ordered : (Json.obj entries).ordered = true

namespace Update

theorem sorted (u : Update) : Entries.Sorted u.entries := (Json.ordered_obj.mp u.ordered).1

/-- What it says of an object. -/
def get? (u : Update) (name : String) : Option Json := Entries.get? name u.entries

/-- The fields it gives an object have an order. -/
theorem sorted_of_get? {u : Update} {name : String} {fields : List (String × Json)}
    (h : u.get? name = some (.obj fields)) : Entries.Sorted fields :=
  (Json.ordered_obj.mp
    ((Json.ordered_obj.mp u.ordered).2 _ (Entries.mem_of_get? h))).1

end Update

/-- The status that updates come to. -/
def merged (updates : List Update) : Status :=
  updates.foldl (fun status u => mergeStatus status u.entries) ∅

/-- The last thing told of an object. -/
def lastValue (updates : List Update) (name : String) : Option Json :=
  updates.foldl (fun last u => (u.get? name).or last) none

/-- The last thing told of a field, since the object was anything else. -/
def lastField (updates : List Update) (name field : String) : Option Json :=
  updates.foldl (fun last u => match u.get? name with
    | none => last
    | some (.obj fields) => (Entries.get? field fields).or last
    | some _ => none) none

section Updates

variable (updates : List Update) (u : Update) (name field : String)

theorem merged_concat :
    merged (updates ++ [u]) = mergeStatus (merged updates) u.entries := by
  rw [merged, List.foldl_append]
  rfl

theorem lastValue_concat :
    lastValue (updates ++ [u]) name = (u.get? name).or (lastValue updates name) := by
  rw [lastValue, List.foldl_append]
  rfl

theorem lastField_concat : lastField (updates ++ [u]) name field =
    match u.get? name with
    | none => lastField updates name field
    | some (.obj fields) => (Entries.get? field fields).or (lastField updates name field)
    | some _ => none := by
  rw [lastField, List.foldl_append]
  rfl

/-! ### What updates come to -/

/-- The value under a name agrees with what was told last: it is there if anything was told, it is
an object if the last thing told was one, and then its fields are those told last. -/
inductive Agrees (updates : List Update) (name : String) : Option Json → Prop
  | absent (hvalue : lastValue updates name = none)
    (hfields : ∀ field, lastField updates name field = none) : Agrees updates name none
  | other {v : Json} (hvalue : lastValue updates name = some v) (hv : v.isObj = false)
    (hfields : ∀ field, lastField updates name field = none) : Agrees updates name (some v)
  | object {v : Json} {fields : List (String × Json)} (hvalue : lastValue updates name = some v)
    (hv : v.isObj = true)
    (hfields : ∀ field, Entries.get? field fields = lastField updates name field) :
    Agrees updates name (some (.obj fields))

variable {updates u name}

/-- What was told of a field, if the object was there before it is given fields. -/
theorem agrees_fields {new : List (String × Json)} (hu : u.get? name = some (.obj new))
    {old : Option Json} (hagrees : Agrees updates name old) :
    Agrees (updates ++ [u]) name (some (mergeObject old (.obj new))) := by
  have hvalue : lastValue (updates ++ [u]) name = some (.obj new) := by
    rw [lastValue_concat, hu]
    rfl
  have hlast : ∀ field, lastField (updates ++ [u]) name field =
      (Entries.get? field new).or (lastField updates name field) := by
    intro field
    rw [lastField_concat, hu]
  cases hagrees with
  | absent _ hfields =>
    refine .object hvalue rfl fun field => ?_
    rw [hlast, hfields, Option.or_none]
  -- the fields take the place of what is no object
  | @other v _ hv hfields =>
    have hmerge : mergeObject (some v) (.obj new) = .obj new := by
      cases v with
      | obj _ => cases hv
      | _ => rfl
    rw [hmerge]
    refine .object hvalue rfl fun field => ?_
    rw [hlast, hfields, Option.or_none]
  | object _ _ hfields =>
    refine .object hvalue rfl fun field => ?_
    rw [hlast, ← hfields]
    exact Entries.get?_update (Update.sorted_of_get? hu) _ field

/-- **What updates come to agrees with what they told last.** The induction is on the updates,
from the last one. -/
theorem agrees_merged (updates : List Update) (name : String) :
    Agrees updates name ((merged updates).get? name) := by
  induction updates using List.reverseRecOn with
  | nil => exact .absent rfl fun _ => rfl
  | append_singleton updates u ih =>
    have hget : (merged (updates ++ [u])).get? name =
        ((u.get? name).map (mergeObject ((merged updates).get? name))).or
          ((merged updates).get? name) := by
      rw [merged_concat]
      exact get?_mergeStatus u.sorted _ name
    rw [hget]
    generalize (merged updates).get? name = old at ih
    cases hu : u.get? name with
    | none =>
      have hvalue : lastValue (updates ++ [u]) name = lastValue updates name := by
        rw [lastValue_concat, hu, Option.none_or]
      have hfield : ∀ field, lastField (updates ++ [u]) name field =
          lastField updates name field := by
        intro field
        rw [lastField_concat, hu]
      cases ih with
      | absent h hfields => exact .absent (hvalue.trans h) fun f => (hfield f).trans (hfields f)
      | other h hv hfields => exact .other (hvalue.trans h) hv fun f => (hfield f).trans (hfields f)
      | object h hv hfields =>
        exact .object (hvalue.trans h) hv fun f => (hfields f).trans (hfield f).symm
    | some v =>
      cases v with
      | obj new => exact agrees_fields hu ih
      | _ =>
        -- anything else takes the place of what was there
        refine .other ?_ rfl fun field => ?_
        · rw [lastValue_concat, hu]
          rfl
        · rw [lastField_concat, hu]

end Updates

/-! ### The condition -/

/-- Nothing was told of the object, or the last thing told was an object. -/
def LastIsObject (updates : List Update) (name : String) : Prop :=
  ∀ v, lastValue updates name = some v → v.isObj = true

/-- **The sections can be made of what the updates come to**: the print statistics and the file
are objects, or nothing was told of them; and so is the display, unless nothing is asked of
it, because the file has a number for its progress and the statistics have a message. -/
def Normalizable (updates : List Update) : Prop :=
  LastIsObject updates "print_stats" ∧ LastIsObject updates "virtual_sdcard" ∧
    (LastIsObject updates "display_status" ∨
      (∃ progress, lastField updates "virtual_sdcard" "progress" = some progress ∧
        progress.number?.isSome = true) ∧
      ∃ message, lastField updates "print_stats" "message" = some message ∧
        message.truthy = true)

section Sections

variable {updates : List Update} {name : String}

/-- Asking for a field returns exactly of an object. -/
theorem getKey_isOk_iff {v : Json} {key : String} :
    (∃ u, getKey v key = .ok u) ↔ v.isObj = true := by
  cases v with
  | obj fields => exact iff_of_true ⟨_, rfl⟩ rfl
  | _ => exact iff_of_false (fun ⟨_, h⟩ => by cases h) nofun

/-- An object of the status is one exactly if the last thing told of it was. -/
theorem isObj_object_iff : ((merged updates).object name).isObj = true ↔
    LastIsObject updates name := by
  have hagrees := agrees_merged updates name
  rw [Status.object, LastIsObject]
  generalize (merged updates).get? name = o at hagrees
  cases hagrees with
  | absent hvalue =>
    refine iff_of_true rfl fun v hv => ?_
    rw [hvalue] at hv
    cases hv
  | other hvalue hv =>
    rw [hvalue]
    refine iff_of_false (by simp [hv]) fun h => ?_
    rw [h _ rfl] at hv
    cases hv
  | object hvalue hv =>
    refine iff_of_true rfl fun v' hv' => ?_
    rw [hvalue] at hv'
    exact Option.some.inj hv' ▸ hv

/-- A field of an object of the status is the one told last. -/
theorem getKey_object (h : LastIsObject updates name) (key : String) :
    getKey ((merged updates).object name) key =
      .ok ((lastField updates name key).getD .null) := by
  have hagrees := agrees_merged updates name
  rw [Status.object]
  generalize (merged updates).get? name = o at hagrees
  cases hagrees with
  | absent _ hfields =>
    rw [hfields]
    rfl
  | other hvalue hv =>
    rw [h _ hvalue] at hv
    cases hv
  | object _ _ hfields =>
    rw [← hfields]
    rfl

/-- The progress can be read exactly if the file is an object, and so is the display where it is
asked. -/
theorem progressOf_isOk_iff {file display : Json} :
    (∃ p, progressOf file display = .ok p) ↔ ∃ progress, getKey file "progress" = .ok progress ∧
      (progress.number?.isSome = true ∨ display.isObj = true) := by
  simp only [progressOf, Except.bind_eq_ok]
  rw [exists_comm]
  refine exists_congr fun progress => ?_
  rw [exists_and_left, ← getKey_isOk_iff (v := display)]
  refine and_congr_right fun _ => ?_
  by_cases hnumber : progress.number?.isSome = true
  · rw [if_pos hnumber]
    exact iff_of_true ⟨_, rfl⟩ (.inl hnumber)
  · rw [if_neg hnumber]
    exact (or_iff_right hnumber).symm

/-- The message can be read exactly if there is one, or the display is an object. -/
theorem orElse_isOk_iff {message display : Json} {key : String} :
    (∃ m, orElse message (getKey display key) = .ok m) ↔
      message.truthy = true ∨ display.isObj = true := by
  rw [orElse, ← getKey_isOk_iff (v := display)]
  by_cases htruthy : message.truthy = true
  · rw [if_pos htruthy]
    exact iff_of_true ⟨_, rfl⟩ (.inl htruthy)
  · rw [if_neg htruthy]
    exact (or_iff_right htruthy).symm

/-- **When the sections can be made**, of any status. -/
theorem normalizedStatus_isOk_iff {status : Status} :
    (∃ document, normalizedStatus status = .ok document) ↔
      (∃ message, getKey (status.object "print_stats") "message" = .ok message ∧
        (message.truthy = true ∨ (status.object "display_status").isObj = true)) ∧
      ∃ progress, getKey (status.object "virtual_sdcard") "progress" = .ok progress ∧
        (progress.number?.isSome = true ∨ (status.object "display_status").isObj = true) := by
  rw [← progressOf_isOk_iff]
  simp only [normalizedStatus, printSection, Except.bind_eq_ok]
  constructor
  · rintro ⟨-, -, ⟨progress, hprogress, -, -, -, -, message, hmessage, shown, hshown, -⟩, -⟩
    exact ⟨⟨message, hmessage, orElse_isOk_iff.mp ⟨shown, hshown⟩⟩, progress, hprogress⟩
  · rintro ⟨⟨message, hmessage, hshown⟩, progress, hprogress⟩
    -- the statistics have been asked for one field, so they can be asked for all
    have hstats := exists_getKey (getKey_isOk_iff.mp ⟨message, hmessage⟩)
    obtain ⟨shown, hshown⟩ := orElse_isOk_iff.mpr hshown
    obtain ⟨state, hstate⟩ := hstats "state"
    obtain ⟨filename, hfilename⟩ := hstats "filename"
    obtain ⟨total, htotal⟩ := hstats "total_duration"
    obtain ⟨duration, hduration⟩ := hstats "print_duration"
    obtain ⟨filament, hfilament⟩ := hstats "filament_used"
    exact ⟨_, _, ⟨progress, hprogress, state, hstate, filename, hfilename, message, hmessage,
      shown, hshown, total, htotal, duration, hduration, filament, hfilament, rfl⟩, rfl⟩

/-- A field of an object of the status can be asked for, and it is of a kind, exactly if the last
thing told of the object was an object and the field told last is of that kind. -/
theorem exists_getKey_iff (updates : List Update) (name key : String) (p : Json → Prop) :
    (∃ v, getKey ((merged updates).object name) key = .ok v ∧ p v) ↔
      LastIsObject updates name ∧ p ((lastField updates name key).getD .null) := by
  constructor
  · rintro ⟨v, hv, hp⟩
    have hobject := isObj_object_iff.mp (getKey_isOk_iff.mp ⟨v, hv⟩)
    rw [getKey_object hobject, Except.ok.injEq] at hv
    exact ⟨hobject, hv ▸ hp⟩
  · rintro ⟨hobject, hp⟩
    exact ⟨_, getKey_object hobject key, hp⟩

/-- What holds of a field told last, and not of a null. -/
theorem getD_null_iff {o : Option Json} {p : Json → Prop} (hnull : ¬p .null) :
    p (o.getD .null) ↔ ∃ v, o = some v ∧ p v := by
  cases o with
  | none => exact iff_of_false hnull fun ⟨_, h, _⟩ => by cases h
  | some v => exact ⟨fun h => ⟨v, rfl, h⟩, fun ⟨_, h, hp⟩ => Option.some.inj h ▸ hp⟩

end Sections

/-! ### The generator -/

section Generator

variable {P : Platform} {pyStr : Json → String}

/-- What the first answer starts the status with is what updates come to. -/
theorem exists_merged_initialStatus {result : Json} (hresult : result.ordered = true) :
    ∃ updates, initialStatus result = merged updates := by
  rw [initialStatus]
  have hordered : ((result.get? "status").getD (.obj [])).ordered = true := by
    cases hstatus : result.get? "status" with
    | none => rfl
    | some v => exact Json.ordered_get? hresult hstatus
  cases hstatus : (result.get? "status").getD (.obj []) with
  | obj update =>
    rw [hstatus] at hordered
    exact ⟨[⟨update, hordered⟩], rfl⟩
  | _ => exact ⟨[], rfl⟩

/-- What is merged of a notification is an update. -/
theorem ordered_notified {message : Json} (hmessage : message.ordered = true)
    {update : List (String × Json)} {eventtime : Json}
    (h : notified? message = some (update, eventtime)) : (Json.obj update).ordered = true := by
  have hparams : (message.field "params").ordered = true := Json.ordered_field hmessage "params"
  rw [notified?] at h
  split at h
  · cases h
  · split at h
    next first rest heq =>
      obtain ⟨rfl, -⟩ := Prod.mk.inj (Option.some.inj h)
      rw [heq] at hparams
      exact Json.ordered_arr.mp hparams _ List.mem_cons_self
    next => cases h

/-- The result a request takes is a member of the message. -/
theorem result_of_answer {message result : Json} {n : ℕ}
    (h : answer? pyStr n message = some (.ok result)) : result = message.field "result" := by
  rw [answer?] at h
  split at h
  · cases h
  · split at h
    · cases h
    · split at h
      · exact (Except.ok.inj (Option.some.inj h)).symm
      · cases h

/-- A message that is read is in normal form. -/
theorem ordered_readMessage {frame : Bytes} {message : Json} (h : readMessage frame = .ok message) :
    message.ordered = true := by
  rw [readMessage] at h
  split at h
  · cases h
  next message' hread =>
    obtain ⟨-, -, hm⟩ := Except.bind_eq_ok.mp h
    obtain rfl := Except.ok.inj hm
    obtain ⟨text, -, hloads⟩ := Option.bind_eq_some_iff.mp hread
    exact Json.loads_ordered hloads

/-- A snapshot is yielded, or the generator is ended. -/
theorem yieldSnapshot_cases (P : Platform) (now : Time) (status : Status) (eventtime : Json) :
    ((∃ document, normalizedStatus status = .ok document) ∧
      ∃ y, yieldSnapshot P now status eventtime = (.watching status, [.yielded y])) ∨
    (¬(∃ document, normalizedStatus status = .ok document) ∧
      ∃ e, yieldSnapshot P now status eventtime = (.ended e, [])) := by
  cases h : normalizedStatus status with
  | ok document =>
    obtain ⟨snapshot, hsnapshot⟩ : ∃ snapshot, snapshotOf P now status eventtime = .ok snapshot := by
      rw [snapshotOf, h]
      exact ⟨_, rfl⟩
    refine .inl ⟨⟨document, rfl⟩, ⟨status, snapshot⟩, ?_⟩
    rw [yieldSnapshot, hsnapshot]
  | error e =>
    refine .inr ⟨?_, e, ?_⟩
    · rintro ⟨_, hc⟩
      cases hc
    · rw [yieldSnapshot, snapshotOf, h]
      rfl

/-- A generator watches only a status that updates come to. -/
def Monitor.OfUpdates (m : Monitor) : Prop :=
  ∀ status, m = .watching status → ∃ updates, status = merged updates

/-- A generator that has no status yet, or none any more. -/
theorem ofUpdates_of_ne {m : Monitor} (h : ∀ status, m ≠ .watching status) : m.OfUpdates := by
  intro status hm
  exact absurd hm (h status)

/-- A snapshot of such a status leaves the generator with it. -/
theorem ofUpdates_yieldSnapshot (now : Time) (updates : List Update) (eventtime : Json) :
    (yieldSnapshot P now (merged updates) eventtime).1.OfUpdates := by
  intro status h
  rcases yieldSnapshot_cases P now (merged updates) eventtime with ⟨-, y, hy⟩ | ⟨-, e, he⟩
  · rw [hy] at h
    exact ⟨updates, (Monitor.watching.inj h).symm⟩
  · rw [he] at h
    cases h

/-- **One message**: what is merged is one more update. -/
theorem ofUpdates_take {m : Monitor} (hm : m.OfUpdates) {message : Json}
    (hmessage : message.ordered = true) (now : Time) :
    (m.take P pyStr now message).1.OfUpdates := by
  cases m with
  | listing =>
    refine ofUpdates_of_ne ?_
    rw [Monitor.take]
    split
    · exact fun _ => Monitor.noConfusion
    · exact fun _ => Monitor.noConfusion
    · rw [subscribe]
      split <;> exact fun _ => Monitor.noConfusion
  | subscribing =>
    rw [Monitor.take]
    split
    · exact ofUpdates_of_ne fun _ => Monitor.noConfusion
    · exact ofUpdates_of_ne fun _ => Monitor.noConfusion
    next result hanswer =>
      have hresult : result.ordered = true := by
        rw [result_of_answer hanswer]
        exact Json.ordered_field hmessage "result"
      -- the initial status is the first of the updates
      obtain ⟨updates, hupdates⟩ := exists_merged_initialStatus hresult
      rw [hupdates]
      exact ofUpdates_yieldSnapshot now updates _
  | watching status =>
    obtain ⟨updates, rfl⟩ := hm status rfl
    rw [Monitor.take]
    split
    · exact hm
    next update eventtime hnotified =>
      rw [show mergeStatus (merged updates) update = _ from
        (merged_concat updates ⟨update, ordered_notified hmessage hnotified⟩).symm]
      exact ofUpdates_yieldSnapshot now _ eventtime
  | ended e => exact hm

/-- **The status of a generator is what updates come to**, after any frames. The induction is on
the frames. -/
theorem ofUpdates_after {m : Monitor} (hm : m.OfUpdates) (frames : List (Time × Bytes)) :
    (m.after P pyStr frames).OfUpdates := by
  induction frames generalizing m with
  | nil => exact hm
  | cons f frames ih =>
    refine ih (m := (m.step P pyStr f.1 f.2).1) ?_
    unfold Monitor.step
    split
    · exact ofUpdates_of_ne fun _ => Monitor.noConfusion
    · exact ofUpdates_of_ne fun _ => Monitor.noConfusion
    next hread => exact ofUpdates_take hm (ordered_readMessage hread) f.1

end Generator

/-! ### The law -/

/-- The status that updates give is normalized exactly if they are. -/
theorem normalizedStatus_merged_iff (updates : List Update) :
    (∃ document, normalizedStatus (merged updates) = .ok document) ↔ Normalizable updates := by
  rw [normalizedStatus_isOk_iff, exists_getKey_iff updates _ _ fun v => v.truthy = true ∨ _,
    exists_getKey_iff updates _ _ fun v => v.number?.isSome = true ∨ _, isObj_object_iff,
    getD_null_iff (p := fun v => v.truthy = true) (by decide),
    getD_null_iff (p := fun v => v.number?.isSome = true) (by decide), Normalizable]
  constructor
  · rintro ⟨⟨hstats, hmessage⟩, hfile, hprogress⟩
    refine ⟨hstats, hfile, ?_⟩
    rcases hmessage with hmessage | hdisplay
    · exact hprogress.symm.imp id fun hprogress => ⟨hprogress, hmessage⟩
    · exact .inl hdisplay
  · rintro ⟨hstats, hfile, hdisplay | ⟨hprogress, hmessage⟩⟩
    · exact ⟨⟨hstats, .inr hdisplay⟩, hfile, .inr hdisplay⟩
    · exact ⟨⟨hstats, .inl hmessage⟩, hfile, .inl hprogress⟩

/-- **Which updates can be normalized**: `normalized_status` of what the updates come to returns
exactly if they are `Normalizable`; and a generator that has merged some updates and is notified
of one more goes on with a snapshot exactly if they are all together. -/
theorem normalizes_iff (P : Platform) (pyStr : Json → String) (updates : List Update) :
    ((∃ document, normalizedStatus (merged updates) = .ok document) ↔ Normalizable updates) ∧
    ∀ now message u eventtime, notified? message = some (u.entries, eventtime) →
      ((∃ y, (Monitor.watching (merged updates)).take P pyStr now message =
        (.watching (merged (updates ++ [u])), [.yielded y])) ↔ Normalizable (updates ++ [u])) := by
  refine ⟨normalizedStatus_merged_iff updates, fun now message u eventtime hnotified => ?_⟩
  rw [Monitor.take, hnotified, ← normalizedStatus_merged_iff, merged_concat]
  dsimp only
  rcases yieldSnapshot_cases P now (mergeStatus (merged updates) u.entries) eventtime with
    ⟨hok, hyields⟩ | ⟨hfails, e, hends⟩
  · exact iff_of_true hyields hok
  · refine iff_of_false ?_ hfails
    rintro ⟨y, hy⟩
    rw [hends] at hy
    cases hy

/-- A display that is null is merged and does no harm, while the file has a progress and the
statistics have a message. -/
theorem normalizes_iff_sample :
    let told : Update := ⟨[("print_stats", .obj [("message", .str "paused")]),
      ("virtual_sdcard", .obj [("progress", .int 1)])], rfl⟩
    let more : Update := ⟨[("display_status", .null)], rfl⟩
    let message : Json := .obj [("method", .str "notify_status_update"),
      ("params", .arr [.obj more.entries])]
    ∃ y, (Monitor.watching (merged [told])).take Sample.platform (fun _ => "") 0 message =
      (.watching (merged ([told] ++ [more])), [.yielded y]) := by
  intro told more message
  have hnormal : Normalizable ([told] ++ [more]) := by
    refine ⟨fun v hv => ?_, fun v hv => ?_, .inr ⟨⟨.int 1, rfl, rfl⟩, .str "paused", rfl, rfl⟩⟩
    · obtain rfl := Option.some.inj hv
      rfl
    · obtain rfl := Option.some.inj hv
      rfl
  exact ((normalizes_iff Sample.platform (fun _ => "") [told]).2 0 message more .null rfl).mpr
    hnormal

/-- An object whose value is null is merged, and cannot be normalized. -/
theorem normalization_fails : ¬ ∀ updates : List Update,
    ∃ document, normalizedStatus (merged updates) = .ok document := by
  intro h
  obtain ⟨document, hdocument⟩ := h [⟨[("print_stats", .null)], rfl⟩]
  cases hdocument

end PrinterHmi
