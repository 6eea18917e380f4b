import PrinterHmi.Lib.Dict
import PrinterHmi.Lib.Json
import PrinterHmi.Lib.Runs
import PrinterHmi.Sample

/-!
# The snapshot store and its flush task

The service keeps the latest payload of every instance and writes them all to its state
file, but not at every update: an update that comes too soon after a write arms a flush
task instead, which sleeps until the file may be written again (`StoreLoop.step`). A
call of `flush` cancels the task, waits for it and writes what is left.

The lock of the store is never held across a wait, so what happens between two waits is
one step, and a run is any sequence of such steps: updates of the monitors, turns of a
flush task, and beginnings and returns of `flush`. The loop's clock does not go back.

No update is lost (`no_update_lost`): as long as the file does not show what is in
memory, a flush task is pending that is due an interval after the last write, or a call
of `flush` is in progress that writes before it returns.
-/

namespace PrinterHmi

/-! ### The store and the loop around it -/

/-- `SnapshotStore`, with the file it writes. Its handle of the flush task is the number of
the task. -/
structure SnapshotStore where
  instances : Dict String Json
  dirty : Bool
  lastWriteTime : Time
  flushTask : Option ℕ
  /-- The state file, if it exists. -/
  stateFile : Option Json

/-- Where a flush task is. -/
inductive FlushPhase : Type where
  /-- Created, and not yet begun. -/
  | created
  /-- Asleep, since a moment. -/
  | sleeping (since : Time)
  /-- At its end. -/
  | done
  deriving DecidableEq

/-- A flush task, a run of `_flush_after`. -/
structure FlushTask where
  /-- When it was created. -/
  armed : Time
  delay : Time
  phase : FlushPhase
  /-- Its cancellation has been requested. -/
  cancelled : Bool

/-- Where a call of `flush` is. -/
inductive FlushCall : Type where
  /-- It waits for a task that it has cancelled. -/
  | waiting (k : ℕ)
  | returned
  deriving DecidableEq

/-- **The store and the loop around it**: the flush tasks and the calls of `flush`, in the
order in which they were created. -/
structure StoreLoop where
  store : SnapshotStore
  tasks : List FlushTask
  calls : List FlushCall

/-- A call of `flush` waits for a task. -/
def StoreLoop.Waits (x : StoreLoop) (f k : ℕ) : Prop := x.calls[f]? = some (.waiting k)

/-- A call of `flush` has returned. -/
def StoreLoop.Returned (x : StoreLoop) (f : ℕ) : Prop := x.calls[f]? = some .returned

/-- What the loop can do. -/
inductive LoopAction : Type where
  /-- A monitor calls `update`. -/
  | update (instanceId : String) (payload : Json)
  /-- A flush task gets a turn. -/
  | task (k : ℕ)
  /-- Somebody calls `flush`. -/
  | flush
  /-- A call of `flush` gets a turn. -/
  | resume (f : ℕ)

/-- A turn of the loop, and what the clocks say in it. -/
structure Turn where
  action : LoopAction
  /-- The first reading of the loop's clock. -/
  now : Time
  /-- The reading at a write. -/
  writing : Time
  /-- The reading of the calendar. -/
  utcNow : Time

/-- The store before any update. -/
def StoreLoop.start : StoreLoop := ⟨⟨∅, false, 0, none, none⟩, [], []⟩

section Step

variable (P : Platform) (interval : Time)

/-- `_document_locked`. -/
def SnapshotStore.documentLocked (s : SnapshotStore) (utcNow : Time) : Json :=
  .obj [("generated_at", .str (P.timestamp utcNow)), ("instances", .obj s.instances.entries),
    ("schema_version", .int 1)]

/-- `_write_locked`, when every file step goes through. -/
def SnapshotStore.writeLocked (s : SnapshotStore) (t : Turn) : SnapshotStore :=
  { s with
    stateFile := some (s.documentLocked P t.utcNow)
    dirty := false
    lastWriteTime := t.writing }

/-- A write if there is something to write, and the moment of it. -/
def SnapshotStore.writeIfDirty (s : SnapshotStore) (t : Turn) : Option Time × SnapshotStore :=
  if s.dirty = true then (some t.writing, s.writeLocked P t) else (none, s)

/-- Whether a task is at its end. -/
def StoreLoop.taskDone (x : StoreLoop) (k : ℕ) : Bool :=
  x.tasks[k]?.all fun task => task.phase = .done

/-- `update`: the moment of the write if it writes, and the store after it. -/
def StoreLoop.update (x : StoreLoop) (instanceId : String) (payload : Json) (t : Turn) :
    Option Time × StoreLoop :=
  let store := { x.store with instances := x.store.instances.insert instanceId payload, dirty := true }
  let elapsed := t.now - store.lastWriteTime
  if store.lastWriteTime = 0 ∨ elapsed ≥ interval then
    (some t.writing, { x with store := store.writeLocked P t })
  else if store.flushTask.all x.taskDone then
    (none, { x with
      store := { store with flushTask := some x.tasks.length }
      tasks := x.tasks ++ [⟨t.now, interval - elapsed, .created, false⟩] })
  else (none, { x with store := store })

/-- The task forgets that it is the one the store has armed. -/
def SnapshotStore.release (s : SnapshotStore) (k : ℕ) : SnapshotStore :=
  if s.flushTask = some k then { s with flushTask := none } else s

/-- A task is now in this phase. -/
def StoreLoop.setPhase (x : StoreLoop) (k : ℕ) (phase : FlushPhase) : StoreLoop :=
  { x with tasks := x.tasks.modify k fun task => { task with phase := phase } }

/-- A turn of `_flush_after`. A cancellation is raised where the task is: before its first
line, or in its sleep. -/
def StoreLoop.flushAfter (x : StoreLoop) (k : ℕ) (t : Turn) : Option Time × StoreLoop :=
  match x.tasks[k]? with
  | none => (none, x)
  | some task =>
    match task.phase with
    | .done => (none, x)
    | .created =>
      if task.cancelled = true then (none, x.setPhase k .done)
      else (none, x.setPhase k (.sleeping t.now))
    | .sleeping since =>
      if task.cancelled = true then
        (none, { x with store := x.store.release k }.setPhase k .done)
      else if since + max 0 task.delay ≤ t.now then
        let (wrote, store) := x.store.writeIfDirty P t
        (wrote, { x with store := store.release k }.setPhase k .done)
      else (none, x)

/-- The end of `flush`. -/
def StoreLoop.flushRest (x : StoreLoop) (t : Turn) (calls : List FlushCall) :
    Option Time × StoreLoop :=
  let (wrote, store) := x.store.writeIfDirty P t
  (wrote, { x with store := store, calls := calls })

/-- `flush`, until it returns or waits. It is called by no flush task. -/
def StoreLoop.flush (x : StoreLoop) (t : Turn) : Option Time × StoreLoop :=
  let cleared := { x with store := { x.store with flushTask := none } }
  match x.store.flushTask with
  | none => cleared.flushRest P t (x.calls ++ [.returned])
  | some k =>
    if x.taskDone k = true then cleared.flushRest P t (x.calls ++ [.returned])
    else (none, { cleared with
      tasks := x.tasks.modify k fun task => { task with cancelled := true }
      calls := x.calls ++ [.waiting k] })

/-- A call of `flush` goes on once the task it waits for is at its end. -/
def StoreLoop.resume (x : StoreLoop) (f : ℕ) (t : Turn) : Option Time × StoreLoop :=
  match x.calls[f]? with
  | some (.waiting k) =>
    if x.taskDone k = true then x.flushRest P t (x.calls.set f .returned) else (none, x)
  | _ => (none, x)

/-- **One turn of the loop**: the moment of the write if there is one, and what is then. -/
def StoreLoop.step (x : StoreLoop) (t : Turn) : Option Time × StoreLoop :=
  match t.action with
  | .update instanceId payload => x.update P interval instanceId payload t
  | .task k => x.flushAfter P k t
  | .flush => x.flush P t
  | .resume f => x.resume P f t

/-- A turn of the loop, in the course of a run. -/
abbrev LoopEvent := Event StoreLoop Turn (Option Time)

/-- The loop's clock does not go back, and never says zero. -/
def InTime (es : List LoopEvent) (t : Turn) : Prop :=
  0 < t.now ∧ t.now ≤ t.writing ∧ ∀ e ∈ es, e.call.writing ≤ t.now

/-- **Runs of the store**, in any order of the turns. -/
abbrev LoopRun := Run (StoreLoop.step P interval) InTime StoreLoop.start

end Step

/-! ### What a turn can do -/

section Turned

variable (P : Platform) (interval : Time)

/-- **What a turn of the loop can do.** -/
inductive StoreLoop.Turned (x : StoreLoop) (t : Turn) : Option Time → StoreLoop → Prop
  /-- Nothing. -/
  | still : Turned x t none x
  /-- An update writes at once. -/
  | writes {instanceId payload} (haction : t.action = .update instanceId payload)
      (hlate : x.store.lastWriteTime = 0 ∨ x.store.lastWriteTime + interval ≤ t.now) :
      Turned x t (some t.writing) { x with
        store := { x.store with
          instances := x.store.instances.insert instanceId payload
          dirty := true }.writeLocked P t }
  /-- An update arms a flush task. -/
  | arms {instanceId payload} (haction : t.action = .update instanceId payload)
      (hearly : t.now < x.store.lastWriteTime + interval)
      (hdone : x.store.flushTask.all x.taskDone = true) :
      Turned x t none { x with
        store := { x.store with
          instances := x.store.instances.insert instanceId payload
          dirty := true
          flushTask := some x.tasks.length }
        tasks := x.tasks ++
          [⟨t.now, interval - (t.now - x.store.lastWriteTime), .created, false⟩] }
  /-- An update leaves its payload to the flush task that is armed. -/
  | leaves {instanceId payload} (haction : t.action = .update instanceId payload)
      (hpending : x.store.flushTask.all x.taskDone = false) :
      Turned x t none { x with
        store := { x.store with
          instances := x.store.instances.insert instanceId payload
          dirty := true } }
  /-- A flush task falls asleep. -/
  | sleeps {k task} (haction : t.action = .task k) (htask : x.tasks[k]? = some task)
      (hphase : task.phase = .created) (hcancelled : task.cancelled = false) :
      Turned x t none (x.setPhase k (.sleeping t.now))
  /-- A flush task ends that has been cancelled. -/
  | ends {k task store} (haction : t.action = .task k) (htask : x.tasks[k]? = some task)
      (hphase : task.phase ≠ .done) (hcancelled : task.cancelled = true)
      (hstore : store = x.store ∨ store = x.store.release k) :
      Turned x t none ({ x with store := store }.setPhase k .done)
  /-- A flush task wakes and writes what there is. -/
  | wakes {k task since} (haction : t.action = .task k) (htask : x.tasks[k]? = some task)
      (hphase : task.phase = .sleeping since) (hcancelled : task.cancelled = false)
      (hdue : since + max 0 task.delay ≤ t.now) :
      Turned x t (x.store.writeIfDirty P t).1
        ({ x with store := (x.store.writeIfDirty P t).2.release k }.setPhase k .done)
  /-- A call of `flush` has nothing to wait for. -/
  | flushes {store} (haction : t.action = .flush)
      (hstore : store = { x.store with flushTask := none })
      (hdone : x.store.flushTask.all x.taskDone = true) :
      Turned x t (store.writeIfDirty P t).1
        { x with store := (store.writeIfDirty P t).2, calls := x.calls ++ [.returned] }
  /-- A call of `flush` cancels the flush task that is armed, and waits for it. -/
  | cancels {k} (haction : t.action = .flush) (harmed : x.store.flushTask = some k)
      (hpending : x.taskDone k = false) :
      Turned x t none { x with
        store := { x.store with flushTask := none }
        tasks := x.tasks.modify k fun task => { task with cancelled := true }
        calls := x.calls ++ [.waiting k] }
  /-- A call of `flush` writes what there is and returns. -/
  | returns {f k} (haction : t.action = .resume f) (hcall : x.Waits f k)
      (hdone : x.taskDone k = true) :
      Turned x t (x.store.writeIfDirty P t).1
        { x with store := (x.store.writeIfDirty P t).2, calls := x.calls.set f .returned }

variable {P interval} {x : StoreLoop} {t : Turn} {k : ℕ}

variable (P interval x t) in
/-- **Every turn of the loop is one of these.** -/
theorem turned_step :
    x.Turned P interval t (x.step P interval t).1 (x.step P interval t).2 := by
  cases haction : t.action with
  | update instanceId payload =>
    simp only [StoreLoop.step, haction]
    unfold StoreLoop.update
    dsimp only
    split
    · next hlate => exact .writes haction (hlate.imp_right le_sub_iff_add_le'.mp)
    · next hlate =>
      have hearly : t.now < x.store.lastWriteTime + interval :=
        sub_lt_iff_lt_add'.mp (not_le.mp (not_or.mp hlate).2)
      split
      · next hdone => exact .arms haction hearly hdone
      · next hpending => exact .leaves haction (Bool.not_eq_true _ ▸ hpending)
  | task k =>
    simp only [StoreLoop.step, haction]
    unfold StoreLoop.flushAfter
    split
    · exact .still
    · next task htask =>
      split
      · exact .still
      · next hphase =>
        split
        · next hcancelled => exact .ends haction htask (by simp [hphase]) hcancelled (.inl rfl)
        · next hcancelled =>
          exact .sleeps haction htask hphase (Bool.not_eq_true _ ▸ hcancelled)
      · next since hphase =>
        split
        · next hcancelled => exact .ends haction htask (by simp [hphase]) hcancelled (.inr rfl)
        · next hcancelled =>
          split
          · next hdue =>
            exact .wakes haction htask hphase (Bool.not_eq_true _ ▸ hcancelled) hdue
          · exact .still
  | flush =>
    simp only [StoreLoop.step, haction]
    unfold StoreLoop.flush
    dsimp only
    split
    · next hnone => exact .flushes haction rfl (by rw [hnone]; rfl)
    · next k harmed =>
      split
      · next hdone => exact .flushes haction rfl (by rw [harmed]; exact hdone)
      · next hpending => exact .cancels haction harmed (Bool.not_eq_true _ ▸ hpending)
  | resume f =>
    simp only [StoreLoop.step, haction]
    unfold StoreLoop.resume
    split
    · next k hcall =>
      split
      · next hdone => exact .returns haction hcall hdone
      · exact .still
    · exact .still

end Turned

/-! ### What is claimed -/

/-- The file shows what is in memory. Before the first write, that is nothing. -/
def SnapshotStore.Saved (s : SnapshotStore) : Prop :=
  (s.stateFile.map (·.field "instances")).getD (.obj []) = .obj s.instances.entries

/-- When a task is due: as long after it was created as it is to wait. Its sleep is as long
and begins with its first turn, so it wakes as much later as that turn is. -/
def FlushTask.due (task : FlushTask) : Time := task.armed + task.delay

/-- A task that is still to write. -/
def FlushTask.Pending (task : FlushTask) : Prop := task.phase ≠ .done ∧ task.cancelled = false

/-- A task that is still to write, and due within the interval after the last write. -/
structure FlushTask.Timely (interval lastWriteTime : Time) (task : FlushTask) : Prop where
  pending : task.Pending
  waits : 0 ≤ task.delay
  due : task.due ≤ lastWriteTime + interval

/-- A task that is not to write any more. -/
def FlushTask.Ended (task : FlushTask) : Prop := task.phase = .done ∨ task.cancelled = true

/-- **A flush task is pending**, and due within the interval after the last write. -/
def StoreLoop.Armed (interval : Time) (x : StoreLoop) : Prop :=
  ∃ k task, x.store.flushTask = some k ∧ x.tasks[k]? = some task ∧
    task.Timely interval x.store.lastWriteTime

/-- **A call of `flush` is in progress**: it waits for a task that it has cancelled. -/
def StoreLoop.Flushing (x : StoreLoop) : Prop :=
  ∃ f k task, x.Waits f k ∧ x.tasks[k]? = some task ∧ task.Ended

/-- No flush task is to run any more, and no call of `flush` is in progress. -/
def StoreLoop.Quiet (x : StoreLoop) : Prop :=
  (∀ task ∈ x.tasks, task.phase = .done) ∧ ∀ f k, ¬ x.Waits f k

/-- A turn of a flush task that is not at its end, or of a call of `flush` that waits. -/
def StoreLoop.Resumes (x : StoreLoop) (t : Turn) : Prop :=
  (∃ k, t.action = .task k ∧ x.taskDone k = false) ∨ ∃ f k, t.action = .resume f ∧ x.Waits f k

/-- A turn that is no update. -/
def Turn.NoUpdate (t : Turn) : Prop := ∀ instanceId payload, t.action ≠ .update instanceId payload

/-- A call of `flush` returns in this turn. -/
def FlushReturns (e : LoopEvent) : Prop :=
  ∃ f, ¬ e.before.Returned f ∧ e.after.Returned f

section Keeps

variable {P : Platform} {interval : Time} {x x' : StoreLoop} {t : Turn} {es : List LoopEvent}
  {s : SnapshotStore} {out : Option Time}

/-! ### Writing -/

/-- What is written is what is in memory. -/
theorem saved_writeLocked (s : SnapshotStore) (t : Turn) : (s.writeLocked P t).Saved := rfl

/-- A write, if there is something to write. -/
theorem writeIfDirty_cases (P : Platform) (s : SnapshotStore) (t : Turn) :
    (s.dirty = true ∧ s.writeIfDirty P t = (some t.writing, s.writeLocked P t)) ∨
      (s.dirty = false ∧ s.writeIfDirty P t = (none, s)) := by
  cases hdirty : s.dirty with
  | true => exact .inl ⟨rfl, if_pos hdirty⟩
  | false => exact .inr ⟨rfl, if_neg (by simp [hdirty])⟩

/-- After it there is nothing to write. -/
theorem writeIfDirty_clean : (s.writeIfDirty P t).2.dirty = false := by
  rcases writeIfDirty_cases P s t with ⟨-, h⟩ | ⟨hdirty, h⟩
  · rw [h]
    rfl
  · rw [h]
    exact hdirty

theorem saved_writeIfDirty (hs : s.dirty = false → s.Saved) : (s.writeIfDirty P t).2.Saved := by
  rcases writeIfDirty_cases P s t with ⟨-, h⟩ | ⟨hdirty, h⟩
  · rw [h]
    exact saved_writeLocked s t
  · rw [h]
    exact hs hdirty

/-- It leaves the armed task. -/
theorem writeIfDirty_flushTask : (s.writeIfDirty P t).2.flushTask = s.flushTask := by
  rcases writeIfDirty_cases P s t with ⟨-, h⟩ | ⟨-, h⟩
  · rw [h]
    rfl
  · rw [h]

/-- It writes at the time of the turn, or it leaves the time of the last write. -/
theorem writeIfDirty_written (P : Platform) (s : SnapshotStore) (t : Turn) :
    ((s.writeIfDirty P t).1 = some t.writing ∧
        (s.writeIfDirty P t).2.lastWriteTime = t.writing) ∨
      ((s.writeIfDirty P t).1 = none ∧
        (s.writeIfDirty P t).2.lastWriteTime = s.lastWriteTime) := by
  rcases writeIfDirty_cases P s t with ⟨-, h⟩ | ⟨-, h⟩
  · exact .inl (by rw [h]; exact ⟨rfl, rfl⟩)
  · exact .inr (by rw [h]; exact ⟨rfl, rfl⟩)

/-- A task that is released is not the armed one any more; nothing else changes. -/
theorem release_eq (s : SnapshotStore) (k : ℕ) : s.release k =
    { s with flushTask := if s.flushTask = some k then none else s.flushTask } := by
  unfold SnapshotStore.release
  split <;> rfl

theorem taskDone_iff {k : ℕ} :
    x.taskDone k = true ↔ ∀ task, x.tasks[k]? = some task → task.phase = .done := by
  rw [StoreLoop.taskDone]
  cases x.tasks[k]? with
  | none => simp
  | some task => simp

/-! ### The invariant -/

/-- **What holds in a run**: a store that is not dirty is saved; the task of the handle is
pending and due in time; if the store is dirty there is such a task or a call of `flush`;
what such a call waits for will not write; and the last write is past. -/
structure StoreLoop.Kept (interval : Time) (es : List LoopEvent) (x : StoreLoop) : Prop where
  clean : x.store.dirty = false → x.store.Saved
  armed : ∀ k, x.store.flushTask = some k → ∃ task, x.tasks[k]? = some task ∧
    task.Timely interval x.store.lastWriteTime
  dirty : x.store.dirty = true → x.store.flushTask ≠ none ∨ ∃ f k, x.Waits f k
  waiting : ∀ f k, x.Waits f k → ∃ task, x.tasks[k]? = some task ∧ task.Ended
  past : ∀ now, 0 < now → (∀ e ∈ es, e.call.writing ≤ now) → x.store.lastWriteTime ≤ now

/-- **What a turn writes**: it writes at its own time and this is the last write, or it does
not write and the time of the last write is what it was. -/
theorem written_of_turned (h : x.Turned P interval t out x') :
    (out = some t.writing ∧ x'.store.lastWriteTime = t.writing) ∨
      (out = none ∧ x'.store.lastWriteTime = x.store.lastWriteTime) := by
  cases h with
  | still => exact .inr ⟨rfl, rfl⟩
  | writes => exact .inl ⟨rfl, rfl⟩
  | arms => exact .inr ⟨rfl, rfl⟩
  | leaves => exact .inr ⟨rfl, rfl⟩
  | sleeps => exact .inr ⟨rfl, rfl⟩
  | ends _ _ _ _ hstore =>
    rcases hstore with rfl | rfl
    · exact .inr ⟨rfl, rfl⟩
    · exact .inr ⟨rfl, by rw [release_eq]; rfl⟩
  | wakes =>
    rw [release_eq]
    exact writeIfDirty_written P x.store t
  | flushes _ hstore =>
    subst hstore
    exact writeIfDirty_written P _ t
  | cancels => exact .inr ⟨rfl, rfl⟩
  | returns => exact writeIfDirty_written P x.store t

/-- The time of the last write is that of the turn, or what it was. -/
theorem lastWriteTime_of_turned (h : x.Turned P interval t out x') :
    x'.store.lastWriteTime = t.writing ∨ x'.store.lastWriteTime = x.store.lastWriteTime :=
  (written_of_turned h).imp And.right And.right

/-- A store that is not dirty after a turn is saved. -/
theorem saved_of_turned (h : x.Turned P interval t out x')
    (hclean : x.store.dirty = false → x.store.Saved) (hdirty : x'.store.dirty = false) :
    x'.store.Saved := by
  cases h with
  | still => exact hclean hdirty
  | writes => exact saved_writeLocked _ t
  | arms => cases hdirty
  | leaves => cases hdirty
  | sleeps => exact hclean hdirty
  | ends _ _ _ _ hstore =>
    rcases hstore with rfl | rfl
    · exact hclean hdirty
    · rw [release_eq] at hdirty ⊢
      exact hclean hdirty
  | wakes =>
    rw [release_eq]
    exact saved_writeIfDirty hclean
  | flushes _ hstore =>
    subst hstore
    exact saved_writeIfDirty hclean
  | cancels => exact hclean hdirty
  | returns => exact saved_writeIfDirty hclean

/-- A task that is not to write any more is not to write after any turn. -/
theorem ended_of_turned {k : ℕ} {task : FlushTask} (h : x.Turned P interval t out x')
    (htask : x.tasks[k]? = some task) (hended : task.Ended) :
    ∃ task', x'.tasks[k]? = some task' ∧ task'.Ended := by
  -- a turn changes one task at most: it cancels it, brings it to its end, or lays it to sleep
  have hmodify {k' : ℕ} {f : FlushTask → FlushTask}
      (hf : k' = k → (f task).Ended) : ∃ task', (x.tasks.modify k' f)[k]? = some task' ∧
        task'.Ended := by
    by_cases hk : k' = k
    · subst hk
      exact ⟨f task, by rw [List.getElem?_modify_eq, htask]; rfl, hf rfl⟩
    · exact ⟨task, by rw [List.getElem?_modify_ne _ _ hk, htask], hended⟩
  cases h with
  | still => exact ⟨task, htask, hended⟩
  | writes => exact ⟨task, htask, hended⟩
  | arms =>
    obtain ⟨hlt, -⟩ := List.getElem?_eq_some_iff.mp htask
    exact ⟨task, by rw [List.getElem?_append_left hlt, htask], hended⟩
  | leaves => exact ⟨task, htask, hended⟩
  | @sleeps k' task' _ htask' hphase hcancelled =>
    refine hmodify fun hk => ?_
    subst hk
    obtain rfl := Option.some.inj (htask.symm.trans htask')
    rcases hended with hdone | hcancel
    · rw [hphase] at hdone
      cases hdone
    · rw [hcancelled] at hcancel
      cases hcancel
  | ends => exact hmodify fun _ => .inl rfl
  | wakes => exact hmodify fun _ => .inl rfl
  | flushes => exact ⟨task, htask, hended⟩
  | cancels => exact hmodify fun _ => .inr rfl
  | returns => exact ⟨task, htask, hended⟩

/-- A task that is not at its end is there. -/
theorem exists_of_taskDone {k : ℕ} (h : x.taskDone k = false) :
    ∃ task, x.tasks[k]? = some task ∧ task.phase ≠ .done := by
  by_contra hnone
  refine Bool.false_ne_true (h.symm.trans (taskDone_iff.mpr fun task htask => ?_))
  by_contra hphase
  exact hnone ⟨task, htask, hphase⟩

/-- A call that waits after a turn waits for a task that is not to write any more. -/
theorem waits_of_turned {f k : ℕ} (h : x.Turned P interval t out x')
    (hwaiting : ∀ f k, x.Waits f k → ∃ task, x.tasks[k]? = some task ∧ task.Ended)
    (hwaits : x'.Waits f k) : ∃ task, x'.tasks[k]? = some task ∧ task.Ended := by
  have hold (hwaits : x.Waits f k) : ∃ task, x'.tasks[k]? = some task ∧ task.Ended := by
    obtain ⟨task, htask, hended⟩ := hwaiting f k hwaits
    exact ended_of_turned h htask hended
  cases h with
  | still => exact hold hwaits
  | writes => exact hold hwaits
  | arms => exact hold hwaits
  | leaves => exact hold hwaits
  | sleeps => exact hold hwaits
  | ends => exact hold hwaits
  | wakes => exact hold hwaits
  | flushes =>
    rcases getElem?_concat_cases hwaits with hwaits | ⟨-, hcall⟩
    · exact hold hwaits
    · cases hcall
  | @cancels k' _ harmed hpending =>
    -- the new call waits for the task that has just been cancelled
    rcases getElem?_concat_cases hwaits with hwaits | ⟨-, hcall⟩
    · exact hold hwaits
    · obtain rfl := FlushCall.waiting.inj hcall
      obtain ⟨task, htask, -⟩ := exists_of_taskDone hpending
      exact ⟨{ task with cancelled := true }, by rw [List.getElem?_modify_eq, htask]; rfl, .inr rfl⟩
  | @returns f' k' _ hcall =>
    rw [StoreLoop.Waits, List.getElem?_set] at hwaits
    split_ifs at hwaits with hf hlt
    · cases hwaits
    · exact hold hwaits

/-- The task of the handle after a turn is pending, and due in time. -/
theorem armed_of_turned {k : ℕ} (h : x.Turned P interval t out x')
    (hlast : x.store.lastWriteTime ≤ x'.store.lastWriteTime)
    (harmed : ∀ k, x.store.flushTask = some k → ∃ task, x.tasks[k]? = some task ∧
      task.Timely interval x.store.lastWriteTime)
    (hk : x'.store.flushTask = some k) : ∃ task, x'.tasks[k]? = some task ∧
      task.Timely interval x'.store.lastWriteTime := by
  -- a task that was armed and is left alone
  have hkeep (hk : x.store.flushTask = some k) (htasks : x'.tasks[k]? = x.tasks[k]?) :
      ∃ task, x'.tasks[k]? = some task ∧ task.Timely interval x'.store.lastWriteTime := by
    obtain ⟨task, htask, htimely⟩ := harmed k hk
    exact ⟨task, htasks.trans htask, htimely.pending, htimely.waits,
      htimely.due.trans (add_le_add_left hlast interval)⟩
  cases h with
  | still => exact hkeep hk rfl
  | writes => exact hkeep hk rfl
  | arms _ hearly =>
    obtain rfl := Option.some.inj hk
    refine ⟨_, List.getElem?_concat_length, ⟨nofun, rfl⟩, ?_, le_of_eq ?_⟩
    · exact sub_nonneg.mpr (sub_le_iff_le_add'.mpr hearly.le)
    · change t.now + (interval - (t.now - x.store.lastWriteTime)) =
        x.store.lastWriteTime + interval
      rw [sub_sub_eq_add_sub, add_sub_cancel, add_comm]
  | leaves => exact hkeep hk rfl
  | @sleeps k' task _ htask hphase hcancelled =>
    obtain ⟨task', htask', htimely⟩ := harmed k hk
    by_cases hne : k' = k
    · subst hne
      refine ⟨{ task' with phase := .sleeping t.now }, ?_, ⟨nofun, htimely.pending.2⟩,
        htimely.waits, htimely.due⟩
      rw [StoreLoop.setPhase, List.getElem?_modify_eq, htask']
      rfl
    · exact hkeep hk (List.getElem?_modify_ne _ _ hne)
  | @ends k' task store _ htask _ hcancelled hstore =>
    have hk' : x.store.flushTask = some k := by
      rcases hstore with rfl | rfl
      · exact hk
      · change (x.store.release k').flushTask = some k at hk
        rw [release_eq] at hk
        dsimp only at hk
        split_ifs at hk
        exact hk
    refine hkeep hk' (List.getElem?_modify_ne _ _ fun hne => ?_)
    obtain ⟨task', htask', htimely⟩ := harmed k hk'
    obtain rfl := Option.some.inj (htask.symm.trans (hne ▸ htask'))
    exact Bool.false_ne_true (htimely.pending.2.symm.trans hcancelled)
  | @wakes k' =>
    change ((x.store.writeIfDirty P t).2.release k').flushTask = some k at hk
    rw [release_eq] at hk
    dsimp only at hk
    split_ifs at hk with hne
    rw [writeIfDirty_flushTask] at hk hne
    refine hkeep hk (List.getElem?_modify_ne _ _ fun hne' => hne ?_)
    rw [hk, hne']
  | flushes _ hstore =>
    subst hstore
    rw [show ((_ : SnapshotStore).writeIfDirty P t).2.flushTask = none from
      writeIfDirty_flushTask] at hk
    cases hk
  | cancels => cases hk
  | returns => exact hkeep (writeIfDirty_flushTask ▸ hk) rfl

/-- A store that is dirty after a turn has an armed task, or a call of `flush` waits. -/
theorem dirty_of_turned (h : x.Turned P interval t out x')
    (harmed : ∀ k, x.store.flushTask = some k → ∃ task, x.tasks[k]? = some task ∧
      task.Timely interval x.store.lastWriteTime)
    (hdirty : x.store.dirty = true → x.store.flushTask ≠ none ∨ ∃ f k, x.Waits f k)
    (hdirty' : x'.store.dirty = true) : x'.store.flushTask ≠ none ∨ ∃ f k, x'.Waits f k := by
  have hclean {s : SnapshotStore} (hs : (s.writeIfDirty P t).2.dirty = true) : False :=
    Bool.false_ne_true (writeIfDirty_clean.symm.trans hs)
  cases h with
  | still => exact hdirty hdirty'
  | writes => cases hdirty'
  | arms => exact .inl nofun
  | leaves _ hpending =>
    refine .inl fun hnone => ?_
    change x.store.flushTask = none at hnone
    rw [hnone] at hpending
    cases hpending
  | sleeps => exact hdirty hdirty'
  | @ends k task store _ htask _ hcancelled hstore =>
    rcases hstore with rfl | rfl
    · exact hdirty hdirty'
    · -- the armed task is not the one that has been cancelled
      have hne : x.store.flushTask ≠ some k := by
        intro hk
        obtain ⟨task', htask', htimely⟩ := harmed k hk
        obtain rfl := Option.some.inj (htask.symm.trans htask')
        exact Bool.false_ne_true (htimely.pending.2.symm.trans hcancelled)
      rw [release_eq] at hdirty' ⊢
      rw [if_neg hne]
      exact hdirty hdirty'
  | wakes =>
    rw [release_eq] at hdirty'
    exact (hclean hdirty').elim
  | flushes => exact (hclean hdirty').elim
  | cancels => exact .inr ⟨x.calls.length, _, List.getElem?_concat_length⟩
  | returns => exact (hclean hdirty').elim

/-- **The invariant holds in every run.** -/
theorem kept_of_loopRun (hrun : LoopRun P interval es x) : x.Kept interval es := by
  refine hrun.invariant (I := fun es x => x.Kept interval es) ?_ ?_
  · exact ⟨fun _ => rfl, nofun, nofun, nofun, fun now hnow _ => hnow.le⟩
  · intro es x t _ h hin
    have hturned := turned_step P interval x t
    have hpast : x.store.lastWriteTime ≤ t.now := h.past t.now hin.1 hin.2.2
    have hlast := lastWriteTime_of_turned hturned
    have hmono : x.store.lastWriteTime ≤ (x.step P interval t).2.store.lastWriteTime := by
      rcases hlast with hlast | hlast
      · exact hlast ▸ hpast.trans hin.2.1
      · exact hlast.ge
    exact {
      clean := saved_of_turned hturned h.clean
      armed := fun k hk => armed_of_turned hturned hmono h.armed hk
      dirty := dirty_of_turned hturned h.armed h.dirty
      waiting := fun f k => waits_of_turned hturned h.waiting
      past := fun now hnow hes => by
        rcases hlast with hlast | hlast
        · exact hlast ▸ hes _ (List.mem_append_right _ (List.mem_singleton_self _))
        · exact hlast ▸ h.past now hnow fun e he => hes e (List.mem_append_left _ he) }

/-! ### The file catches up -/

/-- A call of `flush` that returns leaves nothing to write. -/
theorem dirty_of_returns {e : LoopEvent} (h : e.before.Turned P interval t out e.after)
    (hreturns : FlushReturns e) : e.after.store.dirty = false := by
  obtain ⟨x, t', out', x'⟩ := e
  obtain ⟨f, hbefore, hafter⟩ := hreturns
  dsimp only at h hbefore hafter ⊢
  cases h with
  | still => exact absurd hafter hbefore
  | writes => exact absurd hafter hbefore
  | arms => exact absurd hafter hbefore
  | leaves => exact absurd hafter hbefore
  | sleeps => exact absurd hafter hbefore
  | ends => exact absurd hafter hbefore
  | wakes => exact absurd hafter hbefore
  | flushes => exact writeIfDirty_clean
  | cancels =>
    -- the call that this turn adds waits
    rcases getElem?_concat_cases hafter with hafter | ⟨-, hcall⟩
    · exact absurd hafter hbefore
    · cases hcall
  | returns => exact writeIfDirty_clean

/-- Only an update gives the store something to write. -/
theorem dirty_of_noUpdate (h : x.Turned P interval t out x') (ht : t.NoUpdate)
    (hx : x.store.dirty = false) : x'.store.dirty = false := by
  cases h with
  | still => exact hx
  | writes haction => exact absurd haction (ht _ _)
  | arms haction => exact absurd haction (ht _ _)
  | leaves haction => exact absurd haction (ht _ _)
  | sleeps => exact hx
  | ends _ _ _ _ hstore =>
    rcases hstore with rfl | rfl
    · exact hx
    · rw [release_eq]
      exact hx
  | wakes =>
    rw [release_eq]
    exact writeIfDirty_clean
  | flushes => exact writeIfDirty_clean
  | cancels => exact hx
  | returns => exact writeIfDirty_clean

/-- After a call of `flush` has returned, there is nothing to write until the next update. -/
theorem dirty_of_returned (hrun : LoopRun P interval es x) : ∀ pre e post,
    es = pre ++ e :: post → FlushReturns e → (∀ e' ∈ post, e'.call.NoUpdate) →
      x.store.dirty = false := by
  refine hrun.invariant (I := fun es x => ∀ pre e post, es = pre ++ e :: post → FlushReturns e →
    (∀ e' ∈ post, e'.call.NoUpdate) → x.store.dirty = false) ?_ ?_
  · intro pre e post hes
    simp at hes
  · intro es x t _ ih _ pre e post hes hreturns hpost
    have hturned := turned_step P interval x t
    rcases List.eq_nil_or_concat post with rfl | ⟨post', e', rfl⟩
    · obtain ⟨-, he⟩ := List.append_inj' hes rfl
      obtain rfl := List.head_eq_of_cons_eq he
      exact dirty_of_returns hturned hreturns
    · rw [List.concat_eq_append, ← List.cons_append, ← List.append_assoc] at hes
      obtain ⟨hes', he⟩ := List.append_inj' hes rfl
      obtain rfl := List.head_eq_of_cons_eq he
      simp only [List.concat_eq_append, List.mem_append, List.mem_singleton] at hpost
      exact dirty_of_noUpdate hturned (hpost _ (.inr rfl))
        (ih pre e post' hes' hreturns fun e' he' => hpost e' (.inl he'))

/-- The clock can go on from any history. -/
theorem exists_inTime (es : List LoopEvent) :
    ∃ m : Time, 0 < m ∧ ∀ e ∈ es, e.call.writing ≤ m := by
  induction es with
  | nil => exact ⟨1, Int.one_pos, fun _ he => (List.not_mem_nil he).elim⟩
  | cons e es ih =>
    obtain ⟨m, hm, hes⟩ := ih
    refine ⟨max m e.call.writing, lt_max_of_lt_left hm, fun e' he' => ?_⟩
    rcases List.mem_cons.mp he' with rfl | he'
    · exact le_max_right _ _
    · exact (hes e' he').trans (le_max_left _ _)

/-- A turn at a moment. -/
def turnAt (action : LoopAction) (m : Time) : Turn := ⟨action, m, m, m⟩

/-- A run that goes on by turns of what is pending until there is nothing to write. -/
def CatchesUp (P : Platform) (interval : Time) (es : List LoopEvent) : Prop :=
  ∃ es' x', LoopRun P interval (es ++ es') x' ∧ (∀ e ∈ es', e.before.Resumes e.call) ∧
    x'.store.dirty = false

/-- One more turn at the beginning. -/
theorem catchesUp_cons {e : LoopEvent} (he : e.before.Resumes e.call)
    (h : CatchesUp P interval (es ++ [e])) : CatchesUp P interval es := by
  obtain ⟨es', x', hrun, hes', hx'⟩ := h
  refine ⟨e :: es', x', ?_, ?_, hx'⟩
  · rw [List.append_cons]
    exact hrun
  · intro e' he'
    rcases List.mem_cons.mp he' with rfl | he'
    · exact he
    · exact hes' e' he'

/-- A task that is not at its end gets a turn. -/
theorem resumes_task {k : ℕ} {task : FlushTask} (htask : x.tasks[k]? = some task)
    (hphase : task.phase ≠ .done) (m : Time) : x.Resumes (turnAt (.task k) m) := by
  refine .inl ⟨k, rfl, ?_⟩
  rw [StoreLoop.taskDone, htask]
  exact decide_eq_false hphase

/-- There may be nothing to write already. -/
theorem catchesUp_of_clean (hrun : LoopRun P interval es x) (hx : x.store.dirty = false) :
    CatchesUp P interval es :=
  ⟨[], x, by rw [List.append_nil]; exact hrun, fun _ he => (List.not_mem_nil he).elim, hx⟩

/-- A flush task that sleeps wakes and writes. -/
theorem catchesUp_of_sleeping {k : ℕ} {task : FlushTask} {since : Time}
    (hrun : LoopRun P interval es x) (htask : x.tasks[k]? = some task)
    (hphase : task.phase = .sleeping since) (hcancelled : task.cancelled = false) :
    CatchesUp P interval es := by
  obtain ⟨m, hm, hes⟩ := exists_inTime es
  have hstep : (x.step P interval
      (turnAt (.task k) (max m (since + max 0 task.delay)))).2.store.dirty = false := by
    simp only [StoreLoop.step, turnAt]
    unfold StoreLoop.flushAfter
    rw [htask]
    dsimp only
    rw [hphase]
    dsimp only
    rw [if_neg (by rw [hcancelled]; exact Bool.false_ne_true), if_pos (le_max_right _ _)]
    change ((x.store.writeIfDirty P _).2.release k).dirty = false
    rw [release_eq]
    exact writeIfDirty_clean
  have hrun' := hrun.next (c := turnAt (.task k) (max m (since + max 0 task.delay)))
    ⟨lt_max_of_lt_left hm, le_rfl, fun e he => (hes e he).trans (le_max_left _ _)⟩
  exact catchesUp_cons (resumes_task htask (by simp [hphase]) _) (catchesUp_of_clean hrun' hstep)

/-- A call of `flush` returns once the task it waits for is at its end. -/
theorem catchesUp_of_done {f k : ℕ} (hrun : LoopRun P interval es x) (hwaits : x.Waits f k)
    (hdone : x.taskDone k = true) : CatchesUp P interval es := by
  obtain ⟨m, hm, hes⟩ := exists_inTime es
  have hstep : (x.step P interval (turnAt (.resume f) m)).2.store.dirty = false := by
    simp only [StoreLoop.step, turnAt]
    unfold StoreLoop.resume
    rw [hwaits]
    dsimp only
    rw [if_pos hdone]
    exact writeIfDirty_clean
  have hrun' := hrun.next (c := turnAt (.resume f) m) ⟨hm, le_rfl, hes⟩
  exact catchesUp_cons (.inr ⟨f, k, rfl, hwaits⟩) (catchesUp_of_clean hrun' hstep)

/-- A flush task that has not begun falls asleep first. -/
theorem catchesUp_of_created {k : ℕ} {task : FlushTask} (hrun : LoopRun P interval es x)
    (htask : x.tasks[k]? = some task) (hphase : task.phase = .created)
    (hcancelled : task.cancelled = false) : CatchesUp P interval es := by
  obtain ⟨m, hm, hes⟩ := exists_inTime es
  have hstep : (x.step P interval (turnAt (.task k) m)).2 = x.setPhase k (.sleeping m) := by
    simp only [StoreLoop.step, turnAt]
    unfold StoreLoop.flushAfter
    rw [htask]
    dsimp only
    rw [hphase]
    dsimp only
    rw [if_neg (by rw [hcancelled]; exact Bool.false_ne_true)]
  have hrun' := hrun.next (c := turnAt (.task k) m) ⟨hm, le_rfl, hes⟩
  have hsleeps : (x.step P interval (turnAt (.task k) m)).2.tasks[k]? =
      some { task with phase := .sleeping m } := by
    rw [hstep, StoreLoop.setPhase, List.getElem?_modify_eq, htask]
    rfl
  exact catchesUp_cons (resumes_task htask (by simp [hphase]) m)
    (catchesUp_of_sleeping hrun' hsleeps rfl hcancelled)

/-- A flush task that is cancelled ends with its next turn. -/
theorem step_cancelled {k : ℕ} {task : FlushTask} (htask : x.tasks[k]? = some task)
    (hphase : task.phase ≠ .done) (hcancelled : task.cancelled = true) (m : Time) :
    (x.step P interval (turnAt (.task k) m)).2.tasks = (x.setPhase k .done).tasks ∧
      (x.step P interval (turnAt (.task k) m)).2.calls = x.calls := by
  simp only [StoreLoop.step, turnAt]
  unfold StoreLoop.flushAfter
  rw [htask]
  dsimp only
  cases hphase' : task.phase with
  | done => exact absurd hphase' hphase
  | created =>
    dsimp only
    rw [if_pos hcancelled]
    exact ⟨rfl, rfl⟩
  | sleeping since =>
    dsimp only
    rw [if_pos hcancelled]
    exact ⟨rfl, rfl⟩

/-- A call of `flush` goes on once the task it waits for has come to its end. -/
theorem catchesUp_of_waiting {f k : ℕ} {task : FlushTask} (hrun : LoopRun P interval es x)
    (hwaits : x.Waits f k) (htask : x.tasks[k]? = some task) (hended : task.Ended) :
    CatchesUp P interval es := by
  by_cases hphase : task.phase = .done
  · refine catchesUp_of_done hrun hwaits (taskDone_iff.mpr fun task' htask' => ?_)
    obtain rfl := Option.some.inj (htask.symm.trans htask')
    exact hphase
  · -- the task ends first
    obtain ⟨m, hm, hes⟩ := exists_inTime es
    obtain ⟨htasks, hcalls⟩ := step_cancelled htask hphase
      (hended.resolve_left hphase) m
    have hrun' := hrun.next (c := turnAt (.task k) m) ⟨hm, le_rfl, hes⟩
    refine catchesUp_cons (resumes_task htask hphase m)
      (catchesUp_of_done (f := f) (k := k) hrun' ?_ ?_)
    · rw [StoreLoop.Waits, hcalls]
      exact hwaits
    · refine taskDone_iff.mpr fun task' htask' => ?_
      rw [htasks, StoreLoop.setPhase, List.getElem?_modify_eq, htask] at htask'
      obtain rfl := Option.some.inj htask'
      rfl

/-- **The file catches up** from every state, by turns of what is pending alone. -/
theorem catchesUp_of_run (hrun : LoopRun P interval es x) : CatchesUp P interval es := by
  have hkept := kept_of_loopRun hrun
  cases hdirty : x.store.dirty with
  | false => exact catchesUp_of_clean hrun hdirty
  | true =>
    rcases hkept.dirty hdirty with harmed | ⟨f, k, hwaits⟩
    · obtain ⟨k, hk⟩ := Option.ne_none_iff_exists'.mp harmed
      obtain ⟨task, htask, ⟨hphase, hcancelled⟩, -, -⟩ := hkept.armed k hk
      cases hphase' : task.phase with
      | done => exact absurd hphase' hphase
      | created => exact catchesUp_of_created hrun htask hphase' hcancelled
      | sleeping since => exact catchesUp_of_sleeping hrun htask hphase' hcancelled
    · obtain ⟨task, htask, hended⟩ := hkept.waiting f k hwaits
      exact catchesUp_of_waiting hrun hwaits htask hended

/-- Turns in the order of the clock are admitted. -/
theorem admits_inTime {ts : List Turn} (horder : ts.Pairwise fun t t' => t.writing ≤ t'.now)
    (hreadings : ∀ t ∈ ts, 0 < t.now ∧ t.now ≤ t.writing)
    (hes : ∀ e ∈ es, ∀ t ∈ ts, e.call.writing ≤ t.now) :
    Admits (StoreLoop.step P interval) InTime es x ts := by
  induction ts generalizing es x with
  | nil => trivial
  | cons t ts ih =>
    obtain ⟨hfirst, horder⟩ := List.pairwise_cons.mp horder
    obtain ⟨hpos, hle⟩ := hreadings t (by simp)
    refine ⟨⟨hpos, hle, fun e he => hes e he t (by simp)⟩, ih horder
      (fun t' ht' => hreadings t' (List.mem_cons_of_mem _ ht')) fun e he t' ht' => ?_⟩
    rcases List.mem_append.mp he with he | he
    · exact hes e he t' (List.mem_cons_of_mem _ ht')
    · obtain rfl := List.mem_singleton.mp he
      exact hfirst t' ht'

/-- While the file does not show what is in memory, a flush task is pending, or a call of
`flush` is in progress. -/
theorem StoreLoop.Kept.unsaved (h : x.Kept interval es) (hsaved : ¬ x.store.Saved) :
    x.Armed interval ∨ x.Flushing := by
  have hdirty : x.store.dirty = true := by
    by_contra hclean
    exact hsaved (h.clean (Bool.not_eq_true _ ▸ hclean))
  rcases h.dirty hdirty with harmed | ⟨f, k, hwaits⟩
  · obtain ⟨k, hk⟩ := Option.ne_none_iff_exists'.mp harmed
    obtain ⟨task, htask, htimely⟩ := h.armed k hk
    exact .inl ⟨k, task, hk, htask, htimely⟩
  · obtain ⟨task, htask, hended⟩ := h.waiting f k hwaits
    exact .inr ⟨f, k, task, hwaits, htask, hended⟩

/-- The file shows what is in memory once no task and no call is left. -/
theorem StoreLoop.Kept.quiet (h : x.Kept interval es) (hquiet : x.Quiet) : x.store.Saved := by
  by_contra hsaved
  rcases h.unsaved hsaved with ⟨k, task, -, htask, htimely⟩ | ⟨f, k, -, hwaits, -, -⟩
  · exact htimely.pending.1 (hquiet.1 task (List.mem_of_getElem? htask))
  · exact hquiet.2 f k hwaits

/-- **No update is lost**: while the file does not show what is in memory, a flush task is
pending that is due within the interval after the last write, or a call of `flush` is in
progress. So the file shows it once no task and no call is left, and when a call of
`flush` has returned and no update came after; and it comes to show it from every
state, by turns of the tasks and calls that are pending there alone. -/
theorem no_update_lost (hrun : LoopRun P interval es x) :
    (¬ x.store.Saved → x.Armed interval ∨ x.Flushing) ∧ (x.Quiet → x.store.Saved) ∧
      (∀ pre e post, es = pre ++ e :: post → FlushReturns e → (∀ e' ∈ post, e'.call.NoUpdate) →
        x.store.Saved) ∧
      ∃ es' x', LoopRun P interval (es ++ es') x' ∧ (∀ e ∈ es', e.before.Resumes e.call) ∧
        x'.store.Saved := by
  have hkept := kept_of_loopRun hrun
  refine ⟨hkept.unsaved, hkept.quiet, fun pre e post hes hreturns hpost =>
    hkept.clean (dirty_of_returned hrun pre e post hes hreturns hpost), ?_⟩
  obtain ⟨es', x', hrun', hes', hx'⟩ := catchesUp_of_run hrun
  exact ⟨es', x', hrun', hes', (kept_of_loopRun hrun').clean hx'⟩

end Keeps

/-! ### A sample -/

namespace Sample

/-- A reading of the loop's clock, in milliseconds. -/
def loopTime (n : ℤ) : Time := n * 1000

/-- A payload of the sample instance. -/
def payload (n : ℤ) (m : Time) : Turn := turnAt (.update "printer-1" (.int n)) m

/-- An update that writes, and one two tenths of a second later. -/
def rapidTurns : List Turn := [payload 1 (loopTime 100000), payload 2 (loopTime 100200)]

/-- Turns in the order of the clock are a run of the sample store. -/
theorem run_turns (ts : List Turn) (horder : ts.Pairwise fun t t' => t.writing ≤ t'.now)
    (hreadings : ∀ t ∈ ts, 0 < t.now ∧ t.now ≤ t.writing) : LoopRun platform (seconds 1)
      (eventsOf (StoreLoop.step platform (seconds 1)) StoreLoop.start ts)
      (final (StoreLoop.step platform (seconds 1)) StoreLoop.start ts) :=
  Run.start.of_calls (admits_inTime horder hreadings fun _ he => (List.not_mem_nil he).elim)

end Sample

open Sample in
/-- After the sample updates the file shows the first, and a flush task is armed. -/
theorem no_update_lost_sample : ∃ es x, LoopRun platform (seconds 1) es x ∧
    ¬ x.store.Saved ∧ x.Armed (seconds 1) := by
  have hrun := run_turns rapidTurns (by decide) (by decide)
  have hsaved : ¬ (final (StoreLoop.step platform (seconds 1)) StoreLoop.start
      rapidTurns).store.Saved := by
    intro hsaved
    cases hsaved
  refine ⟨_, _, hrun, hsaved, ((no_update_lost hrun).1 hsaved).resolve_right ?_⟩
  rintro ⟨f, k, task, hwaits, -⟩
  cases hwaits

end PrinterHmi
