import Mathlib.Data.List.Induction
import PrinterHmi.Service.SnapshotStore

/-!
# Monitors over a store that cannot always write

`monitor_forever` hands every snapshot of a printer host to the store, and when that raises
anything it hands the store the error instead, waits a little and starts again. A write of
the state file may fail wherever it is made: in the update of a snapshot, in the update of
the error handler itself, in a flush task, in a call of `flush` (`Service.step`).

The first of these does no harm. The handler writes again at once, since the last write is
as long ago as before, and what it writes has both. But nothing is around the handler: if
its write fails too, the monitor ends (`Service.Fatal`). And a flush task whose write fails
leaves a store that is dirty and has no task.

So a run without such a failure goes as if every write went through: it is a run of the
store (`Service.Simulated`), in which no update is lost; and no monitor ends but by
cancellation (`monitoring_survives`).
-/

namespace PrinterHmi

/-! ### Failures -/

/-- An exception, as a payload tells it: the name of its type, and its text. -/
structure Failure where
  typeName : String
  text : String
  deriving DecidableEq

/-- What the clocks say at a call of the store, and whether its write fails. -/
structure Reading where
  /-- The first reading of the loop's clock. -/
  now : Time
  /-- The reading at a write. -/
  writing : Time
  /-- The reading of the calendar. -/
  utcNow : Time
  /-- What a write raises, if there is one and it fails. -/
  fails : Option Failure

/-- The turn of the loop in which nothing fails. -/
def Reading.turn (r : Reading) (action : LoopAction) : Turn := ⟨action, r.now, r.writing, r.utcNow⟩

section Calls

variable (P : Platform) (interval : Time)

/-- What an update does before it looks at the clock. -/
def StoreLoop.put (x : StoreLoop) (instanceId : String) (payload : Json) : StoreLoop :=
  { x with store := { x.store with
      instances := x.store.instances.insert instanceId payload
      dirty := true } }

/-- `update`, and what it raises: if it comes to a write and that fails, it has changed
nothing but what is in memory. -/
def StoreLoop.tryUpdate (x : StoreLoop) (instanceId : String) (payload : Json) (r : Reading) :
    Option Failure × StoreLoop :=
  match r.fails, x.update P interval instanceId payload (r.turn (.update instanceId payload)) with
  | some e, (some _, _) => (some e, x.put instanceId payload)
  | _, (_, y) => (none, y)

/-- A turn of `_flush_after`. If its write fails the task is at its end, and is no longer the
one the store has armed. -/
def StoreLoop.tryFlushAfter (x : StoreLoop) (k : ℕ) (r : Reading) : StoreLoop :=
  match r.fails, x.flushAfter P k (r.turn (.task k)) with
  | some _, (some _, _) => { x with store := x.store.release k }.setPhase k .done
  | _, (_, y) => y

/-- `flush`, until it returns, raises or waits. -/
def StoreLoop.tryFlush (x : StoreLoop) (r : Reading) : StoreLoop :=
  match r.fails, x.flush P (r.turn .flush) with
  | some _, (some _, _) =>
    { x with store := { x.store with flushTask := none }, calls := x.calls ++ [.returned] }
  | _, (_, y) => y

/-- The rest of `flush`, once the task it waits for is at its end. -/
def StoreLoop.tryResume (x : StoreLoop) (f : ℕ) (r : Reading) : StoreLoop :=
  match r.fails, x.resume P f (r.turn (.resume f)) with
  | some _, (some _, _) => { x with calls := x.calls.set f .returned }
  | _, (_, y) => y

end Calls

/-! ### The monitors -/

/-- The printer host of a monitor. -/
structure Site where
  instanceId : String
  socketPath : String

/-- What a monitor stores of a snapshot. -/
def Site.snapshotPayload (site : Site) (snapshot : Dict String Json) : Json :=
  .obj (Entries.update [("connected", .bool true), ("error", .null),
    ("instance_id", .str site.instanceId), ("socket_path", .str site.socketPath)] snapshot.entries)

/-- What a monitor stores of an exception. -/
def Site.errorPayload (site : Site) (capturedAt : String) (e : Failure) : Json :=
  .obj [("captured_at", .str capturedAt), ("connected", .bool false),
    ("error", .str (e.typeName ++ ": " ++ e.text)), ("instance_id", .str site.instanceId),
    ("socket_path", .str site.socketPath)]

/-- Where a monitor is. -/
inductive MonitorPhase : Type where
  /-- It reads snapshots. -/
  | reading
  /-- It waits for its next attempt. -/
  | retrying
  /-- It has been cancelled. -/
  | cancelled
  /-- An exception has ended it. -/
  | ended (e : Failure)
  deriving DecidableEq

/-- A run of `monitor_forever`. -/
structure InstanceMonitor where
  site : Site
  phase : MonitorPhase

/-- **The service**: the store with the loop around it, and the monitors. -/
structure Service where
  loop : StoreLoop
  monitors : List InstanceMonitor

/-- What happens in the service. -/
inductive ServiceAction : Type where
  /-- A monitor gets a snapshot. -/
  | yields (i : ℕ) (snapshot : Dict String Json)
  /-- What a monitor reads raises. -/
  | raises (i : ℕ) (e : Failure)
  /-- A monitor has waited for its next attempt. -/
  | wakes (i : ℕ)
  /-- A monitor is cancelled. -/
  | cancels (i : ℕ)
  /-- A flush task gets a turn. -/
  | task (k : ℕ)
  /-- Somebody calls `flush`. -/
  | flush
  /-- A call of `flush` gets a turn. -/
  | resume (f : ℕ)

/-- A turn of the service: what happens, and what its first call of the store and the call of
the error handler meet. -/
structure ServiceTurn where
  action : ServiceAction
  first : Reading
  second : Reading
  /-- The reading of the calendar in the error handler. -/
  captured : Time

/-- The service before anything has happened. -/
def Service.start (sites : List Site) : Service := ⟨.start, sites.map (⟨·, .reading⟩)⟩

section Step

variable (P : Platform) (interval : Time)

/-- A monitor is now in this phase. -/
def Service.setPhase (x : Service) (i : ℕ) (phase : MonitorPhase) : Service :=
  { x with monitors := x.monitors.modify i fun m => { m with phase := phase } }

/-- The error handler of a monitor. Nothing catches what its own update raises. -/
def Service.handle (x : Service) (i : ℕ) (site : Site) (e : Failure) (t : ServiceTurn) : Service :=
  match x.loop.tryUpdate P interval site.instanceId
      (site.errorPayload (P.timestamp t.captured) e) t.second with
  | (none, loop) => { x with loop := loop }.setPhase i .retrying
  | (some e', loop) => { x with loop := loop }.setPhase i (.ended e')

/-- **A turn of the service.** -/
def Service.step (x : Service) (t : ServiceTurn) : Service :=
  match t.action with
  | .yields i snapshot =>
    match x.monitors[i]? with
    | some ⟨site, .reading⟩ =>
      match x.loop.tryUpdate P interval site.instanceId (site.snapshotPayload snapshot) t.first with
      | (none, loop) => { x with loop := loop }
      | (some e, loop) => Service.handle P interval { x with loop := loop } i site e t
    | _ => x
  | .raises i e =>
    match x.monitors[i]? with
    | some ⟨site, .reading⟩ => x.handle P interval i site e t
    | _ => x
  | .wakes i =>
    match x.monitors[i]? with
    | some ⟨_, .retrying⟩ => x.setPhase i .reading
    | _ => x
  | .cancels i =>
    match x.monitors[i]? with
    | some ⟨_, .reading⟩ | some ⟨_, .retrying⟩ => x.setPhase i .cancelled
    | _ => x
  | .task k => { x with loop := x.loop.tryFlushAfter P k t.first }
  | .flush => { x with loop := x.loop.tryFlush P t.first }
  | .resume f => { x with loop := x.loop.tryResume P f t.first }

/-- A turn of the service, in the course of a run. -/
abbrev ServiceEvent := Event Service ServiceTurn Unit

/-- The loop's clock does not go back, and never says zero. -/
def ServiceTurn.InTime (es : List ServiceEvent) (t : ServiceTurn) : Prop :=
  0 < t.first.now ∧ t.first.now ≤ t.first.writing ∧ t.first.writing ≤ t.second.now ∧
    t.second.now ≤ t.second.writing ∧ ∀ e ∈ es, e.call.second.writing ≤ t.first.now

/-- **Runs of the service**, in any order of the turns, with any write failing. -/
abbrev ServiceRun (sites : List Site) :=
  Run (fun (x : Service) t => ((), x.step P interval t)) ServiceTurn.InTime (.start sites)

end Step

/-! ### Failures nothing makes up for -/

/-- An update at this moment writes at once. -/
def StoreLoop.Late (interval : Time) (x : StoreLoop) (now : Time) : Prop :=
  x.store.lastWriteTime = 0 ∨ now - x.store.lastWriteTime ≥ interval

/-- A flush task wakes at this moment. -/
def StoreLoop.WakesAt (x : StoreLoop) (k : ℕ) (now : Time) : Prop :=
  ∃ task since, x.tasks[k]? = some task ∧ task.phase = .sleeping since ∧
    task.cancelled = false ∧ since + max 0 task.delay ≤ now

/-- A monitor reads. -/
def Service.Reads (x : Service) (i : ℕ) : Prop :=
  ∃ m, x.monitors[i]? = some m ∧ m.phase = .reading

/-- **A failure that nothing makes up for**: of the write of an error handler, which is made
at once after a failed write and else when the file may be written; or of a write of a flush
task or a call of `flush`. -/
def Service.Fatal (interval : Time) (x : Service) (t : ServiceTurn) : Prop :=
  match t.action with
  | .yields i _ => x.Reads i ∧ x.loop.Late interval t.first.now ∧ t.first.fails ≠ none ∧
      t.second.fails ≠ none
  | .raises i _ => x.Reads i ∧ x.loop.Late interval t.second.now ∧ t.second.fails ≠ none
  | .task k => x.loop.WakesAt k t.first.now ∧ x.loop.store.dirty = true ∧ t.first.fails ≠ none
  | .flush => x.loop.store.flushTask.all x.loop.taskDone = true ∧ x.loop.store.dirty = true ∧
      t.first.fails ≠ none
  | .resume f => (∃ k, x.loop.Waits f k ∧ x.loop.taskDone k = true) ∧
      x.loop.store.dirty = true ∧ t.first.fails ≠ none
  | .wakes _ | .cancels _ => False

/-- A turn of a flush task that is not at its end, or of a call of `flush` that waits, in which no
write fails. -/
def Service.Resumes (s : Service) (t : ServiceTurn) : Prop :=
  t.first.fails = none ∧ t.second.fails = none ∧
    ((∃ k, t.action = .task k ∧ s.loop.taskDone k = false) ∨
      ∃ f k, t.action = .resume f ∧ s.loop.Waits f k)

section Runs

variable {P : Platform} {interval : Time} {x y : StoreLoop} {r : Reading} {instanceId : String}
  {payload : Json}

/-! ### The calls of the store -/

/-- An update comes to a write exactly when the file may be written. -/
theorem update_eq_of_late {t : Turn} (h : x.Late interval t.now) :
    x.update P interval instanceId payload t =
      (some t.writing, { x with store := (x.put instanceId payload).store.writeLocked P t }) :=
  if_pos h

theorem update_eq_of_not_late (P : Platform) (instanceId : String) (payload : Json) {t : Turn}
    (h : ¬ x.Late interval t.now) : (x.update P interval instanceId payload t).1 = none := by
  unfold StoreLoop.update
  dsimp only
  rw [if_neg (show ¬ (x.store.lastWriteTime = 0 ∨ t.now - x.store.lastWriteTime ≥ interval)
    from h)]
  split <;> rfl

/-- **An update** raises if it comes to a write that fails; else it is as if nothing could. -/
theorem tryUpdate_cases (P : Platform) (interval : Time) (x : StoreLoop) (instanceId : String)
    (payload : Json) (r : Reading) :
    (x.Late interval r.now ∧ ∃ e, r.fails = some e ∧
        x.tryUpdate P interval instanceId payload r = (some e, x.put instanceId payload)) ∨
      (¬ (x.Late interval r.now ∧ r.fails ≠ none) ∧
        x.tryUpdate P interval instanceId payload r =
          (none, (x.update P interval instanceId payload
            (r.turn (.update instanceId payload))).2)) := by
  unfold StoreLoop.tryUpdate
  by_cases hlate : x.Late interval r.now
  · rw [update_eq_of_late (show x.Late interval (r.turn _).now from hlate)]
    cases hfails : r.fails with
    | none => exact .inr ⟨fun h => h.2 rfl, rfl⟩
    | some e => exact .inl ⟨hlate, e, rfl, rfl⟩
  · have hnone := update_eq_of_not_late P instanceId payload
      (show ¬ x.Late interval (r.turn (.update instanceId payload)).now from hlate)
    refine .inr ⟨fun h => hlate h.1, ?_⟩
    generalize x.update P interval instanceId payload (r.turn (.update instanceId payload)) = u at *
    obtain ⟨out, y⟩ := u
    cases hnone
    cases r.fails <;> rfl

/-- An update after one whose write has failed goes as if that had not been made. -/
theorem update_put {payload' : Json} (t : Turn) :
    (x.put instanceId payload).update P interval instanceId payload' t =
      x.update P interval instanceId payload' t := by
  have hinsert : (x.store.instances.insert instanceId payload).insert instanceId payload' =
      x.store.instances.insert instanceId payload' := by
    ext k : 1
    rw [Dict.get?_insert, Dict.get?_insert, Dict.get?_insert]
    split <;> rfl
  unfold StoreLoop.update StoreLoop.put
  simp only [hinsert]
  rfl

/-- What is written was not written yet. -/
theorem dirty_of_writeIfDirty {s : SnapshotStore} {t : Turn}
    (h : (s.writeIfDirty P t).1 ≠ none) : s.dirty = true := by
  rcases writeIfDirty_cases P s t with ⟨hdirty, -⟩ | ⟨-, hnone⟩
  · exact hdirty
  · exact absurd (congrArg Prod.fst hnone) h

/-- **What a turn of the loop writes**: an update, a flush task that wakes, or a call of `flush`
that has nothing to wait for any more. -/
theorem cases_of_writes {t : Turn} {out : Option Time} (h : x.Turned P interval t out y)
    (hout : out ≠ none) :
    (∃ instanceId payload, t.action = .update instanceId payload) ∨
      (∃ k, t.action = .task k ∧ x.WakesAt k t.now ∧ x.store.dirty = true) ∨
      (t.action = .flush ∧ x.store.flushTask.all x.taskDone = true ∧ x.store.dirty = true) ∨
      ∃ f, t.action = .resume f ∧ (∃ k, x.Waits f k ∧ x.taskDone k = true) ∧
        x.store.dirty = true := by
  -- the turns that write: an update, a flush task that is due, and the two ends of a flush
  cases h with
  | still => exact (hout rfl).elim
  | writes haction => exact .inl ⟨_, _, haction⟩
  | arms => exact (hout rfl).elim
  | leaves => exact (hout rfl).elim
  | sleeps => exact (hout rfl).elim
  | ends => exact (hout rfl).elim
  | wakes haction htask hphase hcancelled hdue =>
    exact .inr (.inl ⟨_, haction, ⟨_, _, htask, hphase, hcancelled, hdue⟩,
      dirty_of_writeIfDirty hout⟩)
  | flushes haction hstore hdone =>
    subst hstore
    exact .inr (.inr (.inl ⟨haction, hdone, (dirty_of_writeIfDirty hout :)⟩))
  | cancels => exact (hout rfl).elim
  | returns haction hcall hdone =>
    exact .inr (.inr (.inr ⟨_, haction, ⟨_, hcall, hdone⟩, dirty_of_writeIfDirty hout⟩))

/-- A turn of a flush task goes as if nothing could fail, unless it has something to write and
that fails. -/
theorem tryFlushAfter_eq {k : ℕ} (h : ¬ (x.WakesAt k r.now ∧ x.store.dirty = true ∧
    r.fails ≠ none)) : x.tryFlushAfter P k r = (x.flushAfter P k (r.turn (.task k))).2 := by
  have hturned := turned_step P 0 x (r.turn (.task k))
  change x.Turned P 0 _ (x.flushAfter P k _).1 (x.flushAfter P k _).2 at hturned
  unfold StoreLoop.tryFlushAfter
  split
  · next hfails hwrites =>
    rw [hwrites] at hturned
    rcases cases_of_writes hturned nofun with ⟨_, _, haction⟩ | ⟨k', haction, hwakes, hdirty⟩ |
      ⟨haction, -⟩ | ⟨f, haction, -⟩
    · cases haction
    · cases haction
      exact (h ⟨hwakes, hdirty, by rw [hfails]; exact nofun⟩).elim
    · cases haction
    · cases haction
  · next heq _ => rw [heq]

/-- A call of `flush` goes as if nothing could fail, unless it has something to write and that
fails. -/
theorem tryFlush_eq (h : ¬ (x.store.flushTask.all x.taskDone = true ∧ x.store.dirty = true ∧
    r.fails ≠ none)) : x.tryFlush P r = (x.flush P (r.turn .flush)).2 := by
  have hturned := turned_step P 0 x (r.turn .flush)
  change x.Turned P 0 _ (x.flush P _).1 (x.flush P _).2 at hturned
  unfold StoreLoop.tryFlush
  split
  · next hfails hwrites =>
    rw [hwrites] at hturned
    rcases cases_of_writes hturned nofun with ⟨_, _, haction⟩ | ⟨k', haction, -⟩ |
      ⟨-, hdone, hdirty⟩ | ⟨f, haction, -⟩
    · cases haction
    · cases haction
    · exact (h ⟨hdone, hdirty, by rw [hfails]; exact nofun⟩).elim
    · cases haction
  · next heq _ => rw [heq]

theorem tryResume_eq {f : ℕ} (h : ¬ ((∃ k, x.Waits f k ∧ x.taskDone k = true) ∧
    x.store.dirty = true ∧ r.fails ≠ none)) :
    x.tryResume P f r = (x.resume P f (r.turn (.resume f))).2 := by
  have hturned := turned_step P 0 x (r.turn (.resume f))
  change x.Turned P 0 _ (x.resume P f _).1 (x.resume P f _).2 at hturned
  unfold StoreLoop.tryResume
  split
  · next hfails hwrites =>
    rw [hwrites] at hturned
    rcases cases_of_writes hturned nofun with ⟨_, _, haction⟩ | ⟨k', haction, -⟩ |
      ⟨haction, -⟩ | ⟨f', haction, hwaits, hdirty⟩
    · cases haction
    · cases haction
    · cases haction
    · cases haction
      exact (h ⟨hwaits, hdirty, by rw [hfails]; exact nofun⟩).elim
  · next heq _ => rw [heq]

/-! ### A turn without a fatal failure -/

/-- A turn of the loop in which nothing happens. -/
def StoreLoop.idle (x : StoreLoop) (m : Time) : Turn := turnAt (.task x.tasks.length) m

theorem step_idle (x : StoreLoop) (m : Time) : (x.step P interval (x.idle m)).2 = x := by
  have hnone : x.tasks[x.tasks.length]? = none := List.getElem?_eq_none le_rfl
  simp only [StoreLoop.step, StoreLoop.idle, turnAt]
  unfold StoreLoop.flushAfter
  rw [hnone]

variable {s : Service} {t : ServiceTurn} {es : List ServiceEvent} {sites : List Site} {i : ℕ}
  {site : Site} {e : Failure}

/-- A phase that is not an end of an exception. -/
def MonitorPhase.Survives (phase : MonitorPhase) : Prop := ∀ e, phase ≠ .ended e

/-- **A turn of the service that is a turn of the store** in which every write goes through, and
that ends no monitor. -/
def Service.Turned (P : Platform) (interval : Time) (s : Service) (t : ServiceTurn)
    (s' : Service) : Prop :=
  (∃ u : Turn, t.first.now ≤ u.now ∧ u.now ≤ u.writing ∧ u.writing ≤ t.second.writing ∧
      s'.loop = (s.loop.step P interval u).2) ∧
    ∀ m ∈ s'.monitors, m ∈ s.monitors ∨ m.phase.Survives

/-- Setting a phase changes one monitor at most. -/
theorem mem_setPhase {phase : MonitorPhase} (hphase : phase.Survives) {m : InstanceMonitor}
    (hm : m ∈ (s.setPhase i phase).monitors) : m ∈ s.monitors ∨ m.phase.Survives := by
  obtain ⟨j, hj⟩ := List.mem_iff_getElem?.mp hm
  rw [Service.setPhase, List.getElem?_modify] at hj
  obtain ⟨m', hm', rfl⟩ := Option.map_eq_some_iff.mp hj
  by_cases hij : i = j
  · exact .inr (by rw [if_pos hij]; exact hphase)
  · exact .inl (by rw [if_neg hij]; exact List.mem_of_getElem? hm')

/-- **The error handler**, if its write does not fail. -/
theorem handle_eq (h : ¬ (s.loop.Late interval t.second.now ∧ t.second.fails ≠ none)) :
    s.handle P interval i site e t = Service.setPhase
      { s with loop := (s.loop.step P interval (t.second.turn (.update site.instanceId
        (site.errorPayload (P.timestamp t.captured) e)))).2 } i .retrying := by
  rw [Service.handle]
  rcases tryUpdate_cases P interval s.loop site.instanceId
    (site.errorPayload (P.timestamp t.captured) e) t.second with
    ⟨hlate, e', hfails, -⟩ | ⟨-, heq⟩
  · exact (h ⟨hlate, by rw [hfails]; exact nofun⟩).elim
  · rw [heq]
    rfl

/-- A turn in which the store has none. -/
theorem turned_idle (hin : t.InTime es) {s' : Service} (hloop : s'.loop = s.loop)
    (hmonitors : ∀ m ∈ s'.monitors, m ∈ s.monitors ∨ m.phase.Survives) :
    s.Turned P interval t s' :=
  ⟨⟨s.loop.idle t.second.writing, hin.2.1.trans (hin.2.2.1.trans hin.2.2.2.1), le_rfl, le_rfl,
    hloop.trans (step_idle s.loop _).symm⟩, hmonitors⟩

/-- A turn of the store at the first readings. -/
theorem turned_first (hin : t.InTime es) (action : LoopAction) {s' : Service}
    (hloop : s'.loop = (s.loop.step P interval (t.first.turn action)).2)
    (hmonitors : s'.monitors = s.monitors) : s.Turned P interval t s' :=
  ⟨⟨t.first.turn action, le_rfl, hin.2.1, hin.2.2.1.trans hin.2.2.2.1, hloop⟩, fun _ hm =>
    .inl (hmonitors ▸ hm)⟩

/-- A turn of the store at the second readings. -/
theorem turned_second (hin : t.InTime es) (action : LoopAction) {s' : Service}
    (hloop : s'.loop = (s.loop.step P interval (t.second.turn action)).2)
    (hmonitors : ∀ m ∈ s'.monitors, m ∈ s.monitors ∨ m.phase.Survives) :
    s.Turned P interval t s' :=
  ⟨⟨t.second.turn action, hin.2.1.trans hin.2.2.1, hin.2.2.2.1, le_rfl, hloop⟩, hmonitors⟩

/-- The time until the file may be written passes. -/
theorem Late.mono {now now' : Time} (h : x.Late interval now) (hnow : now ≤ now') :
    x.Late interval now' :=
  h.imp_right fun h => h.trans (sub_le_sub_right hnow _)

/-- **A turn without a fatal failure** is a turn of the store in which every write goes through,
and it ends no monitor. -/
theorem turned_service (hin : t.InTime es) (hfatal : ¬ s.Fatal interval t) :
    s.Turned P interval t (s.step P interval t) := by
  -- one case per action: what it does to the store is a turn of the store
  have hsecond : t.first.now ≤ t.second.now := hin.2.1.trans hin.2.2.1
  unfold Service.step
  split
  · next i snapshot haction =>
    split
    · next site hi =>
      rcases tryUpdate_cases P interval s.loop site.instanceId
        (site.snapshotPayload snapshot) t.first with ⟨hlate, e, hfails, heq⟩ | ⟨-, heq⟩
      · -- the handler comes to a write too, and puts its payload where the other one was
        rw [heq]
        have hput : (s.loop.put site.instanceId (site.snapshotPayload snapshot)).Late interval
            t.second.now := Late.mono hlate hsecond
        have hsecond' : t.second.fails = none := by
          by_contra hfails'
          refine hfatal ?_
          rw [Service.Fatal, haction]
          exact ⟨⟨_, hi, rfl⟩, hlate, by rw [hfails]; exact nofun, hfails'⟩
        dsimp only
        rw [handle_eq fun h => h.2 hsecond']
        exact turned_second hin (.update site.instanceId (site.errorPayload _ e))
          (congrArg Prod.snd (update_put _)) fun m hm =>
            mem_setPhase (fun _ => MonitorPhase.noConfusion) hm
      · rw [heq]
        exact turned_first hin (.update site.instanceId (site.snapshotPayload snapshot)) rfl rfl
    · exact turned_idle hin rfl fun m hm => .inl hm
  · next i e haction =>
    split
    · next site hi =>
      rw [handle_eq fun h => hfatal (by
        rw [Service.Fatal, haction]
        exact ⟨⟨_, hi, rfl⟩, h⟩)]
      exact turned_second hin (.update site.instanceId (site.errorPayload _ e)) rfl fun m hm =>
        mem_setPhase (fun _ => MonitorPhase.noConfusion) hm
    · exact turned_idle hin rfl fun m hm => .inl hm
  · split
    · exact turned_idle hin rfl fun m hm => mem_setPhase (fun _ => MonitorPhase.noConfusion) hm
    · exact turned_idle hin rfl fun m hm => .inl hm
  · split
    · exact turned_idle hin rfl fun m hm => mem_setPhase (fun _ => MonitorPhase.noConfusion) hm
    · exact turned_idle hin rfl fun m hm => mem_setPhase (fun _ => MonitorPhase.noConfusion) hm
    · exact turned_idle hin rfl fun m hm => .inl hm
  · next k haction =>
    refine turned_first hin (.task k) (tryFlushAfter_eq fun h => hfatal ?_) rfl
    rw [Service.Fatal, haction]
    exact h
  · next haction =>
    refine turned_first hin .flush (tryFlush_eq fun h => hfatal ?_) rfl
    rw [Service.Fatal, haction]
    exact h
  · next f haction =>
    refine turned_first hin (.resume f) (tryResume_eq fun h => hfatal ?_) rfl
    rw [Service.Fatal, haction]
    exact h

/-! ### A run without fatal failures -/

/-- **A run of the service is a run of the store** in which every write goes through, and the
clock of which has gone as far. -/
def Service.Simulated (P : Platform) (interval : Time) (es : List ServiceEvent) (s : Service) :
    Prop :=
  ∃ les, LoopRun P interval les s.loop ∧
    (∀ l ∈ les, ∃ e ∈ es, l.call.writing ≤ e.call.second.writing) ∧
    ∀ e ∈ es, ∃ l ∈ les, e.call.second.writing ≤ l.call.writing

/-- One more turn. -/
theorem Service.Simulated.turned {s' : Service} (h : s.Simulated P interval es)
    (hin : t.InTime es) (hturned : s.Turned P interval t s') :
    s'.Simulated P interval (es ++ [⟨s, t, (), s'⟩]) := by
  obtain ⟨les, hrun, hpast, hfar⟩ := h
  obtain ⟨⟨u, hfirst, hnow, hlast, hloop⟩, -⟩ := hturned
  have hnext := hrun.next (c := u) ⟨hin.1.trans_le hfirst, hnow, fun l hl => by
    obtain ⟨e, he, hle⟩ := hpast l hl
    exact hle.trans ((hin.2.2.2.2 e he).trans hfirst)⟩
  -- the clock goes on to the last reading of the turn
  have hidle := hnext.next (c := StoreLoop.idle (s.loop.step P interval u).2 t.second.writing)
    ⟨hin.1.trans_le (hfirst.trans (hnow.trans hlast)), le_rfl, fun l hl => by
      rcases List.mem_append.mp hl with hl | hl
      · obtain ⟨e, he, hle⟩ := hpast l hl
        exact hle.trans ((hin.2.2.2.2 e he).trans (hfirst.trans (hnow.trans hlast)))
      · obtain rfl := List.mem_singleton.mp hl
        exact hlast⟩
  rw [step_idle, ← hloop] at hidle
  refine ⟨_, hidle, fun l hl => ?_, fun e he => ?_⟩
  · rcases List.mem_append.mp hl with hl | hl
    · rcases List.mem_append.mp hl with hl | hl
      · obtain ⟨e, he, hle⟩ := hpast l hl
        exact ⟨e, List.mem_append_left _ he, hle⟩
      · obtain rfl := List.mem_singleton.mp hl
        exact ⟨_, List.mem_append_right _ (List.mem_singleton_self _), hlast⟩
    · obtain rfl := List.mem_singleton.mp hl
      exact ⟨_, List.mem_append_right _ (List.mem_singleton_self _), le_rfl⟩
  · rcases List.mem_append.mp he with he | he
    · obtain ⟨l, hl, hle⟩ := hfar e he
      exact ⟨l, List.mem_append_left _ (List.mem_append_left _ hl), hle⟩
    · obtain rfl := List.mem_singleton.mp he
      exact ⟨_, List.mem_append_right _ (List.mem_singleton_self _), le_rfl⟩

/-- **What holds in a run without fatal failures**: it is a run of the store, and has ended no
monitor. -/
theorem simulated_of_run (hrun : ServiceRun P interval sites es s)
    (hfatal : ∀ e ∈ es, ¬ e.before.Fatal interval e.call) :
    s.Simulated P interval es ∧ ∀ m ∈ s.monitors, m.phase.Survives := by
  refine hrun.invariant (I := fun es s => (∀ e ∈ es, ¬ e.before.Fatal interval e.call) →
    s.Simulated P interval es ∧ ∀ m ∈ s.monitors, m.phase.Survives) ?_ ?_ hfatal
  · refine fun _ => ⟨⟨[], .start, fun _ hl => (List.not_mem_nil hl).elim,
      fun _ he => (List.not_mem_nil he).elim⟩, fun m hm => ?_⟩
    obtain ⟨site, -, rfl⟩ := List.mem_map.mp hm
    exact fun _ => MonitorPhase.noConfusion
  · intro es s t _ ih hin hfatal
    obtain ⟨hsim, hsurvive⟩ := ih fun e he => hfatal e (List.mem_append_left _ he)
    have hturned := turned_service (P := P) hin
      (hfatal _ (List.mem_append_right _ (List.mem_singleton_self _)))
    refine ⟨hsim.turned hin hturned, fun m hm => ?_⟩
    exact (hturned.2 m hm).elim (hsurvive m) id

/-! ### The file catches up -/

/-- A turn of the service in which nothing fails and nothing takes time between its calls. -/
def Turn.silently (u : Turn) (action : ServiceAction) : ServiceTurn :=
  ⟨action, ⟨u.now, u.writing, u.utcNow, none⟩, ⟨u.writing, u.writing, u.utcNow, none⟩, u.utcNow⟩

/-- A turn of what is pending in the loop, as a turn of the service in which nothing fails. -/
theorem exists_silent (P : Platform) (interval : Time) {u : Turn} {s : Service}
    (hu : s.loop.Resumes u) :
    ∃ action, s.Resumes (u.silently action) ∧ s.step P interval (u.silently action) =
      { s with loop := (s.loop.step P interval u).2 } := by
  obtain ⟨action, now, writing, utcNow⟩ := u
  rcases hu with ⟨k, rfl, hk⟩ | ⟨f, k, rfl, hf⟩
  · refine ⟨.task k, ⟨rfl, rfl, .inl ⟨k, rfl, hk⟩⟩, ?_⟩
    exact congrArg (Service.mk · s.monitors) (tryFlushAfter_eq fun h => h.2.2 rfl)
  · refine ⟨.resume f, ⟨rfl, rfl, .inr ⟨f, k, rfl, hf⟩⟩, ?_⟩
    exact congrArg (Service.mk · s.monitors) (tryResume_eq fun h => h.2.2 rfl)

/-- **Turns of what is pending in the loop are turns of the service** that go on with a run. -/
theorem exists_silent_run {les : List LoopEvent} (hrun : ServiceRun P interval sites es s)
    (hloop : LoopRun P interval les s.loop)
    (hfar : ∀ e ∈ es, ∃ l ∈ les, e.call.second.writing ≤ l.call.writing) (les' : List LoopEvent) :
    ∀ x', LoopRun P interval (les ++ les') x' → (∀ l ∈ les', l.before.Resumes l.call) →
      ∃ es', ServiceRun P interval sites (es ++ es') { s with loop := x' } ∧
        (∀ e ∈ es', e.before.Resumes e.call) ∧
        ∀ e ∈ es ++ es', ∃ l ∈ les ++ les', e.call.second.writing ≤ l.call.writing := by
  -- the service follows the loop turn by turn, from the first on
  induction les' using List.reverseRecOn with
  | nil =>
    intro x' hrun' _
    rw [List.append_nil] at hrun'
    obtain rfl := hrun'.state_unique hloop
    exact ⟨[], by rw [List.append_nil]; exact hrun, fun _ he => (List.not_mem_nil he).elim,
      by simpa only [List.append_nil] using hfar⟩
  | append_singleton les' l ih =>
    intro x' hrun' hpending
    rw [← List.append_assoc] at hrun'
    obtain ⟨hbefore, ⟨hpos, hle, hpast⟩, hstep⟩ := hrun'.last
    obtain ⟨es', hservice, hsilent, hfar'⟩ :=
      ih l.before hbefore fun l' hl' => hpending l' (List.mem_append_left _ hl')
    obtain ⟨action, haction, hturn⟩ := exists_silent (s := { s with loop := l.before }) P interval
      (hpending l (List.mem_append_right _ (List.mem_singleton_self _)))
    have hnext := hservice.next (c := l.call.silently action)
      ⟨hpos, hle, le_rfl, le_rfl, fun e he => by
        obtain ⟨l', hl', hle'⟩ := hfar' e he
        exact hle'.trans (hpast l' hl')⟩
    dsimp only at hnext
    rw [hturn, hstep] at hnext
    refine ⟨es' ++ [⟨_, l.call.silently action, (), _⟩], by rw [← List.append_assoc]; exact hnext,
      fun e he => ?_, fun e he => ?_⟩
    · rcases List.mem_append.mp he with he | he
      · exact hsilent e he
      · obtain rfl := List.mem_singleton.mp he
        exact haction
    · rw [← List.append_assoc] at he ⊢
      rcases List.mem_append.mp he with he | he
      · obtain ⟨l', hl', hle'⟩ := hfar' e he
        exact ⟨l', List.mem_append_left _ hl', hle'⟩
      · obtain rfl := List.mem_singleton.mp he
        exact ⟨l, List.mem_append_right _ (List.mem_singleton_self _), le_rfl⟩

/-- **Monitoring survives failing writes**, as long as none of them is fatal: no monitor is ended
by an exception; while the file does not show what is in memory, a flush task is pending that
is due within the interval after the last write, or a call of `flush` is in progress, so that
the file shows it once no task and no call is left; and it comes to show it once writes succeed, by
turns of the tasks and calls that are pending alone. -/
theorem monitoring_survives (hrun : ServiceRun P interval sites es s)
    (hfatal : ∀ e ∈ es, ¬ e.before.Fatal interval e.call) :
    (∀ m ∈ s.monitors, ∀ e, m.phase ≠ .ended e) ∧
      (¬ s.loop.store.Saved → s.loop.Armed interval ∨ s.loop.Flushing) ∧
      (s.loop.Quiet → s.loop.store.Saved) ∧
      ∃ es' s', ServiceRun P interval sites (es ++ es') s' ∧ (∀ e ∈ es', e.before.Resumes e.call) ∧
        s'.loop.store.Saved := by
  obtain ⟨⟨les, hloop, -, hfar⟩, hsurvive⟩ := simulated_of_run hrun hfatal
  have hkept := kept_of_loopRun hloop
  refine ⟨hsurvive, hkept.unsaved, hkept.quiet, ?_⟩
  obtain ⟨les', x', hloop', hquiet, hclean⟩ := catchesUp_of_run hloop
  obtain ⟨es', hservice, hsilent, -⟩ := exists_silent_run hrun hloop hfar les' x' hloop' hquiet
  exact ⟨es', _, hservice, hsilent, (kept_of_loopRun hloop').clean hclean⟩

end Runs

/-! ### Failing writes -/

namespace Sample

/-- A printer host. -/
def site : Site := ⟨"printer-1", "/run/printer-1.sock"⟩

def diskFull : Failure := ⟨"OSError", "[Errno 28] No space left on device"⟩

/-- A snapshot that is not empty. -/
def secondSnapshot : Dict String Json := (∅ : Dict String Json).insert "schema_version" (.int 1)

/-- A turn at a moment, whose first write and whose handler's write may fail. -/
def serviceTurn (action : ServiceAction) (m : Time) (first second : Option Failure) :
    ServiceTurn := ⟨action, ⟨m, m, m, first⟩, ⟨m, m, m, second⟩, m⟩

/-- A run of the service that has come to a moment. -/
def RunTo (es : List ServiceEvent) (s : Service) (m : Time) : Prop :=
  ServiceRun platform (seconds 1) [site] es s ∧ ∀ e ∈ es, e.call.second.writing ≤ m

theorem runTo_start : RunTo [] (.start [site]) 0 :=
  ⟨.start, fun _ he => (List.not_mem_nil he).elim⟩

/-- It goes on, at a later moment. -/
theorem RunTo.turn {es : List ServiceEvent} {s : Service} {m m' : Time} (h : RunTo es s m)
    (action : ServiceAction) (first second : Option Failure) (hpos : 0 < m') (hm : m ≤ m') :
    RunTo (es ++ [⟨s, serviceTurn action m' first second, (),
        s.step platform (seconds 1) (serviceTurn action m' first second)⟩])
      (s.step platform (seconds 1) (serviceTurn action m' first second)) m' := by
  refine ⟨h.1.next ⟨hpos, le_rfl, le_rfl, le_rfl, fun e he => (h.2 e he).trans hm⟩,
    fun e he => ?_⟩
  rcases List.mem_append.mp he with he | he
  · exact (h.2 e he).trans hm
  · obtain rfl := List.mem_singleton.mp he
    exact le_rfl

end Sample

open Sample in
/-- **A write that fails once**: the file has the error, and the monitor tries again. -/
theorem monitoring_survives_sample : ∃ es s, ServiceRun platform (seconds 1) [site] es s ∧
    (∃ e ∈ es, e.call.first.fails = some diskFull) ∧
    (∀ m ∈ s.monitors, ∀ e, m.phase ≠ .ended e) ∧ s.loop.store.Saved := by
  have hrun := (runTo_start.turn (.yields 0 ∅) (some diskFull) none
    (by decide : 0 < loopTime 100000) (by decide)).1
  have hlaw := monitoring_survives hrun (fun e he => by
    obtain rfl := List.mem_singleton.mp he
    exact fun h => h.2.2.2 rfl)
  refine ⟨_, _, hrun, ⟨_, List.mem_singleton_self _, rfl⟩, hlaw.1, hlaw.2.2.1 ⟨?_, ?_⟩⟩
  · exact fun _ h => (List.not_mem_nil h).elim
  · exact fun _ _ => nofun

open Sample in
/-- **Two runs with fatal failures.** A disk is full when a snapshot comes in: the write fails,
that of the error handler too, and the monitor ends. And a disk is full when a flush task
writes, the second after: the file stays behind, with no task that would write it. -/
theorem monitoring_ended :
    (∃ es s, ServiceRun platform (seconds 1) [site] es s ∧
      ∃ m ∈ s.monitors, m.phase = .ended diskFull) ∧
    ∃ es s, ServiceRun platform (seconds 1) [site] es s ∧
      (∀ m ∈ s.monitors, m.phase = .reading) ∧ s.loop.Quiet ∧ ¬ s.loop.store.Saved := by
  constructor
  · have hrun := runTo_start.turn (.yields 0 ∅) (some diskFull) (some diskFull)
      (by decide : 0 < loopTime 100000) (by decide)
    exact ⟨_, _, hrun.1, ⟨site, .ended diskFull⟩, List.mem_singleton_self _, rfl⟩
  · -- the second snapshot arms the flush task, which falls asleep and wakes
    have hrun := (((runTo_start.turn (.yields 0 ∅) none none
      (by decide : 0 < loopTime 100000) (by decide)).turn (.yields 0 secondSnapshot) none none
      (by decide : 0 < loopTime 100200) (by decide)).turn (.task 0) none none
      (by decide : 0 < loopTime 100300) (by decide)).turn (.task 0) (some diskFull) none
      (by decide : 0 < loopTime 101300) (by decide)
    refine ⟨_, _, hrun.1, fun m hm => ?_, ⟨fun task htask => ?_, fun _ _ => nofun⟩, ?_⟩
    · obtain rfl := List.mem_singleton.mp hm
      rfl
    · obtain rfl := List.mem_singleton.mp htask
      rfl
    · rw [SnapshotStore.Saved]
      decide

end PrinterHmi
