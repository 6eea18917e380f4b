import Mathlib.Data.List.Chain
import PrinterHmi.Service.SnapshotStore

/-!
# How often the state file is written

Without calls of `flush`, the state file is written by updates that come an interval or
more after the last write and by the flush task. A task that is armed is not disarmed by
an update that writes: if updates come after it and the task wakes before the next
interval is over, it writes a second time within the interval.

That is the only way: two writes that follow one another are an interval apart exactly in
the runs in which no flush task wakes so soon after such an update
(`rate_limited_iff`).
-/

namespace PrinterHmi

/-- The moments of the writes of a history, in order. -/
def writes (es : List LoopEvent) : List Time := es.filterMap (·.result)

/-- **The rate is limited**: a write comes at least an interval after the one before it. -/
def RateLimited (interval : Time) (es : List LoopEvent) : Prop :=
  (writes es).IsChain fun m m' => m + interval ≤ m'

/-- **An update overtakes a flush task**: the task is armed, and the update finds that the
file may be written already. -/
def Overtakes (interval : Time) (k : ℕ) (e : LoopEvent) : Prop :=
  (∃ instanceId payload, e.call.action = .update instanceId payload) ∧
    e.before.store.flushTask = some k ∧
    (e.before.store.lastWriteTime = 0 ∨ e.before.store.lastWriteTime + interval ≤ e.call.now)

/-- **A flush task wakes with something to write.** -/
def WakesDirty (k : ℕ) (e : LoopEvent) : Prop :=
  e.call.action = .task k ∧ e.before.store.dirty = true ∧
    ∃ task since, e.before.tasks[k]? = some task ∧ task.phase = .sleeping since ∧
      task.cancelled = false ∧ since + max 0 task.delay ≤ e.call.now

/-- No flush task wakes with something to write less than an interval after an update that
has overtaken it. -/
def NoneOvertaken (interval : Time) (es : List LoopEvent) : Prop :=
  ∀ d e, [d, e].Sublist es → ∀ k, Overtakes interval k d → WakesDirty k e →
    d.call.writing + interval ≤ e.call.writing

section Rate

variable {P : Platform} {interval : Time} {x x' : StoreLoop} {t : Turn} {es : List LoopEvent}
  {e : LoopEvent} {out : Option Time} {m : Time}

/-! ### Writes and the last write -/

/-- An event that writes does so at its reading of the clock, and it is the last write. -/
theorem write_of_turned (h : x.Turned P interval t out x') (hout : out = some m) :
    m = t.writing ∧ x'.store.lastWriteTime = m := by
  rcases written_of_turned h with ⟨hwrites, hlast⟩ | ⟨hnone, -⟩
  · obtain rfl := Option.some.inj (hwrites.symm.trans hout)
    exact ⟨rfl, hlast⟩
  · cases hnone.symm.trans hout

/-- A turn that does not write leaves the time of the last write. -/
theorem lastWriteTime_of_none (h : x.Turned P interval t out x') (hout : out = none) :
    x'.store.lastWriteTime = x.store.lastWriteTime := by
  rcases written_of_turned h with ⟨hwrites, -⟩ | ⟨-, hlast⟩
  · cases hwrites.symm.trans hout
  · exact hlast

theorem writes_concat (es : List LoopEvent) (e : LoopEvent) :
    writes (es ++ [e]) = writes es ++ e.result.toList := by
  rw [writes, List.filterMap_append]
  cases h : e.result <;> simp [writes, h]

/-- **The last write of a history** is the one the store knows. -/
theorem getLast?_writes (hrun : LoopRun P interval es x) : (writes es).getLast? =
    if x.store.lastWriteTime = 0 then none else some x.store.lastWriteTime := by
  refine hrun.invariant (I := fun es x => (writes es).getLast? =
    if x.store.lastWriteTime = 0 then none else some x.store.lastWriteTime) rfl ?_
  intro es x t _ ih hin
  have hturned := turned_step P interval x t
  rw [writes_concat]
  dsimp only
  cases hout : (x.step P interval t).1 with
  | none =>
    rw [lastWriteTime_of_none hturned hout, Option.toList_none, List.append_nil]
    exact ih
  | some m =>
    obtain ⟨rfl, hlast⟩ := write_of_turned hturned hout
    have hpos : t.writing ≠ 0 := (hin.1.trans_le hin.2.1).ne'
    rw [hlast, if_neg hpos, Option.toList_some, List.getLast?_concat]

/-- A write that comes at least an interval after the last one. -/
def Spaced (interval : Time) (e : LoopEvent) : Prop :=
  ∀ m, e.result = some m →
    e.before.store.lastWriteTime = 0 ∨ e.before.store.lastWriteTime + interval ≤ m

/-- **The rate is limited** exactly if every write is spaced. -/
theorem rateLimited_iff (hrun : LoopRun P interval es x) :
    RateLimited interval es ↔ ∀ e ∈ es, Spaced interval e := by
  refine hrun.invariant (I := fun es _ => RateLimited interval es ↔ ∀ e ∈ es, Spaced interval e)
    ⟨fun _ _ he => (List.not_mem_nil he).elim, fun _ => List.isChain_nil⟩ ?_
  intro es x t hrun ih _
  rw [RateLimited, writes_concat, List.isChain_append, ← RateLimited, ih, List.forall_mem_append,
    List.forall_mem_singleton, getLast?_writes hrun]
  have hsingle : (StoreLoop.step P interval x t).1.toList.IsChain fun m m' => m + interval ≤ m' := by
    cases (StoreLoop.step P interval x t).1 with
    | none => exact List.isChain_nil
    | some m => exact List.isChain_singleton m
  refine and_congr_right fun _ => ?_
  rw [and_iff_right hsingle, Spaced]
  dsimp only
  cases (StoreLoop.step P interval x t).1 with
  | none => simp
  | some m =>
    by_cases hzero : x.store.lastWriteTime = 0
    · simp [hzero]
    · simp [hzero]

/-! ### What overtaking does -/

/-- An update that overtakes a flush task writes. -/
theorem result_of_overtakes {k : ℕ} (hstep : e.before.step P interval e.call = (e.result, e.after))
    (h : Overtakes interval k e) : e.result = some e.call.writing := by
  obtain ⟨⟨instanceId, payload, haction⟩, -, hlate⟩ := h
  rw [StoreLoop.step, haction] at hstep
  dsimp only at hstep
  rw [StoreLoop.update, if_pos (hlate.imp_right le_sub_iff_add_le'.mpr)] at hstep
  exact (congrArg Prod.fst hstep).symm

/-- A flush task that wakes with something to write does. -/
theorem result_of_wakesDirty {k : ℕ}
    (hstep : e.before.step P interval e.call = (e.result, e.after)) (h : WakesDirty k e) :
    e.result = some e.call.writing := by
  obtain ⟨haction, hdirty, task, since, htask, hphase, hcancelled, hdue⟩ := h
  rw [StoreLoop.step, haction] at hstep
  dsimp only at hstep
  unfold StoreLoop.flushAfter at hstep
  rw [htask] at hstep
  dsimp only at hstep
  rw [hphase] at hstep
  dsimp only at hstep
  rw [if_neg (by rw [hcancelled]; exact Bool.false_ne_true), if_pos hdue] at hstep
  rw [← show (e.before.store.writeIfDirty P e.call).1 = e.result from congrArg Prod.fst hstep,
    SnapshotStore.writeIfDirty, if_pos hdirty]

/-- The last write is no earlier than any. -/
theorem write_le_lastWriteTime (hrun : LoopRun P interval es x) :
    ∀ e ∈ es, ∀ m, e.result = some m → m ≤ x.store.lastWriteTime := by
  refine hrun.invariant (I := fun es x => ∀ e ∈ es, ∀ m, e.result = some m →
    m ≤ x.store.lastWriteTime) (fun _ he => (List.not_mem_nil he).elim) ?_
  intro es x t hrun ih hin e he m hm
  have hturned := turned_step P interval x t
  rcases List.mem_append.mp he with he | he
  · refine (ih e he m hm).trans ?_
    rcases lastWriteTime_of_turned hturned with hlast | hlast
    · exact hlast ▸ ((kept_of_loopRun hrun).past t.now hin.1 hin.2.2).trans hin.2.1
    · exact hlast.ge
  · obtain rfl := List.mem_singleton.mp he
    exact (write_of_turned hturned hm).2.ge

/-! ### What holds without `flush` -/

/-- **What holds of a task without `flush`**: it is not cancelled; while it is still to write
it is the armed one, and either nothing has been written since it was armed, or an update
has overtaken it and wrote last; and its sleep did not begin before it was armed. -/
structure StoreLoop.Follows (interval : Time) (es : List LoopEvent) (x : StoreLoop) (k : ℕ)
    (task : FlushTask) : Prop where
  cancelled : task.cancelled = false
  pending : task.phase ≠ .done → x.store.flushTask = some k ∧
    (x.store.lastWriteTime + interval ≤ task.due ∨
      ∃ d ∈ es, Overtakes interval k d ∧ d.call.writing = x.store.lastWriteTime)
  begun : ∀ since, task.phase = .sleeping since → task.armed ≤ since
  past : ∀ now, (∀ e ∈ es, e.call.writing ≤ now) → task.armed ≤ now

/-- No call of `flush` waits, and every task is as it is without one. -/
def StoreLoop.Unflushed (interval : Time) (es : List LoopEvent) (x : StoreLoop) : Prop :=
  x.calls = [] ∧ ∀ (k : ℕ) (task : FlushTask), x.tasks[k]? = some task →
    x.Follows interval es k task

/-- A task is as it was, if the store's handle and its last write are. -/
theorem follows_append {k : ℕ} {task : FlushTask} (h : x.Follows interval es k task)
    (hhandle : x'.store.flushTask = x.store.flushTask)
    (hlast : x'.store.lastWriteTime = x.store.lastWriteTime) :
    x'.Follows interval (es ++ [e]) k task where
  cancelled := h.cancelled
  pending hphase := by
    rw [hhandle, hlast]
    refine (h.pending hphase).imp_right (Or.imp_right ?_)
    rintro ⟨d, hd, hover⟩
    exact ⟨d, List.mem_append_left _ hd, hover⟩
  begun := h.begun
  past now hes := h.past now fun e he => hes e (List.mem_append_left _ he)

/-- A task that is at its end after a turn is as it was. -/
theorem follows_of_done {k : ℕ} {task task' : FlushTask} (h : x.Follows interval es k task)
    (hcancelled : task'.cancelled = task.cancelled) (harmed : task'.armed = task.armed)
    (hphase : task'.phase = .done) : x'.Follows interval (es ++ [e]) k task' where
  cancelled := hcancelled.trans h.cancelled
  pending hne := absurd hphase hne
  begun since hsince := by
    rw [hphase] at hsince
    cases hsince
  past now hes := harmed ▸ h.past now fun e he => hes e (List.mem_append_left _ he)

/-- **The step lemma.** -/
theorem unflushed_of_turned (h : x.Turned P interval t out x') (hx : x.Unflushed interval es)
    (hin : InTime es t) (haction : t.action ≠ .flush) :
    x'.Unflushed interval (es ++ [⟨x, t, out, x'⟩]) := by
  obtain ⟨hcalls, htasks⟩ := hx
  cases h with
  | still => exact ⟨hcalls, fun k task htask => follows_append (htasks k task htask) rfl rfl⟩
  | @writes instanceId payload hupdate hlate =>
    refine ⟨hcalls, fun k task htask => ?_⟩
    have hk := htasks k task htask
    exact {
      cancelled := hk.cancelled
      pending := fun hphase => ⟨(hk.pending hphase).1, .inr ⟨_, List.mem_append_right _
        (List.mem_singleton_self _), ⟨⟨_, _, hupdate⟩, (hk.pending hphase).1, hlate⟩, rfl⟩⟩
      begun := hk.begun
      past := fun now hes => hk.past now fun e he => hes e (List.mem_append_left _ he) }
  | @arms instanceId payload hupdate hearly hdone =>
    refine ⟨hcalls, fun k task htask => ?_⟩
    rcases getElem?_concat_cases htask with htask | ⟨rfl, rfl⟩
    · -- the tasks before are at their end
      have hold := htasks k task htask
      refine follows_of_done hold rfl rfl ?_
      by_contra hphase
      rw [(hold.pending hphase).1] at hdone
      exact hphase (taskDone_iff.mp hdone task htask)
    · exact {
        cancelled := rfl
        pending := fun _ => ⟨rfl, .inl (le_of_eq (by
          change x.store.lastWriteTime + interval =
            t.now + (interval - (t.now - x.store.lastWriteTime))
          rw [sub_sub_eq_add_sub, add_sub_cancel, add_comm]))⟩
        begun := fun since hphase => by cases hphase
        past := fun now hes => hin.2.1.trans
          (hes _ (List.mem_append_right _ (List.mem_singleton_self _))) }
  | leaves => exact ⟨hcalls, fun k task htask => follows_append (htasks k task htask) rfl rfl⟩
  | @sleeps k' task' _ htask' hphase' hcancelled' =>
    refine ⟨hcalls, fun k task htask => ?_⟩
    rw [StoreLoop.setPhase] at htask
    by_cases hk : k' = k
    · subst hk
      rw [List.getElem?_modify_eq, htask'] at htask
      obtain rfl := Option.some.inj htask
      have hold : x.Follows interval (es ++ [⟨x, t, none, x.setPhase k' (.sleeping t.now)⟩]) k'
          task' := follows_append (htasks k' task' htask') rfl rfl
      exact {
        cancelled := hold.cancelled
        pending := fun _ => hold.pending (by simp [hphase'])
        begun := fun since hphase => by
          cases hphase
          exact (htasks k' task' htask').past t.now hin.2.2
        past := hold.past }
    · rw [List.getElem?_modify_ne _ _ hk] at htask
      exact follows_append (htasks k task htask) rfl rfl
  | ends _ htask _ hcancelled =>
    exact absurd ((htasks _ _ htask).cancelled.symm.trans hcancelled) Bool.false_ne_true
  | @wakes k' task' since _ htask' hphase' hcancelled' hdue =>
    refine ⟨hcalls, fun k task htask => ?_⟩
    rw [StoreLoop.setPhase] at htask
    have harmed := ((htasks k' task' htask').pending (by simp [hphase'])).1
    by_cases hk : k' = k
    · subst hk
      rw [List.getElem?_modify_eq, htask'] at htask
      obtain rfl := Option.some.inj htask
      exact follows_of_done (htasks k' task' htask') rfl rfl rfl
    · rw [List.getElem?_modify_ne _ _ hk] at htask
      have hold := htasks k task htask
      refine follows_of_done hold rfl rfl ?_
      -- only one task is still to write
      by_contra hphase
      exact hk (Option.some.inj (harmed.symm.trans (hold.pending hphase).1))
  | flushes hflush => exact absurd hflush haction
  | cancels hflush => exact absurd hflush haction
  | returns _ hcall =>
    rw [StoreLoop.Waits, hcalls] at hcall
    cases hcall

/-- **Without `flush`, only an overtaken flush task writes too soon.** -/
theorem unflushed_of_run (hrun : LoopRun P interval es x) :
    (∀ e ∈ es, e.call.action ≠ .flush) → x.Unflushed interval es := by
  refine hrun.invariant (I := fun es x => (∀ e ∈ es, e.call.action ≠ .flush) →
    x.Unflushed interval es) (fun _ => ⟨rfl, fun k task htask => by cases htask⟩) ?_
  intro es x t _ ih hin hflush
  exact unflushed_of_turned (turned_step P interval x t)
    (ih fun e he => hflush e (List.mem_append_left _ he)) hin
    (hflush _ (List.mem_append_right _ (List.mem_singleton_self _)))

/-- A turn that writes does so at least an interval after the last write, unless it is that
of a flush task that an update has overtaken. -/
theorem spaced_of_turned (h : x.Turned P interval t (some t.writing) x')
    (hx : x.Unflushed interval es) (hclock : t.now ≤ t.writing) (haction : t.action ≠ .flush)
    (hnone : ∀ d ∈ es, ∀ k, Overtakes interval k d → WakesDirty k ⟨x, t, some t.writing, x'⟩ →
      d.call.writing + interval ≤ t.writing) :
    x.store.lastWriteTime = 0 ∨ x.store.lastWriteTime + interval ≤ t.writing := by
  obtain ⟨hcalls, htasks⟩ := hx
  generalize hout : some t.writing = written at h
  cases h with
  | still => cases hout
  | writes _ hlate => exact hlate.imp_right fun h => h.trans hclock
  | arms => cases hout
  | leaves => cases hout
  | sleeps => cases hout
  | ends => cases hout
  | @wakes k task since hwakes htask hphase hcancelled hdue =>
    have hk := htasks k task htask
    obtain ⟨-, hquiet | ⟨d, hd, hover, hlast⟩⟩ := hk.pending (by simp [hphase])
    · -- nothing has been written since it was armed, and its sleep is over
      have hdue' : task.due ≤ t.now := calc
        task.due ≤ since + task.delay := add_le_add_left (hk.begun since hphase) task.delay
        _ ≤ since + max 0 task.delay := add_le_add_right (le_max_right _ _) since
        _ ≤ t.now := hdue
      exact .inr ((hquiet.trans hdue').trans hclock)
    · -- an update has overtaken it and wrote last
      rcases writeIfDirty_cases P x.store t with ⟨hdirty, -⟩ | ⟨-, hwrite⟩
      · exact .inr (hlast ▸ hnone d hd k hover
          ⟨hwakes, hdirty, task, since, htask, hphase, hcancelled, hdue⟩)
      · rw [hwrite] at hout
        cases hout
  | flushes hflush => exact absurd hflush haction
  | cancels => cases hout
  | returns _ hcall =>
    rw [StoreLoop.Waits, hcalls] at hcall
    cases hcall

/-- **When the rate is limited**: in a run without calls of `flush`, every write comes at
least an interval after the one before it iff no flush task wakes with something to write
less than an interval after an update that has overtaken it. -/
theorem rate_limited_iff (hrun : LoopRun P interval es x)
    (hflush : ∀ e ∈ es, e.call.action ≠ .flush) :
    RateLimited interval es ↔ NoneOvertaken interval es := by
  rw [rateLimited_iff hrun]
  constructor
  · intro hspaced d e hsub k hover hwakes
    obtain ⟨pre, post, rfl, hd⟩ := exists_of_sublist hsub
    obtain ⟨hpre, -, hstep⟩ := hrun.split
    have hwrite := result_of_overtakes (hpre.step_of_mem hd) hover
    have hle := write_le_lastWriteTime hpre d hd _ hwrite
    have hpos : 0 < d.call.writing := by
      obtain ⟨pre', post', rfl⟩ := List.append_of_mem hd
      obtain ⟨-, hin, -⟩ := hpre.split
      exact hin.1.trans_le hin.2.1
    rcases hspaced e (by simp) _ (result_of_wakesDirty hstep hwakes) with hzero | hlate
    · exact absurd hzero (hpos.trans_le hle).ne'
    · exact (add_le_add_left hle interval).trans hlate
  · intro hnone e he m hm
    obtain ⟨pre, post, rfl⟩ := List.append_of_mem he
    obtain ⟨hpre, hin, hstep⟩ := hrun.split
    have hturned := turned_step P interval e.before e.call
    rw [hstep] at hturned
    dsimp only at hturned
    obtain ⟨rfl, -⟩ := write_of_turned hturned hm
    refine spaced_of_turned (hm ▸ hturned)
      (unflushed_of_run hpre fun d hd => hflush d (List.mem_append_left _ hd)) hin.2.1
      (hflush e (by simp)) fun d hd k hover hwakes => ?_
    exact hnone d e ((List.singleton_sublist.mpr hd).append
      (List.singleton_sublist.mpr List.mem_cons_self)) k hover hwakes

end Rate

/-! ### A sample -/

namespace Sample

/-- After the sample updates the flush task falls asleep. When its sleep is over, two more
updates are served before it, of which the first writes. -/
def overtakingTurns : List Turn :=
  rapidTurns ++ [turnAt (.task 0) (loopTime 100200), payload 3 (loopTime 101000),
    payload 4 (loopTime 101001), turnAt (.task 0) (loopTime 101002)]

/-- The events of the sample turns. -/
def overtakingEvents : List LoopEvent :=
  eventsOf (StoreLoop.step platform (seconds 1)) StoreLoop.start overtakingTurns

theorem run_overtaking : LoopRun platform (seconds 1) overtakingEvents
    (final (StoreLoop.step platform (seconds 1)) StoreLoop.start overtakingTurns) :=
  run_turns overtakingTurns (by decide) (by decide)

theorem noFlush_overtaking : ∀ e ∈ overtakingEvents, e.call.action ≠ .flush := by
  intro e he
  have hcalls : overtakingEvents.map (·.call) = overtakingTurns := rfl
  have hcall : e.call ∈ overtakingTurns := hcalls ▸ List.mem_map_of_mem he
  simp only [overtakingTurns, rapidTurns, List.cons_append, List.nil_append, List.mem_cons,
    List.not_mem_nil, or_false] at hcall
  rcases hcall with h | h | h | h | h | h
  all_goals
    rw [h]
    intro hflush
    cases hflush

theorem writes_overtaking : writes overtakingEvents =
    [loopTime 100000, loopTime 101000, loopTime 101002] := by
  decide

/-- The flush task writes two milliseconds after an update did. -/
theorem not_rateLimited_overtaking : ¬ RateLimited (seconds 1) overtakingEvents := by
  rw [RateLimited, writes_overtaking]
  decide

end Sample

open Sample in
/-- **Two writes within an interval**, without any call of `flush`. -/
theorem rate_exceeded : ¬ ∀ (interval : Time) (es : List LoopEvent) (x : StoreLoop),
    LoopRun platform interval es x → (∀ e ∈ es, e.call.action ≠ .flush) →
      RateLimited interval es := by
  intro hlimited
  exact not_rateLimited_overtaking (hlimited _ _ _ run_overtaking noFlush_overtaking)

open Sample in
/-- In the sample run the flush task is overtaken. -/
theorem rate_limited_iff_sample : ∃ es x, LoopRun platform (seconds 1) es x ∧
    (∀ e ∈ es, e.call.action ≠ .flush) ∧ ¬ NoneOvertaken (seconds 1) es := by
  refine ⟨_, _, run_overtaking, noFlush_overtaking, fun hnone => ?_⟩
  exact not_rateLimited_overtaking ((rate_limited_iff run_overtaking noFlush_overtaking).mpr hnone)

end PrinterHmi
