import PrinterHmi.Lib.Runs
import PrinterHmi.Platform

/-!
# The queue of the latest snapshots

`BoundedSnapshotQueue` stands between what makes snapshots and what sends them. A put never
waits: while the queue is full, its oldest snapshot is dropped and counted. A get takes the
oldest snapshot that is left.

What is put is accounted for (`queue_conserves`): it has been returned by a get, in order and
once, or dropped and counted, or is still in the queue, and what is in the queue is the newest
end of all that was put. The argument is one equation on lists, `Conserves`: the puts are what
has left the queue, followed by what is in it.
-/

namespace PrinterHmi

/-! ### The queue -/

/-- **`BoundedSnapshotQueue`.** Its `asyncio.Queue` is a list, the oldest snapshot first. -/
structure BoundedSnapshotQueue (α : Type) where
  capacity : ℕ
  one_le : 1 ≤ capacity
  le_most : capacity ≤ 64
  items : List α
  length_le : items.length ≤ capacity
  droppedCount : ℕ

namespace BoundedSnapshotQueue

variable {α : Type}

/-- `BoundedSnapshotQueue(capacity)`. -/
def create (α : Type) (capacity : ℤ) : Except Exn (BoundedSnapshotQueue α) :=
  if h : 1 ≤ capacity ∧ capacity ≤ 64 then
    .ok ⟨capacity.toNat, by omega, by omega, [], Nat.zero_le _, 0⟩
  else .error ⟨.valueError, "capacity must be between 1 and 64"⟩

/-- `qsize`. -/
def qsize (q : BoundedSnapshotQueue α) : ℕ := q.items.length

/-- `self._queue.full()`. -/
def full (q : BoundedSnapshotQueue α) : Bool := decide (q.capacity ≤ q.qsize)

/-- The loop of `put_latest`: while the queue is full, its head is dropped and counted. An
empty queue is never full. -/
def makeRoom (capacity : ℕ) : List α → ℕ → List α × ℕ
  | [], dropped => ([], dropped)
  | x :: items, dropped =>
    if capacity ≤ (x :: items).length then makeRoom capacity items (dropped + 1)
    else (x :: items, dropped)

/-- **What the loop does**: it takes off a front of the queue, of which it counts each
snapshot, until there is room; and nothing, if there was room. -/
theorem makeRoom_spec {capacity : ℕ} (h : 1 ≤ capacity) (items : List α) (dropped : ℕ) :
    ∃ front, items = front ++ (makeRoom capacity items dropped).1 ∧
      (makeRoom capacity items dropped).2 = dropped + front.length ∧
      (makeRoom capacity items dropped).1.length < capacity ∧
      (front ≠ [] → capacity ≤ items.length) := by
  induction items generalizing dropped with
  | nil => exact ⟨[], rfl, rfl, h, fun hne => (hne rfl).elim⟩
  | cons x items ih =>
    rw [makeRoom]
    split_ifs with hfull
    · obtain ⟨front, hitems, hdropped, hroom, -⟩ := ih (dropped + 1)
      refine ⟨x :: front, by rw [List.cons_append, ← hitems], ?_, hroom, fun _ => hfull⟩
      rw [hdropped, List.length_cons]
      omega
    · exact ⟨[], rfl, rfl, not_le.mp hfull, fun hne => (hne rfl).elim⟩

/-- `put_latest`. -/
def putLatest (q : BoundedSnapshotQueue α) (snapshot : α) : BoundedSnapshotQueue α where
  capacity := q.capacity
  one_le := q.one_le
  le_most := q.le_most
  items := (makeRoom q.capacity q.items q.droppedCount).1 ++ [snapshot]
  length_le := by
    obtain ⟨-, -, -, hroom, -⟩ := makeRoom_spec q.one_le q.items q.droppedCount
    rw [List.length_append, List.length_singleton]
    omega
  droppedCount := (makeRoom q.capacity q.items q.droppedCount).2

/-- `get`, when it returns: of an empty queue it waits. -/
def get (q : BoundedSnapshotQueue α) : Option α × BoundedSnapshotQueue α :=
  match h : q.items with
  | [] => (none, q)
  | snapshot :: items =>
    (some snapshot, { q with
      items := items
      length_le := by
        have hlength := q.length_le
        rw [h, List.length_cons] at hlength
        omega })

end BoundedSnapshotQueue

/-! ### Puts and gets in any order -/

/-- A call of a producer or of a consumer. -/
inductive QueueCall (α : Type) : Type where
  | put (snapshot : α)
  | get

/-- One call. A get that has nothing to return yet changes nothing, and no more has completed. -/
def queueStep {α : Type} (q : BoundedSnapshotQueue α) :
    QueueCall α → Option α × BoundedSnapshotQueue α
  | .put snapshot => (none, q.putLatest snapshot)
  | .get => q.get

section Runs

variable {α : Type}

/-- A call of a queue, in a history. -/
abbrev QueueEvent (α : Type) :=
  Event (BoundedSnapshotQueue α) (QueueCall α) (Option α)

/-- The snapshot a call puts. -/
def QueueCall.put? : QueueCall α → Option α
  | .put snapshot => some snapshot
  | .get => none

/-- The snapshots put, in order. -/
def puts (es : List (QueueEvent α)) : List α := es.filterMap fun e => e.call.put?

/-- The snapshots returned by the gets that have completed, in order. -/
def gots (es : List (QueueEvent α)) : List α := es.filterMap fun e => e.result

variable {es : List (QueueEvent α)} {q₀ q : BoundedSnapshotQueue α}

theorem puts_concat (es : List (QueueEvent α)) (q : BoundedSnapshotQueue α) (call : QueueCall α)
    (r : Option α) (q' : BoundedSnapshotQueue α) :
    puts (es ++ [⟨q, call, r, q'⟩]) = puts es ++ call.put?.toList := by
  rw [puts, List.filterMap_append]
  cases call <;> rfl

theorem gots_concat (es : List (QueueEvent α)) (q : BoundedSnapshotQueue α) (call : QueueCall α)
    (r : Option α) (q' : BoundedSnapshotQueue α) :
    gots (es ++ [⟨q, call, r, q'⟩]) = gots es ++ r.toList := by
  rw [gots, List.filterMap_append]
  cases r <;> rfl

/-- **What was put is accounted for**: some of it has left the queue, by a get or dropped, and
the rest is in it. -/
def Conserves (es : List (QueueEvent α)) (q : BoundedSnapshotQueue α) : Prop :=
  ∃ left, puts es = left ++ q.items ∧ (gots es).Sublist left ∧
    left.length = (gots es).length + q.droppedCount

/-- What a get does. -/
theorem get_cases (q : BoundedSnapshotQueue α) : q.get = (none, q) ∨
    ∃ snapshot items, q.items = snapshot :: items ∧ q.get.1 = some snapshot ∧
      q.get.2.items = items ∧ q.get.2.droppedCount = q.droppedCount ∧
      q.get.2.capacity = q.capacity := by
  unfold BoundedSnapshotQueue.get
  split
  · exact .inl rfl
  · next snapshot items hitems => exact .inr ⟨snapshot, items, hitems, rfl, rfl, rfl, rfl⟩

/-- **One call keeps the account.** -/
theorem Conserves.step (h : Conserves es q) (call : QueueCall α) :
    Conserves (es ++ [⟨q, call, (queueStep q call).1, (queueStep q call).2⟩])
      (queueStep q call).2 := by
  obtain ⟨left, hputs, hgots, hlength⟩ := h
  rw [Conserves, puts_concat, gots_concat, hputs]
  cases call with
  | put snapshot =>
    -- the front that is dropped leaves the queue
    obtain ⟨front, hitems, hdropped, -, -⟩ :=
      BoundedSnapshotQueue.makeRoom_spec q.one_le q.items q.droppedCount
    have hcount : (q.putLatest snapshot).droppedCount = q.droppedCount + front.length := hdropped
    have hrest : q.items ++ [snapshot] = front ++ (q.putLatest snapshot).items := by
      conv_lhs => rw [hitems]
      exact List.append_assoc ..
    refine ⟨left ++ front, ?_, ?_, ?_⟩
    · rw [List.append_assoc, List.append_assoc]
      exact congrArg (left ++ ·) hrest
    · exact (List.append_nil _).symm ▸ hgots.trans (List.sublist_append_left left front)
    · rw [queueStep, hcount, List.length_append, List.length_append, hlength]
      exact Nat.add_assoc ..
  | get =>
    rcases get_cases q with hwaits | ⟨snapshot, items, hitems, hresult, hrest, hdropped, -⟩
    · rw [queueStep, hwaits]
      refine ⟨left, List.append_nil _, ?_, ?_⟩
      · exact (List.append_nil _).symm ▸ hgots
      · rw [hlength, List.length_append]
        rfl
    · -- the head leaves the queue, and is the last one got
      rw [queueStep, hresult, hrest, hdropped, hitems]
      refine ⟨left ++ [snapshot], ?_, hgots.append (.refl _), ?_⟩
      · rw [List.append_assoc, List.append_assoc, List.singleton_append]
        exact congrArg (left ++ ·) (List.append_nil _)
      · rw [List.length_append, List.length_append, hlength]
        exact Nat.add_right_comm ..

/-- **A call that drops is a put into a full queue.** -/
theorem drops_only_when_full (q : BoundedSnapshotQueue α) (call : QueueCall α)
    (h : (queueStep q call).2.droppedCount ≠ q.droppedCount) :
    (∃ snapshot, call = .put snapshot) ∧ q.full = true := by
  cases call with
  | put snapshot =>
    obtain ⟨front, -, hdropped, -, hfull⟩ :=
      BoundedSnapshotQueue.makeRoom_spec q.one_le q.items q.droppedCount
    refine ⟨⟨snapshot, rfl⟩, decide_eq_true (hfull ?_)⟩
    rintro rfl
    exact h hdropped
  | get =>
    rcases get_cases q with hwaits | ⟨-, -, -, -, -, hdropped, -⟩
    · exact (h (congrArg (fun r => r.2.droppedCount) hwaits)).elim
    · exact (h hdropped).elim

/-- No call changes the capacity. -/
theorem capacity_queueStep (q : BoundedSnapshotQueue α) (call : QueueCall α) :
    (queueStep q call).2.capacity = q.capacity := by
  cases call with
  | put snapshot => rfl
  | get =>
    rcases get_cases q with hwaits | ⟨-, -, -, -, -, -, hcapacity⟩
    · exact congrArg (fun r => r.2.capacity) hwaits
    · exact hcapacity

/-- **The queue loses nothing uncounted**, over every run of puts and gets: what was got,
followed by what is in the queue, is what was put with some snapshots left out, each of which
was dropped and counted; the queue holds the newest end of what was put, within its capacity;
and only a full queue drops. -/
theorem queue_conserves {capacity : ℤ}
    (hcreate : BoundedSnapshotQueue.create α capacity = .ok q₀)
    (hrun : Run queueStep (fun _ _ => True) q₀ es q) :
    (gots es ++ q.items).Sublist (puts es) ∧
      (puts es).length = (gots es).length + q.qsize + q.droppedCount ∧
      (q.qsize : ℤ) ≤ capacity ∧
      q.items <:+ puts es ∧
      ∀ e ∈ es, e.after.droppedCount ≠ e.before.droppedCount →
        (∃ snapshot, e.call = .put snapshot) ∧ e.before.full = true := by
  rw [BoundedSnapshotQueue.create] at hcreate
  split_ifs at hcreate with hcapacity
  obtain rfl := Except.ok.inj hcreate
  have hkept : (q.capacity : ℤ) = capacity := by
    rw [hrun.invariant_state (I := fun q => q.capacity = capacity.toNat) rfl fun q call hq =>
      (capacity_queueStep q call).trans hq]
    omega
  -- what was put is what has left the queue, got or dropped, and then what it holds
  obtain ⟨left, hputs, hgots, hlength⟩ := hrun.invariant (I := Conserves) ⟨[], rfl, .refl _, rfl⟩
    fun es q call _ hes _ => hes.step call
  refine ⟨?_, ?_, ?_, ⟨left, hputs.symm⟩, fun e he => ?_⟩
  · rw [hputs]
    exact hgots.append (.refl _)
  · rw [hputs, List.length_append, hlength, BoundedSnapshotQueue.qsize]
    omega
  · rw [← hkept]
    exact_mod_cast q.length_le
  · have hstep := hrun.step_of_mem he
    intro hdropped
    refine drops_only_when_full e.before e.call ?_
    rw [hstep]
    exact hdropped

end Runs

/-- A queue of two. -/
def queueOfTwo : BoundedSnapshotQueue ℕ := ⟨2, by decide, by decide, [], by decide, 0⟩

/-- Three snapshots are put into it, and one is got: the first snapshot is dropped, the second is
returned, and the third is left. -/
theorem queue_conserves_sample : ∃ es q, Run queueStep (fun _ _ => True) queueOfTwo es q ∧
    es.map Event.call = [.put 1, .put 2, .put 3, .get] ∧ gots es = [2] ∧ q.items = [3] ∧
    q.droppedCount = 1 ∧ q.items <:+ puts es := by
  have hcreate : BoundedSnapshotQueue.create ℕ 2 = .ok queueOfTwo := rfl
  have hcalls : Admits queueStep (fun _ _ => True) [] queueOfTwo
      [.put 1, .put 2, .put 3, .get] := admits_of_forall (fun _ _ => trivial) _ _ _
  have hrun := Run.start.of_calls hcalls
  exact ⟨_, _, hrun, rfl, rfl, rfl, rfl, (queue_conserves hcreate hrun).2.2.2.1⟩

end PrinterHmi
