import Mathlib.Data.List.Basic
import PrinterHmi.Lib.Checks
import PrinterHmi.Lib.FileProg

/-!
# Where a program of file steps can stop

A program that handles none of its own faults goes through its file steps one by
one, and the first that fails ends it. What it can leave behind is then one
timeline, whatever the fault pattern: `FileProg.stages` lists the states before
each of its file steps, and `FileProg.exec` gives the last one.

`FileProg.leftBy` is the state left by a process whose file steps fail as a
pattern says and which ends before a given step, if it is made to. For a program
that stops at its first fault (`FileProg.Strict`), `FileProg.Strict.leftBy_iff`
reads a property of it off the timeline: it is that of the stage where the process
first stopped (`FirstStop`), or of the last state if it did not stop.
`FileProg.Strict.run_cases` says the same of its outcome. Cleaning up is no
exception, as long as it changes nothing and still raises (`FileProg.Quiet`).

`FileProg.Course` is a program's timeline, outcome and last state together, and has a
rule for each way of putting programs together, so the course of a long program is read
off its text. Where only a property of each stage is wanted, which may depend on its number,
`FileProg.Counted` is the specification of the timeline, with the same rules.
-/

/-- The process stops before its `k`-th file step, for the first time: the step
fails, or the process ends. -/
def FirstStop (o : ℕ → Bool) (ending : Option ℕ) (k : ℕ) : Prop :=
  (o k = true ∨ ending = some k) ∧ ∀ j < k, o j = false ∧ ending ≠ some j

namespace FileProg

variable {σ ε α β : Type}

/-- The states before each file step of the run in which none fails. -/
def stages : FileProg σ ε α → σ → List σ
  | done _, _ => []
  | read k, s => (k s).stages s
  | note f p, s => p.stages (f s)
  | step f p _, s => s :: p.stages (f s)

/-- The state left behind by a process whose file steps fail as `o` says, and which
ends before a file step if `ending` names one. -/
def leftBy (p : FileProg σ ε α) (o : ℕ → Bool) : Option ℕ → σ → σ
  | none, s => (p.run o s).2
  | some n, s => p.stopAt o n s

/-- The program changes nothing and ends by raising. -/
def Quiet : FileProg σ ε α → Prop
  | done (.ok _) => False
  | done (.error _) => True
  | read k => ∀ s, (k s).Quiet
  | note _ _ => False
  | step f p q => f = id ∧ p.Quiet ∧ q.Quiet

/-- The program handles no fault: after a file step that fails it changes nothing any
more and raises, whatever it cleans up. -/
def Strict : FileProg σ ε α → Prop
  | done _ => True
  | read k => ∀ s, (k s).Strict
  | note _ p => p.Strict
  | step _ p q => p.Strict ∧ q.Quiet

/-! ### Changing nothing -/

theorem quiet_raise (e : ε) : (raise e : FileProg σ ε α).Quiet := trivial

/-- What follows a program that raises. -/
theorem Quiet.andThen {q : FileProg σ ε α} {k : Except ε α → FileProg σ ε β} (hq : q.Quiet)
    (hk : ∀ e, (k (.error e)).Quiet) : (q.andThen k).Quiet := by
  induction q with
  | done r =>
    cases r with
    | ok a => exact hq.elim
    | error e => exact hk e
  | read q ih => exact fun s => ih s (hq s)
  | note f p _ => exact hq.elim
  | step f p q ihp ihq => exact ⟨hq.1, ihp hq.2.1, ihq hq.2.2⟩

theorem Quiet.run {q : FileProg σ ε α} (hq : q.Quiet) (o : ℕ → Bool) (s : σ) :
    ∃ e, q.run o s = (.error e, s) := by
  induction q generalizing o s with
  | done r =>
    cases r with
    | ok a => exact hq.elim
    | error e => exact ⟨e, rfl⟩
  | read k ih => exact ih s (hq s) o s
  | note f p _ => exact hq.elim
  | step f p q ihp ihq =>
    obtain ⟨rfl, hp, hq⟩ := hq
    cases ho : o 0 with
    | true => simpa only [FileProg.run, ho, if_true] using ihq hq (fun n => o (n + 1)) s
    | false =>
      simpa only [FileProg.run, ho, Bool.false_eq_true, if_false, id_eq] using
        ihp hp (fun n => o (n + 1)) s

theorem Quiet.stopAt {q : FileProg σ ε α} (hq : q.Quiet) (o : ℕ → Bool) (n : ℕ) (s : σ) :
    q.stopAt o n s = s := by
  induction q generalizing o n s with
  | done r => rfl
  | read k ih => exact ih s (hq s) o n s
  | note f p _ => exact hq.elim
  | step f p q ihp ihq =>
    obtain ⟨rfl, hp, hq⟩ := hq
    cases n with
    | zero => rfl
    | succ n =>
      cases ho : o 0 with
      | true => simpa only [FileProg.stopAt, ho, if_true] using ihq hq (fun n => o (n + 1)) n s
      | false =>
        simpa only [FileProg.stopAt, ho, Bool.false_eq_true, if_false, id_eq] using
          ihp hp (fun n => o (n + 1)) n s

/-- A program that changes nothing leaves what it found. -/
theorem Quiet.leftBy {q : FileProg σ ε α} (hq : q.Quiet) (o : ℕ → Bool) (ending : Option ℕ)
    (s : σ) : q.leftBy o ending s = s := by
  cases ending with
  | none =>
    obtain ⟨e, he⟩ := hq.run o s
    exact congrArg Prod.snd he
  | some n => exact hq.stopAt o n s

/-! ### Sequencing -/

theorem Strict.andThen {p : FileProg σ ε α} {k : Except ε α → FileProg σ ε β} (hp : p.Strict)
    (hk : ∀ r, (k r).Strict) (hraise : ∀ e, (k (.error e)).Quiet) : (p.andThen k).Strict := by
  induction p with
  | done r => exact hk r
  | read q ih => exact fun s => ih s (hp s)
  | note f p ih => exact ih hp
  | step f p q ihp _ => exact ⟨ihp hp.1, hp.2.andThen hraise⟩

theorem Strict.bind {p : FileProg σ ε α} {k : α → FileProg σ ε β} (hp : p.Strict)
    (hk : ∀ a, (k a).Strict) : (p >>= k).Strict := by
  refine Strict.andThen hp (fun r => ?_) quiet_raise
  cases r with
  | ok a => exact hk a
  | error e => exact trivial

/-- Cleaning up with one file step that changes nothing. -/
theorem Strict.tryFinally {p : FileProg σ ε α} (hp : p.Strict) (e : ε) :
    (tryFinally p (fileStep e id)).Strict :=
  hp.andThen (fun _ => ⟨trivial, quiet_raise e⟩) fun _ => ⟨rfl, trivial, quiet_raise e⟩

theorem strict_done (r : Except ε α) : (done r : FileProg σ ε α).Strict := trivial

theorem strict_fileStep (e : ε) (f : σ → σ) : (fileStep e f).Strict := ⟨trivial, quiet_raise e⟩

theorem strict_state : (state : FileProg σ ε σ).Strict := fun _ => trivial

@[simp] theorem stages_lift (r : Except ε α) (s : σ) :
    (liftM r : FileProg σ ε α).stages s = [] := rfl

theorem stages_andThen (p : FileProg σ ε α) (k : Except ε α → FileProg σ ε β) (s : σ) :
    (p.andThen k).stages s = p.stages s ++ (k (p.exec s).1).stages (p.exec s).2 := by
  induction p generalizing s with
  | done r => rfl
  | read q ih => exact ih s s
  | note f p ih => exact ih (f s)
  | step f p q ihp _ => exact congrArg (s :: ·) (ihp (f s))

/-- The timeline of a sequence whose first part returned. -/
theorem stages_bind_ok {p : FileProg σ ε α} {s s' : σ} {a : α} (h : p.exec s = (.ok a, s'))
    (k : α → FileProg σ ε β) : (p >>= k).stages s = p.stages s ++ (k a).stages s' := by
  rw [show p >>= k = p.andThen (onValue k) from rfl, stages_andThen, h]
  rfl

/-- The timeline of a sequence whose first part raised. -/
theorem stages_bind_error {p : FileProg σ ε α} {s s' : σ} {e : ε} (h : p.exec s = (.error e, s'))
    (k : α → FileProg σ ε β) : (p >>= k).stages s = p.stages s := by
  rw [show p >>= k = p.andThen (onValue k) from rfl, stages_andThen, h]
  exact List.append_nil _

/-- A timeline that starts with a number of equal states. -/
theorem getElem?_replicate_append {γ : Type} {n k : ℕ} {x t : γ} {l : List γ} :
    (List.replicate n x ++ l)[k]? = some t ↔
      (k < n ∧ t = x) ∨ (n ≤ k ∧ l[k - n]? = some t) := by
  rcases Nat.lt_or_ge k n with h | h
  · rw [List.getElem?_append_left (by simpa using h), List.getElem?_replicate, if_pos h]
    simp [h, Nat.not_le.mpr h, eq_comm]
  · rw [List.getElem?_append_right (by simpa using h), List.length_replicate]
    simp [h, Nat.not_lt.mpr h]

/-! ### Stopping -/

theorem firstStop_zero_iff {o : ℕ → Bool} {ending : Option ℕ} :
    FirstStop o ending 0 ↔ o 0 = true ∨ ending = some 0 :=
  ⟨And.left, fun h => ⟨h, fun j hj => absurd hj (Nat.not_lt_zero j)⟩⟩

/-- Stopping later, counted from the next step. -/
theorem firstStop_succ_iff {o : ℕ → Bool} {ending : Option ℕ} {k : ℕ} (ho : o 0 = false)
    (he : ending ≠ some 0) :
    FirstStop o ending (k + 1) ↔ FirstStop (fun n => o (n + 1)) (ending.map (· - 1)) k := by
  have hshift (j : ℕ) : ending = some (j + 1) ↔ ending.map (· - 1) = some j := by
    cases ending with
    | none => simp
    | some n =>
      cases n with
      | zero => exact absurd rfl he
      | succ n => simp
  -- the first step goes through, so the numbers of the others go down by one
  constructor
  · rintro ⟨hstop, hbefore⟩
    refine ⟨hstop.imp_right (hshift k).mp, fun j hj => ?_⟩
    obtain ⟨hno, hend⟩ := hbefore (j + 1) (Nat.succ_lt_succ hj)
    exact ⟨hno, fun hc => hend ((hshift j).mpr hc)⟩
  · rintro ⟨hstop, hbefore⟩
    refine ⟨hstop.imp_right (hshift k).mpr, fun j hj => ?_⟩
    cases j with
    | zero => exact ⟨ho, he⟩
    | succ j =>
      obtain ⟨hno, hend⟩ := hbefore j (Nat.lt_of_succ_lt_succ hj)
      exact ⟨hno, fun hc => hend ((hshift j).mp hc)⟩

/-- A file step, by where the process stops. -/
theorem leftBy_step (f : σ → σ) (p : FileProg σ ε α) {q : FileProg σ ε α} (hq : q.Quiet)
    (o : ℕ → Bool) (ending : Option ℕ) (s : σ) :
    ((o 0 = true ∨ ending = some 0) ∧ (step f p q).leftBy o ending s = s) ∨
      ((o 0 = false ∧ ending ≠ some 0) ∧ (step f p q).leftBy o ending s =
        p.leftBy (fun n => o (n + 1)) (ending.map (· - 1)) (f s)) := by
  cases ho : o 0 with
  | true =>
    refine .inl ⟨.inl rfl, ?_⟩
    rcases ending with _ | _ | n
    · obtain ⟨e, he⟩ := hq.run (fun n => o (n + 1)) s
      simp [leftBy, run, ho, he]
    · rfl
    · simpa [leftBy, stopAt, ho] using hq.stopAt (fun n => o (n + 1)) n s
  | false =>
    rcases ending with _ | _ | n
    · exact .inr ⟨⟨rfl, (Option.some_ne_none 0).symm⟩, by simp [leftBy, run, ho]⟩
    · exact .inl ⟨.inr rfl, rfl⟩
    · exact .inr ⟨⟨rfl, by simp⟩, by simp [leftBy, stopAt, ho]⟩

/-- **A program that stops at its first fault** leaves the stage where it first
stopped, or goes through. -/
theorem Strict.leftBy_cases {p : FileProg σ ε α} (hp : p.Strict) (s : σ) (o : ℕ → Bool)
    (ending : Option ℕ) :
    (∃ k, (p.stages s)[k]? = some (p.leftBy o ending s) ∧ FirstStop o ending k) ∨
      ((∀ k < (p.stages s).length, ¬FirstStop o ending k) ∧
        p.leftBy o ending s = (p.exec s).2) := by
  induction p generalizing s o ending with
  | done r => exact .inr ⟨fun k hk => absurd hk (Nat.not_lt_zero k), by cases ending <;> rfl⟩
  | read k ih =>
    have hleft : (read k).leftBy o ending s = (k s).leftBy o ending s := by cases ending <;> rfl
    rw [hleft]
    exact ih s (hp s) s o ending
  | note f p ih =>
    have hleft : (note f p).leftBy o ending s = p.leftBy o ending (f s) := by cases ending <;> rfl
    rw [hleft]
    exact ih hp (f s) o ending
  -- the process stops before this step, or the rest of the program decides
  | step f p q ihp _ =>
    obtain ⟨hp, hq⟩ := hp
    rcases leftBy_step f p hq o ending s with ⟨hstop, hleft⟩ | ⟨⟨ho, he⟩, hleft⟩
    · exact .inl ⟨0, congrArg some hleft.symm, firstStop_zero_iff.mpr hstop⟩
    · rw [hleft]
      rcases ihp hp (f s) (fun n => o (n + 1)) (ending.map (· - 1)) with
        ⟨k, hk, hstop⟩ | ⟨hnone, hexec⟩
      · exact .inl ⟨k + 1, hk, (firstStop_succ_iff ho he).mpr hstop⟩
      · refine .inr ⟨fun k hk hstop => ?_, hexec⟩
        cases k with
        | zero =>
          rcases firstStop_zero_iff.mp hstop with hc | hc
          · rw [ho] at hc
            cases hc
          · exact he hc
        | succ k =>
          exact hnone k (Nat.lt_of_succ_lt_succ hk) ((firstStop_succ_iff ho he).mp hstop)

/-- **How a program that stops at its first fault ends**: it raises, and leaves the stage
where the first file step failed, or none of its file steps fails. -/
theorem Strict.run_cases {p : FileProg σ ε α} (hp : p.Strict) (o : ℕ → Bool) (s : σ) :
    (∃ k e, (p.stages s)[k]? = some (p.run o s).2 ∧ FirstStop o none k ∧
        (p.run o s).1 = .error e) ∨
      ((∀ k < (p.stages s).length, o k = false) ∧ p.run o s = p.exec s) := by
  induction p generalizing s o with
  | done r => exact .inr ⟨fun k hk => absurd hk (Nat.not_lt_zero k), rfl⟩
  | read k ih => exact ih s (hp s) o s
  | note f p ih => exact ih hp o (f s)
  | step f p q ihp _ =>
    obtain ⟨hp, hq⟩ := hp
    cases ho : o 0 with
    | true =>
      obtain ⟨e, he⟩ := hq.run (fun n => o (n + 1)) s
      have hrun : (step f p q).run o s = (.error e, s) := by
        simpa only [run, ho, if_true] using he
      rw [hrun]
      exact .inl ⟨0, e, rfl, firstStop_zero_iff.mpr (.inl ho), rfl⟩
    | false =>
      have hrun : (step f p q).run o s = p.run (fun n => o (n + 1)) (f s) := by
        simp only [run, ho, Bool.false_eq_true, if_false]
      rw [hrun]
      rcases ihp hp (fun n => o (n + 1)) (f s) with ⟨k, e, hk, hstop, hraise⟩ | ⟨hnone, hexec⟩
      · exact .inl ⟨k + 1, e, hk, (firstStop_succ_iff ho (Option.some_ne_none 0).symm).mpr hstop, hraise⟩
      · refine .inr ⟨fun k hk => ?_, hexec⟩
        cases k with
        | zero => exact ho
        | succ k => exact hnone k (Nat.lt_of_succ_lt_succ hk)

/-- A process first stops in one place. -/
theorem firstStop_unique {o : ℕ → Bool} {ending : Option ℕ} {k k' : ℕ}
    (hk : FirstStop o ending k) (hk' : FirstStop o ending k') : k = k' := by
  have hle {a b : ℕ} (ha : FirstStop o ending a) (hb : FirstStop o ending b) : ¬a < b := by
    intro hlt
    obtain ⟨hno, hne⟩ := hb.2 a hlt
    rcases ha.1 with hc | hc
    · rw [hno] at hc
      cases hc
    · exact hne hc
  exact Nat.le_antisymm (Nat.le_of_not_lt (hle hk' hk)) (Nat.le_of_not_lt (hle hk hk'))

/-- The stage where the process first stops is what it leaves behind. -/
theorem Strict.leftBy_of_firstStop {p : FileProg σ ε α} {s t : σ} {o : ℕ → Bool}
    {ending : Option ℕ} {k : ℕ} (hp : p.Strict) (hk : FirstStop o ending k)
    (ht : (p.stages s)[k]? = some t) : p.leftBy o ending s = t := by
  rcases hp.leftBy_cases s o ending with ⟨k', hk', hstop⟩ | ⟨hnone, -⟩
  · obtain rfl := firstStop_unique hk hstop
    exact Option.some.inj (hk'.symm.trans ht)
  · obtain ⟨hlt, -⟩ := List.getElem?_eq_some_iff.mp ht
    exact absurd hk (hnone k hlt)

/-- **What a program that stops at its first fault leaves behind** has a property
iff the stage where it first stopped has it, provided the last state does. -/
theorem Strict.leftBy_iff {A : σ → Prop} {p : FileProg σ ε α} {s : σ} (hp : p.Strict)
    (hend : A (p.exec s).2) (o : ℕ → Bool) (ending : Option ℕ) :
    A (p.leftBy o ending s) ↔
      ∀ k t, (p.stages s)[k]? = some t → FirstStop o ending k → A t := by
  constructor
  · intro hleft k t ht hk
    rw [← hp.leftBy_of_firstStop hk ht]
    exact hleft
  · intro hall
    rcases hp.leftBy_cases s o ending with ⟨k, hk, hstop⟩ | ⟨-, hexec⟩
    · exact hall k _ hk hstop
    · rw [hexec]
      exact hend

/-! ### The course of a run -/

/-- **The course of the run in which nothing fails**: the states before its file steps,
its outcome, and the state it ends in. -/
structure Course (p : FileProg σ ε α) (s : σ) (l : List σ) (r : Except ε α) (s' : σ) : Prop where
  stages : p.stages s = l
  exec : p.exec s = (r, s')

section Course

variable {s s' s'' : σ} {l l' : List σ} {a : α} {e : ε}

theorem course_lift (r : Except ε α) (s : σ) : (liftM r : FileProg σ ε α).Course s [] r s :=
  ⟨rfl, rfl⟩

/-- A computation without file steps that returns. -/
theorem course_lift_ok {x : Except ε α} (h : x = .ok a) (s : σ) :
    (liftM x : FileProg σ ε α).Course s [] (.ok a) s := h ▸ course_lift x s

/-- A computation without file steps that raises. -/
theorem course_lift_error {x : Except ε α} (h : x = .error e) (s : σ) :
    (liftM x : FileProg σ ε α).Course s [] (.error e) s := h ▸ course_lift x s

/-- A check that passes. -/
theorem course_require {c : Prop} [Decidable c] (h : c) (e : ε) (s : σ) :
    (liftM (require c e) : FileProg σ ε Unit).Course s [] (.ok ()) s :=
  course_lift_ok (require_pos h) s

/-- A check that fails. -/
theorem course_require_error {c : Prop} [Decidable c] (h : ¬c) (e : ε) (s : σ) :
    (liftM (require c e) : FileProg σ ε Unit).Course s [] (.error e) s :=
  course_lift_error (require_neg h) s

theorem course_fileStep (e : ε) (f : σ → σ) (s : σ) :
    (fileStep e f).Course s [s] (.ok ()) (f s) := ⟨rfl, rfl⟩

theorem course_pure (a : α) (s : σ) : (pure a : FileProg σ ε α).Course s [] (.ok a) s := ⟨rfl, rfl⟩

/-- Looking at the state first. -/
theorem course_state_bind {k : σ → FileProg σ ε α} {r : Except ε α}
    (h : (k s).Course s l r s') : (state >>= k).Course s l r s' := ⟨h.stages, h.exec⟩

/-- Sequencing, where the first part returns. -/
theorem Course.bind {p : FileProg σ ε α} {k : α → FileProg σ ε β} {r : Except ε β}
    (h : p.Course s l (.ok a) s') (hk : (k a).Course s' l' r s'') :
    (p >>= k).Course s (l ++ l') r s'' := by
  refine ⟨?_, ?_⟩
  · rw [stages_bind_ok h.exec, h.stages, hk.stages]
  · rw [exec_bind_ok h.exec, hk.exec]

/-- Sequencing, where the first part raises. -/
theorem Course.bind_error {p : FileProg σ ε α} (h : p.Course s l (.error e) s')
    (k : α → FileProg σ ε β) : (p >>= k).Course s l (.error e) s' := by
  refine ⟨?_, ?_⟩
  · rw [stages_bind_error h.exec, h.stages]
  · rw [exec_bind_error h.exec]

/-- Cleaning up with one file step that changes nothing. -/
theorem Course.tryFinally {p : FileProg σ ε α} {r : Except ε α} (h : p.Course s l r s') (e : ε) :
    (tryFinally p (fileStep e id)).Course s (l ++ [s']) r s' := by
  refine ⟨?_, ?_⟩
  · rw [FileProg.tryFinally, stages_andThen, h.exec, h.stages]
    rfl
  · rw [FileProg.tryFinally, exec_andThen, h.exec]
    rfl

/-- **How a program with a known course ends**: it raises where a file step first failed,
or takes its course. -/
theorem Course.run_cases {p : FileProg σ ε α} {r : Except ε α} (h : p.Course s l r s')
    (hp : p.Strict) (o : ℕ → Bool) :
    (∃ k e, l[k]? = some (p.run o s).2 ∧ FirstStop o none k ∧ (p.run o s).1 = .error e) ∨
      ((∀ k < l.length, o k = false) ∧ p.run o s = (r, s')) := by
  rw [← h.stages, ← h.exec]
  exact hp.run_cases o s

/-- **Where a program with a known course ends if a file step of it fails**: in the state
before the first one that does. -/
theorem Course.run_of_firstStop {p : FileProg σ ε α} {r : Except ε α} (h : p.Course s l r s')
    (hp : p.Strict) {o : ℕ → Bool} {k : ℕ} {t : σ} (hk : FirstStop o none k) (ht : l[k]? = some t) :
    ∃ e, p.run o s = (.error e, t) := by
  rcases h.run_cases hp o with ⟨k', e, hk', hstop, he⟩ | ⟨hnone, -⟩
  · obtain rfl := firstStop_unique hk hstop
    exact ⟨e, Prod.ext he (Option.some.inj (hk'.symm.trans ht))⟩
  · obtain ⟨hlt, -⟩ := List.getElem?_eq_some_iff.mp ht
    rcases hk.1 with hfault | hend
    · rw [hnone k hlt] at hfault
      cases hfault
    · cases hend

end Course

/-! ### Counting file steps -/

/-- **The specification of a timeline**: the state before the `k`-th file step, counted from `n`,
satisfies `I k`; and how many steps there were, the outcome and the last state satisfy `Q`. -/
def Counted (I : ℕ → σ → Prop) (Q : ℕ → Except ε α → σ → Prop) : ℕ → FileProg σ ε α → σ → Prop
  | n, done r, s => Q n r s
  | n, read k, s => (k s).Counted I Q n s
  | n, note f p, s => p.Counted I Q n (f s)
  | n, step f p _, s => I n s ∧ p.Counted I Q (n + 1) (f s)

section Counted

variable {I : ℕ → σ → Prop} {Q Q' : ℕ → Except ε α → σ → Prop} {n : ℕ} {s : σ}

/-- Specifications of a timeline are monotone in the postcondition. -/
theorem Counted.mono {p : FileProg σ ε α} (h : p.Counted I Q n s)
    (hQ : ∀ m r s, Q m r s → Q' m r s) : p.Counted I Q' n s := by
  induction p generalizing n s with
  | done r => exact hQ n r s h
  | read k ih => exact ih s h
  | note f p ih => exact ih h
  | step f p q ihp _ => exact ⟨h.1, ihp h.2⟩

/-- **The rule of sequencing**: what the first part has counted is where the second one starts. -/
theorem counted_andThen {R : ℕ → Except ε β → σ → Prop} {p : FileProg σ ε α}
    {k : Except ε α → FileProg σ ε β} :
    (p.andThen k).Counted I R n s ↔ p.Counted I (fun m r s' => (k r).Counted I R m s') n s := by
  induction p generalizing n s with
  | done r => exact Iff.rfl
  | read q ih => exact ih s
  | note f p ih => exact ih
  | step f p q ihp _ => exact and_congr Iff.rfl ihp

/-- The rule of sequencing, where an exception of the first part ends the program. -/
theorem Counted.bind {R : ℕ → Except ε β → σ → Prop} {p : FileProg σ ε α}
    {k : α → FileProg σ ε β} (h : p.Counted I Q n s)
    (hok : ∀ m a s', Q m (.ok a) s' → (k a).Counted I R m s')
    (herror : ∀ m e s', Q m (.error e) s' → R m (.error e) s') : (p >>= k).Counted I R n s := by
  refine counted_andThen.mpr (h.mono fun m r s' hr => ?_)
  cases r with
  | ok a => exact hok m a s' hr
  | error e => exact herror m e s' hr

/-- Looking at the state first. -/
theorem counted_state_bind {k : σ → FileProg σ ε α} (h : (k s).Counted I Q n s) :
    (state >>= k).Counted I Q n s := h

theorem counted_lift {r : Except ε α} (h : Q n r s) :
    (liftM r : FileProg σ ε α).Counted I Q n s := h

/-- **Every stage of a specified timeline** is as specified for its number. -/
theorem Counted.stage {p : FileProg σ ε α} (h : p.Counted I Q n s) {k : ℕ} {t : σ}
    (hk : (p.stages s)[k]? = some t) : I (n + k) t := by
  induction p generalizing n s k with
  | done r => cases hk
  | read q ih => exact ih s h hk
  | note f p ih => exact ih h hk
  | step f p q ihp _ =>
    cases k with
    | zero =>
      obtain rfl := Option.some.inj hk
      exact h.1
    | succ k =>
      have hstage := ihp h.2 (k := k) hk
      rwa [Nat.add_assoc, Nat.add_comm 1 k] at hstage

end Counted

/-! ### Two levels of one program -/

section View

variable {τ : Type} {view : σ → τ} {s : σ} {t t' : τ} {l : List τ} {r : Except ε α}

/-- **A program on two levels**: if the stages of the one are those of the other, seen through a
view, what an interrupted process leaves behind is so too. -/
theorem Strict.view_leftBy {p : FileProg σ ε α} {q : FileProg τ ε α} (hp : p.Strict) (hq : q.Strict)
    (hstages : (p.stages s).map view = q.stages t) (hend : view (p.exec s).2 = (q.exec t).2)
    (o : ℕ → Bool) (ending : Option ℕ) : view (p.leftBy o ending s) = q.leftBy o ending t := by
  rcases hp.leftBy_cases s o ending with ⟨k, hk, hstop⟩ | ⟨hnone, hexec⟩
  · refine (hq.leftBy_of_firstStop hstop ?_).symm
    rw [← hstages, List.getElem?_map, hk]
    rfl
  · rcases hq.leftBy_cases t o ending with ⟨k, hk, hstop⟩ | ⟨-, hexec'⟩
    · obtain ⟨hlt, -⟩ := List.getElem?_eq_some_iff.mp hk
      rw [← hstages, List.length_map] at hlt
      exact absurd hstop (hnone k hlt)
    · rw [hexec, hexec', hend]

/-- The file steps of the program change nothing. -/
def Idle : FileProg τ ε α → Prop
  | done _ => True
  | read k => ∀ t, (k t).Idle
  | note _ _ => False
  | step f p q => f = id ∧ p.Idle ∧ q.Idle

/-- An idle program, run over a state it sees through a view. -/
def onView (view : σ → τ) : FileProg τ ε α → FileProg σ ε α
  | done r => done r
  | read k => read fun s => (k (view s)).onView view
  | note _ p => p.onView view
  | step _ p q => step id (p.onView view) (q.onView view)

theorem Idle.andThen {p : FileProg τ ε α} {k : Except ε α → FileProg τ ε β} (hp : p.Idle)
    (hk : ∀ r, (k r).Idle) : (p.andThen k).Idle := by
  induction p with
  | done r => exact hk r
  | read q ih => exact fun t => ih t (hp t)
  | note f p _ => exact hp.elim
  | step f p q ihp ihq => exact ⟨hp.1, ihp hp.2.1, ihq hp.2.2⟩

theorem Idle.bind {p : FileProg τ ε α} {k : α → FileProg τ ε β} (hp : p.Idle)
    (hk : ∀ a, (k a).Idle) : (p >>= k).Idle := by
  refine hp.andThen fun r => ?_
  cases r with
  | ok a => exact hk a
  | error e => exact trivial

theorem idle_done (r : Except ε α) : (done r : FileProg τ ε α).Idle := trivial

theorem idle_fileStep (e : ε) : (fileStep e id : FileProg τ ε Unit).Idle := ⟨rfl, trivial, trivial⟩

theorem idle_state : (state : FileProg τ ε τ).Idle := fun _ => trivial

theorem Quiet.onView {p : FileProg τ ε α} (hp : p.Quiet) : (p.onView view).Quiet := by
  induction p with
  | done r => cases r <;> exact hp
  | read k ih => exact fun s => ih _ (hp _)
  | note f p _ => exact hp.elim
  | step f p q ihp ihq => exact ⟨rfl, ihp hp.2.1, ihq hp.2.2⟩

theorem Strict.onView {p : FileProg τ ε α} (hp : p.Strict) : (p.onView view).Strict := by
  induction p with
  | done r => exact trivial
  | read k ih => exact fun s => ih _ (hp _)
  | note f p ih => exact ih hp
  | step f p q ihp _ => exact ⟨ihp hp.1, hp.2.onView⟩

/-- **An idle program does over a view what it does**, and changes nothing. -/
theorem Idle.course_onView {p : FileProg τ ε α} (hp : p.Idle) (h : p.Course (view s) l r t') :
    (p.onView view).Course s (List.replicate l.length s) r s := by
  obtain ⟨rfl, hexec⟩ := h
  have hout : r = (p.exec (view s)).1 := congrArg Prod.fst hexec.symm
  subst hout
  clear hexec
  induction p with
  | done r => exact ⟨rfl, rfl⟩
  | read k ih => exact ⟨(ih _ (hp _)).stages, (ih _ (hp _)).exec⟩
  | note f p _ => exact hp.elim
  | step f p q ihp _ =>
    obtain ⟨rfl, hp, -⟩ := hp
    exact ⟨congrArg (s :: ·) (ihp hp).stages, (ihp hp).exec⟩

end View

end FileProg
