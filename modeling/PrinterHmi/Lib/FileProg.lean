import Mathlib.Data.Nat.Notation
import Mathlib.Logic.Basic

/-!
# Programs whose file steps may fail

A program that writes files is a tree: it reads the state for free, and every
change of the state is a *file step*, which either goes through or fails and
leaves the state as it was. `FileProg σ ε α` is that tree over a state `σ`, with
exceptions `ε` and results `α`.

Three readings of one program are needed, and all three are recursions on it:

* `FileProg.run` under a *fault pattern*, which says of every file step, counted
  from the start, whether it fails;
* `FileProg.stopAt`, the state the process leaves behind when it ends before its
  `n`-th file step;
* `FileProg.exec`, the run in which nothing fails.

`FileProg.Spec` is the one proof rule for all of them: it says that every state
the process can leave behind satisfies an invariant, and every outcome a
postcondition. It goes through sequencing (`FileProg.spec_andThen`), so a
program is verified piece by piece; `FileProg.spec_run`, `FileProg.spec_stopAt`
and `FileProg.spec_exec` turn it into a statement about runs.
-/

/-- A program over the state `σ` with exceptions `ε`, as the tree of its file
steps. -/
inductive FileProg (σ ε α : Type) : Type where
  /-- The program ends, by returning or by raising. -/
  | done (r : Except ε α) : FileProg σ ε α
  /-- The program looks at the state. -/
  | read (k : σ → FileProg σ ε α) : FileProg σ ε α
  /-- The program records something of its own run; this is no file step and
  cannot fail. -/
  | note (f : σ → σ) (next : FileProg σ ε α) : FileProg σ ε α
  /-- One file step: it changes the state and goes on, or it fails, changes
  nothing and goes on elsewhere. -/
  | step (f : σ → σ) (ok fail : FileProg σ ε α) : FileProg σ ε α

namespace FileProg

variable {σ ε α β : Type}

/-! ### Sequencing -/

/-- Run `p`, then go on with its outcome, whether it returned or raised. -/
def andThen : FileProg σ ε α → (Except ε α → FileProg σ ε β) → FileProg σ ε β
  | done r, k => k r
  | read q, k => read fun s => (q s).andThen k
  | note f p, k => note f (p.andThen k)
  | step f p q, k => step f (p.andThen k) (q.andThen k)

/-- Ending with an exception. -/
def raise (e : ε) : FileProg σ ε α := done (.error e)

/-- What `bind` does with an outcome: go on with a value, pass an exception on. -/
def onValue (k : α → FileProg σ ε β) : Except ε α → FileProg σ ε β
  | .ok a => k a
  | .error e => raise e

/-- What a handler does with an outcome: pass a value on, go on with an
exception. -/
def onError (h : ε → FileProg σ ε α) : Except ε α → FileProg σ ε α
  | .ok a => done (.ok a)
  | .error e => h e

instance : Monad (FileProg σ ε) where
  pure a := done (.ok a)
  bind p k := p.andThen (onValue k)

instance : MonadExceptOf ε (FileProg σ ε) where
  throw := raise
  tryCatch p h := p.andThen (onError h)

/-- A computation without file steps is a program. -/
instance : MonadLift (Except ε) (FileProg σ ε) where
  monadLift r := done r

/-- `try: p finally: q`: the clean-up `q` runs whatever `p` did, and what `p`
did is the outcome unless `q` raises. -/
def tryFinally (p : FileProg σ ε α) (q : FileProg σ ε Unit) : FileProg σ ε α :=
  p.andThen fun r => q.andThen (onValue fun _ => done r)

/-- The state as it stands. -/
def state : FileProg σ ε σ := read fun s => done (.ok s)

/-- One file step that raises `e` when it fails. -/
def fileStep (e : ε) (f : σ → σ) : FileProg σ ε Unit :=
  step f (done (.ok ())) (raise e)

/-- Recording `f` in the state, at no file step. -/
def record (f : σ → σ) : FileProg σ ε Unit := note f (done (.ok ()))

/-! ### Running -/

/-- The run under a fault pattern: `o n` says whether the `n`-th file step
fails. -/
def run : FileProg σ ε α → (ℕ → Bool) → σ → Except ε α × σ
  | done r, _, s => (r, s)
  | read k, o, s => (k s).run o s
  | note f p, o, s => p.run o (f s)
  | step f p q, o, s =>
    if o 0 then q.run (fun n => o (n + 1)) s else p.run (fun n => o (n + 1)) (f s)

/-- The state left behind when the process ends before its `n`-th file step, the
earlier ones having gone by the fault pattern. -/
def stopAt : FileProg σ ε α → (ℕ → Bool) → ℕ → σ → σ
  | done _, _, _, s => s
  | read k, o, n, s => (k s).stopAt o n s
  | note f p, o, n, s => p.stopAt o n (f s)
  | step _ _ _, _, 0, s => s
  | step f p q, o, n + 1, s =>
    if o 0 then q.stopAt (fun n => o (n + 1)) n s else p.stopAt (fun n => o (n + 1)) n (f s)

/-- The run in which every file step goes through. -/
def exec : FileProg σ ε α → σ → Except ε α × σ
  | done r, s => (r, s)
  | read k, s => (k s).exec s
  | note f p, s => p.exec (f s)
  | step f p _, s => p.exec (f s)

/-- Looking at the state first. -/
theorem run_state_bind (k : σ → FileProg σ ε α) (o : ℕ → Bool) (s : σ) :
    (state >>= k).run o s = (k s).run o s := rfl

/-- A run without faults is the plain run. -/
theorem run_no_fault (p : FileProg σ ε α) (s : σ) : p.run (fun _ => false) s = p.exec s := by
  induction p generalizing s with
  | done r => rfl
  | read k ih => exact ih s s
  | note f p ih => exact ih (f s)
  | step f p q ihp _ => exact ihp (f s)

section Exec

@[simp] theorem exec_done (r : Except ε α) (s : σ) : (done r : FileProg σ ε α).exec s = (r, s) :=
  rfl

@[simp] theorem exec_raise (e : ε) (s : σ) :
    (raise e : FileProg σ ε α).exec s = (.error e, s) := rfl

@[simp] theorem exec_throw (e : ε) (s : σ) :
    (throw e : FileProg σ ε α).exec s = (.error e, s) := rfl

@[simp] theorem exec_pure (a : α) (s : σ) : (pure a : FileProg σ ε α).exec s = (.ok a, s) := rfl

@[simp] theorem exec_state (s : σ) : (state : FileProg σ ε σ).exec s = (.ok s, s) := rfl

@[simp] theorem exec_fileStep (e : ε) (f : σ → σ) (s : σ) :
    (fileStep e f).exec s = (.ok (), f s) := rfl

@[simp] theorem exec_record (f : σ → σ) (s : σ) :
    (record f : FileProg σ ε Unit).exec s = (.ok (), f s) := rfl

@[simp] theorem exec_lift (r : Except ε α) (s : σ) :
    (liftM r : FileProg σ ε α).exec s = (r, s) := rfl

theorem exec_andThen (p : FileProg σ ε α) (k : Except ε α → FileProg σ ε β) (s : σ) :
    (p.andThen k).exec s = (k (p.exec s).1).exec (p.exec s).2 := by
  induction p generalizing s with
  | done r => rfl
  | read q ih => exact ih s s
  | note f p ih => exact ih (f s)
  | step f p q ihp _ => exact ihp (f s)

/-- Sequencing, read off an execution that returned. -/
theorem exec_bind_ok {p : FileProg σ ε α} {s s' : σ} {a : α} (h : p.exec s = (.ok a, s'))
    (k : α → FileProg σ ε β) : (p >>= k).exec s = (k a).exec s' := by
  rw [show p >>= k = p.andThen (onValue k) from rfl, exec_andThen, h]
  rfl

/-- Sequencing, read off an execution that raised. -/
theorem exec_bind_error {p : FileProg σ ε α} {s s' : σ} {e : ε} (h : p.exec s = (.error e, s'))
    (k : α → FileProg σ ε β) : (p >>= k).exec s = (.error e, s') := by
  rw [show p >>= k = p.andThen (onValue k) from rfl, exec_andThen, h]
  rfl

/-- Sequencing, whatever the first part did. -/
@[simp] theorem exec_bind (p : FileProg σ ε α) (k : α → FileProg σ ε β) (s : σ) :
    (p >>= k).exec s = match p.exec s with
      | (.ok a, s') => (k a).exec s'
      | (.error e, s') => (.error e, s') := by
  rcases h : p.exec s with ⟨_ | _, s'⟩
  · rw [exec_bind_error h]
  · rw [exec_bind_ok h]

end Exec

/-! ### The proof rule -/

/-- **The specification of a program**: every state the process can leave behind
satisfies `I`, and every outcome, together with the state it is reached in,
satisfies `Q` – whichever file steps fail. -/
def Spec (I : σ → Prop) (Q : Except ε α → σ → Prop) : FileProg σ ε α → σ → Prop
  | done r, s => I s ∧ Q r s
  | read k, s => (k s).Spec I Q s
  | note f p, s => p.Spec I Q (f s)
  | step f p q, s => I s ∧ p.Spec I Q (f s) ∧ q.Spec I Q s

variable {I : σ → Prop} {Q Q' : Except ε α → σ → Prop}

/-- Specifications are monotone in the postcondition. -/
theorem Spec.mono {p : FileProg σ ε α} {s : σ} (h : p.Spec I Q s) (hQ : ∀ r s, Q r s → Q' r s) :
    p.Spec I Q' s := by
  induction p generalizing s with
  | done r => exact ⟨h.1, hQ r s h.2⟩
  | read k ih => exact ih s h
  | note f p ih => exact ih h
  | step f p q ihp ihq => exact ⟨h.1, ihp h.2.1, ihq h.2.2⟩

/-- Specifications are monotone in the invariant. -/
theorem Spec.mono_inv {I' : σ → Prop} {p : FileProg σ ε α} {s : σ} (h : p.Spec I Q s)
    (hI : ∀ s, I s → I' s) : p.Spec I' Q s := by
  induction p generalizing s with
  | done r => exact ⟨hI s h.1, h.2⟩
  | read k ih => exact ih s h
  | note f p ih => exact ih h
  | step f p q ihp ihq => exact ⟨hI s h.1, ihp h.2.1, ihq h.2.2⟩

/-- **The rule of sequencing**: what the first part establishes is where the
second one starts. -/
theorem Spec.andThen {R : Except ε β → σ → Prop} {p : FileProg σ ε α}
    {k : Except ε α → FileProg σ ε β} {s : σ}
    (h : p.Spec I (fun r s' => (k r).Spec I R s') s) : (p.andThen k).Spec I R s := by
  induction p generalizing s with
  | done r => exact h.2
  | read q ih => exact ih s h
  | note f p ih => exact ih h
  | step f p q ihp ihq => exact ⟨h.1, ihp h.2.1, ihq h.2.2⟩

/-- The rule of sequencing, where an exception of the first part ends the
program. -/
theorem Spec.bind {R : Except ε β → σ → Prop} {p : FileProg σ ε α} {k : α → FileProg σ ε β}
    {s : σ} (h : p.Spec I (fun r s' => match r with
      | .ok a => (k a).Spec I R s'
      | .error e => R (.error e) s') s)
    (hI : ∀ e s', R (.error e) s' → I s') : (p >>= k).Spec I R s := by
  refine Spec.andThen (h.mono fun r s' hr => ?_)
  cases r with
  | ok a => exact hr
  | error e => exact ⟨hI e s' hr, hr⟩

/-- Two specifications of one program hold together. -/
theorem Spec.and {I' : σ → Prop} {p : FileProg σ ε α} {s : σ} (h : p.Spec I Q s)
    (h' : p.Spec I' Q' s) : p.Spec (fun s => I s ∧ I' s) (fun r s => Q r s ∧ Q' r s) s := by
  induction p generalizing s with
  | done r => exact ⟨⟨h.1, h'.1⟩, h.2, h'.2⟩
  | read k ih => exact ih s h h'
  | note f p ih => exact ih h h'
  | step f p q ihp ihq => exact ⟨⟨h.1, h'.1⟩, ihp h.2.1 h'.2.1, ihq h.2.2 h'.2.2⟩

/-- One file step. -/
theorem spec_fileStep {Q : Except ε Unit → σ → Prop} {e : ε} {f : σ → σ} {s : σ} (hs : I s)
    (hf : I (f s)) (hok : Q (.ok ()) (f s)) (hfail : Q (.error e) s) :
    (fileStep e f).Spec I Q s :=
  ⟨hs, ⟨hf, hok⟩, hs, hfail⟩

/-- **A specified program ends as specified**, whichever file steps fail. -/
theorem Spec.run {p : FileProg σ ε α} {s : σ} (h : p.Spec I Q s) (o : ℕ → Bool) :
    Q (p.run o s).1 (p.run o s).2 := by
  induction p generalizing s o with
  | done r => exact h.2
  | read k ih => exact ih s h o
  | note f p ih => exact ih h o
  | step f p q ihp ihq =>
    cases ho : o 0 with
    | true => simpa only [FileProg.run, ho, if_true] using ihq h.2.2 fun n => o (n + 1)
    | false =>
      simpa only [FileProg.run, ho, Bool.false_eq_true, if_false] using ihp h.2.1 fun n => o (n + 1)

/-- **A specified program leaves the invariant behind** wherever the process
ends. -/
theorem Spec.stopAt {p : FileProg σ ε α} {s : σ} (h : p.Spec I Q s) (o : ℕ → Bool) (n : ℕ) :
    I (p.stopAt o n s) := by
  induction p generalizing s o n with
  | done r => exact h.1
  | read k ih => exact ih s h o n
  | note f p ih => exact ih h o n
  | step f p q ihp ihq =>
    cases n with
    | zero => exact h.1
    | succ n =>
      cases ho : o 0 with
      | true => simpa only [FileProg.stopAt, ho, if_true] using ihq h.2.2 (fun n => o (n + 1)) n
      | false =>
        simpa only [FileProg.stopAt, ho, Bool.false_eq_true, if_false] using
          ihp h.2.1 (fun n => o (n + 1)) n

/-- A specified program ends as specified when nothing fails. -/
theorem Spec.exec {p : FileProg σ ε α} {s : σ} (h : p.Spec I Q s) :
    Q (p.exec s).1 (p.exec s).2 := by
  rw [← run_no_fault]
  exact h.run _

/-! ### What a program may raise -/

/-- Whichever file steps fail, what the program raises is in `E`. -/
def Raises (E : ε → Prop) (p : FileProg σ ε α) : Prop :=
  ∀ s, p.Spec (fun _ => True) (fun r _ => ∀ e, r = .error e → E e) s

section Raises

variable {E : ε → Prop}

theorem raises_fileStep {e : ε} (he : E e) (f : σ → σ) : (fileStep e f).Raises E :=
  fun _ => spec_fileStep trivial trivial (fun _ h => nomatch h)
    fun _ h => Except.error.inj h ▸ he

theorem Raises.bind {p : FileProg σ ε α} {k : α → FileProg σ ε β} (hp : p.Raises E)
    (hk : ∀ a, (k a).Raises E) : (p >>= k).Raises E := by
  intro s
  refine ((hp s).mono fun r s' hr => ?_).bind fun _ _ _ => trivial
  cases r with
  | ok a => exact hk a s'
  | error e => exact fun e' h => Except.error.inj h ▸ hr e rfl

theorem Raises.tryFinally {p : FileProg σ ε α} {q : FileProg σ ε Unit} (hp : p.Raises E)
    (hq : q.Raises E) : (tryFinally p q).Raises E := by
  intro s
  refine Spec.andThen ((hp s).mono fun r s' hr => ?_)
  -- the outcome of `p` stands, unless `q` raises
  refine Spec.andThen ((hq s').mono fun r' s'' hr' => ?_)
  cases r' with
  | ok u => exact ⟨trivial, hr⟩
  | error e => exact ⟨trivial, fun e' h => Except.error.inj h ▸ hr' e rfl⟩

theorem Raises.run {p : FileProg σ ε α} (hp : p.Raises E) {o : ℕ → Bool} {s s' : σ} {e : ε}
    (h : p.run o s = (.error e, s')) : E e :=
  (hp s).run o e (congrArg Prod.fst h)

end Raises

end FileProg
