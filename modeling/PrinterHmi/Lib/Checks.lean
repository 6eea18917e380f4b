import Mathlib.Logic.Basic

/-!
# Checks that raise

Validation code is a sequence of checks, each of which raises when it fails, with
the values read in between. In the `Except` monad that is a chain of `bind`s over
`require`, and what a caller needs of it is one thing: that it returned, or
raised, exactly where each link did. The lemmas below are that inversion; a
validator is opened by rewriting with them and never by case analysis on its
text.
-/

variable {ε α β : Type}

/-- Go on if `c` holds, raise `e` otherwise. -/
def require (c : Prop) [Decidable c] (e : ε) : Except ε Unit :=
  if c then .ok () else .error e

section Require

variable {c : Prop} [Decidable c] {e : ε}

theorem require_pos (h : c) : require c e = .ok () := if_pos h

theorem require_neg (h : ¬c) : require c e = .error e := if_neg h

@[simp] theorem require_eq_ok {u : Unit} : require c e = .ok u ↔ c := by
  by_cases h : c
  · rw [require_pos h]
    exact iff_of_true rfl h
  · rw [require_neg h]
    exact iff_of_false (fun hc => by cases hc) h

@[simp] theorem require_eq_error {e' : ε} : require c e = .error e' ↔ ¬c ∧ e = e' := by
  by_cases h : c
  · rw [require_pos h]
    exact iff_of_false (fun hc => by cases hc) fun hc => hc.1 h
  · rw [require_neg h, Except.error.injEq]
    exact ⟨fun hc => ⟨h, hc⟩, fun hc => hc.2⟩

/-- Checks of the same thing do the same. -/
theorem require_congr {c' : Prop} [Decidable c'] (h : c ↔ c') (e : ε) :
    require c e = require c' e := by
  by_cases hc : c
  · rw [require_pos hc, require_pos (h.mp hc)]
  · rw [require_neg hc, require_neg fun hc' => hc (h.mpr hc')]

end Require

/-- The value, or `e` is raised if there is none. -/
def orRaise (o : Option α) (e : ε) : Except ε α :=
  match o with
  | some a => .ok a
  | none => .error e

@[simp] theorem orRaise_some (a : α) (e : ε) : orRaise (some a) e = .ok a := rfl

@[simp] theorem orRaise_eq_ok {o : Option α} {e : ε} {a : α} :
    orRaise o e = .ok a ↔ o = some a := by
  cases o <;> simp [orRaise]

namespace Except

/-- A chain returned exactly when its first link did and the rest returned on
its value. -/
theorem bind_eq_ok {x : Except ε α} {f : α → Except ε β} {b : β} :
    (x >>= f) = .ok b ↔ ∃ a, x = .ok a ∧ f a = .ok b := by
  constructor
  · intro h
    cases x with
    | error e => cases h
    | ok a => exact ⟨a, rfl, h⟩
  · rintro ⟨a, rfl, h⟩
    exact h

/-- A chain goes on from a link that returned. -/
theorem ok_bind_eq {x : Except ε α} {a : α} (h : x = .ok a) (f : α → Except ε β) :
    (x >>= f) = f a := by
  rw [h]
  rfl

/-- A list read item by item, where what an item gives is known: all of it, or the one error
there is. -/
theorem mapM_of_checks {f : α → Except ε β} {p : α → Prop} [DecidablePred p] {g : α → β} {e : ε}
    (h : ∀ a, f a = if p a then .ok (g a) else .error e) (as : List α) :
    as.mapM f = if ∀ a ∈ as, p a then .ok (as.map g) else .error e := by
  induction as with
  | nil => rfl
  | cons a as ih =>
    rw [List.mapM_cons, h a, ih]
    by_cases ha : p a
    · simp only [List.forall_mem_cons, ha, true_and, if_true]
      by_cases has : ∀ b ∈ as, p b
      · rw [if_pos has, if_pos has]
        rfl
      · rw [if_neg has, if_neg has]
        rfl
    · have hall : ¬ ∀ b ∈ a :: as, p b := fun h => ha (h a List.mem_cons_self)
      rw [if_neg ha, if_neg hall]
      rfl

/-! ### What a chain may raise -/

/-- What `x` raises, if it raises, is in `E`. -/
def Raises (E : ε → Prop) (x : Except ε α) : Prop := ∀ e, x = .error e → E e

section Raises

variable {E : ε → Prop}

theorem raises_ok (a : α) : (.ok a : Except ε α).Raises E := fun _ h => nomatch h

theorem raises_error_iff {e : ε} : (.error e : Except ε α).Raises E ↔ E e :=
  ⟨fun h => h e rfl, fun he _ h => Except.error.inj h ▸ he⟩

theorem raises_require {c : Prop} [Decidable c] {e : ε} (he : E e) : (require c e).Raises E :=
  fun _ h => (require_eq_error.mp h).2 ▸ he

theorem raises_orRaise {e : ε} (he : E e) (o : Option α) : (orRaise o e).Raises E := by
  cases o with
  | some a => exact raises_ok a
  | none => exact raises_error_iff.mpr he

/-- The rest of a chain matters only where its first link returned. -/
theorem Raises.bind {x : Except ε α} {f : α → Except ε β} (hx : x.Raises E)
    (hf : ∀ a, x = .ok a → (f a).Raises E) : (x >>= f).Raises E := by
  cases x with
  | error e => exact raises_error_iff.mpr (hx e rfl)
  | ok a => exact hf a rfl

/-- A first link after which nothing else is raised. -/
theorem raises_bind_iff {x : Except ε α} {f : α → Except ε β}
    (hf : ∀ a, x = .ok a → (f a).Raises E) : (x >>= f).Raises E ↔ x.Raises E := by
  refine ⟨fun h e he => ?_, fun h => h.bind hf⟩
  rw [he] at h
  exact h e rfl

end Raises

end Except
