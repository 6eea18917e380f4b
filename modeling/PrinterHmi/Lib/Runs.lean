import Mathlib.Data.List.Basic
import Mathlib.Data.Nat.Notation

/-!
# Runs of a machine, with their history

A machine is a function from a state and a call to an answer and a new state. A
*run* (`Run`) is a sequence of calls, each made in the state the one before it
left; what it leaves behind is the list of its events (`Event`), each with the
state before and after, and the state it ended in. Which call may come next can
depend on what has happened – that a name drawn at random has not been drawn
before, that a clock does not go back – and that is the parameter `allowed`.

A property of all runs is proved by `Run.invariant`: it holds at the start, and
one step preserves it. Because the history is there, the property may speak of
it, and a claim about two moments of one run is a claim about one list
(`Run.split`).
-/

variable {σ C R : Type}

/-- One call in the course of a run. -/
structure Event (σ C R : Type) where
  /-- The state the call was made in. -/
  before : σ
  /-- The call. -/
  call : C
  /-- Its answer. -/
  result : R
  /-- The state it left. -/
  after : σ

/-- An entry of a list with one more is an entry of the list, or it is the last one. -/
theorem getElem?_concat_cases {α : Type} {l : List α} {a b : α} {i : ℕ}
    (h : (l ++ [a])[i]? = some b) : l[i]? = some b ∨ (i = l.length ∧ b = a) := by
  rcases Nat.lt_or_ge i l.length with hi | hi
  · rw [List.getElem?_append_left hi] at h
    exact .inl h
  · have hlt := (List.getElem?_eq_some_iff.mp h).1
    rw [List.length_append, List.length_singleton] at hlt
    obtain rfl : i = l.length := by omega
    rw [List.getElem?_concat_length] at h
    exact .inr ⟨rfl, (Option.some.inj h).symm⟩

/-- One of two members of a list that come one after the other, and what is before it. -/
theorem exists_of_sublist {α : Type} {a b : α} {l : List α} (h : [a, b].Sublist l) :
    ∃ pre post, l = pre ++ b :: post ∧ a ∈ pre := by
  obtain ⟨l₁, l₂, rfl, hl₁, hl₂⟩ := List.cons_sublist_iff.mp h
  obtain ⟨pre, post, rfl⟩ := List.append_of_mem (List.singleton_sublist.mp hl₂)
  exact ⟨l₁ ++ pre, post, (List.append_assoc ..).symm, List.mem_append_left _ hl₁⟩

/-- **The runs of a machine** from a state `s₀`: every call is made in the state
the one before it left, and `allowed` admits it given what has happened. -/
inductive Run (step : σ → C → R × σ) (allowed : List (Event σ C R) → C → Prop) (s₀ : σ) :
    List (Event σ C R) → σ → Prop
  | start : Run step allowed s₀ [] s₀
  | next {h : List (Event σ C R)} {s : σ} {c : C} : Run step allowed s₀ h s → allowed h c →
      Run step allowed s₀ (h ++ [⟨s, c, (step s c).1, (step s c).2⟩]) (step s c).2

namespace Run

variable {step : σ → C → R × σ} {allowed : List (Event σ C R) → C → Prop} {s₀ s : σ}
  {h : List (Event σ C R)}

/-- **Invariants of runs**: what holds at the start and is preserved by a step
holds throughout. -/
theorem invariant {I : List (Event σ C R) → σ → Prop} (hrun : Run step allowed s₀ h s)
    (hstart : I [] s₀)
    (hstep : ∀ h s c, Run step allowed s₀ h s → I h s → allowed h c →
      I (h ++ [⟨s, c, (step s c).1, (step s c).2⟩]) (step s c).2) : I h s := by
  induction hrun with
  | start => exact hstart
  | next hrun hc ih => exact hstep _ _ _ hrun ih hc

/-- A state property preserved by every step holds throughout. -/
theorem invariant_state {I : σ → Prop} (hrun : Run step allowed s₀ h s) (hstart : I s₀)
    (hstep : ∀ s c, I s → I (step s c).2) : I s :=
  hrun.invariant (I := fun _ s => I s) hstart fun _ s c _ hs _ => hstep s c hs

/-- A weaker discipline admits more runs. -/
theorem mono {allowed' : List (Event σ C R) → C → Prop} (hrun : Run step allowed s₀ h s)
    (himp : ∀ h c, allowed h c → allowed' h c) : Run step allowed' s₀ h s := by
  induction hrun with
  | start => exact .start
  | next _ hc ih => exact .next ih (himp _ _ hc)

/-- A run goes on with a step whose answer and next state are known. -/
theorem next_eq {c : C} {r : R} {s' : σ} (hrun : Run step allowed s₀ h s) (hc : allowed h c)
    (hstep : step s c = (r, s')) : Run step allowed s₀ (h ++ [⟨s, c, r, s'⟩]) s' := by
  have hnext := hrun.next hc
  rw [hstep] at hnext
  exact hnext

/-- **A run cut at one of its events**: what came before is a run, the event is a
step of the machine, and it was admitted. -/
theorem split {pre post : List (Event σ C R)} {e : Event σ C R}
    (hrun : Run step allowed s₀ (pre ++ e :: post) s) :
    Run step allowed s₀ pre e.before ∧ allowed pre e.call ∧
      step e.before e.call = (e.result, e.after) := by
  generalize hl : pre ++ e :: post = l at hrun
  induction hrun generalizing post with
  | start => simp at hl
  | @next h s c hrun hc ih =>
    rcases List.eq_nil_or_concat post with rfl | ⟨post', e', rfl⟩
    · obtain ⟨rfl, rfl⟩ := List.append_inj' hl rfl |>.imp_right fun he => List.head_eq_of_cons_eq he
      exact ⟨hrun, hc, rfl⟩
    · rw [List.concat_eq_append, ← List.cons_append, ← List.append_assoc] at hl
      exact ih (List.append_inj' hl rfl).1

/-- **The last event of a run.** -/
theorem last {e : Event σ C R} (hrun : Run step allowed s₀ (h ++ [e]) s) :
    Run step allowed s₀ h e.before ∧ allowed h e.call ∧
      step e.before e.call = (e.result, s) := by
  generalize hl : h ++ [e] = l at hrun
  cases hrun with
  | start => simp at hl
  | next hrun hc =>
    obtain ⟨rfl, he⟩ := List.append_inj' hl rfl
    obtain rfl := List.head_eq_of_cons_eq he
    exact ⟨hrun, hc, rfl⟩

/-- The events of a run determine the state it ends in. -/
theorem state_unique {s' : σ} (hrun : Run step allowed s₀ h s) (hrun' : Run step allowed s₀ h s') :
    s = s' := by
  rcases List.eq_nil_or_concat h with rfl | ⟨h, e, rfl⟩
  · have hstart {s : σ} (hrun : Run step allowed s₀ [] s) : s = s₀ := by
      generalize hl : ([] : List (Event σ C R)) = l at hrun
      cases hrun with
      | start => rfl
      | next => simp at hl
    rw [hstart hrun, hstart hrun']
  · rw [List.concat_eq_append] at hrun hrun'
    exact congrArg Prod.snd (hrun.last.2.2.symm.trans hrun'.last.2.2)

/-- Every event of a run is a step of the machine. -/
theorem step_of_mem {e : Event σ C R} (hrun : Run step allowed s₀ h s) (he : e ∈ h) :
    step e.before e.call = (e.result, e.after) := by
  obtain ⟨pre, post, rfl⟩ := List.append_of_mem he
  exact hrun.split.2.2

/-- **What an event found when it was admitted**: all the events before it. -/
theorem admitted {e e' : Event σ C R} (hrun : Run step allowed s₀ h s) (he : [e, e'].Sublist h) :
    ∃ pre, e ∈ pre ∧ allowed pre e'.call := by
  obtain ⟨pre, post, rfl, hmem⟩ := exists_of_sublist he
  exact ⟨pre, hmem, hrun.split.2.1⟩

end Run

/-- Two members of a list are one or come one after the other. -/
theorem eq_or_sublist_of_mem {α : Type} {a b : α} {l : List α} (ha : a ∈ l) (hb : b ∈ l) :
    a = b ∨ [a, b].Sublist l ∨ [b, a].Sublist l := by
  induction l with
  | nil => cases ha
  | cons x l ih =>
    rcases List.mem_cons.mp ha with rfl | ha'
    · rcases List.mem_cons.mp hb with rfl | hb'
      · exact .inl rfl
      · exact .inr (.inl ((List.singleton_sublist.mpr hb').cons_cons _))
    · rcases List.mem_cons.mp hb with rfl | hb'
      · exact .inr (.inr ((List.singleton_sublist.mpr ha').cons_cons _))
      · rcases ih ha' hb' with h | h | h
        · exact .inl h
        · exact .inr (.inl (h.cons x))
        · exact .inr (.inr (h.cons x))

/-! ### Running a list of calls -/

/-- The events of a list of calls. -/
def eventsOf (step : σ → C → R × σ) : σ → List C → List (Event σ C R)
  | _, [] => []
  | s, c :: cs => ⟨s, c, (step s c).1, (step s c).2⟩ :: eventsOf step (step s c).2 cs

/-- The state a list of calls ends in. -/
def final (step : σ → C → R × σ) : σ → List C → σ
  | s, [] => s
  | s, c :: cs => final step (step s c).2 cs

/-- The first call of a list, where its answer and the next state are known. -/
theorem final_cons {step : σ → C → R × σ} {s s' : σ} {c : C} {r : R} (h : step s c = (r, s'))
    (cs : List C) : final step s (c :: cs) = final step s' cs := by
  rw [final, h]

/-- One list of calls after another. -/
theorem final_append (step : σ → C → R × σ) (s : σ) (cs cs' : List C) :
    final step s (cs ++ cs') = final step (final step s cs) cs' := by
  induction cs generalizing s with
  | nil => rfl
  | cons c cs ih => exact ih (step s c).2

/-- Each call of a list is admitted after the ones before it. -/
def Admits (step : σ → C → R × σ) (allowed : List (Event σ C R) → C → Prop) :
    List (Event σ C R) → σ → List C → Prop
  | _, _, [] => True
  | h, s, c :: cs => allowed h c ∧
      Admits step allowed (h ++ [⟨s, c, (step s c).1, (step s c).2⟩]) (step s c).2 cs

/-- Calls that are admitted whatever has happened. -/
theorem admits_of_forall {step : σ → C → R × σ} {allowed : List (Event σ C R) → C → Prop}
    (h : ∀ es c, allowed es c) (es : List (Event σ C R)) (s : σ) (cs : List C) :
    Admits step allowed es s cs := by
  induction cs generalizing es s with
  | nil => trivial
  | cons c cs ih => exact ⟨h es c, ih _ _⟩

/-- **A list of calls is a run**, if each is admitted after the ones before it. -/
theorem Run.of_calls {step : σ → C → R × σ} {allowed : List (Event σ C R) → C → Prop} {s₀ s : σ}
    {h : List (Event σ C R)} {cs : List C} (hrun : Run step allowed s₀ h s)
    (hcs : Admits step allowed h s cs) :
    Run step allowed s₀ (h ++ eventsOf step s cs) (final step s cs) := by
  induction cs generalizing h s with
  | nil => simpa [eventsOf, final] using hrun
  | cons c cs ih =>
    rw [eventsOf, final, List.append_cons]
    exact ih (hrun.next hcs.1) hcs.2

/-! ### Histories told action by action

Each event of a history may stand for several actions of a finer account; the
history then is the concatenation of theirs. -/

section Account

variable {α β : Type} {f : α → List β} {l : List α}

/-- Counting in the finer account, where an event that does not count has no action that does,
and one that counts has at most one. -/
theorem countP_flatMap_le {q : β → Bool} {c : α → Bool}
    (h : ∀ e ∈ l, (f e).countP q ≤ if c e = true then 1 else 0) :
    (l.flatMap f).countP q ≤ l.countP c := by
  induction l with
  | nil => exact Nat.le_refl 0
  | cons e l ih =>
    have hhead := h e (by simp)
    have htail := ih fun e' he' => h e' (List.mem_cons_of_mem e he')
    rw [List.flatMap_cons, List.countP_append, List.countP_cons]
    omega

/-- Counting in the finer account, where an event that counts has an action that does. -/
theorem countP_le_flatMap {q : β → Bool} {c : α → Bool}
    (h : ∀ e ∈ l, c e = true → ∃ b ∈ f e, q b = true) :
    l.countP c ≤ (l.flatMap f).countP q := by
  induction l with
  | nil => exact Nat.le_refl 0
  | cons e l ih =>
    have htail := ih fun e' he' => h e' (List.mem_cons_of_mem e he')
    rw [List.flatMap_cons, List.countP_append, List.countP_cons]
    split_ifs with hc
    · have hhead : 0 < (f e).countP q := List.countP_pos_iff.mpr (h e (by simp) hc)
      omega
    · omega

/-- **An action of the finer account belongs to an event**, and what comes after
the event comes after the action. -/
theorem exists_of_flatMap_eq {x y : List β} {a : β} (h : l.flatMap f = x ++ a :: y) :
    ∃ pre e post, l = pre ++ e :: post ∧ a ∈ f e ∧ ∀ e' ∈ post, ∀ b ∈ f e', b ∈ y := by
  induction l generalizing x with
  | nil => simp at h
  | cons e l ih =>
    rw [List.flatMap_cons] at h
    rcases List.append_eq_append_iff.mp h with ⟨z, rfl, hz⟩ | ⟨z, hfe, hz⟩
    · obtain ⟨pre, e', post, rfl, ha, hpost⟩ := ih hz
      exact ⟨e :: pre, e', post, rfl, ha, hpost⟩
    · cases z with
      | nil =>
        rw [List.nil_append] at hz
        obtain ⟨pre, e', post, rfl, ha, hpost⟩ := ih (x := []) hz.symm
        exact ⟨e :: pre, e', post, rfl, ha, hpost⟩
      | cons b z =>
        obtain ⟨rfl, rfl⟩ := List.cons.inj hz
        exact ⟨[], e, l, rfl, by simp [hfe], fun e' he' b hb =>
          List.mem_append_right z (List.mem_flatMap.mpr ⟨e', he', hb⟩)⟩

end Account
