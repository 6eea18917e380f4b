import Mathlib.Data.List.Forall2
import PrinterHmi.Lib.Runs

/-!
# One machine that follows another

A machine follows another on the same calls if what relates their states holds at the start and is
kept by every step, the answers being related too. Then every run of the first is matched, event by
event, by a run of the second on the same calls (`Run.followed`). The relation may speak of what has
happened so far, since what a step may do depends on it.
-/

section Simulation

variable {σ τ C R R' : Type} {step : σ → C → R × σ} {step' : τ → C → R' × τ}
  {allowed : List (Event σ C R) → C → Prop} {s₀ s : σ} {t₀ : τ} {h : List (Event σ C R)}

/-- **Every run is followed.** -/
theorem Run.followed {I : List (Event σ C R) → σ → τ → Prop} {Q : R → R' → Prop}
    (hrun : Run step allowed s₀ h s) (hstart : I [] s₀ t₀)
    (hstep : ∀ h s t c, I h s t → allowed h c → Q (step s c).1 (step' t c).1 ∧
      I (h ++ [⟨s, c, (step s c).1, (step s c).2⟩]) (step s c).2 (step' t c).2) :
    ∃ h' t, Run step' (fun _ _ => True) t₀ h' t ∧
      List.Forall₂ (fun e e' => e'.call = e.call ∧ Q e.result e'.result) h h' ∧ I h s t := by
  induction hrun with
  | start => exact ⟨[], t₀, .start, .nil, hstart⟩
  | @next h s c _ hc ih =>
    obtain ⟨h', t, hrun', hmatch, hrelated⟩ := ih
    obtain ⟨hanswer, hrelated'⟩ := hstep h s t c hrelated hc
    exact ⟨_, _, hrun'.next trivial, List.rel_append hmatch (.cons ⟨rfl, hanswer⟩ .nil), hrelated'⟩

end Simulation
