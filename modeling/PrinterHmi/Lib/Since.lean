import PrinterHmi.Lib.Runs

/-!
# What has held since an event

A property of the state of a machine begins to hold with events of one kind, and is over with those
of another. If it holds in the end, there has been an event of the first kind, and none of the second
kind since (`Run.since`). So a question about the state is answered from the history: which event it
goes back to, and that nothing has undone it.
-/

variable {σ C R : Type}

/-- **There has been an `A`, and no `B` since.** -/
def Since (A B : Event σ C R → Prop) (h : List (Event σ C R)) : Prop :=
  ∃ pre e post, h = pre ++ e :: post ∧ A e ∧ ∀ e' ∈ post, ¬B e'

variable {A B : Event σ C R → Prop} {h : List (Event σ C R)} {e : Event σ C R}

/-- An `A` comes last. -/
theorem Since.begin (he : A e) : Since A B (h ++ [e]) :=
  ⟨h, e, [], rfl, he, fun _ he' => absurd he' List.not_mem_nil⟩

/-- The history goes on without a `B`. -/
theorem Since.go_on (hsince : Since A B h) (he : ¬B e) : Since A B (h ++ [e]) := by
  obtain ⟨pre, e₀, post, rfl, hA, hB⟩ := hsince
  refine ⟨pre, e₀, post ++ [e], by simp, hA, fun e' he' => ?_⟩
  rcases List.mem_append.mp he' with he' | he'
  · exact hB e' he'
  · rw [List.mem_singleton.mp he']
    exact he

namespace Run

variable {step : σ → C → R × σ} {allowed : List (Event σ C R) → C → Prop} {s₀ s : σ}

/-- **What holds goes back to an `A`, and has not been undone by a `B`**, if it begins to hold with
an `A` only and does not hold after a `B`. -/
theorem since {I : σ → Prop} (hrun : Run step allowed s₀ h s) (hstart : ¬I s₀)
    (hbegins : ∀ h s c, Run step allowed s₀ h s → ¬I s → I (step s c).2 →
      A ⟨s, c, (step s c).1, (step s c).2⟩)
    (hends : ∀ h s c, Run step allowed s₀ h s → B ⟨s, c, (step s c).1, (step s c).2⟩ →
      ¬I (step s c).2) : I s → Since A B h :=
  hrun.invariant (I := fun h s => I s → Since A B h) (fun hI => absurd hI hstart)
    fun h s c hrun ih _ hI => by
      by_cases hold : I s
      · exact (ih hold).go_on fun hB => hends h s c hrun hB hI
      · exact .begin (hbegins h s c hrun hold hI)

end Run
