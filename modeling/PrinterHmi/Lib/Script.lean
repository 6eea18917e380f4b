import Mathlib.Data.List.Forall2

/-!
# Events that follow a script

Of a history, some events *speak*. A script says what the first of them is, what the second one is,
and so on, and the history follows the script up to some line (`Spoken`). An event that does not
speak leaves the history where it is in the script (`Spoken.silent`), and the next line takes it
further (`Spoken.says`). So a rule for the events that speak and those that do not carries the script
along a run, and nothing is ever said out of turn or twice.
-/

namespace Script

variable {E : Type} {speaks : E → Bool} {script : List (E → Prop)} {n : ℕ} {es : List E} {e : E}

/-- **The first `n` lines of the script are what has been said.** -/
def Spoken (speaks : E → Bool) (script : List (E → Prop)) (n : ℕ) (es : List E) : Prop :=
  List.Forall₂ (fun e line => line e) (es.filter speaks) (script.take n)

/-- Nothing has been said. -/
theorem spoken_nil : Spoken speaks script 0 [] := List.Forall₂.nil

/-- An event that does not speak. -/
theorem Spoken.silent (h : Spoken speaks script n es) (he : speaks e = false) :
    Spoken speaks script n (es ++ [e]) := by
  have hfilter : (es ++ [e]).filter speaks = es.filter speaks := by
    rw [List.filter_append, List.filter_singleton, he]
    exact List.append_nil _
  rw [Spoken, hfilter]
  exact h

/-- **The next line is said.** -/
theorem Spoken.says {line : E → Prop} (h : Spoken speaks script n es) (he : speaks e = true)
    (hline : script[n]? = some line) (hsaid : line e) :
    Spoken speaks script (n + 1) (es ++ [e]) := by
  have hfilter : (es ++ [e]).filter speaks = es.filter speaks ++ [e] := by
    rw [List.filter_append, List.filter_singleton, he]
    rfl
  rw [Spoken, hfilter, List.take_add_one, hline]
  exact List.rel_append h (.cons hsaid .nil)

end Script
