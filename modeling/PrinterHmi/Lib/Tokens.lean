import Mathlib.Data.List.Nodup
import Mathlib.Logic.Function.Basic

/-!
# Tokens that are handed in once

Each holder has one token at most, taken from an issuer that issues none twice. A holder may drop its
token, or hand it in. Then no two holders have the same token, none has one that was handed in, and
none is handed in twice: `Tokens.Kept` says so of the holders, the tokens handed in and the tokens
issued so far, and every one of these actions keeps it.
-/

namespace Tokens

variable {K α : Type} [DecidableEq K]

/-- **The tokens are kept apart.** -/
structure Kept (hold : K → Option α) (handed : List α) (issued : α → Prop) : Prop where
  apart : ∀ {k k' x}, hold k = some x → hold k' = some x → k = k'
  unhanded : ∀ {k x}, hold k = some x → x ∉ handed
  nodup : handed.Nodup
  issued_of_hold : ∀ {k x}, hold k = some x → issued x
  issued_of_handed : ∀ {x}, x ∈ handed → issued x

variable {hold : K → Option α} {handed : List α} {issued : α → Prop} {k : K} {x : α}

omit [DecidableEq K] in
/-- Nobody has a token. -/
theorem Kept.start : Kept (fun _ : K => none) [] issued where
  apart h := by cases h
  unhanded h := by cases h
  nodup := List.nodup_nil
  issued_of_hold h := by cases h
  issued_of_handed h := absurd h List.not_mem_nil

omit [DecidableEq K] in
/-- More tokens have been issued. -/
theorem Kept.issue {issued' : α → Prop} (h : Kept hold handed issued)
    (hmono : ∀ y, issued y → issued' y) : Kept hold handed issued' where
  apart := h.apart
  unhanded := h.unhanded
  nodup := h.nodup
  issued_of_hold hk := hmono _ (h.issued_of_hold hk)
  issued_of_handed hx := hmono _ (h.issued_of_handed hx)

/-- **A token is dropped.** -/
theorem Kept.drop (h : Kept hold handed issued) (k : K) :
    Kept (Function.update hold k none) handed issued := by
  have hold_of {k' : K} {y : α} (hy : Function.update hold k none k' = some y) :
      hold k' = some y := by
    rw [Function.update_apply] at hy
    split_ifs at hy
    exact hy
  exact ⟨fun hy hy' => h.apart (hold_of hy) (hold_of hy'), fun hy => h.unhanded (hold_of hy), h.nodup,
    fun hy => h.issued_of_hold (hold_of hy), h.issued_of_handed⟩

/-- **A token is taken** that was never issued before. -/
theorem Kept.take {issued' : α → Prop} (h : Kept hold handed issued) (hx : ¬issued x)
    (hmono : ∀ y, issued y → issued' y) (hx' : issued' x) :
    Kept (Function.update hold k (some x)) handed issued' := by
  have hold_of {k' : K} {y : α} (hy : Function.update hold k (some x) k' = some y) :
      (k' = k ∧ x = y) ∨ hold k' = some y := by
    rw [Function.update_apply] at hy
    split_ifs at hy with hk
    · exact .inl ⟨hk, Option.some.inj hy⟩
    · exact .inr hy
  refine ⟨?_, ?_, h.nodup, ?_, fun hy => hmono _ (h.issued_of_handed hy)⟩
  · intro k₁ k₂ y h₁ h₂
    rcases hold_of h₁ with ⟨rfl, rfl⟩ | hold₁
    · rcases hold_of h₂ with ⟨rfl, -⟩ | hold₂
      · rfl
      · exact absurd (h.issued_of_hold hold₂) hx
    · rcases hold_of h₂ with ⟨rfl, rfl⟩ | hold₂
      · exact absurd (h.issued_of_hold hold₁) hx
      · exact h.apart hold₁ hold₂
  · intro k' y hy hmem
    rcases hold_of hy with ⟨-, rfl⟩ | hy
    · exact hx (h.issued_of_handed hmem)
    · exact h.unhanded hy hmem
  · intro k' y hy
    rcases hold_of hy with ⟨-, rfl⟩ | hy
    · exact hx'
    · exact hmono _ (h.issued_of_hold hy)

/-- **A token is handed in.** -/
theorem Kept.hand (h : Kept hold handed issued) (hk : hold k = some x) :
    Kept (Function.update hold k none) (handed ++ [x]) issued := by
  have hdropped := h.drop k
  refine ⟨hdropped.apart, ?_, ?_, hdropped.issued_of_hold, ?_⟩
  · intro k' y hy hmem
    rcases List.mem_append.mp hmem with hmem | hmem
    · exact hdropped.unhanded hy hmem
    · -- nobody else had the token
      obtain rfl := List.mem_singleton.mp hmem
      rw [Function.update_apply] at hy
      split_ifs at hy with hne
      exact hne (h.apart hy hk)
  · exact List.nodup_append'.mpr ⟨h.nodup, List.nodup_singleton _,
      List.disjoint_singleton.mpr (h.unhanded hk)⟩
  · intro y hy
    rcases List.mem_append.mp hy with hy | hy
    · exact h.issued_of_handed hy
    · exact List.mem_singleton.mp hy ▸ h.issued_of_hold hk

end Tokens
