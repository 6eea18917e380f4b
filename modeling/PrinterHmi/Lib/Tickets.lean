import Mathlib.Data.List.Basic
import Mathlib.Data.List.Induction
import Mathlib.Logic.Function.Basic
import Mathlib.Data.Int.Notation
import Mathlib.Data.Nat.Notation
import Mathlib.Order.Basic
import Mathlib.Data.Int.Cast.Defs

/-!
# One-time tickets

A book of tickets, each issued under a name with some terms and a number of
attempts. A wrong attempt uses one up and the last one tears the ticket; a right
one redeems it; a ticket may be dropped at any time, and all of them may be
cleared at once. Names are never issued twice.

Whatever the order of these actions, a name is redeemed at most once
(`Tickets.Trace.redeems_le_one`), it is missed at most as often as there are
attempts (`Tickets.Trace.misses_le`), and a redemption is of terms issued under
that name, since the last clearing, with an attempt left
(`Tickets.Trace.redeem`). The terms are a parameter: what it takes for an attempt
to be right is for the system that keeps the book to say.
-/

namespace Tickets

variable {Id T : Type} [DecidableEq Id]

/-- A ticket as the book keeps it. -/
structure Ticket (T : Type) where
  /-- What it was issued for. -/
  terms : T
  /-- The attempts left. -/
  left : ℤ

/-- A book: the tickets outstanding, by name. -/
abbrev Book (Id T : Type) := Id → Option (Ticket T)

/-- What can happen to a book. -/
inductive Act (Id T : Type) : Type where
  | issue (p : Id) (t : T)
  | miss (p : Id)
  | redeem (p : Id) (t : T)
  | drop
  | clear

namespace Act

/-- The action is a wrong attempt at `p`. -/
def misses (p : Id) : Act Id T → Bool
  | miss q => q == p
  | _ => false

/-- The action redeems `p`. -/
def redeems (p : Id) : Act Id T → Bool
  | redeem q _ => q == p
  | _ => false

/-- The action issues a ticket under `p`. -/
def issues (p : Id) : Act Id T → Bool
  | issue q _ => q == p
  | _ => false

/-- The action clears the book. -/
def clears : Act Id T → Bool
  | clear => true
  | _ => false

end Act

/-- What a wrong attempt makes of a ticket. -/
def Ticket.afterMiss (k : Ticket T) : Option (Ticket T) :=
  if k.left - 1 ≤ 0 then none else some { k with left := k.left - 1 }

/-- **One action on a book** whose tickets are issued with `n` attempts. -/
inductive Step (n : ℤ) : Book Id T → Act Id T → Book Id T → Prop
  | issue (b : Book Id T) (p : Id) (t : T) :
      Step n b (.issue p t) (Function.update b p (some ⟨t, n⟩))
  | miss {b : Book Id T} {p : Id} {k : Ticket T} (h : b p = some k) :
      Step n b (.miss p) (Function.update b p k.afterMiss)
  | redeem {b : Book Id T} {p : Id} {k : Ticket T} (h : b p = some k) :
      Step n b (.redeem p k.terms) (Function.update b p none)
  | drop {b b' : Book Id T} (h : ∀ p, b' p = b p ∨ b' p = none) : Step n b .drop b'
  | clear (b : Book Id T) : Step n b .clear fun _ => none

/-- **The traces of a book that starts empty**, names being issued once. -/
inductive Trace (n : ℤ) : List (Act Id T) → Book Id T → Prop
  | nil : Trace n [] fun _ => none
  | snoc {as : List (Act Id T)} {b b' : Book Id T} {a : Act Id T} : Trace n as b →
      (∀ p, a.issues p = true → as.countP (Act.issues p) = 0) → Step n b a b' →
      Trace n (as ++ [a]) b'

/-- A sequence of actions on a book. -/
inductive Steps (n : ℤ) : Book Id T → List (Act Id T) → Book Id T → Prop
  | nil (b : Book Id T) : Steps n b [] b
  | cons {b b' b'' : Book Id T} {a : Act Id T} {as : List (Act Id T)} : Step n b a b' →
      Steps n b' as b'' → Steps n b (a :: as) b''

/-- One action is a sequence. -/
theorem Step.steps {n : ℤ} {b b' : Book Id T} {a : Act Id T} (h : Step n b a b') :
    Steps n b [a] b' :=
  .cons h (.nil b')

section Trace

variable {n : ℤ} {as : List (Act Id T)} {b : Book Id T} {p : Id}

/-- What the history of a book says about one name: where its outstanding ticket
comes from and what has been used of it, and that a name without a ticket has
either never been issued or been used up within the limits. -/
structure Accounts (n : ℤ) (as : List (Act Id T)) (b : Book Id T) (p : Id) : Prop where
  held : ∀ k, b p = some k → 1 ≤ k.left ∧ as.countP (Act.misses p) + k.left = n ∧
    as.countP (Act.redeems p) = 0 ∧
    ∃ pre post, as = pre ++ .issue p k.terms :: post ∧ ∀ a ∈ post, a.clears = false
  misses_le : (as.countP (Act.misses p) : ℤ) ≤ n
  redeems_le : as.countP (Act.redeems p) ≤ 1
  unissued : as.countP (Act.issues p) = 0 →
    as.countP (Act.misses p) = 0 ∧ as.countP (Act.redeems p) = 0

omit [DecidableEq Id] in
/-- A ticket that is held is held still after an action that is none of its
business. -/
theorem held_snoc {k : Ticket T} {a : Act Id T}
    (h : ∃ pre post, as = pre ++ .issue p k.terms :: post ∧ ∀ a ∈ post, a.clears = false)
    (ha : a.clears = false) :
    ∃ pre post, as ++ [a] = pre ++ .issue p k.terms :: post ∧ ∀ a ∈ post, a.clears = false := by
  obtain ⟨pre, post, rfl, hpost⟩ := h
  refine ⟨pre, post ++ [a], by simp, fun x hx => ?_⟩
  rcases List.mem_append.mp hx with hx | hx
  · exact hpost x hx
  · rw [List.mem_singleton.mp hx]
    exact ha

/-- A name that has been issued has been counted. -/
theorem issued_of_held {k : Ticket T}
    (h : ∃ pre post, as = pre ++ .issue p k.terms :: post ∧ ∀ a ∈ post, a.clears = false) :
    as.countP (Act.issues p) ≠ 0 := by
  obtain ⟨pre, post, rfl, -⟩ := h
  simp [List.countP_append, Act.issues]

/-- **An action about other names** leaves the accounts of `p` as they are,
whether or not it takes `p`'s ticket away. -/
theorem Accounts.other {a : Act Id T} {b' : Book Id T} (h : Accounts n as b p)
    (hi : a.issues p = false) (hm : a.misses p = false) (hr : a.redeems p = false)
    (hb : b' p = none ∨ b' p = b p ∧ a.clears = false) : Accounts n (as ++ [a]) b' p := by
  have hcount (f : Act Id T → Bool) (hf : f a = false) :
      (as ++ [a]).countP f = as.countP f := by
    simp [List.countP_append, hf]
  refine ⟨fun k hk => ?_, ?_, ?_, ?_⟩
  · rcases hb with hb | ⟨hb, hc⟩
    · rw [hb] at hk
      cases hk
    · obtain ⟨h1, h2, h3, h4⟩ := h.held k (hb ▸ hk)
      rw [hcount _ hm, hcount _ hr]
      exact ⟨h1, h2, h3, held_snoc h4 hc⟩
  · rw [hcount _ hm]
    exact h.misses_le
  · rw [hcount _ hr]
    exact h.redeems_le
  · rw [hcount _ hi, hcount _ hm, hcount _ hr]
    exact h.unissued

/-- **Every trace keeps its accounts.** -/
theorem Trace.accounts (hn : 1 ≤ n) (h : Trace n as b) (p : Id) : Accounts n as b p := by
  -- the induction is on the last act; an act on another ticket changes no account of this one
  induction h with
  | nil =>
    have hn' : (0 : ℤ) ≤ n := by omega
    exact ⟨fun _ hk => (nomatch hk), by simpa using hn', by simp, by simp⟩
  | @snoc as b b' a hb hfresh hstep ih =>
    cases hstep with
    | issue p' t =>
      by_cases hp : p' = p
      · subst hp
        obtain ⟨hm0, hr0⟩ := ih.unissued (hfresh p' (by simp [Act.issues]))
        refine ⟨fun k hk => ?_, ?_, ?_, ?_⟩
        · rw [Function.update_self] at hk
          obtain rfl := Option.some.inj hk
          refine ⟨hn, ?_, ?_, as, [], rfl, by simp⟩
          · simp [List.countP_append, Act.misses, hm0]
          · simp [List.countP_append, Act.redeems, hr0]
        · simpa [List.countP_append, Act.misses] using ih.misses_le
        · simpa [List.countP_append, Act.redeems] using ih.redeems_le
        · simp [List.countP_append, Act.issues]
      · exact ih.other (by simp [Act.issues, hp]) rfl rfl
          (.inr ⟨Function.update_of_ne (Ne.symm hp) _ _, rfl⟩)
    | @miss p' k' hk' =>
      by_cases hp : p' = p
      · subst hp
        obtain ⟨h1, h2, h3, h4⟩ := ih.held k' hk'
        have hmiss : (as ++ [Act.miss p' (T := T)]).countP (Act.misses p') =
            as.countP (Act.misses p') + 1 := by
          simp [List.countP_append, Act.misses]
        refine ⟨fun k hk => ?_, ?_, ?_, ?_⟩
        · rw [Function.update_self, Ticket.afterMiss] at hk
          split_ifs at hk with hle
          obtain rfl := Option.some.inj hk
          refine ⟨by dsimp only; omega, by rw [hmiss]; dsimp only; omega, ?_, held_snoc h4 rfl⟩
          simpa [List.countP_append, Act.redeems] using h3
        · rw [hmiss]
          omega
        · simpa [List.countP_append, Act.redeems] using ih.redeems_le
        · intro h0
          exact absurd (by simpa [List.countP_append, Act.issues] using h0) (issued_of_held h4)
      · exact ih.other rfl (by simp [Act.misses, hp]) rfl
          (.inr ⟨Function.update_of_ne (Ne.symm hp) _ _, rfl⟩)
    | @redeem p' k' hk' =>
      by_cases hp : p' = p
      · subst hp
        obtain ⟨-, -, h3, h4⟩ := ih.held k' hk'
        refine ⟨fun k hk => ?_, ?_, ?_, ?_⟩
        · rw [Function.update_self] at hk
          cases hk
        · simpa [List.countP_append, Act.misses] using ih.misses_le
        · simp [List.countP_append, Act.redeems, h3]
        · intro h0
          exact absurd (by simpa [List.countP_append, Act.issues] using h0) (issued_of_held h4)
      · exact ih.other rfl rfl (by simp [Act.redeems, hp])
          (.inr ⟨Function.update_of_ne (Ne.symm hp) _ _, rfl⟩)
    | drop hdrop =>
      exact ih.other rfl rfl rfl ((hdrop p).elim (fun h => .inr ⟨h, rfl⟩) .inl)
    | clear => exact ih.other rfl rfl rfl (.inl rfl)

/-- **A name is redeemed at most once.** -/
theorem Trace.redeems_le_one (hn : 1 ≤ n) (h : Trace n as b) (p : Id) :
    as.countP (Act.redeems p) ≤ 1 :=
  (h.accounts hn p).redeems_le

/-- **A name is missed at most as often as its ticket has attempts.** -/
theorem Trace.misses_le (hn : 1 ≤ n) (h : Trace n as b) (p : Id) :
    (as.countP (Act.misses p) : ℤ) ≤ n :=
  (h.accounts hn p).misses_le

/-- **A trace goes on** with any sequence of actions that issues no name twice. -/
theorem Trace.append {bs : List (Act Id T)} {b' : Book Id T} (h : Trace n as b)
    (hs : Steps n b bs b') (hfresh : ∀ p, (as ++ bs).countP (Act.issues p) ≤ 1) :
    Trace n (as ++ bs) b' := by
  induction hs generalizing as with
  | nil b => simpa using h
  | @cons b b' b'' a bs hstep _ ih =>
    rw [List.append_cons] at hfresh ⊢
    refine ih (h.snoc (fun p hp => ?_) hstep) hfresh
    have hle := hfresh p
    simp only [List.countP_append, List.countP_singleton, hp, if_true] at hle
    omega

omit [DecidableEq Id] in
/-- The last action of a trace was a step from what the others left. -/
theorem Trace.last [DecidableEq Id] {a : Act Id T} (h : Trace n (as ++ [a]) b) :
    ∃ b₀, Trace n as b₀ ∧ Step n b₀ a b := by
  generalize hl : as ++ [a] = l at h
  cases h with
  | nil => simp at hl
  | snoc hb _ hstep =>
    obtain ⟨rfl, heq⟩ := List.append_inj' hl rfl
    obtain rfl := List.head_eq_of_cons_eq heq
    exact ⟨_, hb, hstep⟩

/-- A trace cut short is a trace. -/
theorem Trace.of_append {bs : List (Act Id T)} (h : Trace n (as ++ bs) b) :
    ∃ b₀, Trace n as b₀ := by
  induction bs using List.reverseRecOn generalizing b with
  | nil => exact ⟨b, by simpa using h⟩
  | append_singleton bs a ih =>
    rw [← List.append_assoc] at h
    obtain ⟨b₀, hb₀, -⟩ := h.last
    exact ih hb₀

/-- **A redemption is of an outstanding ticket**: it has an attempt left, was not
redeemed before, and was issued on the terms it is redeemed on with no clearing
in between. -/
theorem Trace.redeem {bs : List (Act Id T)} {t : T} (hn : 1 ≤ n)
    (h : Trace n (as ++ .redeem p t :: bs) b) :
    (as.countP (Act.misses p) : ℤ) < n ∧ as.countP (Act.redeems p) = 0 ∧
      ∃ pre post, as = pre ++ .issue p t :: post ∧ ∀ a ∈ post, a.clears = false := by
  rw [List.append_cons] at h
  obtain ⟨b₁, hb₁⟩ := h.of_append
  obtain ⟨b₀, hb₀, hstep⟩ := hb₁.last
  cases hstep with
  | @redeem _ k hk =>
    obtain ⟨h1, h2, h3, h4⟩ := (hb₀.accounts hn p).held k hk
    exact ⟨by omega, h3, h4⟩

/-- **An outstanding ticket has between one and all of its attempts.** -/
theorem Trace.left_mem (hn : 1 ≤ n) (h : Trace n as b) {k : Ticket T} (hk : b p = some k) :
    1 ≤ k.left ∧ k.left ≤ n := by
  obtain ⟨h1, h2, -, -⟩ := (h.accounts hn p).held k hk
  exact ⟨h1, by omega⟩

end Trace

end Tickets
