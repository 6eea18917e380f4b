import Mathlib.Data.List.Infix

/-!
# Replacing matches by a marker

`Substitution.sub` goes through a text from the left and puts a marker in place of each match of
a matcher, which may keep a part of the match before the marker. What is written over is gone;
what can be read afterwards could be read before, as long as it has no character of the marker:
`Substitution.infix_of_infix_sub` says so for every matcher. A text that is itself replaced
cannot be read any more (`Substitution.not_infix_sub_literal`). Where nothing matches the text
stays as it is (`Substitution.sub_eq_self`).

The matcher may be a pattern (`Pattern`): classes of characters one after the other,
alternatives, greedy repetitions, word boundaries and one group. A pattern is matched by
backtracking, so `Pattern.ends` lists the ways to match in the order they are tried in, and the
first of them counts. A pattern may need some character, and then it leaves every text alone
that has none (`Pattern.Needs`).
-/

namespace Substitution

variable {α : Type}

/-- What a matcher finds at the start of a text, given the character before it: how much of the
match is kept, and how long the match is. -/
abbrev Matcher (α : Type) := Option α → List α → Option (ℕ × ℕ)

/-- Put a marker in place of each match, from the left. The first `skip` characters belong to a
match that has been replaced. -/
def sub (m : Matcher α) (marker : List α) : Option α → ℕ → List α → List α
  | _, _, [] => []
  | _, skip + 1, c :: t => sub m marker (some c) skip t
  | prev, 0, c :: t =>
    match m prev (c :: t) with
    | some (kept, length) =>
      (c :: t).take kept ++ (marker ++ sub m marker (some c) (length - 1) t)
    | none => c :: sub m marker (some c) 0 t

/-- The matcher of a text. -/
def literal [DecidableEq α] (old : List α) : Matcher α := fun _ t =>
  if old.isPrefixOf t then some (0, old.length) else none

section Reading

variable {q : α → Bool} {m : Matcher α} {marker v : List α}

/-- What is read before a marker is read before it. -/
theorem prefix_of_prefix_append (hv : ∀ c ∈ v, q c = true) (hne : marker ≠ [])
    (hmarker : ∀ c ∈ marker, q c = false) {a b : List α} (h : v <+: a ++ (marker ++ b)) :
    v <+: a := by
  induction a generalizing v with
  | nil =>
    cases v with
    | nil => exact List.nil_prefix
    | cons c v =>
      obtain ⟨d, marker, rfl⟩ := List.exists_cons_of_ne_nil hne
      obtain ⟨rfl, -⟩ := List.cons_prefix_cons.mp h
      have hmiss := hmarker c List.mem_cons_self
      rw [hv c List.mem_cons_self] at hmiss
      cases hmiss
  | cons x a ih =>
    cases v with
    | nil => exact List.nil_prefix
    | cons c v =>
      obtain ⟨rfl, htail⟩ := List.cons_prefix_cons.mp h
      exact List.cons_prefix_cons.mpr
        ⟨rfl, ih (fun c' hc' => hv c' (List.mem_cons_of_mem _ hc')) htail⟩

/-- What is read around a marker is read before it or after it. -/
theorem infix_of_infix_append (hv : ∀ c ∈ v, q c = true) (hv' : v ≠ []) (hne : marker ≠ [])
    (hmarker : ∀ c ∈ marker, q c = false) {a b : List α} (h : v <:+: a ++ (marker ++ b)) :
    v <:+: a ∨ v <:+: b := by
  induction a with
  | nil =>
    right
    rw [List.nil_append] at h
    clear hne
    induction marker with
    | nil => exact h
    | cons d marker ih =>
      rcases List.infix_cons_iff.mp h with hprefix | hinfix
      · obtain ⟨c, v, rfl⟩ := List.exists_cons_of_ne_nil hv'
        obtain ⟨rfl, -⟩ := List.cons_prefix_cons.mp hprefix
        have hmiss := hmarker c List.mem_cons_self
        rw [hv c List.mem_cons_self] at hmiss
        cases hmiss
      · exact ih (fun c hc => hmarker c (List.mem_cons_of_mem _ hc)) hinfix
  | cons x a ih =>
    rcases List.infix_cons_iff.mp h with hprefix | hinfix
    · exact .inl (prefix_of_prefix_append hv hne hmarker hprefix).isInfix
    · exact (ih hinfix).imp_left fun h => List.infix_cons_iff.mpr (.inr h)

/-- What can be read at the start could be read there before. -/
theorem prefix_of_prefix_sub (hv : ∀ c ∈ v, q c = true) (hne : marker ≠ [])
    (hmarker : ∀ c ∈ marker, q c = false) {prev : Option α} {t : List α}
    (h : v <+: sub m marker prev 0 t) : v <+: t := by
  induction t generalizing v prev with
  | nil => exact h
  | cons c t ih =>
    rw [sub] at h
    split at h
    · exact (prefix_of_prefix_append hv hne hmarker h).trans (List.take_prefix _ _)
    · cases v with
      | nil => exact List.nil_prefix
      | cons c' v =>
        obtain ⟨rfl, htail⟩ := List.cons_prefix_cons.mp h
        exact List.cons_prefix_cons.mpr
          ⟨rfl, ih (fun c hc => hv c (List.mem_cons_of_mem _ hc)) htail⟩

/-- **What can be read after a substitution could be read before it.** -/
theorem infix_of_infix_sub (hv : ∀ c ∈ v, q c = true) (hv' : v ≠ []) (hne : marker ≠ [])
    (hmarker : ∀ c ∈ marker, q c = false) {prev : Option α} {skip : ℕ} {t : List α}
    (h : v <:+: sub m marker prev skip t) : v <:+: t := by
  induction t generalizing prev skip with
  | nil =>
    rw [sub] at h
    exact h
  | cons c t ih =>
    refine List.infix_cons_iff.mpr ?_
    cases skip with
    | succ skip => exact .inr (ih h)
    | zero =>
      -- what is found lies within a kept part, as the marker has none of its characters
      cases hm : m prev (c :: t) with
      | some found =>
        rw [sub, hm] at h
        rcases infix_of_infix_append hv hv' hne hmarker h with hkept | hrest
        · exact List.infix_cons_iff.mp (hkept.trans (List.take_prefix _ _).isInfix)
        · exact .inr (ih hrest)
      | none =>
        rw [sub, hm] at h
        rcases List.infix_cons_iff.mp h with hprefix | hinfix
        · have hsub : c :: sub m marker (some c) 0 t = sub m marker prev 0 (c :: t) := by
            rw [sub, hm]
          exact .inl (prefix_of_prefix_sub hv hne hmarker (hsub ▸ hprefix))
        · exact .inr (ih hinfix)

/-- **A text that is replaced cannot be read any more.** -/
theorem not_infix_sub_literal [DecidableEq α] (hv : ∀ c ∈ v, q c = true) (hv' : v ≠ [])
    (hne : marker ≠ []) (hmarker : ∀ c ∈ marker, q c = false) (prev : Option α) (skip : ℕ)
    (t : List α) : ¬v <:+: sub (literal v) marker prev skip t := by
  induction t generalizing prev skip with
  | nil =>
    rw [sub]
    exact fun h => hv' (List.infix_nil.mp h)
  | cons c t ih =>
    cases skip with
    | succ skip => exact ih (some c) skip
    | zero =>
      intro h
      -- where the literal stands it is replaced, and where it is read it stood
      by_cases hmatch : v.isPrefixOf (c :: t) = true
      · have hm : literal v prev (c :: t) = some (0, v.length) := if_pos hmatch
        rw [sub, hm] at h
        rcases infix_of_infix_append hv hv' hne hmarker h with hkept | hrest
        · exact hv' (List.infix_nil.mp hkept)
        · exact ih _ _ hrest
      · have hm : literal v prev (c :: t) = none := if_neg hmatch
        rw [sub, hm] at h
        rcases List.infix_cons_iff.mp h with hprefix | hinfix
        · have hthere : v <+: c :: t := by
            have hsub : c :: sub (literal v) marker (some c) 0 t =
                sub (literal v) marker prev 0 (c :: t) := by
              rw [sub, hm]
            exact prefix_of_prefix_sub hv hne hmarker (hsub ▸ hprefix)
          exact hmatch (List.isPrefixOf_iff_prefix.mpr hthere)
        · exact ih _ _ hinfix

end Reading

/-- **Where nothing matches, nothing is replaced.** -/
theorem sub_eq_self {m : Matcher α} {marker : List α} {prev : Option α} {t : List α}
    (h : ∀ prev' t', t' <:+ t → m prev' t' = none) : sub m marker prev 0 t = t := by
  induction t generalizing prev with
  | nil => rfl
  | cons c t ih =>
    rw [sub, h prev _ List.suffix_rfl]
    exact congrArg (c :: ·) (ih fun prev' t' ht' => h prev' t' (ht'.trans (List.suffix_cons c t)))

/-- A text that cannot be read is not replaced. -/
theorem sub_literal_eq_self [DecidableEq α] {old marker t : List α} (h : ¬old <:+: t)
    (prev : Option α) : sub (literal old) marker prev 0 t = t := by
  refine sub_eq_self fun prev' t' hsuffix => if_neg fun hprefix => h ?_
  exact (List.isPrefixOf_iff_prefix.mp hprefix).isInfix.trans hsuffix.isInfix

/-! ### Patterns -/

/-- A pattern. -/
inductive Pattern : Type where
  | one (p : Char → Bool)
  | seq (r s : Pattern)
  | alt (r s : Pattern)
  | many (r : Pattern) (lo : ℕ) (hi : Option ℕ)
  | boundary
  | group (r : Pattern)

/-- The pattern of the empty text. -/
def Pattern.empty : Pattern := .many (.one fun _ => true) 0 (some 0)

/-- The pattern of no text. -/
def Pattern.never : Pattern := .one fun _ => false

/-- Where a match has come to: the character before, what follows, and what followed the group. -/
structure Place where
  prev : Option Char
  rest : List Char
  mark : Option (List Char)

/-- Match again and again, as often as can be: at most `hi` times and at least `lo` times. -/
def repeated (ends : Place → List Place) : ℕ → ℕ → Place → List Place
  | 0, lo, at' => if lo = 0 then [at'] else []
  | hi + 1, lo, at' =>
    (ends at').flatMap (repeated ends hi (lo - 1)) ++ if lo = 0 then [at'] else []

/-- The places a match of a pattern can come to, in the order they are tried in. -/
def Pattern.ends (isWord : Char → Bool) : Pattern → Place → List Place
  | .one p, at' =>
    match at'.rest with
    | c :: t => if p c then [{ at' with prev := some c, rest := t }] else []
    | [] => []
  | .seq r s, at' => (r.ends isWord at').flatMap (s.ends isWord)
  | .alt r s, at' => r.ends isWord at' ++ s.ends isWord at'
  | .many r lo hi, at' => repeated (r.ends isWord) (hi.getD at'.rest.length) lo at'
  | .boundary, at' => if at'.prev.any isWord = at'.rest.head?.any isWord then [] else [at']
  | .group r, at' => (r.ends isWord at').map fun e => { e with mark := some e.rest }

/-- The matcher of a pattern. Its group is kept if `keep` says so. -/
def Pattern.matcher (isWord : Char → Bool) (keep : Bool) (r : Pattern) : Matcher Char :=
  fun prev t =>
    match r.ends isWord ⟨prev, t, none⟩ with
    | [] => none
    | e :: _ =>
      let kept := if keep then e.mark.elim 0 fun rest => t.length - rest.length else 0
      some (kept, t.length - e.rest.length)

/-- The pattern matches somewhere. -/
def Pattern.search (isWord : Char → Bool) (r : Pattern) : Option Char → List Char → Bool
  | prev, [] => !(r.ends isWord ⟨prev, [], none⟩).isEmpty
  | prev, c :: t => !(r.ends isWord ⟨prev, c :: t, none⟩).isEmpty || r.search isWord (some c) t

/-! ### Patterns that need a character -/

section Needs

variable {isWord : Char → Bool} {r s : Pattern}

theorem suffix_of_mem_repeated {ends : Place → List Place}
    (h : ∀ at', ∀ e ∈ ends at', e.rest <:+ at'.rest) {hi lo : ℕ} {at' e : Place}
    (he : e ∈ repeated ends hi lo at') : e.rest <:+ at'.rest := by
  induction hi generalizing lo at' with
  | zero =>
    rw [repeated] at he
    split at he
    · rw [List.mem_singleton.mp he]
    · cases he
  | succ hi ih =>
    rcases List.mem_append.mp he with hmore | hhere
    · obtain ⟨e', he', hmore⟩ := List.mem_flatMap.mp hmore
      exact (ih hmore).trans (h at' e' he')
    · split at hhere
      · rw [List.mem_singleton.mp hhere]
      · cases hhere

/-- A match goes on in the text it starts in. -/
theorem Pattern.suffix_of_mem_ends {at' e : Place} (he : e ∈ r.ends isWord at') :
    e.rest <:+ at'.rest := by
  induction r generalizing at' e with
  | one p =>
    rw [Pattern.ends] at he
    split at he
    · next c t hrest =>
      split at he
      · rw [List.mem_singleton.mp he, hrest]
        exact List.suffix_cons c t
      · cases he
    · cases he
  | seq r s ihr ihs =>
    obtain ⟨e', he', he⟩ := List.mem_flatMap.mp he
    exact (ihs he).trans (ihr he')
  | alt r s ihr ihs =>
    rcases List.mem_append.mp he with hleft | hright
    · exact ihr hleft
    · exact ihs hright
  | many r lo hi ih => exact suffix_of_mem_repeated (fun _ _ he' => ih he') he
  | boundary =>
    rw [Pattern.ends] at he
    split at he
    · cases he
    · rw [List.mem_singleton.mp he]
  | group r ih =>
    obtain ⟨e', he', rfl⟩ := List.mem_map.mp he
    have hsuffix : e'.rest <:+ at'.rest := ih he'
    exact hsuffix

/-- **A pattern needs a character of a class**: it matches no text that has none. -/
def Pattern.Needs (isWord p : Char → Bool) (r : Pattern) : Prop :=
  ∀ at' : Place, (∀ c ∈ at'.rest, p c = false) → r.ends isWord at' = []

variable {p : Char → Bool}

theorem Pattern.needs_one {q : Char → Bool} (h : ∀ c, q c = true → p c = true) :
    (Pattern.one q).Needs isWord p := by
  intro at' hnone
  rw [Pattern.ends]
  split
  · next c t hrest =>
    refine if_neg fun hq => ?_
    have hmiss := hnone c (hrest ▸ List.mem_cons_self)
    rw [h c hq] at hmiss
    cases hmiss
  · rfl

theorem Pattern.Needs.seq_left (h : r.Needs isWord p) : (Pattern.seq r s).Needs isWord p := by
  intro at' hnone
  rw [Pattern.ends, h at' hnone, List.flatMap_nil]

theorem Pattern.Needs.seq_right (h : s.Needs isWord p) : (Pattern.seq r s).Needs isWord p := by
  intro at' hnone
  refine List.flatMap_eq_nil_iff.mpr fun e he => h e fun c hc => ?_
  exact hnone c ((Pattern.suffix_of_mem_ends he).subset hc)

theorem Pattern.Needs.many (h : r.Needs isWord p) {lo : ℕ} (hlo : lo ≠ 0) (hi : Option ℕ) :
    (Pattern.many r lo hi).Needs isWord p := by
  intro at' hnone
  rw [Pattern.ends]
  cases hi.getD at'.rest.length with
  | zero => exact if_neg hlo
  | succ n => rw [repeated, h at' hnone, List.flatMap_nil, if_neg hlo, List.append_nil]

/-- **A text without such a character stays as it is.** -/
theorem Pattern.Needs.sub_eq_self (h : r.Needs isWord p) {t : List Char}
    (hnone : ∀ c ∈ t, p c = false) (keep : Bool) (marker : List Char) (prev : Option Char) :
    sub (r.matcher isWord keep) marker prev 0 t = t := by
  refine Substitution.sub_eq_self fun prev' t' hsuffix => ?_
  rw [Pattern.matcher, h ⟨prev', t', none⟩ fun c hc => hnone c (hsuffix.subset hc)]

end Needs

end Substitution
