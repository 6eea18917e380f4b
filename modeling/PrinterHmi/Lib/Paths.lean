import Mathlib.Data.List.Infix
import Mathlib.Order.Basic

/-!
# Paths and patterns

An absolute path, without symbolic links and dots, is the list of the names on the way down from the
root (`AbsolutePath`). Its text has them apart by slashes, and says which path it is
(`AbsolutePath.text_injective`).

A name is matched with a pattern in which a star stands for any text (`fnmatch`). What a pattern with
one star matches are the names that begin and end like it (`fnmatch_star_iff`).
-/

/-! ### Paths -/

/-- **An absolute path**: the names from the root on. -/
structure AbsolutePath where
  parts : List String
  proper : ∀ s ∈ parts, s ≠ "" ∧ '/' ∉ s.toList
  deriving DecidableEq

namespace AbsolutePath

/-- `str(path)`. -/
def text (p : AbsolutePath) : String :=
  String.ofList ('/' :: ['/'].intercalate (p.parts.map String.toList))

/-- `path.parent`. The root is its own. -/
def parent (p : AbsolutePath) : AbsolutePath :=
  ⟨p.parts.dropLast, fun s hs => p.proper s (List.dropLast_subset p.parts hs)⟩

/-- `path.name`. -/
def name (p : AbsolutePath) : String := p.parts.getLastD ""

variable {p q : AbsolutePath}

/-- A path with names has a text after the slash. -/
theorem intercalate_ne_nil (h : p.parts ≠ []) :
    ['/'].intercalate (p.parts.map String.toList) ≠ [] := by
  obtain ⟨parts, hproper⟩ := p
  cases parts with
  | nil => exact absurd rfl h
  | cons s parts =>
    have hs : s.toList ≠ [] := fun hnil =>
      (hproper s List.mem_cons_self).1 (String.toList_eq_nil_iff.mp hnil)
    cases parts with
    | nil => simpa [List.intercalate] using hs
    | cons s' parts => simp [List.intercalate, hs]

/-- **The text of a path says which it is.** -/
theorem text_injective (h : p.text = q.text) : p = q := by
  have hchars : ['/'].intercalate (p.parts.map String.toList) =
      ['/'].intercalate (q.parts.map String.toList) :=
    (List.cons.inj (String.ofList_injective h)).2
  have hslash (r : AbsolutePath) : ∀ l ∈ r.parts.map String.toList, '/' ∉ l := by
    intro l hl
    obtain ⟨s, hs, rfl⟩ := List.mem_map.mp hl
    exact (r.proper s hs).2
  have hempty {r r' : AbsolutePath} (hr : r.parts = [])
      (heq : ['/'].intercalate (r.parts.map String.toList) =
        ['/'].intercalate (r'.parts.map String.toList)) : r'.parts = [] := by
    by_contra hne
    rw [hr] at heq
    exact intercalate_ne_nil hne heq.symm
  have hparts : p.parts = q.parts := by
    by_cases hp : p.parts = []
    · rw [hp, hempty hp hchars]
    · have hq : q.parts ≠ [] := fun hq => hp (hempty hq hchars.symm)
      -- the slashes tell where a name ends
      have hsplit := congrArg (List.splitOn '/') hchars
      rw [List.splitOn_intercalate '/' (hslash p) (by simpa using hp),
        List.splitOn_intercalate '/' (hslash q) (by simpa using hq)] at hsplit
      exact List.map_injective_iff.mpr (fun _ _ => String.toList_injective) hsplit
  cases p
  cases q
  cases hparts
  rfl

end AbsolutePath

/-! ### Patterns -/

/-- The name matches the pattern, in which a star stands for any text. -/
def fnmatch : List Char → List Char → Bool
  | [], name => name.isEmpty
  | '*' :: pattern, name => name.tails.any (fnmatch pattern)
  | _ :: _, [] => false
  | c :: pattern, c' :: name => c == c' && fnmatch pattern name

/-- A pattern without a star matches itself only. -/
theorem fnmatch_literal {pattern name : List Char} (h : '*' ∉ pattern) :
    fnmatch pattern name = true ↔ name = pattern := by
  fun_induction fnmatch pattern name with
  | case1 name => exact List.isEmpty_iff
  | case2 name pattern => exact absurd List.mem_cons_self h
  | case3 => simp
  | case4 c pattern c' name hc ih =>
    rw [Bool.and_eq_true, beq_iff_eq, ih fun hmem => h (List.mem_cons_of_mem c hmem)]
    simp [eq_comm]

/-- **A pattern with one star** matches what begins and ends like it. -/
theorem fnmatch_star_iff {before after name : List Char} (hbefore : '*' ∉ before)
    (hafter : '*' ∉ after) : fnmatch (before ++ '*' :: after) name = true ↔
      ∃ middle, name = before ++ middle ++ after := by
  induction before generalizing name with
  | nil =>
    rw [List.nil_append, fnmatch, List.any_eq_true]
    constructor
    · rintro ⟨rest, hrest, hmatch⟩
      obtain ⟨middle, rfl⟩ := (List.mem_tails _ _).mp hrest
      exact ⟨middle, by rw [(fnmatch_literal hafter).mp hmatch, List.nil_append]⟩
    · rintro ⟨middle, rfl⟩
      exact ⟨after, (List.mem_tails _ _).mpr (List.suffix_append _ _), (fnmatch_literal hafter).mpr rfl⟩
  | cons c before ih =>
    have hc : c ≠ '*' := fun hc => hbefore (hc ▸ List.mem_cons_self)
    have hrest : '*' ∉ before := fun hmem => hbefore (List.mem_cons_of_mem c hmem)
    cases name with
    | nil => simp [fnmatch]
    | cons c' name =>
      rw [List.cons_append, fnmatch, Bool.and_eq_true, beq_iff_eq, ih hrest]
      · constructor
        · rintro ⟨rfl, middle, rfl⟩
          exact ⟨middle, rfl⟩
        · rintro ⟨middle, heq⟩
          obtain ⟨rfl, rfl⟩ := List.cons.inj heq
          exact ⟨rfl, middle, rfl⟩
      · exact hc
