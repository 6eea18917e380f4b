import Mathlib.Data.List.Basic
import Mathlib.Order.Lattice

/-!
# Dictionaries as key-ordered lists

A dictionary is kept as the list of its entries in the order of the keys, each
key once. That is a normal form: two dictionaries hold the same entries exactly
when they are equal (`Dict.ext`), and reading one in order is reading it sorted.

The operations are first defined on bare lists of entries, in the namespace
`Entries`, where a recursive document type can use them too, and then carried by
the structure `Dict`, whose field says that the keys are in order. Everything a
client needs is in the four lookup rules `Dict.get?_insert`, `Dict.get?_erase`,
`Dict.get?_filter` and `Dict.ext`.
-/

namespace Entries

variable {K V : Type} [LinearOrder K]

/-- The keys are strictly increasing. -/
def Sorted (l : List (K × V)) : Prop := (l.map Prod.fst).Pairwise (· < ·)

instance (l : List (K × V)) : Decidable (Sorted l) :=
  inferInstanceAs (Decidable ((l.map Prod.fst).Pairwise (· < ·)))

/-- The value under a key. -/
def get? (k : K) : List (K × V) → Option V
  | [] => none
  | (k', v) :: l => if k' = k then some v else get? k l

/-- Put a value under a key, in its place in the order. -/
def insert (k : K) (v : V) : List (K × V) → List (K × V)
  | [] => [(k, v)]
  | (k', v') :: l =>
    if k < k' then (k, v) :: (k', v') :: l
    else if k = k' then (k, v) :: l
    else (k', v') :: insert k v l

/-- Drop a key. -/
def erase (k : K) (l : List (K × V)) : List (K × V) := l.filter fun e => e.1 ≠ k

@[simp] theorem get?_nil (k : K) : get? k ([] : List (K × V)) = none := rfl

theorem get?_cons (k k' : K) (v : V) (l : List (K × V)) :
    get? k ((k', v) :: l) = if k' = k then some v else get? k l := rfl

@[simp] theorem sorted_nil : Sorted ([] : List (K × V)) := List.Pairwise.nil

theorem sorted_cons {e : K × V} {l : List (K × V)} :
    Sorted (e :: l) ↔ (∀ e' ∈ l, e.1 < e'.1) ∧ Sorted l := by
  simp [Sorted, List.pairwise_cons]

/-! ### Lookup -/

theorem get?_eq_none_of_forall_ne {k : K} {l : List (K × V)} (h : ∀ e ∈ l, e.1 ≠ k) :
    get? k l = none := by
  induction l with
  | nil => rfl
  | cons e l ih =>
    rw [get?_cons, if_neg (h e List.mem_cons_self)]
    exact ih fun e' he' => h e' (List.mem_cons_of_mem _ he')

theorem mem_of_get? {k : K} {v : V} {l : List (K × V)} (h : get? k l = some v) : (k, v) ∈ l := by
  induction l with
  | nil => cases h
  | cons e l ih =>
    obtain ⟨k', v'⟩ := e
    rw [get?_cons] at h
    split at h
    · next hk =>
      cases h
      exact hk ▸ List.mem_cons_self
    · exact List.mem_cons_of_mem _ (ih h)

theorem get?_of_mem {k : K} {v : V} {l : List (K × V)} (hl : Sorted l) (h : (k, v) ∈ l) :
    get? k l = some v := by
  induction l with
  | nil => cases h
  | cons e l ih =>
    obtain ⟨hlt, hs⟩ := sorted_cons.mp hl
    rcases List.mem_cons.mp h with rfl | hm
    · rw [get?_cons, if_pos rfl]
    · rw [get?_cons, if_neg (ne_of_lt (hlt _ hm))]
      exact ih hs hm

theorem get?_insert (k k' : K) (v : V) (l : List (K × V)) :
    get? k' (insert k v l) = if k = k' then some v else get? k' l := by
  induction l with
  | nil => rfl
  | cons e l ih =>
    obtain ⟨k₁, v₁⟩ := e
    rw [insert]
    split
    · rw [get?_cons]
    · split
      · next h =>
        subst h
        rw [get?_cons, get?_cons]
        split <;> rfl
      · next h =>
        rw [get?_cons, ih, get?_cons]
        by_cases hk : k₁ = k'
        · rw [if_pos hk, if_pos hk, if_neg (fun hc => h (hc.trans hk.symm))]
        · rw [if_neg hk, if_neg hk]

theorem get?_filter {p : K × V → Bool} {k : K} {l : List (K × V)} (hl : Sorted l) :
    get? k (l.filter p) = (get? k l).filter fun v => p (k, v) := by
  induction l with
  | nil => rfl
  | cons e l ih =>
    obtain ⟨k₁, v₁⟩ := e
    obtain ⟨hlt, hs⟩ := sorted_cons.mp hl
    by_cases hk : k₁ = k
    · subst hk
      have hnone : get? k₁ (l.filter p) = none :=
        get?_eq_none_of_forall_ne fun e he => (ne_of_lt (hlt e (List.mem_filter.mp he).1)).symm
      rw [List.filter_cons, get?_cons, if_pos rfl]
      cases hp : p (k₁, v₁) with
      | true => simp [get?_cons, Option.filter, hp]
      | false => simp [hnone, Option.filter, hp]
    · rw [List.filter_cons, get?_cons, if_neg hk]
      split
      · rw [get?_cons, if_neg hk, ih hs]
      · exact ih hs

/-- Dropping a key leaves the others. -/
theorem get?_erase_of_ne {k k' : K} (h : k' ≠ k) (l : List (K × V)) :
    get? k' (erase k l) = get? k' l := by
  induction l with
  | nil => rfl
  | cons e l ih =>
    have hcons : erase k (e :: l) = if e.1 ≠ k then e :: erase k l else erase k l := by
      simp only [erase, List.filter_cons, decide_eq_true_eq]
    rw [hcons, get?_cons]
    by_cases he : e.1 = k
    · rw [if_neg (not_not_intro he), ih, if_neg fun hc => h (hc.symm.trans he)]
    · rw [if_pos he, get?_cons, ih]

/-! ### The order is kept -/

theorem mem_insert_keys {k : K} {v : V} {l : List (K × V)} {e : K × V}
    (h : e ∈ insert k v l) : e = (k, v) ∨ e ∈ l := by
  induction l with
  | nil => exact Or.inl (List.mem_singleton.mp h)
  | cons e' l ih =>
    rw [insert] at h
    split at h
    · exact List.mem_cons.mp h
    · split at h
      · exact (List.mem_cons.mp h).imp_right (List.mem_cons_of_mem _)
      · rcases List.mem_cons.mp h with rfl | hm
        · exact Or.inr List.mem_cons_self
        · exact (ih hm).imp_right (List.mem_cons_of_mem _)

theorem sorted_insert {l : List (K × V)} (hl : Sorted l) (k : K) (v : V) :
    Sorted (insert k v l) := by
  induction l with
  | nil => exact sorted_cons.mpr ⟨by simp, sorted_nil⟩
  | cons e l ih =>
    obtain ⟨hlt, hs⟩ := sorted_cons.mp hl
    rw [insert]
    split
    · next h =>
      refine sorted_cons.mpr ⟨fun e' he' => ?_, hl⟩
      rcases List.mem_cons.mp he' with rfl | hm
      · exact h
      · exact lt_trans h (hlt e' hm)
    · split
      · next h => exact sorted_cons.mpr ⟨fun e' he' => h ▸ hlt e' he', hs⟩
      · next h h' =>
        refine sorted_cons.mpr ⟨fun e' he' => ?_, ih hs⟩
        rcases mem_insert_keys he' with rfl | hm
        · exact lt_of_le_of_ne (not_lt.mp h) (Ne.symm h')
        · exact hlt e' hm

theorem sorted_filter {l : List (K × V)} (hl : Sorted l) (p : K × V → Bool) :
    Sorted (l.filter p) :=
  List.Pairwise.sublist (List.filter_sublist.map Prod.fst) hl

/-! ### Updating and selecting entries -/

/-- `l.update(new)`: the new entries, put in one after the other. -/
def update (l new : List (K × V)) : List (K × V) := new.foldl (fun l e => insert e.1 e.2 l) l

theorem sorted_update {l : List (K × V)} (hl : Sorted l) (new : List (K × V)) :
    Sorted (update l new) := by
  induction new generalizing l with
  | nil => exact hl
  | cons e new ih => exact ih (sorted_insert hl e.1 e.2)

/-- **An update wins over what was there.** -/
theorem get?_update {new : List (K × V)} (hnew : Sorted new) (l : List (K × V)) (k : K) :
    get? k (update l new) = (get? k new).or (get? k l) := by
  induction new generalizing l with
  | nil => rfl
  | cons e new ih =>
    obtain ⟨k', v⟩ := e
    obtain ⟨hlt, hs⟩ := sorted_cons.mp hnew
    have hcons : update l ((k', v) :: new) = update (insert k' v l) new := rfl
    rw [hcons, ih hs, get?_insert, get?_cons]
    by_cases hk : k' = k
    · subst hk
      have hnone : get? k' new = none :=
        get?_eq_none_of_forall_ne fun e he => (ne_of_lt (hlt e he)).symm
      rw [if_pos rfl, if_pos rfl, hnone]
      rfl
    · rw [if_neg hk, if_neg hk]

/-- The entries a function of key and value has a value for. -/
def filterMap {W : Type} (f : K → V → Option W) (l : List (K × V)) : List (K × W) :=
  l.filterMap fun e => (f e.1 e.2).map fun w => (e.1, w)

omit [LinearOrder K] in
theorem keys_filterMap {W : Type} (f : K → V → Option W) (l : List (K × V)) :
    ((filterMap f l).map Prod.fst).Sublist (l.map Prod.fst) := by
  induction l with
  | nil => exact List.Sublist.slnil
  | cons e l ih =>
    rw [filterMap, List.filterMap_cons]
    cases f e.1 e.2 with
    | none => exact ih.cons e.1
    | some w => exact ih.cons_cons e.1

theorem sorted_filterMap {W : Type} {l : List (K × V)} (hl : Sorted l) (f : K → V → Option W) :
    Sorted (filterMap f l) :=
  hl.sublist (keys_filterMap f l)

theorem get?_filterMap {W : Type} {l : List (K × V)} (hl : Sorted l) (f : K → V → Option W)
    (k : K) : get? k (filterMap f l) = (get? k l).bind (f k) := by
  induction l with
  | nil => rfl
  | cons e l ih =>
    obtain ⟨k', v⟩ := e
    obtain ⟨hlt, hs⟩ := sorted_cons.mp hl
    have htail := ih hs
    rw [filterMap, List.filterMap_cons, get?_cons]
    by_cases hk : k' = k
    · subst hk
      have hnone : get? k' l = none :=
        get?_eq_none_of_forall_ne fun e he => (ne_of_lt (hlt e he)).symm
      rw [hnone] at htail
      rw [if_pos rfl, Option.bind_some]
      cases hf : f k' v with
      | none => exact htail
      | some w => exact if_pos rfl
    · rw [if_neg hk]
      cases hf : f k' v with
      | none => exact htail
      | some w => exact (if_neg hk).trans htail

/-- **Two ordered lists with the same lookups are equal.** -/
theorem ext {l l' : List (K × V)} (hl : Sorted l) (hl' : Sorted l')
    (h : ∀ k, get? k l = get? k l') : l = l' := by
  have hmem : ∀ e, e ∈ l ↔ e ∈ l' := fun e =>
    ⟨fun he => mem_of_get? ((h e.1) ▸ get?_of_mem hl he),
      fun he => mem_of_get? ((h e.1).symm ▸ get?_of_mem hl' he)⟩
  have hpw : ∀ {m : List (K × V)}, Sorted m → m.Pairwise fun a b => a.1 < b.1 :=
    fun hm => List.pairwise_map.mp hm
  exact List.Perm.eq_of_pairwise (fun a b _ _ hab hba => absurd hab (lt_asymm hba))
    (hpw hl) (hpw hl')
    ((List.perm_ext_iff_of_nodup ((hpw hl).imp fun hab => fun hc => absurd (hc ▸ hab) (lt_irrefl _))
      ((hpw hl').imp fun hab => fun hc => absurd (hc ▸ hab) (lt_irrefl _))).mpr hmem)

end Entries

/-- A dictionary: its entries, in the order of their keys. -/
structure Dict (K V : Type) [LinearOrder K] where
  /-- The entries. -/
  entries : List (K × V)
  /-- The keys are strictly increasing. -/
  sorted : Entries.Sorted entries

namespace Dict

variable {K V : Type} [LinearOrder K]

instance [DecidableEq V] : DecidableEq (Dict K V) := fun d d' =>
  decidable_of_iff (d.entries = d'.entries) ⟨fun h => by cases d; cases d'; simpa using h,
    fun h => h ▸ rfl⟩

/-- The empty dictionary. -/
def empty : Dict K V := ⟨[], Entries.sorted_nil⟩

instance : EmptyCollection (Dict K V) := ⟨empty⟩

/-- `d.get(k)`. -/
def get? (d : Dict K V) (k : K) : Option V := Entries.get? k d.entries

/-- `d[k] = v`. -/
def insert (d : Dict K V) (k : K) (v : V) : Dict K V :=
  ⟨Entries.insert k v d.entries, Entries.sorted_insert d.sorted k v⟩

/-- The entries that pass a test. -/
def filter (d : Dict K V) (p : K → V → Bool) : Dict K V :=
  ⟨d.entries.filter fun e => p e.1 e.2, Entries.sorted_filter d.sorted _⟩

/-- `d.pop(k, None)`. -/
def erase (d : Dict K V) (k : K) : Dict K V := d.filter fun k' _ => k' ≠ k

/-- `d.update(new)`. -/
def update (d : Dict K V) (new : List (K × V)) : Dict K V :=
  ⟨Entries.update d.entries new, Entries.sorted_update d.sorted new⟩

/-- The entries a function of key and value has a value for. -/
def filterMap {W : Type} (d : Dict K V) (f : K → V → Option W) : Dict K W :=
  ⟨Entries.filterMap f d.entries, Entries.sorted_filterMap d.sorted f⟩

variable {d d' : Dict K V} {k k' : K} {v : V}

@[simp] theorem get?_empty : (∅ : Dict K V).get? k = none := rfl

/-- **Two dictionaries with the same lookups are equal.** -/
@[ext] theorem ext (h : ∀ k, d.get? k = d'.get? k) : d = d' := by
  obtain ⟨l, hl⟩ := d
  obtain ⟨l', hl'⟩ := d'
  obtain rfl : l = l' := Entries.ext hl hl' h
  rfl

@[simp] theorem get?_insert :
    (d.insert k v).get? k' = if k = k' then some v else d.get? k' :=
  Entries.get?_insert k k' v d.entries

@[simp] theorem get?_filter (p : K → V → Bool) :
    (d.filter p).get? k = (d.get? k).filter (p k) :=
  Entries.get?_filter d.sorted

@[simp] theorem get?_erase : (d.erase k).get? k' = if k = k' then none else d.get? k' := by
  rw [erase, get?_filter]
  by_cases h : k = k'
  · cases hd : d.get? k' <;> simp [h, Option.filter]
  · have h' : k' ≠ k := fun hc => h hc.symm
    cases hd : d.get? k' <;> simp [h, h', Option.filter]

theorem get?_update {new : List (K × V)} (hnew : Entries.Sorted new) :
    (d.update new).get? k = (Entries.get? k new).or (d.get? k) :=
  Entries.get?_update hnew d.entries k

@[simp] theorem get?_filterMap {W : Type} (f : K → V → Option W) :
    (d.filterMap f).get? k = (d.get? k).bind (f k) :=
  Entries.get?_filterMap d.sorted f k

/-- What a filter keeps was there and passes the test. -/
theorem get?_filter_eq_some {p : K → V → Bool} :
    (d.filter p).get? k = some v ↔ d.get? k = some v ∧ p k v = true := by
  rw [get?_filter, Option.filter_eq_some_iff]

theorem mem_entries_iff : (k, v) ∈ d.entries ↔ d.get? k = some v :=
  ⟨Entries.get?_of_mem d.sorted, Entries.mem_of_get?⟩

end Dict
