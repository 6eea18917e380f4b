import PrinterHmi.Lib.Json

/-!
# Redaction

To *redact* a document is to drop, at every depth, the object fields whose names
do not pass a test (`Json.redact`). What is left has only names that pass
(`Json.onlyNames`), and a document that has only such names is left as it is, so
redaction is a projection: redacting twice is redacting once.

A reader that can only compare may test for a redacted document by redacting it
again. `Json.eq_redact_of_pyEq` says that even the coarse equality `Json.pyEq`,
in which numbers of different kinds are equal, is enough for that test.

The last section is about a *selection* (`Json.select`): the members under some
given names, each of them changed on the way.
-/

namespace Json

variable (keep : String → Bool)

/-! ### Dropping fields -/

mutual

/-- The document without the fields whose names fail the test. -/
def redact : Json → Json
  | arr items => arr (redactItems items)
  | obj fields => obj (redactFields fields)
  | null => null
  | bool b => bool b
  | int n => int n
  | float x => float x
  | str s => str s

/-- The items, redacted. -/
def redactItems : List Json → List Json
  | [] => []
  | x :: xs => redact x :: redactItems xs

/-- The fields whose names pass the test, redacted. -/
def redactFields : List (String × Json) → List (String × Json)
  | [] => []
  | (name, x) :: xs => if keep name then (name, redact x) :: redactFields xs else redactFields xs

end

mutual

/-- Every field name, at every depth, passes the test. -/
def onlyNames : Json → Bool
  | arr items => onlyNamesItems items
  | obj fields => onlyNamesFields fields
  | _ => true

/-- Every field name of the items passes the test. -/
def onlyNamesItems : List Json → Bool
  | [] => true
  | x :: xs => onlyNames x && onlyNamesItems xs

/-- Every field name of the fields passes the test. -/
def onlyNamesFields : List (String × Json) → Bool
  | [] => true
  | (name, x) :: xs => keep name && onlyNames x && onlyNamesFields xs

end

variable {keep}

theorem onlyNamesFields_iff {fields : List (String × Json)} :
    onlyNamesFields keep fields = true ↔
      ∀ e ∈ fields, keep e.1 = true ∧ e.2.onlyNames keep = true := by
  induction fields with
  | nil => simp [onlyNamesFields]
  | cons e xs ih =>
    obtain ⟨name, x⟩ := e
    simp only [onlyNamesFields, Bool.and_eq_true, ih, List.mem_cons, forall_eq_or_imp]

/-- An object has only names that pass when its own names do and its members
have. -/
theorem onlyNames_obj {fields : List (String × Json)} : (obj fields).onlyNames keep = true ↔
    ∀ e ∈ fields, keep e.1 = true ∧ e.2.onlyNames keep = true := by
  rw [onlyNames, onlyNamesFields_iff]

/-! ### Redaction is a projection -/

mutual

/-- **What is left has only names that pass.** -/
theorem onlyNames_redact : ∀ d : Json, (redact keep d).onlyNames keep = true
  | null | bool _ | int _ | float _ | str _ => rfl
  | arr items => by rw [redact, onlyNames, onlyNamesItems_redactItems items]
  | obj fields => by rw [redact, onlyNames, onlyNamesFields_redactFields fields]

theorem onlyNamesItems_redactItems :
    ∀ items : List Json, onlyNamesItems keep (redactItems keep items) = true
  | [] => rfl
  | x :: xs => by
    rw [redactItems, onlyNamesItems, onlyNames_redact x, onlyNamesItems_redactItems xs]
    rfl

theorem onlyNamesFields_redactFields :
    ∀ fields : List (String × Json), onlyNamesFields keep (redactFields keep fields) = true
  | [] => rfl
  | (name, x) :: xs => by
    rw [redactFields]
    split
    · next h =>
      rw [onlyNamesFields, h, onlyNames_redact x, onlyNamesFields_redactFields xs]
      rfl
    · exact onlyNamesFields_redactFields xs

end

mutual

/-- **A document with only names that pass is left as it is.** -/
theorem redact_of_onlyNames : ∀ d : Json, d.onlyNames keep = true → redact keep d = d
  | null, _ | bool _, _ | int _, _ | float _, _ | str _, _ => rfl
  | arr items, h => by
    rw [onlyNames] at h
    rw [redact, redactItems_of_onlyNames items h]
  | obj fields, h => by
    rw [onlyNames] at h
    rw [redact, redactFields_of_onlyNames fields h]

theorem redactItems_of_onlyNames :
    ∀ items : List Json, onlyNamesItems keep items = true → redactItems keep items = items
  | [], _ => rfl
  | x :: xs, h => by
    rw [onlyNamesItems, Bool.and_eq_true] at h
    rw [redactItems, redact_of_onlyNames x h.1, redactItems_of_onlyNames xs h.2]

theorem redactFields_of_onlyNames :
    ∀ fields : List (String × Json), onlyNamesFields keep fields = true →
      redactFields keep fields = fields
  | [], _ => rfl
  | (name, x) :: xs, h => by
    rw [onlyNamesFields, Bool.and_eq_true, Bool.and_eq_true] at h
    rw [redactFields, if_pos h.1.1, redact_of_onlyNames x h.1.2,
      redactFields_of_onlyNames xs h.2]

end

/-- Redacting twice is redacting once. -/
@[simp] theorem redact_redact (d : Json) : redact keep (redact keep d) = redact keep d :=
  redact_of_onlyNames _ (onlyNames_redact d)

/-! ### What redaction keeps -/

variable (keep) in
/-- The names that are left were there. -/
theorem redactFields_keys_sublist (fields : List (String × Json)) :
    ((redactFields keep fields).map Prod.fst).Sublist (fields.map Prod.fst) := by
  induction fields with
  | nil => exact List.Sublist.slnil
  | cons e xs ih =>
    obtain ⟨name, x⟩ := e
    rw [redactFields]
    split
    · exact ih.cons_cons name
    · exact ih.cons name

mutual

/-- A document in normal form stays in normal form. -/
theorem ordered_redact : ∀ d : Json, d.ordered = true → (redact keep d).ordered = true
  | null, _ | bool _, _ | int _, _ | float _, _ | str _, _ => rfl
  | arr items, h => by
    rw [ordered] at h
    rw [redact, ordered, orderedItems_redactItems items h]
  | obj fields, h => by
    rw [ordered, Bool.and_eq_true, decide_eq_true_eq] at h
    have hsorted : Entries.Sorted (redactFields keep fields) :=
      List.Pairwise.sublist (redactFields_keys_sublist keep fields) h.1
    rw [redact, ordered, orderedFields_redactFields fields h.2, decide_eq_true hsorted]
    rfl

theorem orderedItems_redactItems :
    ∀ items : List Json, orderedItems items = true → orderedItems (redactItems keep items) = true
  | [], _ => rfl
  | x :: xs, h => by
    rw [orderedItems, Bool.and_eq_true] at h
    rw [redactItems, orderedItems, ordered_redact x h.1, orderedItems_redactItems xs h.2]
    rfl

theorem orderedFields_redactFields :
    ∀ fields : List (String × Json), orderedFields fields = true →
      orderedFields (redactFields keep fields) = true
  | [], _ => rfl
  | (name, x) :: xs, h => by
    rw [orderedFields, Bool.and_eq_true] at h
    rw [redactFields]
    split
    · rw [orderedFields, ordered_redact x h.1, orderedFields_redactFields xs h.2]
      rfl
    · exact orderedFields_redactFields xs h.2

end

/-! ### Testing for a redacted document -/

mutual

/-- **A document that compares equal to its redaction is its redaction.** -/
theorem eq_redact_of_pyEq : ∀ d : Json, (redact keep d).pyEq d = true → redact keep d = d
  | null, _ | bool _, _ | int _, _ | float _, _ | str _, _ => rfl
  | arr items, h => by
    rw [redact, pyEq] at h
    rw [redact, eq_redactItems_of_pyEq items h]
  | obj fields, h => by
    rw [redact, pyEq] at h
    rw [redact, eq_redactFields_of_pyEq fields h]

theorem eq_redactItems_of_pyEq : ∀ items : List Json,
    pyEqItems (redactItems keep items) items = true → redactItems keep items = items
  | [], _ => rfl
  | x :: xs, h => by
    rw [redactItems, pyEqItems, Bool.and_eq_true] at h
    rw [redactItems, eq_redact_of_pyEq x h.1, eq_redactItems_of_pyEq xs h.2]

theorem eq_redactFields_of_pyEq : ∀ fields : List (String × Json),
    pyEqFields (redactFields keep fields) fields = true → redactFields keep fields = fields
  | [], _ => rfl
  | (name, x) :: xs, h => by
    rw [redactFields] at h ⊢
    split at h
    · next hkeep =>
      rw [pyEqFields, Bool.and_eq_true, Bool.and_eq_true] at h
      rw [if_pos hkeep, eq_redact_of_pyEq x h.1.2, eq_redactFields_of_pyEq xs h.2]
    · -- a dropped field leaves too few names
      have hlen : (redactFields keep xs).length = xs.length + 1 := by
        simpa using congrArg List.length (keys_eq_of_pyEqFields h)
      have hle : (redactFields keep xs).length ≤ xs.length := by
        simpa using (redactFields_keys_sublist keep xs).length_le
      omega

end

/-! ### Selections -/

section Select

variable (names : List String) (f : Json → Json)

/-- The members of an object under the given names, those it has, changed by
`f`. -/
def select (d : Json) : List (String × Json) :=
  names.filterMap fun name => (d.get? name).map fun v => (name, f v)

variable {names f}

theorem mem_select {d v : Json} {name : String} : (name, v) ∈ d.select names f ↔
    name ∈ names ∧ ∃ u, d.get? name = some u ∧ f u = v := by
  simp only [select, List.mem_filterMap, Option.map_eq_some_iff, Prod.mk.injEq]
  constructor
  · rintro ⟨name', hmem, u, hu, rfl, rfl⟩
    exact ⟨hmem, u, hu, rfl⟩
  · rintro ⟨hmem, u, hu, rfl⟩
    exact ⟨name, hmem, u, hu, rfl, rfl⟩

/-- A selection by names in order is in order. -/
theorem sorted_select (hnames : names.Pairwise (· < ·)) (d : Json) :
    Entries.Sorted (d.select names f) := by
  have hsub : ((d.select names f).map Prod.fst).Sublist names := by
    induction names with
    | nil => exact List.Sublist.slnil
    | cons name names ih =>
      rw [select, List.filterMap_cons]
      cases d.get? name with
      | none => exact (ih (List.pairwise_cons.mp hnames).2).cons name
      | some v => exact (ih (List.pairwise_cons.mp hnames).2).cons_cons name
  exact hnames.sublist hsub

/-- **What a selection holds under a name.** -/
theorem get?_select (hnames : names.Pairwise (· < ·)) (d : Json) (name : String) :
    Entries.get? name (d.select names f) = if name ∈ names then (d.get? name).map f else none := by
  cases hget : Entries.get? name (d.select names f) with
  | some v =>
    obtain ⟨hmem, u, hu, rfl⟩ := mem_select.mp (Entries.mem_of_get? hget)
    rw [if_pos hmem, hu, Option.map_some]
  | none =>
    split
    · next hmem =>
      cases hv : d.get? name with
      | none => rfl
      | some u =>
        have hin : (name, f u) ∈ d.select names f := mem_select.mpr ⟨hmem, u, hv, rfl⟩
        rw [Entries.get?_of_mem (sorted_select hnames d) hin] at hget
        cases hget
    · rfl

/-- Two objects whose changed members agree have the same selection. -/
theorem select_congr {d d' : Json}
    (h : ∀ name ∈ names, (d.get? name).map f = (d'.get? name).map f) :
    d.select names f = d'.select names f := by
  refine List.filterMap_congr fun name hname => ?_
  have hpair : ∀ o : Option Json, (o.map fun v => (name, f v)) = (o.map f).map fun v => (name, v) :=
    fun o => by cases o <;> rfl
  rw [hpair, hpair, h name hname]

end Select

end Json
