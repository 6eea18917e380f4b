import Mathlib.Data.Rat.Defs
import Mathlib.Data.String.Basic
import Mathlib.Algebra.Field.Rat
import PrinterHmi.Lib.Dict

/-!
# JSON documents

The values a JSON text denotes, with the three things programs do to them:
reading a member, comparing two values, and asking whether one counts as true.

Numbers are split as a dynamically typed reader splits them: a token with neither
fraction nor exponent is an integer, any other is a float. A float *is* its token
(`Json.FloatText`): it reads back as it is written, and its value
(`Json.FloatText.value`) is the exact rational the token spells.

An object keeps its fields in the order of their names. `Json.ordered` says so at
every level; a document that satisfies it is in normal form, so that two of them
are the same document exactly when they are equal. `Json.pyEq` is the coarser
equality of a language in which `1`, `1.0` and `true` compare equal.
-/

namespace Json

/-! ### Number tokens -/

/-- A run of decimal digits without a superfluous leading zero. -/
def isWholeText (t : List Char) : Bool :=
  t.all Char.isDigit && (t.head?.any (· != '0') || t == ['0'])

/-- A token without its sign. -/
def dropMinus : List Char → List Char
  | '-' :: t => t
  | t => t

/-- An integer token. -/
def isIntText (t : List Char) : Bool := isWholeText (dropMinus t)

/-- A nonempty run of decimal digits. -/
def isDigits (t : List Char) : Bool := !t.isEmpty && t.all Char.isDigit

/-- The exponent of a float token: a digit run, possibly signed. -/
def isExponentText : List Char → Bool
  | '+' :: t => isDigits t
  | '-' :: t => isDigits t
  | t => isDigits t

/-- The characters an exponent starts with. -/
def isExponentMark (c : Char) : Bool := c == 'e' || c == 'E'

/-- A float token: a whole part, then a fraction, an exponent, or both. -/
def isFloatText (t : List Char) : Bool :=
  let mantissa := (dropMinus t).takeWhile (!isExponentMark ·)
  let exponent := (dropMinus t).dropWhile (!isExponentMark ·)
  let whole := mantissa.takeWhile (· != '.')
  let fraction := mantissa.dropWhile (· != '.')
  isWholeText whole && (fraction.isEmpty || isDigits fraction.tail) &&
    (exponent.isEmpty || isExponentText exponent.tail) &&
    !(fraction.isEmpty && exponent.isEmpty)

/-- A float, as the token that spells it. -/
abbrev FloatText := { t : List Char // isFloatText t = true }

/-- The value of an exponent. -/
def exponentValue : List Char → ℤ
  | '+' :: t => Nat.ofDigitChars 10 t 0
  | '-' :: t => -Nat.ofDigitChars 10 t 0
  | t => Nat.ofDigitChars 10 t 0

/-- The exact value of a float token. -/
def FloatText.value (x : FloatText) : ℚ :=
  let mantissa := (dropMinus x.1).takeWhile (!isExponentMark ·)
  let exponent := (dropMinus x.1).dropWhile (!isExponentMark ·)
  let whole := mantissa.takeWhile (· != '.')
  let fraction := (mantissa.dropWhile (· != '.')).tail
  let magnitude : ℚ := (Nat.ofDigitChars 10 (whole ++ fraction) 0 : ℕ) *
    (10 : ℚ) ^ (exponentValue exponent.tail - fraction.length)
  if x.1.head? = some '-' then -magnitude else magnitude

end Json

/-- A JSON document. -/
inductive Json : Type where
  | null : Json
  | bool (b : Bool) : Json
  | int (n : ℤ) : Json
  | float (x : Json.FloatText) : Json
  | str (s : String) : Json
  | arr (items : List Json) : Json
  | obj (fields : List (String × Json)) : Json

namespace Json

instance : Inhabited Json := ⟨null⟩

/-! ### Members -/

/-- `d.get(name)`: the member of an object under a name. -/
def get? (d : Json) (name : String) : Option Json :=
  match d with
  | obj fields => Entries.get? name fields
  | _ => none

/-- `d[name]` where the member is known to be there. -/
def field (d : Json) (name : String) : Json := (d.get? name).getD null

/-- `d[name] = v`. -/
def set (d : Json) (name : String) (v : Json) : Json :=
  match d with
  | obj fields => obj (Entries.insert name v fields)
  | d => d

/-- `d.pop(name, None)`. -/
def erase (d : Json) (name : String) : Json :=
  match d with
  | obj fields => obj (Entries.erase name fields)
  | d => d

/-- The field names of an object. -/
def names : Json → List String
  | obj fields => fields.map Prod.fst
  | _ => []

/-- `isinstance(d, dict)`. -/
def isObj : Json → Bool
  | obj _ => true
  | _ => false

/-- `isinstance(d, dict) and set(d) == expected`. -/
def hasFields (d : Json) (expected : List String) : Bool :=
  d.isObj && d.names.all (· ∈ expected) && expected.all (· ∈ d.names)

/-- `isinstance(d, str)`, with the text. -/
def str? : Json → Option String
  | str s => some s
  | _ => none

/-- `isinstance(d, list)`, with the items. -/
def arr? : Json → Option (List Json)
  | arr items => some items
  | _ => none

/-- `isinstance(d, dict)`, with the fields. -/
def obj? : Json → Option (List (String × Json))
  | obj fields => some fields
  | _ => none

/-- `isinstance(d, bool)`, with the value. -/
def bool? : Json → Option Bool
  | bool b => some b
  | _ => none

/-- `isinstance(d, int) and not isinstance(d, bool)`, with the value. -/
def int? : Json → Option ℤ
  | int n => some n
  | _ => none

/-- `isinstance(d, (int, float)) and not isinstance(d, bool)`, with the value. -/
def real? : Json → Option ℚ
  | int n => some n
  | float x => some x.value
  | _ => none

/-- The value of a number, a truth value counting as `0` or `1`. -/
def number? : Json → Option ℚ
  | bool b => some (if b then 1 else 0)
  | int n => some n
  | float x => some x.value
  | _ => none

/-- `bool(d)`. -/
def truthy : Json → Bool
  | null => false
  | bool b => b
  | int n => n != 0
  | float x => x.value != 0
  | str s => s != ""
  | arr items => !items.isEmpty
  | obj fields => !fields.isEmpty

theorem obj?_eq_some {d : Json} {fields : List (String × Json)} :
    d.obj? = some fields ↔ d = obj fields := by
  cases d <;> simp [obj?]

theorem str?_eq_some {d : Json} {s : String} : d.str? = some s ↔ d = str s := by
  cases d <;> simp [str?]

theorem arr?_eq_some {d : Json} {items : List Json} : d.arr? = some items ↔ d = arr items := by
  cases d <;> simp [arr?]

theorem bool?_eq_some {d : Json} {b : Bool} : d.bool? = some b ↔ d = bool b := by
  cases d <;> simp [bool?]

theorem int?_eq_some {d : Json} {n : ℤ} : d.int? = some n ↔ d = int n := by
  cases d <;> simp [int?]

theorem isObj_iff {d : Json} : d.isObj = true ↔ ∃ fields, d = obj fields := by
  cases d <;> simp [isObj]

/-! ### Equality -/

mutual

/-- Equality of documents, as a test. -/
def eqb : Json → Json → Bool
  | null, null => true
  | bool a, bool b => a == b
  | int a, int b => a == b
  | float a, float b => a == b
  | str a, str b => a == b
  | arr xs, arr ys => eqbItems xs ys
  | obj xs, obj ys => eqbFields xs ys
  | _, _ => false

/-- Equality of lists of items, as a test. -/
def eqbItems : List Json → List Json → Bool
  | [], [] => true
  | x :: xs, y :: ys => eqb x y && eqbItems xs ys
  | _, _ => false

/-- Equality of lists of fields, as a test. -/
def eqbFields : List (String × Json) → List (String × Json) → Bool
  | [], [] => true
  | (k, x) :: xs, (k', y) :: ys => k == k' && eqb x y && eqbFields xs ys
  | _, _ => false

end

mutual

theorem eqb_iff : ∀ a b : Json, eqb a b = true ↔ a = b
  | null, b => by cases b <;> simp [eqb]
  | bool x, b => by cases b <;> simp [eqb]
  | int x, b => by cases b <;> simp [eqb]
  | float x, b => by cases b <;> simp [eqb, Subtype.ext_iff]
  | str x, b => by cases b <;> simp [eqb]
  | arr xs, b => by cases b <;> simp [eqb, eqbItems_iff xs]
  | obj xs, b => by cases b <;> simp [eqb, eqbFields_iff xs]

theorem eqbItems_iff : ∀ xs ys : List Json, eqbItems xs ys = true ↔ xs = ys
  | [], ys => by cases ys <;> simp [eqbItems]
  | x :: xs, ys => by
    cases ys with
    | nil => simp [eqbItems]
    | cons y ys => simp [eqbItems, eqb_iff x y, eqbItems_iff xs ys]

theorem eqbFields_iff : ∀ xs ys : List (String × Json), eqbFields xs ys = true ↔ xs = ys
  | [], ys => by cases ys <;> simp [eqbFields]
  | (k, x) :: xs, ys => by
    cases ys with
    | nil => simp [eqbFields]
    | cons e ys =>
      obtain ⟨k', y⟩ := e
      simp [eqbFields, eqb_iff x y, eqbFields_iff xs ys, and_assoc]

end

instance : DecidableEq Json := fun a b => decidable_of_iff (eqb a b = true) (eqb_iff a b)

mutual

/-- `a == b` in a language where numbers and truth values compare by value. -/
def pyEq : Json → Json → Bool
  | str a, str b => a == b
  | arr xs, arr ys => pyEqItems xs ys
  | obj xs, obj ys => pyEqFields xs ys
  | null, null => true
  | a, b => a.number?.isSome && a.number? == b.number?

/-- Two lists compare item by item. -/
def pyEqItems : List Json → List Json → Bool
  | [], [] => true
  | x :: xs, y :: ys => pyEq x y && pyEqItems xs ys
  | _, _ => false

/-- Two objects compare field by field, their fields being in order. -/
def pyEqFields : List (String × Json) → List (String × Json) → Bool
  | [], [] => true
  | (k, x) :: xs, (k', y) :: ys => k == k' && pyEq x y && pyEqFields xs ys
  | _, _ => false

end

mutual

@[simp] theorem pyEq_refl : ∀ a : Json, pyEq a a = true
  | null => by simp [pyEq]
  | bool b => by simp [pyEq, number?]
  | int n => by simp [pyEq, number?]
  | float x => by simp [pyEq, number?]
  | str s => by simp [pyEq]
  | arr xs => by rw [pyEq, pyEqItems_refl xs]
  | obj xs => by rw [pyEq, pyEqFields_refl xs]

theorem pyEqItems_refl : ∀ xs : List Json, pyEqItems xs xs = true
  | [] => rfl
  | x :: xs => by rw [pyEqItems, pyEq_refl x, pyEqItems_refl xs]; rfl

theorem pyEqFields_refl : ∀ xs : List (String × Json), pyEqFields xs xs = true
  | [] => rfl
  | (k, x) :: xs => by rw [pyEqFields, pyEq_refl x, pyEqFields_refl xs]; simp

end

/-- Only the same text compares equal to a text. -/
theorem pyEq_str_iff {a : Json} {s : String} : a.pyEq (str s) = true ↔ a = str s := by
  cases a <;> simp [pyEq, number?]

/-- Only the same text compares equal to a text, the text on the left. -/
theorem str_pyEq_iff {a : Json} {s : String} : (str s).pyEq a = true ↔ a = str s := by
  cases a with
  | str t => simpa [pyEq] using eq_comm
  | _ => simp [pyEq, number?]

/-- `d.get(name) == v`. -/
def fieldEq (d : Json) (name : String) (v : Json) : Bool := (d.field name).pyEq v

theorem fieldEq_str_iff {d : Json} {name s : String} :
    d.fieldEq name (str s) = true ↔ d.field name = str s :=
  pyEq_str_iff

/-- Fields that compare equal have the same names. -/
theorem keys_eq_of_pyEqFields : ∀ {xs ys : List (String × Json)}, pyEqFields xs ys = true →
    xs.map Prod.fst = ys.map Prod.fst
  | [], [], _ => rfl
  | [], _ :: _, h => by simp [pyEqFields] at h
  | _ :: _, [], h => by simp [pyEqFields] at h
  | (k, x) :: xs, (k', y) :: ys, h => by
    simp only [pyEqFields, Bool.and_eq_true, beq_iff_eq] at h
    rw [List.map_cons, List.map_cons, h.1.1, keys_eq_of_pyEqFields h.2]

/-- Fields that compare equal hold values that do, under the same names. -/
theorem get?_of_pyEqFields {xs ys : List (String × Json)} (h : pyEqFields xs ys = true)
    (name : String) :
    (∃ x y, Entries.get? name xs = some x ∧ Entries.get? name ys = some y ∧ x.pyEq y = true) ∨
      (Entries.get? name xs = none ∧ Entries.get? name ys = none) := by
  induction xs generalizing ys with
  | nil =>
    cases ys with
    | nil => exact .inr ⟨rfl, rfl⟩
    | cons e ys => simp [pyEqFields] at h
  | cons e xs ih =>
    obtain ⟨k, x⟩ := e
    cases ys with
    | nil => simp [pyEqFields] at h
    | cons e' ys =>
      obtain ⟨k', y⟩ := e'
      simp only [pyEqFields, Bool.and_eq_true, beq_iff_eq] at h
      obtain ⟨⟨rfl, hxy⟩, hrest⟩ := h
      rw [Entries.get?_cons, Entries.get?_cons]
      by_cases hk : k = name
      · exact .inl ⟨x, y, if_pos hk, if_pos hk, hxy⟩
      · rw [if_neg hk, if_neg hk]
        exact ih hrest

/-- Documents that compare equal have members that do. -/
theorem pyEq_field {a b : Json} (h : a.pyEq b = true) (name : String) :
    (a.field name).pyEq (b.field name) = true := by
  have hnull : ∀ {a b : Json}, a.get? name = none → b.get? name = none →
      (a.field name).pyEq (b.field name) = true := fun ha hb => by
    rw [field, field, ha, hb]
    rfl
  cases a with
  | obj xs =>
    cases b with
    | obj ys =>
      rw [pyEq] at h
      rcases get?_of_pyEqFields h name with ⟨x, y, hx, hy, hxy⟩ | ⟨hx, hy⟩
      · rw [field, field, show (obj xs).get? name = some x from hx,
          show (obj ys).get? name = some y from hy]
        exact hxy
      · exact hnull hx hy
    | _ => simp [pyEq, number?] at h
  | _ =>
    cases b with
    | obj ys => simp [pyEq, number?] at h
    | _ => exact hnull rfl rfl

/-! ### Normal form -/

mutual

/-- The fields of every object are in the order of their names, each name
once. -/
def ordered : Json → Bool
  | arr items => orderedItems items
  | obj fields => decide (Entries.Sorted fields) && orderedFields fields
  | _ => true

/-- Every item is in normal form. -/
def orderedItems : List Json → Bool
  | [] => true
  | x :: xs => ordered x && orderedItems xs

/-- Every field is in normal form. -/
def orderedFields : List (String × Json) → Bool
  | [] => true
  | (_, x) :: xs => ordered x && orderedFields xs

end

theorem orderedItems_iff {items : List Json} :
    orderedItems items = true ↔ ∀ x ∈ items, x.ordered = true := by
  induction items with
  | nil => simp [orderedItems]
  | cons x xs ih => simp [orderedItems, ih]

theorem orderedFields_iff {fields : List (String × Json)} :
    orderedFields fields = true ↔ ∀ e ∈ fields, e.2.ordered = true := by
  induction fields with
  | nil => simp [orderedFields]
  | cons e xs ih =>
    obtain ⟨k, x⟩ := e
    simp only [orderedFields, Bool.and_eq_true, ih, List.mem_cons, forall_eq_or_imp]

/-- An object is in normal form when its names are in order and its members are
in normal form. -/
theorem ordered_obj {fields : List (String × Json)} :
    (obj fields).ordered = true ↔
      Entries.Sorted fields ∧ ∀ e ∈ fields, e.2.ordered = true := by
  rw [ordered, Bool.and_eq_true, decide_eq_true_eq, orderedFields_iff]

theorem ordered_arr {items : List Json} :
    (arr items).ordered = true ↔ ∀ x ∈ items, x.ordered = true := by
  rw [ordered, orderedItems_iff]

/-- A member is one text. -/
theorem field_str_inj {d : Json} {name a b : String} (ha : d.field name = str a)
    (hb : d.field name = str b) : a = b :=
  Json.str.inj (ha.symm.trans hb)

/-- The members of a document in normal form are in normal form. -/
theorem ordered_get? {d v : Json} {name : String} (hd : d.ordered = true)
    (h : d.get? name = some v) : v.ordered = true := by
  cases d with
  | obj fields => exact (ordered_obj.mp hd).2 _ (Entries.mem_of_get? h)
  | _ => cases h

theorem ordered_field {d : Json} (hd : d.ordered = true) (name : String) :
    (d.field name).ordered = true := by
  rw [field]
  cases hv : d.get? name with
  | none => rfl
  | some v => exact ordered_get? hd hv

theorem ordered_erase {d : Json} (hd : d.ordered = true) (name : String) :
    (d.erase name).ordered = true := by
  cases d with
  | obj fields =>
    obtain ⟨hs, hv⟩ := ordered_obj.mp hd
    exact ordered_obj.mpr ⟨Entries.sorted_filter hs _, fun e he => hv e (List.mem_filter.mp he).1⟩
  | _ => exact hd

/-- Dropping a member leaves the others. -/
theorem field_erase_of_ne {name other : String} (h : other ≠ name) (d : Json) :
    (d.erase name).field other = d.field other := by
  cases d with
  | obj fields => exact congrArg (Option.getD · null) (Entries.get?_erase_of_ne h fields)
  | _ => rfl

end Json
