import Mathlib.Data.List.Nodup
import PrinterHmi.Lib.Json

/-!
# JSON Schema

A schema is a set of keywords, and a document conforms to it if it conforms to each. A
keyword asserts something of the documents of one kind, and holds of all others: a pattern is
about texts, a list of required members about objects. The keywords here are those with which
one describes closed objects: their members and which of them are required, the kinds of
values, constants, patterns and bounds, and alternatives of which exactly one holds.

What a schema calls a format – a date, a UUID – is for a validator to check or to ignore, so
`Schema.conforms` takes the check as an argument.

The rules are those for the two shapes that descriptions of messages have: an object that
has exactly these members (`Schema.conforms_record`), and alternatives told apart by one
member that each of them fixes (`Schema.conforms_oneOf`).
-/

/-! ### Patterns -/

/-- A stretch of a text: between `least` and `most` characters, each in one of the ranges. -/
structure Stretch where
  ranges : List (Char × Char)
  least : ℕ
  most : ℕ

namespace Stretch

/-- The character is in one of the ranges. -/
def inRanges (ranges : List (Char × Char)) (c : Char) : Bool :=
  ranges.any fun range => decide (range.1 ≤ c) && decide (c ≤ range.2)

/-- One character. -/
def single (c : Char) : Stretch := ⟨[(c, c)], 1, 1⟩

/-- An anchored pattern, `^…$`: the text consists of these stretches, one after the other. -/
def fullmatch : List Stretch → List Char → Bool
  | [], t => t.isEmpty
  | s :: rest, t => (List.range (s.most + 1)).any fun n =>
      decide (s.least ≤ n) && decide (n ≤ t.length) && (t.take n).all (inRanges s.ranges) &&
        fullmatch rest (t.drop n)

/-- The characters of some ranges. -/
def charsOf (ranges : List (Char × Char)) : List Char :=
  ranges.flatMap fun range =>
    (List.range' range.1.toNat (range.2.toNat + 1 - range.1.toNat)).map Char.ofNat

theorem mem_charsOf {ranges : List (Char × Char)} {c : Char} (h : inRanges ranges c = true) :
    c ∈ charsOf ranges := by
  obtain ⟨range, hrange, hc⟩ := List.any_eq_true.mp h
  rw [Bool.and_eq_true, decide_eq_true_eq, decide_eq_true_eq] at hc
  have hlow : range.1.toNat ≤ c.toNat := hc.1
  have hhigh : c.toNat ≤ range.2.toNat := hc.2
  refine List.mem_flatMap.mpr ⟨range, hrange, List.mem_map.mpr ⟨c.toNat, ?_, Char.ofNat_toNat c⟩⟩
  exact List.mem_range'_1.mpr ⟨hlow, by omega⟩

/-- **A class of characters in two spellings**: by its ranges, and by a list. -/
theorem inRanges_iff_mem {ranges : List (Char × Char)} {alphabet : List Char}
    (hsub : ∀ c ∈ charsOf ranges, c ∈ alphabet) (hsup : ∀ c ∈ alphabet, inRanges ranges c = true)
    (c : Char) : inRanges ranges c = true ↔ c ∈ alphabet :=
  ⟨fun h => hsub c (mem_charsOf h), hsup c⟩

/-- **A text splits into a stretch of a fixed length and the rest.** -/
theorem fullmatch_exact {ranges : List (Char × Char)} {n : ℕ} {rest : List Stretch}
    {t : List Char} : fullmatch (⟨ranges, n, n⟩ :: rest) t = true ↔
      n ≤ t.length ∧ (∀ c ∈ t.take n, inRanges ranges c = true) ∧
        fullmatch rest (t.drop n) = true := by
  simp only [fullmatch, List.any_eq_true, List.mem_range, Bool.and_eq_true, decide_eq_true_eq,
    List.all_eq_true]
  constructor
  · rintro ⟨m, hm, ⟨⟨hle, hlen⟩, hall⟩, hrest⟩
    obtain rfl : m = n := by omega
    exact ⟨hlen, hall, hrest⟩
  · rintro ⟨hlen, hall, hrest⟩
    exact ⟨n, by omega, ⟨⟨le_rfl, hlen⟩, hall⟩, hrest⟩

/-- **A text that is one stretch.** -/
theorem fullmatch_one {ranges : List (Char × Char)} {least most : ℕ} {t : List Char} :
    fullmatch [⟨ranges, least, most⟩] t = true ↔
      least ≤ t.length ∧ t.length ≤ most ∧ ∀ c ∈ t, inRanges ranges c = true := by
  simp only [fullmatch, List.any_eq_true, List.mem_range, Bool.and_eq_true, decide_eq_true_eq,
    List.all_eq_true, List.isEmpty_iff, List.drop_eq_nil_iff]
  constructor
  · rintro ⟨n, hn, ⟨⟨hle, hlen⟩, hall⟩, hrest⟩
    obtain rfl : n = t.length := by omega
    rw [List.take_length] at hall
    exact ⟨hle, by omega, hall⟩
  · rintro ⟨hle, hmost, hall⟩
    refine ⟨t.length, by omega, ⟨⟨hle, le_rfl⟩, ?_⟩, le_rfl⟩
    rw [List.take_length]
    exact hall

/-- **A text that starts with a character.** -/
theorem fullmatch_single {c : Char} {rest : List Stretch} {t : List Char} :
    fullmatch (single c :: rest) t = true ↔ ∃ t', t = c :: t' ∧ fullmatch rest t' = true := by
  rw [single, fullmatch_exact]
  cases t with
  | nil => simp
  | cons a t =>
    have hone : inRanges [(c, c)] a = true ↔ a = c := by
      simpa [inRanges] using ⟨fun h => le_antisymm h.2 h.1, fun h => ⟨h.ge, h.le⟩⟩
    simp [hone, and_comm]

/-- **A text that starts with a character or without it.** -/
theorem fullmatch_optional {c : Char} {rest : List Stretch} {t : List Char} :
    fullmatch (⟨[(c, c)], 0, 1⟩ :: rest) t = true ↔
      fullmatch rest t = true ∨ fullmatch (single c :: rest) t = true := by
  rw [single, fullmatch_exact]
  simp [fullmatch, List.range_succ, and_assoc]

/-- The classes of the characters, one after the other, where every stretch has a fixed length. -/
def classes (stretches : List Stretch) : List (List (Char × Char)) :=
  stretches.flatMap fun s => List.replicate s.most s.ranges

/-- Every character is in its class. -/
def Each (cs : List (List (Char × Char))) (t : List Char) : Prop :=
  t.length = cs.length ∧
    ∀ (i : ℕ) (c : Char) (ranges : List (Char × Char)), t[i]? = some c → cs[i]? = some ranges →
      inRanges ranges c = true

theorem each_replicate_append {ranges : List (Char × Char)} {n : ℕ} {cs : List (List (Char × Char))}
    {t : List Char} : Each (List.replicate n ranges ++ cs) t ↔
      n ≤ t.length ∧ (∀ c ∈ t.take n, inRanges ranges c = true) ∧ Each cs (t.drop n) := by
  simp only [Each, List.length_append, List.length_replicate, List.length_drop, List.getElem?_drop]
  constructor
  · rintro ⟨hlen, hall⟩
    refine ⟨by omega, fun c hc => ?_, by omega, fun i c r hc hr => hall (n + i) c r hc ?_⟩
    · obtain ⟨i, hi⟩ := List.mem_iff_getElem?.mp hc
      rw [List.getElem?_take] at hi
      split_ifs at hi with hin
      exact hall i c ranges hi (by simp [List.getElem?_append, hin])
    · simpa [List.getElem?_append] using hr
  · rintro ⟨hle, htake, hlen, hall⟩
    refine ⟨by omega, fun i c r hc hr => ?_⟩
    by_cases hin : i < n
    · obtain rfl : ranges = r := by
        simpa [List.getElem?_append, List.getElem?_replicate, hin] using hr
      exact htake c (List.mem_iff_getElem?.mpr ⟨i, by rw [List.getElem?_take, if_pos hin, hc]⟩)
    · obtain ⟨j, rfl⟩ := Nat.exists_eq_add_of_le (not_lt.mp hin)
      exact hall j c r hc (by simpa [List.getElem?_append] using hr)

/-- **A text of fixed stretches** is one whose characters are each in their class. -/
theorem fullmatch_iff_each {stretches : List Stretch}
    (hfixed : ∀ s ∈ stretches, s.least = s.most) {t : List Char} :
    fullmatch stretches t = true ↔ Each (classes stretches) t := by
  induction stretches generalizing t with
  | nil => simp [fullmatch, classes, Each]
  | cons s rest ih =>
    obtain ⟨ranges, least, most⟩ := s
    obtain rfl : least = most := hfixed _ List.mem_cons_self
    rw [fullmatch_exact, ih fun s hs => hfixed s (List.mem_cons_of_mem _ hs)]
    exact each_replicate_append.symm

/-- A character in a class that has been narrowed. -/
theorem each_set {cs : List (List (Char × Char))} {t : List Char} {i : ℕ}
    {ranges wide : List (Char × Char)} (hwide : cs[i]? = some wide)
    (hsub : ∀ c, inRanges ranges c = true → inRanges wide c = true) :
    Each (cs.set i ranges) t ↔ Each cs t ∧ ∀ c, t[i]? = some c → inRanges ranges c = true := by
  have hi : i < cs.length := (List.getElem?_eq_some_iff.mp hwide).1
  simp only [Each, List.length_set, List.getElem?_set]
  constructor
  · rintro ⟨hlen, hall⟩
    have hat (c : Char) (hc : t[i]? = some c) : inRanges ranges c = true :=
      hall i c ranges hc (by simp [hi])
    refine ⟨⟨hlen, fun j c r hc hr => ?_⟩, hat⟩
    by_cases hj : i = j
    · subst hj
      obtain rfl : wide = r := Option.some.inj (hwide.symm.trans hr)
      exact hsub c (hat c hc)
    · exact hall j c r hc (by rw [if_neg hj, hr])
  · rintro ⟨⟨hlen, hall⟩, hat⟩
    refine ⟨hlen, fun j c r hc hr => ?_⟩
    by_cases hj : i = j
    · subst hj
      obtain rfl : ranges = r := by simpa [hi] using hr
      exact hat c hc
    · rw [if_neg hj] at hr
      exact hall j c r hc hr

end Stretch

/-! ### Schemas -/

/-- The kinds of values. -/
inductive Kind : Type where
  | null
  | boolean
  | integer
  | number
  | string
  | array
  | object
  deriving DecidableEq

/-- The value is of a kind. A number without a fractional part is an integer, however it is
written. -/
def Kind.holds : Kind → Json → Bool
  | .null, .null | .boolean, .bool _ | .integer, .int _ | .number, .int _ | .number, .float _
  | .string, .str _ | .array, .arr _ | .object, .obj _ => true
  | .integer, .float x => decide (x.value.den = 1)
  | _, _ => false

namespace Json

mutual

/-- Two values are the same to a schema: numbers by their values, and a truth value is no
number. -/
def same : Json → Json → Bool
  | str a, str b => a == b
  | arr xs, arr ys => sameItems xs ys
  | obj xs, obj ys => sameFields xs ys
  | null, null => true
  | bool a, bool b => a == b
  | a, b => a.real?.isSome && a.real? == b.real?

/-- Two lists are the same item by item. -/
def sameItems : List Json → List Json → Bool
  | [], [] => true
  | x :: xs, y :: ys => same x y && sameItems xs ys
  | _, _ => false

/-- Two objects are the same field by field, their fields being in order. -/
def sameFields : List (String × Json) → List (String × Json) → Bool
  | [], [] => true
  | (k, x) :: xs, (k', y) :: ys => k == k' && same x y && sameFields xs ys
  | _, _ => false

end

theorem same_str {s : String} {d : Json} : (str s).same d = true ↔ d = str s := by
  cases d with
  | str t => simpa [same] using eq_comm
  | _ => simp [same, real?]

theorem same_int {n : ℤ} {d : Json} : (int n).same d = true ↔ d.real? = some (n : ℚ) := by
  cases d with
  | int m => simpa [same, real?] using eq_comm
  | float x => simpa [same, real?] using eq_comm
  | _ => simp [same, real?]

/-- A name of an object is one of its members. -/
theorem exists_get?_of_mem_names {d : Json} {name : String} (h : name ∈ d.names) :
    ∃ v, d.get? name = some v := by
  cases d with
  | obj fields =>
    change ∃ v, Entries.get? name fields = some v
    change name ∈ fields.map Prod.fst at h
    induction fields with
    | nil => cases h
    | cons e fields ih =>
      rw [Entries.get?_cons]
      by_cases he : e.1 = name
      · exact ⟨e.2, if_pos he⟩
      · rw [if_neg he]
        exact ih ((List.mem_cons.mp h).resolve_left (Ne.symm he))
  | _ => cases h

end Json

/-- **A schema**, by its keywords. -/
inductive Schema : Type where
  /-- `type`: the value is of one of these kinds. -/
  | kinds (kinds : List Kind)
  /-- `const`. -/
  | const (value : Json)
  /-- `enum`. -/
  | enum (values : List Json)
  /-- `pattern`, of a text. -/
  | pattern (stretches : List Stretch)
  /-- `format`, of a text. -/
  | format (name : String)
  /-- `minLength`, of a text. -/
  | minLength (n : ℕ)
  /-- `minimum`, of a number. -/
  | minimum (n : ℤ)
  /-- `required`, of an object. -/
  | required (names : List String)
  /-- `properties`, of an object, with `additionalProperties`. -/
  | properties (members : List (String × Schema)) (additional : Bool)
  /-- `items`, of an array. -/
  | items (item : Schema)
  /-- Several keywords. -/
  | all (keywords : List Schema)
  /-- `oneOf`: exactly one of these. -/
  | oneOf (alternatives : List Schema)

namespace Schema

section Conforms

variable (formats : String → String → Bool)

mutual

/-- **A document conforms to a schema.** -/
def conforms : Schema → Json → Bool
  | kinds ks, d => ks.any (·.holds d)
  | const v, d => v.same d
  | enum vs, d => vs.any (·.same d)
  | pattern stretches, d => d.str?.all fun s => Stretch.fullmatch stretches s.toList
  | format name, d => d.str?.all (formats name)
  | minLength n, d => d.str?.all fun s => decide (n ≤ s.length)
  | minimum n, d => d.real?.all fun x => decide ((n : ℚ) ≤ x)
  | required names, d => !d.isObj || names.all (· ∈ d.names)
  | properties members additional, d => !d.isObj ||
      conformsMembers members d && (additional || d.names.all (· ∈ members.map Prod.fst))
  | items item, d => d.arr?.all fun values => values.all (conforms item)
  | all keywords, d => conformsAll keywords d
  | oneOf alternatives, d => conformsCount alternatives d == 1

/-- A document conforms to every one of some schemas. -/
def conformsAll : List Schema → Json → Bool
  | [], _ => true
  | s :: rest, d => conforms s d && conformsAll rest d

/-- To how many of some schemas a document conforms. -/
def conformsCount : List Schema → Json → ℕ
  | [], _ => 0
  | s :: rest, d => (if conforms s d then 1 else 0) + conformsCount rest d

/-- The members of an object, where it has them, conform to their schemas. -/
def conformsMembers : List (String × Schema) → Json → Bool
  | [], _ => true
  | (name, s) :: rest, d => (d.get? name).all (conforms s) && conformsMembers rest d

end

variable {formats} {d : Json}

theorem conforms_all {keywords : List Schema} : (all keywords).conforms formats d = true ↔
    ∀ s ∈ keywords, s.conforms formats d = true := by
  rw [conforms]
  induction keywords with
  | nil => simp [conformsAll]
  | cons s rest ih => rw [conformsAll, Bool.and_eq_true, ih, List.forall_mem_cons]

theorem conformsCount_eq (alternatives : List Schema) :
    conformsCount formats alternatives d = alternatives.countP (·.conforms formats d) := by
  induction alternatives with
  | nil => rfl
  | cons s rest ih => rw [conformsCount, ih, List.countP_cons, Nat.add_comm]

theorem conformsMembers_iff {members : List (String × Schema)} :
    conformsMembers formats members d = true ↔
      ∀ m ∈ members, ∀ v, d.get? m.1 = some v → m.2.conforms formats v = true := by
  induction members with
  | nil => simp [conformsMembers]
  | cons m rest ih =>
    rw [conformsMembers, Bool.and_eq_true, ih, List.forall_mem_cons, Option.all_eq_true]

/-! ### Objects -/

/-- A closed object: `"type": "object", "additionalProperties": false`. -/
def closed (names : List String) (members : List (String × Schema)) : Schema :=
  all [kinds [.object], properties members false, required names]

/-- A closed object, all of whose members are required. -/
def record (members : List (String × Schema)) : Schema := closed (members.map Prod.fst) members

/-- A text that satisfies some keywords. -/
def text (keywords : List Schema) : Schema := all (kinds [.string] :: keywords)

/-- **What conforms to a closed object.** -/
theorem conforms_closed {names : List String} {members : List (String × Schema)} :
    (closed names members).conforms formats d = true ↔
      d.isObj = true ∧ (∀ name ∈ d.names, name ∈ members.map Prod.fst) ∧
        (∀ name ∈ names, name ∈ d.names) ∧
        ∀ m ∈ members, ∀ v, d.get? m.1 = some v → m.2.conforms formats v = true := by
  have hkind : (kinds [.object]).conforms formats d = true ↔ d.isObj = true := by
    cases d <;> simp [conforms, Kind.holds, Json.isObj]
  rw [closed, conforms_all, List.forall_mem_cons, List.forall_mem_cons, List.forall_mem_singleton,
    hkind]
  refine and_congr_right fun hobj => ?_
  simp only [conforms, hobj, Bool.not_true, Bool.false_or, Bool.and_eq_true, conformsMembers_iff,
    List.all_eq_true, decide_eq_true_eq]
  constructor
  · rintro ⟨⟨hmembers, hnames⟩, hrequired⟩
    exact ⟨hnames, hrequired, hmembers⟩
  · rintro ⟨hnames, hrequired, hmembers⟩
    exact ⟨⟨hmembers, hnames⟩, hrequired⟩

/-- **What conforms to a closed object whose members are all required**: it has exactly these
fields, and each conforms. -/
theorem conforms_record {members : List (String × Schema)} :
    (record members).conforms formats d = true ↔
      d.hasFields (members.map Prod.fst) = true ∧
        ∀ m ∈ members, m.2.conforms formats (d.field m.1) = true := by
  rw [record, conforms_closed, Json.hasFields]
  simp only [Bool.and_eq_true, List.all_eq_true, decide_eq_true_eq, and_assoc]
  refine and_congr_right fun _ => and_congr_right fun _ => and_congr_right fun hrequired => ?_
  refine forall₂_congr fun m hm => ?_
  obtain ⟨v, hv⟩ := Json.exists_get?_of_mem_names (hrequired m.1 (List.mem_map_of_mem hm))
  rw [Json.field, hv]
  exact ⟨fun h => h v rfl, fun h v' hv' => Option.some.inj hv' ▸ h⟩

/-- **What conforms to a text.** -/
theorem conforms_text {keywords : List Schema} : (text keywords).conforms formats d = true ↔
    ∃ s, d = .str s ∧ ∀ k ∈ keywords, k.conforms formats (.str s) = true := by
  have hkind : (kinds [.string]).conforms formats d = true ↔ ∃ s, d = .str s := by
    cases d <;> simp [conforms, Kind.holds]
  rw [text, conforms_all, List.forall_mem_cons, hkind]
  constructor
  · rintro ⟨⟨s, rfl⟩, hall⟩
    exact ⟨s, rfl, hall⟩
  · rintro ⟨s, rfl, hall⟩
    exact ⟨⟨s, rfl⟩, hall⟩

/-! ### Alternatives -/

/-- **Alternatives are told apart by a member**: each fixes it, and to a text of its own. -/
structure Discriminated (formats : String → String → Bool) (tag : String)
    (alternatives : List (String × Schema)) : Prop where
  tagged : ∀ a ∈ alternatives, ∀ d, a.2.conforms formats d = true → d.field tag = .str a.1
  nodup : (alternatives.map Prod.fst).Nodup

/-- A document conforms to at most one alternative. -/
theorem Discriminated.countP_le_one {tag : String} {alternatives : List (String × Schema)}
    (h : Discriminated formats tag alternatives) (d : Json) :
    alternatives.countP (fun a => a.2.conforms formats d) ≤ 1 := by
  obtain ⟨htagged, hnodup⟩ := h
  induction alternatives with
  | nil => exact Nat.zero_le 1
  | cons a rest ih =>
    rw [List.map_cons, List.nodup_cons] at hnodup
    have hrest := ih (fun a ha => htagged a (List.mem_cons_of_mem _ ha)) hnodup.2
    rw [List.countP_cons]
    split_ifs with ha
    · -- another alternative would fix the member to the same text
      have hnone : rest.countP (fun a => a.2.conforms formats d) = 0 := by
        refine List.countP_eq_zero.mpr fun b hb hbd => hnodup.1 ?_
        have hfirst := htagged a List.mem_cons_self d ha
        have hsecond := htagged b (List.mem_cons_of_mem _ hb) d hbd
        rw [Json.str.inj (hfirst.symm.trans hsecond)]
        exact List.mem_map_of_mem hb
      rw [hnone]
    · exact hrest

/-- **What conforms to one of the alternatives.** -/
theorem conforms_oneOf {tag : String} {alternatives : List (String × Schema)}
    (h : Discriminated formats tag alternatives) :
    (oneOf (alternatives.map Prod.snd)).conforms formats d = true ↔
      ∃ a ∈ alternatives, a.2.conforms formats d = true := by
  have hle := h.countP_le_one d
  rw [conforms, conformsCount_eq, List.countP_map, beq_iff_eq]
  change alternatives.countP (fun a => a.2.conforms formats d) = 1 ↔ _
  rw [← List.countP_pos_iff (p := fun a : String × Schema => a.2.conforms formats d)]
  omega

/-- **A document with the member of an alternative** conforms to that one or to none. -/
theorem conforms_oneOf_of_tag {tag : String} {alternatives : List (String × Schema)}
    (h : Discriminated formats tag alternatives) {a : String × Schema} (ha : a ∈ alternatives)
    (hd : d.field tag = .str a.1) :
    (oneOf (alternatives.map Prod.snd)).conforms formats d = true ↔
      a.2.conforms formats d = true := by
  rw [conforms_oneOf h]
  constructor
  · rintro ⟨b, hb, hbd⟩
    have htag : b.1 = a.1 := Json.field_str_inj (h.tagged b hb d hbd) hd
    rwa [← List.inj_on_of_nodup_map h.nodup hb ha htag]
  · intro had
    exact ⟨a, ha, had⟩

end Conforms

end Schema
