import Mathlib.Tactic.Common
import PrinterHmi.Lib.Json

/-!
# JSON text

`Json.encode` writes a document compactly, with its fields in order and every
character outside printable ASCII escaped; `Json.loads` reads a JSON text. The
reader takes any amount of white space, any escape and any order of fields, the
last of two fields with one name winning; it refuses what JSON does not have, and
the escapes that name no character (a lone surrogate).

What the rest of a development needs is that the text determines the document:

* `Json.loads_encode`: reading back what was written gives the document, for
  documents in normal form;
* `Json.encode_injective`: hence different documents have different texts;
* `Json.loads_ordered`: what the reader accepts is in normal form;
* `Json.encode_printable`: the text is printable ASCII, so it contains neither a
  line break nor a NUL.

The reader recurses on a fuel, one unit for each value, item or field; the length
of the text is always enough (`Json.size_le_length`).
-/

namespace Json

/-! ### Writing -/

/-- A hexadecimal digit. -/
def hexDigit (n : ℕ) : Char := if n < 10 then Char.ofNat (48 + n) else Char.ofNat (87 + n)

/-- Four hexadecimal digits. -/
def hex4 (n : ℕ) : List Char :=
  [hexDigit (n / 4096 % 16), hexDigit (n / 256 % 16), hexDigit (n / 16 % 16), hexDigit (n % 16)]

/-- An escape by code unit. -/
def unicodeEscape (n : ℕ) : List Char := '\\' :: 'u' :: hex4 n

/-- A character of a string: the quotation mark, the backslash and the controls
with a short escape by that escape, printable ASCII as it is, and everything else
by its UTF-16 code units. -/
def encodeChar (c : Char) : List Char :=
  if c = '"' then ['\\', '"']
  else if c = '\\' then ['\\', '\\']
  else if c = '\n' then ['\\', 'n']
  else if c = '\r' then ['\\', 'r']
  else if c = '\t' then ['\\', 't']
  else if c.toNat = 8 then ['\\', 'b']
  else if c.toNat = 12 then ['\\', 'f']
  else if 32 ≤ c.toNat ∧ c.toNat ≤ 126 then [c]
  else if c.toNat < 65536 then unicodeEscape c.toNat
  else unicodeEscape (55296 + (c.toNat - 65536) / 1024) ++
    unicodeEscape (56320 + (c.toNat - 65536) % 1024)

/-- A string and its closing quotation mark. -/
def encodeChars : List Char → List Char
  | [] => ['"']
  | c :: cs => encodeChar c ++ encodeChars cs

/-- A quoted string. -/
def encodeString (s : String) : List Char := '"' :: encodeChars s.toList

/-- The decimal token of an integer. -/
def intText (n : ℤ) : List Char :=
  if n < 0 then '-' :: Nat.toDigits 10 n.natAbs else Nat.toDigits 10 n.natAbs

mutual

/-- The compact text of a document. -/
def encode : Json → List Char
  | null => ['n', 'u', 'l', 'l']
  | bool true => ['t', 'r', 'u', 'e']
  | bool false => ['f', 'a', 'l', 's', 'e']
  | int n => intText n
  | float x => x.1
  | str s => encodeString s
  | arr [] => ['[', ']']
  | arr (x :: xs) => '[' :: (encode x ++ encodeItems xs)
  | obj [] => ['{', '}']
  | obj ((k, v) :: fs) => '{' :: (encodeString k ++ ':' :: (encode v ++ encodeFields fs))

/-- The items after the first, and the closing bracket. -/
def encodeItems : List Json → List Char
  | [] => [']']
  | x :: xs => ',' :: (encode x ++ encodeItems xs)

/-- The fields after the first, and the closing brace. -/
def encodeFields : List (String × Json) → List Char
  | [] => ['}']
  | (k, v) :: fs => ',' :: (encodeString k ++ ':' :: (encode v ++ encodeFields fs))

end

/-! ### Reading -/

/-- The white space between tokens. -/
def isSpace (c : Char) : Bool := c == ' ' || c == '\t' || c == '\n' || c == '\r'

/-- Drop white space. -/
def skipSpace (t : List Char) : List Char := t.dropWhile isSpace

/-- The value of a hexadecimal digit. -/
def hexValue (c : Char) : Option ℕ :=
  if c.isDigit then some (c.toNat - 48)
  else if 97 ≤ c.toNat ∧ c.toNat ≤ 102 then some (c.toNat - 87)
  else if 65 ≤ c.toNat ∧ c.toNat ≤ 70 then some (c.toNat - 55)
  else none

/-- Four hexadecimal digits. -/
def readHex4 : List Char → Option (ℕ × List Char)
  | a :: b :: c :: d :: t => do
    let a ← hexValue a
    let b ← hexValue b
    let c ← hexValue c
    let d ← hexValue d
    return (4096 * a + 256 * b + 16 * c + d, t)
  | _ => none

/-- What follows `\u`: one code unit, or the two of a surrogate pair. -/
def readUnicode (t : List Char) : Option (Char × List Char) := do
  let (n, t) ← readHex4 t
  if 55296 ≤ n ∧ n < 56320 then
    match t with
    | '\\' :: 'u' :: t => do
      let (m, t) ← readHex4 t
      if 56320 ≤ m ∧ m < 57344 then
        return (Char.ofNat (65536 + (n - 55296) * 1024 + (m - 56320)), t)
      else none
    | _ => none
  else if 56320 ≤ n ∧ n < 57344 then none
  else return (Char.ofNat n, t)

/-- One character of a string. -/
def readChar : List Char → Option (Char × List Char)
  | '\\' :: 'u' :: t => readUnicode t
  | '\\' :: '"' :: t => some ('"', t)
  | '\\' :: '\\' :: t => some ('\\', t)
  | '\\' :: '/' :: t => some ('/', t)
  | '\\' :: 'b' :: t => some (Char.ofNat 8, t)
  | '\\' :: 'f' :: t => some (Char.ofNat 12, t)
  | '\\' :: 'n' :: t => some ('\n', t)
  | '\\' :: 'r' :: t => some ('\r', t)
  | '\\' :: 't' :: t => some ('\t', t)
  | c :: t => if c = '\\' ∨ c = '"' ∨ c.toNat < 32 then none else some (c, t)
  | [] => none

/-- The characters of a string up to its closing quotation mark. -/
def readChars : ℕ → List Char → Option (List Char × List Char)
  | 0, _ => none
  | n + 1, t =>
    match t with
    | '"' :: t => some ([], t)
    | t => do
      let (c, t) ← readChar t
      let (cs, t) ← readChars n t
      return (c :: cs, t)

/-- The rest of a string, its opening quotation mark being read. -/
def readString (t : List Char) : Option (String × List Char) := do
  let (cs, t) ← readChars (t.length + 1) t
  return (String.ofList cs, t)

/-- The characters a number token is made of. -/
def isNumberChar (c : Char) : Bool :=
  c.isDigit || c == '-' || c == '+' || c == '.' || isExponentMark c

/-- The value of an integer token. -/
def intValue : List Char → ℤ
  | '-' :: t => -Nat.ofDigitChars 10 t 0
  | t => Nat.ofDigitChars 10 t 0

/-- A number: the longest run of number characters, if it is a token. -/
def readNumber (t : List Char) : Option (Json × List Char) :=
  let token := t.takeWhile isNumberChar
  if isIntText token then some (int (intValue token), t.dropWhile isNumberChar)
  else if h : isFloatText token = true then some (float ⟨token, h⟩, t.dropWhile isNumberChar)
  else none

mutual

/-- A value. -/
def readValue : ℕ → List Char → Option (Json × List Char)
  | 0, _ => none
  | n + 1, t =>
    match skipSpace t with
    | 'n' :: 'u' :: 'l' :: 'l' :: t => some (null, t)
    | 't' :: 'r' :: 'u' :: 'e' :: t => some (bool true, t)
    | 'f' :: 'a' :: 'l' :: 's' :: 'e' :: t => some (bool false, t)
    | '"' :: t => (readString t).map fun p => (str p.1, p.2)
    | '[' :: t =>
      match skipSpace t with
      | ']' :: t => some (arr [], t)
      | t => (readItems n t).map fun p => (arr p.1, p.2)
    | '{' :: t =>
      match skipSpace t with
      | '}' :: t => some (obj [], t)
      | t => (readFields n [] t).map fun p => (obj p.1, p.2)
    | t => readNumber t

/-- The items of an array, up to its closing bracket. -/
def readItems : ℕ → List Char → Option (List Json × List Char)
  | 0, _ => none
  | n + 1, t => do
    let (x, t) ← readValue n t
    match skipSpace t with
    | ',' :: t => do
      let (xs, t) ← readItems n t
      return (x :: xs, t)
    | ']' :: t => return ([x], t)
    | _ => none

/-- The fields of an object, up to its closing brace, after those already
read. -/
def readFields : ℕ → List (String × Json) → List Char →
    Option (List (String × Json) × List Char)
  | 0, _, _ => none
  | n + 1, fields, t =>
    match skipSpace t with
    | '"' :: t => do
      let (k, t) ← readString t
      match skipSpace t with
      | ':' :: t => do
        let (v, t) ← readValue n t
        match skipSpace t with
        | ',' :: t => readFields n (Entries.insert k v fields) t
        | '}' :: t => return (Entries.insert k v fields, t)
        | _ => none
      | _ => none
    | _ => none

end

/-- `json.loads`: the document of a text. -/
def loads (t : List Char) : Option Json := do
  let (d, t) ← readValue (t.length + 1) t
  if (skipSpace t).isEmpty then return d else none

/-! ### Strings read back -/

theorem hexValue_hexDigit : ∀ n < 16, hexValue (hexDigit n) = some n := by decide

theorem readHex4_hex4 {n : ℕ} (hn : n < 65536) (t : List Char) :
    readHex4 (hex4 n ++ t) = some (n, t) := by
  have h1 := hexValue_hexDigit (n / 4096 % 16) (by omega)
  have h2 := hexValue_hexDigit (n / 256 % 16) (by omega)
  have h3 := hexValue_hexDigit (n / 16 % 16) (by omega)
  have h4 := hexValue_hexDigit (n % 16) (by omega)
  simp only [hex4, List.cons_append, List.nil_append, readHex4, h1, h2, h3, h4]
  simp only [Option.bind_eq_bind, Option.bind_some, pure, Option.some.injEq, Prod.mk.injEq,
    and_true]
  omega

/-- A code unit that is no surrogate reads back as its character. -/
theorem readUnicode_hex4 {n : ℕ} (hn : n < 65536) (hs : ¬(55296 ≤ n ∧ n < 57344))
    (t : List Char) : readUnicode (hex4 n ++ t) = some (Char.ofNat n, t) := by
  rw [readUnicode, readHex4_hex4 hn]
  simp only [Option.bind_eq_bind, Option.bind_some]
  rw [if_neg (by omega), if_neg (by omega)]
  rfl

/-- A surrogate pair reads back as the character it stands for. -/
theorem readUnicode_pair {m : ℕ} (hm : m < 1048576) (t : List Char) :
    readUnicode (hex4 (55296 + m / 1024) ++ (unicodeEscape (56320 + m % 1024) ++ t)) =
      some (Char.ofNat (65536 + m), t) := by
  rw [readUnicode, readHex4_hex4 (by omega)]
  simp only [Option.bind_eq_bind, Option.bind_some, unicodeEscape, List.cons_append]
  rw [if_pos (by omega), readHex4_hex4 (by omega)]
  simp only [Option.bind_some]
  rw [if_pos (by omega)]
  have hval : 65536 + (55296 + m / 1024 - 55296) * 1024 + (56320 + m % 1024 - 56320) =
      65536 + m := by omega
  rw [hval]
  rfl

/-- The characters with a short escape, and the letter of it. -/
def shortEscapes : List (Char × Char) :=
  [('"', '"'), ('\\', '\\'), ('\n', 'n'), ('\r', 'r'), ('\t', 't'), (Char.ofNat 8, 'b'),
    (Char.ofNat 12, 'f')]

/-- The forms an encoded character has. -/
inductive EncodedChar (c : Char) : List Char → Prop
  | short {letter : Char} (hletter : (c, letter) ∈ shortEscapes) : EncodedChar c ['\\', letter]
  | plain (hquote : c ≠ '"') (hslash : c ≠ '\\') (hprintable : 32 ≤ c.toNat ∧ c.toNat ≤ 126) :
    EncodedChar c [c]
  | unit (hunit : c.toNat < 65536) : EncodedChar c (unicodeEscape c.toNat)
  | pair (hpair : 65536 ≤ c.toNat) : EncodedChar c
      (unicodeEscape (55296 + (c.toNat - 65536) / 1024) ++
        unicodeEscape (56320 + (c.toNat - 65536) % 1024))

theorem encodedChar (c : Char) : EncodedChar c (encodeChar c) := by
  have hof : Char.ofNat c.toNat = c := Char.ofNat_toNat c
  rw [encodeChar]
  by_cases h1 : c = '"'
  · rw [if_pos h1]
    exact .short (by simp [shortEscapes, h1])
  by_cases h2 : c = '\\'
  · rw [if_neg h1, if_pos h2]
    exact .short (by simp [shortEscapes, h2])
  by_cases h3 : c = '\n'
  · rw [if_neg h1, if_neg h2, if_pos h3]
    exact .short (by simp [shortEscapes, h3])
  by_cases h4 : c = '\r'
  · rw [if_neg h1, if_neg h2, if_neg h3, if_pos h4]
    exact .short (by simp [shortEscapes, h4])
  by_cases h5 : c = '\t'
  · rw [if_neg h1, if_neg h2, if_neg h3, if_neg h4, if_pos h5]
    exact .short (by simp [shortEscapes, h5])
  rw [if_neg h1, if_neg h2, if_neg h3, if_neg h4, if_neg h5]
  by_cases h6 : c.toNat = 8
  · rw [if_pos h6]
    exact .short (by simp [shortEscapes, hof.symm.trans (congrArg Char.ofNat h6)])
  by_cases h7 : c.toNat = 12
  · rw [if_neg h6, if_pos h7]
    exact .short (by simp [shortEscapes, hof.symm.trans (congrArg Char.ofNat h7)])
  rw [if_neg h6, if_neg h7]
  by_cases h8 : 32 ≤ c.toNat ∧ c.toNat ≤ 126
  · rw [if_pos h8]
    exact .plain h1 h2 h8
  rw [if_neg h8]
  by_cases h9 : c.toNat < 65536
  · rw [if_pos h9]
    exact .unit h9
  · rw [if_neg h9]
    exact .pair (not_lt.mp h9)

/-- A character that needs no escape. -/
theorem readChar_plain {c : Char} (h : ¬(c = '\\' ∨ c = '"' ∨ c.toNat < 32)) (t : List Char) :
    readChar (c :: t) = some (c, t) := by
  rw [readChar.eq_def]
  split
  all_goals first
    | exact absurd (Or.inl (List.cons.inj ‹c :: t = _›).1) h
    | skip
  · next he =>
    obtain ⟨rfl, rfl⟩ := List.cons.inj he
    rw [if_neg h]
  · next he => cases he

/-- A character of a string reads back. -/
theorem readChar_encodeChar (c : Char) (t : List Char) :
    readChar (encodeChar c ++ t) = some (c, t) := by
  have hc : c.toNat < 55296 ∨ (57343 < c.toNat ∧ c.toNat < 1114112) := c.valid
  have hof : Char.ofNat c.toNat = c := Char.ofNat_toNat c
  have hforms := encodedChar c
  generalize encodeChar c = encoded at hforms
  cases hforms with
  | short hletter =>
    simp only [shortEscapes, List.mem_cons, Prod.mk.injEq, List.not_mem_nil, or_false] at hletter
    rcases hletter with ⟨rfl, rfl⟩ | ⟨rfl, rfl⟩ | ⟨rfl, rfl⟩ | ⟨rfl, rfl⟩ | ⟨rfl, rfl⟩ |
      ⟨rfl, rfl⟩ | ⟨rfl, rfl⟩ <;> rfl
  | plain hquote hslash hprintable =>
    refine readChar_plain ?_ t
    rintro (h | h | h)
    · exact hslash h
    · exact hquote h
    · omega
  | unit hunit => exact (readUnicode_hex4 hunit (by omega) t).trans (by rw [hof])
  | pair hpair =>
    have hval : 65536 + (c.toNat - 65536) = c.toNat := by omega
    rw [List.append_assoc]
    exact (readUnicode_pair (by omega) t).trans (by rw [hval, hof])

/-- An encoded character is not the quotation mark that closes a string. -/
theorem encodeChar_eq_cons (c : Char) : ∃ c' t, encodeChar c = c' :: t ∧ c' ≠ '"' := by
  have hforms := encodedChar c
  generalize encodeChar c = encoded at hforms
  cases hforms with
  | short => exact ⟨_, _, rfl, by decide⟩
  | plain hquote => exact ⟨_, _, rfl, hquote⟩
  | unit => exact ⟨_, _, rfl, by decide⟩
  | pair => exact ⟨_, _, rfl, by decide⟩

theorem readChars_encodeChars {cs : List Char} {n : ℕ} (hn : cs.length < n) (t : List Char) :
    readChars n (encodeChars cs ++ t) = some (cs, t) := by
  induction cs generalizing n with
  | nil =>
    obtain ⟨n, rfl⟩ := Nat.exists_eq_succ_of_ne_zero (by omega : n ≠ 0)
    rfl
  | cons c cs ih =>
    obtain ⟨n, rfl⟩ := Nat.exists_eq_succ_of_ne_zero (by omega : n ≠ 0)
    obtain ⟨c', t', he, hne⟩ := encodeChar_eq_cons c
    have hchar := readChar_encodeChar c (encodeChars cs ++ t)
    rw [he] at hchar
    rw [encodeChars, List.append_assoc, he, List.cons_append, readChars.eq_def]
    simp only
    split
    · next hc => exact absurd (List.cons.inj hc).1 hne
    · rw [List.cons_append] at hchar
      rw [hchar]
      simp only [Option.bind_eq_bind, Option.bind_some]
      rw [ih (by simpa using hn)]
      rfl

theorem length_lt_encodeChars (cs : List Char) : cs.length < (encodeChars cs).length := by
  induction cs with
  | nil => simp [encodeChars]
  | cons c cs ih =>
    obtain ⟨c', t, he, -⟩ := encodeChar_eq_cons c
    rw [encodeChars, he, List.cons_append, List.length_cons, List.length_cons, List.length_append]
    omega

/-- **A string reads back.** -/
theorem readString_encodeChars (s : String) (t : List Char) :
    readString (encodeChars s.toList ++ t) = some (s, t) := by
  rw [readString, readChars_encodeChars (by
    have := length_lt_encodeChars s.toList
    rw [List.length_append]
    omega)]
  simp

/-! ### Numbers read back -/

/-- What follows a number is not part of it. -/
def Stops (t : List Char) : Prop := t.takeWhile isNumberChar = []

theorem stops_nil : Stops [] := rfl

theorem stops_cons {c : Char} {t : List Char} (h : isNumberChar c = false) : Stops (c :: t) := by
  rw [Stops, List.takeWhile_cons, h]
  rfl

/-- A token is cut off where the number characters end. -/
theorem readNumber_append {token t : List Char} (h : token.all isNumberChar = true)
    (ht : Stops t) : readNumber (token ++ t) =
      if isIntText token then some (int (intValue token), t)
      else if h : isFloatText token = true then some (float ⟨token, h⟩, t)
      else none := by
  have hall : ∀ c ∈ token, isNumberChar c = true := List.all_eq_true.mp h
  have htake : (token ++ t).takeWhile isNumberChar = token := by
    rw [List.takeWhile_append_of_pos hall, ht, List.append_nil]
  have hdrop : (token ++ t).dropWhile isNumberChar = t := by
    rw [List.dropWhile_append_of_pos hall]
    have := List.takeWhile_append_dropWhile (p := isNumberChar) (l := t)
    rwa [ht] at this
  simp only [readNumber, htake, hdrop]

theorem isDigit_of_mem_toDigits {n : ℕ} {c : Char} (h : c ∈ Nat.toDigits 10 n) :
    c.isDigit = true :=
  Nat.isDigit_of_mem_toDigits (by decide) (by decide) h

/-- The decimal digits of a positive number do not start with a zero. -/
theorem head_toDigits {n : ℕ} (hn : 0 < n) : (Nat.toDigits 10 n).head?.any (· != '0') = true := by
  induction n using Nat.strong_induction_on with
  | _ n ih =>
    rcases Nat.lt_or_ge n 10 with hlt | hge
    · rw [Nat.toDigits_of_lt_base hlt]
      exact (by decide : ∀ n < 10, 0 < n → [n.digitChar].head?.any (· != '0') = true) n hlt hn
    · rw [Nat.toDigits_of_base_le (by decide) hge]
      have hne : Nat.toDigits 10 (n / 10) ≠ [] := Nat.toDigits_ne_nil
      rw [List.head?_append_of_ne_nil _ hne]
      exact ih (n / 10) (by omega) (by omega)

theorem isWholeText_toDigits (n : ℕ) : isWholeText (Nat.toDigits 10 n) = true := by
  rw [isWholeText, Bool.and_eq_true]
  refine ⟨List.all_eq_true.mpr fun c hc => isDigit_of_mem_toDigits hc, ?_⟩
  rcases Nat.eq_zero_or_pos n with rfl | hn
  · decide
  · rw [head_toDigits hn]
    rfl

/-- A digit is not a sign, so a run of digits keeps its first character. -/
theorem dropMinus_of_all_digit {t : List Char} (h : ∀ c ∈ t, c.isDigit = true) :
    dropMinus t = t := by
  unfold dropMinus
  split
  · exact absurd (h '-' List.mem_cons_self) (by decide)
  · rfl

theorem intValue_of_all_digit {t : List Char} (h : ∀ c ∈ t, c.isDigit = true) :
    intValue t = Nat.ofDigitChars 10 t 0 := by
  unfold intValue
  split
  · exact absurd (h '-' List.mem_cons_self) (by decide)
  · rfl

theorem isIntText_intText (n : ℤ) : isIntText (intText n) = true := by
  unfold intText
  split
  · exact isWholeText_toDigits _
  · rw [isIntText, dropMinus_of_all_digit fun c hc => isDigit_of_mem_toDigits hc]
    exact isWholeText_toDigits _

theorem intValue_intText (n : ℤ) : intValue (intText n) = n := by
  have hdig : Nat.ofDigitChars 10 (Nat.toDigits 10 n.natAbs) 0 = n.natAbs :=
    Nat.ofDigitChars_ten_toDigits
  unfold intText
  split
  · next hneg =>
    rw [intValue, hdig]
    omega
  · next hpos =>
    rw [intValue_of_all_digit fun c hc => isDigit_of_mem_toDigits hc, hdig]
    omega

theorem isNumberChar_of_isDigit {c : Char} (h : c.isDigit = true) : isNumberChar c = true := by
  simp [isNumberChar, h]

theorem all_isNumberChar_intText (n : ℤ) : (intText n).all isNumberChar = true := by
  have hall : (Nat.toDigits 10 n.natAbs).all isNumberChar = true :=
    List.all_eq_true.mpr fun c hc => isNumberChar_of_isDigit (isDigit_of_mem_toDigits hc)
  unfold intText
  split
  · rw [List.all_cons, hall]
    rfl
  · exact hall

theorem all_isDigit_of_isWholeText {t : List Char} (h : isWholeText t = true) :
    ∀ c ∈ t, c.isDigit = true := by
  rw [isWholeText, Bool.and_eq_true] at h
  exact List.all_eq_true.mp h.1

theorem all_isDigit_of_isDigits {t : List Char} (h : isDigits t = true) :
    ∀ c ∈ t, c.isDigit = true := by
  rw [isDigits, Bool.and_eq_true] at h
  exact List.all_eq_true.mp h.2

/-- A scan stops at the end, or at what it does not pass over. -/
theorem dropWhile_eq_nil_or (p : Char → Bool) (l : List Char) :
    l.dropWhile p = [] ∨ ∃ c t, l.dropWhile p = c :: t ∧ p c = false := by
  cases hl : l.dropWhile p with
  | nil => exact .inl rfl
  | cons c t =>
    have hne : l.dropWhile p ≠ [] := by
      rw [hl]
      exact List.cons_ne_nil c t
    have hhead := List.head_dropWhile_not p hne
    simp only [hl, List.head_cons] at hhead
    exact .inr ⟨c, t, rfl, hhead⟩

/-- **The anatomy of a float token**: a whole part, then a fraction and an
exponent, at least one of which is there. -/
theorem isFloatText_cases {t : List Char} (h : isFloatText t = true) :
    ∃ whole fraction exponent : List Char, dropMinus t = whole ++ fraction ++ exponent ∧
      isWholeText whole = true ∧
      (fraction = [] ∨ ∃ ds, fraction = '.' :: ds ∧ isDigits ds = true) ∧
      (exponent = [] ∨ ∃ m e, exponent = m :: e ∧ isExponentMark m = true ∧
        isExponentText e = true) ∧
      ¬(fraction = [] ∧ exponent = []) := by
  simp only [isFloatText, Bool.and_eq_true, Bool.or_eq_true, Bool.not_eq_true',
    List.isEmpty_iff] at h
  obtain ⟨⟨⟨hw, hf⟩, he⟩, hne⟩ := h
  -- the exponent begins at the first mark, the fraction at the first dot before it
  set m := (dropMinus t).takeWhile (!isExponentMark ·) with hm
  set e := (dropMinus t).dropWhile (!isExponentMark ·) with hedef
  set w := m.takeWhile (· != '.') with hwdef
  set f := m.dropWhile (· != '.') with hfdef
  refine ⟨w, f, e, ?_, hw, ?_, ?_, ?_⟩
  · rw [hwdef, hfdef, List.takeWhile_append_dropWhile, hm, hedef,
      List.takeWhile_append_dropWhile]
  · rcases hf with hf | hf
    · exact .inl hf
    · rcases dropWhile_eq_nil_or (· != '.') m with hnil | ⟨c, ds, hcons, hc⟩
      · exact .inl hnil
      · obtain rfl : c = '.' := bne_eq_false_iff_eq.mp hc
        exact .inr ⟨ds, hcons, by simpa [hfdef, hcons] using hf⟩
  · rcases he with he | he
    · exact .inl he
    · rcases dropWhile_eq_nil_or (!isExponentMark ·) (dropMinus t) with hnil | ⟨c, ds, hcons, hc⟩
      · exact .inl hnil
      · rw [Bool.not_eq_false'] at hc
        exact .inr ⟨c, ds, hcons, hc, by simpa [hedef, hcons] using he⟩
  · rintro ⟨hf', he'⟩
    simp [hf', he'] at hne

/-- A float token is no integer token: it has a character that is no digit. -/
theorem not_isIntText_of_isFloatText {t : List Char} (h : isFloatText t = true) :
    isIntText t = false := by
  rw [Bool.eq_false_iff]
  intro hint
  have hdig := all_isDigit_of_isWholeText hint
  obtain ⟨w, f, e, ht, -, hf, he, hne⟩ := isFloatText_cases h
  rw [ht] at hdig
  rcases hf with rfl | ⟨ds, rfl, -⟩
  · rcases he with rfl | ⟨m, e', rfl, hm, -⟩
    · exact hne ⟨rfl, rfl⟩
    · have hmd := hdig m (by simp)
      simp only [isExponentMark, Bool.or_eq_true, beq_iff_eq] at hm
      rcases hm with rfl | rfl <;> exact absurd hmd (by decide)
  · exact absurd (hdig '.' (by simp)) (by decide)

theorem isNumberChar_of_mem_exponent {e : List Char} (h : isExponentText e = true) :
    ∀ c ∈ e, isNumberChar c = true := by
  unfold isExponentText at h
  intro c hc
  split at h
  · rcases List.mem_cons.mp hc with rfl | hc
    · rfl
    · exact isNumberChar_of_isDigit (all_isDigit_of_isDigits h c hc)
  · rcases List.mem_cons.mp hc with rfl | hc
    · rfl
    · exact isNumberChar_of_isDigit (all_isDigit_of_isDigits h c hc)
  · exact isNumberChar_of_isDigit (all_isDigit_of_isDigits h c hc)

theorem all_isNumberChar_of_isFloatText {t : List Char} (h : isFloatText t = true) :
    t.all isNumberChar = true := by
  obtain ⟨w, f, e, ht, hw, hf, he, -⟩ := isFloatText_cases h
  have hdrop : ∀ c ∈ dropMinus t, isNumberChar c = true := by
    intro c hc
    rw [ht, List.mem_append, List.mem_append] at hc
    rcases hc with (hc | hc) | hc
    · exact isNumberChar_of_isDigit (all_isDigit_of_isWholeText hw c hc)
    · rcases hf with rfl | ⟨ds, rfl, hds⟩
      · cases hc
      · rcases List.mem_cons.mp hc with rfl | hc
        · rfl
        · exact isNumberChar_of_isDigit (all_isDigit_of_isDigits hds c hc)
    · rcases he with rfl | ⟨m, e', rfl, hm, he'⟩
      · cases hc
      · rcases List.mem_cons.mp hc with rfl | hc
        · simp [isNumberChar, hm]
        · exact isNumberChar_of_mem_exponent he' c hc
  refine List.all_eq_true.mpr fun c hc => ?_
  unfold dropMinus at hdrop
  split at hdrop
  · rcases List.mem_cons.mp hc with rfl | hc
    · rfl
    · exact hdrop c hc
  · exact hdrop c hc

/-- An integer token reads back. -/
theorem readNumber_intText (n : ℤ) {t : List Char} (ht : Stops t) :
    readNumber (intText n ++ t) = some (int n, t) := by
  rw [readNumber_append (all_isNumberChar_intText n) ht, if_pos (isIntText_intText n),
    intValue_intText]

/-- A float token reads back. -/
theorem readNumber_float (x : FloatText) {t : List Char} (ht : Stops t) :
    readNumber (x.1 ++ t) = some (float x, t) := by
  rw [readNumber_append (all_isNumberChar_of_isFloatText x.2) ht,
    not_isIntText_of_isFloatText x.2, if_neg (by decide), dif_pos x.2]

/-! ### Documents read back -/

mutual

/-- The fuel a document takes to read. -/
def size : Json → ℕ
  | arr items => 1 + sizeItems items
  | obj fields => 1 + sizeFields fields
  | _ => 1

/-- The fuel a list of items takes to read. -/
def sizeItems : List Json → ℕ
  | [] => 0
  | x :: xs => 1 + size x + sizeItems xs

/-- The fuel a list of fields takes to read. -/
def sizeFields : List (String × Json) → ℕ
  | [] => 0
  | (_, x) :: xs => 1 + size x + sizeFields xs

end

/-- What a number token starts with. -/
def IsNumberHead (c : Char) : Prop := c.isDigit = true ∨ c = '-'

theorem IsNumberHead.ne {c c' : Char} (h : IsNumberHead c) (hd : c'.isDigit = false)
    (hm : c' ≠ '-') : c ≠ c' := by
  rintro rfl
  rcases h with h | h
  · rw [hd] at h
    cases h
  · exact hm h

theorem IsNumberHead.isSpace {c : Char} (h : IsNumberHead c) : isSpace c = false := by
  simp only [Json.isSpace, Bool.or_eq_false_iff, beq_eq_false_iff_ne]
  exact ⟨⟨⟨h.ne (by decide) (by decide), h.ne (by decide) (by decide)⟩,
    h.ne (by decide) (by decide)⟩, h.ne (by decide) (by decide)⟩

theorem intText_eq_cons (n : ℤ) : ∃ c t, intText n = c :: t ∧ IsNumberHead c := by
  unfold intText
  split
  · exact ⟨_, _, rfl, Or.inr rfl⟩
  · cases ht : Nat.toDigits 10 n.natAbs with
    | nil => exact absurd ht Nat.toDigits_ne_nil
    | cons c t => exact ⟨c, t, rfl, Or.inl (isDigit_of_mem_toDigits (ht ▸ List.mem_cons_self))⟩

theorem floatText_eq_cons (x : FloatText) : ∃ c t, x.1 = c :: t ∧ IsNumberHead c := by
  obtain ⟨w, f, e, ht, hw, -⟩ := isFloatText_cases x.2
  cases hwc : w with
  | nil => rw [hwc] at hw; cases hw
  | cons c w' =>
    have hc : c.isDigit = true := all_isDigit_of_isWholeText hw c (hwc ▸ List.mem_cons_self)
    unfold dropMinus at ht
    split at ht
    · next t' he => exact ⟨_, _, he, Or.inr rfl⟩
    · exact ⟨c, w' ++ f ++ e, by rw [ht, hwc]; rfl, Or.inl hc⟩

/-- The first character of a document: it is neither white space nor a closing
bracket. -/
theorem encode_eq_cons (d : Json) : ∃ c t, encode d = c :: t ∧ isSpace c = false ∧ c ≠ ']' := by
  cases d with
  | null => exact ⟨_, _, rfl, by decide⟩
  | bool b => cases b <;> exact ⟨_, _, rfl, by decide⟩
  | int n =>
    obtain ⟨c, t, he, hc⟩ := intText_eq_cons n
    exact ⟨c, t, he, hc.isSpace, hc.ne (by decide) (by decide)⟩
  | float x =>
    obtain ⟨c, t, he, hc⟩ := floatText_eq_cons x
    exact ⟨c, t, he, hc.isSpace, hc.ne (by decide) (by decide)⟩
  | str s => exact ⟨_, _, rfl, by decide⟩
  | arr items => cases items <;> exact ⟨_, _, rfl, by decide⟩
  | obj fields =>
    cases fields with
    | nil => exact ⟨_, _, rfl, by decide⟩
    | cons e fields =>
      obtain ⟨k, v⟩ := e
      exact ⟨_, _, rfl, by decide⟩

theorem skipSpace_cons {c : Char} (h : isSpace c = false) (t : List Char) :
    skipSpace (c :: t) = c :: t := by
  rw [skipSpace, List.dropWhile_cons, h]
  rfl

theorem skipSpace_encode (d : Json) (t : List Char) :
    skipSpace (encode d ++ t) = encode d ++ t := by
  obtain ⟨c, t', he, hc, -⟩ := encode_eq_cons d
  rw [he, List.cons_append, skipSpace_cons hc]

/-- Text that starts like a number is read as one. -/
theorem readValue_number {c : Char} {t : List Char} (n : ℕ) (hc : IsNumberHead c) :
    readValue (n + 1) (c :: t) = readNumber (c :: t) := by
  rw [readValue, skipSpace_cons hc.isSpace]
  split <;> first
    | exact absurd (List.cons.inj ‹c :: t = _›).1 (hc.ne (by decide) (by decide))
    | rfl

/-- The continuation of an item or of a field stops a number. -/
theorem stops_encodeItems (xs : List Json) (t : List Char) : Stops (encodeItems xs ++ t) := by
  cases xs <;> exact stops_cons (by decide)

theorem stops_encodeFields (fs : List (String × Json)) (t : List Char) :
    Stops (encodeFields fs ++ t) := by
  cases fs with
  | nil => exact stops_cons (by decide)
  | cons e fs => exact stops_cons (by decide)

/-- A field that comes after all others goes to the end. -/
theorem insert_last {k : String} {v : Json} {fs : List (String × Json)}
    (h : ∀ e ∈ fs, e.1 < k) : Entries.insert k v fs = fs ++ [(k, v)] := by
  induction fs with
  | nil => rfl
  | cons e fs ih =>
    have he := h e List.mem_cons_self
    rw [Entries.insert, if_neg (lt_asymm he), if_neg (ne_of_gt he),
      ih fun e' he' => h e' (List.mem_cons_of_mem _ he')]
    rfl

/-- Fields that come in order are put at the end. -/
theorem insert_of_sorted {k : String} {v : Json} {acc fs : List (String × Json)}
    (h : Entries.Sorted (acc ++ (k, v) :: fs)) : Entries.insert k v acc = acc ++ [(k, v)] := by
  refine insert_last fun e he => ?_
  obtain ⟨-, -, hbetween⟩ := List.pairwise_append.mp (List.pairwise_map.mp h)
  exact hbetween e he (k, v) List.mem_cons_self

mutual

/-- **A document reads back**, whatever follows it. -/
theorem readValue_encode : ∀ (d : Json) (n : ℕ) (t : List Char), d.ordered = true →
    size d ≤ n → Stops t → readValue n (encode d ++ t) = some (d, t)
  | d, 0, t, _, hn, _ => by cases d <;> simp [size] at hn
  | null, n + 1, t, _, _, _ => by
    rw [readValue, skipSpace_encode]
    rfl
  | bool b, n + 1, t, _, _, _ => by
    rw [readValue, skipSpace_encode]
    cases b <;> rfl
  | int k, n + 1, t, _, _, ht => by
    obtain ⟨c, t', he, hc⟩ := intText_eq_cons k
    have hread := readNumber_intText k ht
    rw [encode]
    rw [he, List.cons_append] at hread ⊢
    rw [readValue_number n hc, hread]
  | float x, n + 1, t, _, _, ht => by
    obtain ⟨c, t', he, hc⟩ := floatText_eq_cons x
    have hread := readNumber_float x ht
    rw [encode]
    rw [he, List.cons_append] at hread ⊢
    rw [readValue_number n hc, hread]
  | str s, n + 1, t, _, _, _ => by
    rw [readValue, skipSpace_encode]
    simp only [encode, encodeString, List.cons_append, readString_encodeChars, Option.map_some]
  | arr [], n + 1, t, _, _, _ => by
    rw [readValue, skipSpace_encode]
    rfl
  | arr (x :: xs), n + 1, t, hd, hn, _ => by
    -- the first character of an item is not the closing bracket
    obtain ⟨c, t', he, hc, hne⟩ := encode_eq_cons x
    have hread := readItems_encode x xs n t (by simpa [ordered] using hd)
      (by rw [size, sizeItems] at hn; omega)
    rw [readValue, skipSpace_encode]
    rw [he, List.cons_append] at hread
    simp only [encode, he, List.cons_append, List.append_assoc, skipSpace_cons hc]
    split
    · next hb => exact absurd (List.cons.inj hb).1 hne
    · rw [hread]
      rfl
  | obj [], n + 1, t, _, _, _ => by
    rw [readValue, skipSpace_encode]
    rfl
  | obj ((k, v) :: fs), n + 1, t, hd, hn, _ => by
    rw [ordered, Bool.and_eq_true, decide_eq_true_eq] at hd
    have hread := readFields_encode k v fs n [] t hd.2 hd.1
      (by rw [size, sizeFields] at hn; omega)
    rw [readValue, skipSpace_encode]
    simp only [encode, encodeString, List.cons_append, List.append_assoc] at hread ⊢
    rw [skipSpace_cons (by decide)]
    split
    · next hb => exact absurd (List.cons.inj hb).1 (by decide)
    · rw [hread]
      rfl

/-- The items of an array read back. -/
theorem readItems_encode : ∀ (x : Json) (xs : List Json) (n : ℕ) (t : List Char),
    orderedItems (x :: xs) = true → 1 + size x + sizeItems xs ≤ n →
    readItems n (encode x ++ (encodeItems xs ++ t)) = some (x :: xs, t)
  | x, xs, 0, t, _, hn => by omega
  | x, [], n + 1, t, hd, hn => by
    have hx := readValue_encode x n (encodeItems [] ++ t) (by simpa [orderedItems] using hd)
      (by omega) (stops_encodeItems [] t)
    rw [readItems, hx]
    rfl
  | x, y :: ys, n + 1, t, hd, hn => by
    rw [orderedItems, Bool.and_eq_true] at hd
    rw [sizeItems] at hn
    have hx := readValue_encode x n (encodeItems (y :: ys) ++ t) hd.1 (by omega)
      (stops_encodeItems _ t)
    have hy := readItems_encode y ys n t hd.2 (by omega)
    rw [readItems, hx]
    simp only [Option.bind_eq_bind, Option.bind_some, encodeItems, List.cons_append,
      List.append_assoc]
    rw [skipSpace_cons (by decide)]
    simp only [hy]
    rfl

/-- The fields of an object read back, after the fields already read. -/
theorem readFields_encode : ∀ (k : String) (v : Json) (fs : List (String × Json)) (n : ℕ)
    (acc : List (String × Json)) (t : List Char),
    orderedFields ((k, v) :: fs) = true → Entries.Sorted (acc ++ (k, v) :: fs) →
    1 + size v + sizeFields fs ≤ n →
    readFields n acc (encodeString k ++ (':' :: (encode v ++ (encodeFields fs ++ t)))) =
      some (acc ++ (k, v) :: fs, t)
  | k, v, fs, 0, acc, t, _, _, hn => by omega
  | k, v, fs, n + 1, acc, t, hd, hs, hn => by
    rw [orderedFields, Bool.and_eq_true] at hd
    have hv := readValue_encode v n (encodeFields fs ++ t) hd.1 (by omega)
      (stops_encodeFields fs t)
    have hlast := insert_of_sorted hs
    rw [readFields, encodeString, List.cons_append, skipSpace_cons (by decide)]
    simp only [readString_encodeChars, Option.bind_eq_bind, Option.bind_some]
    rw [skipSpace_cons (by decide)]
    simp only [hv, Option.bind_some, hlast]
    match fs, hd, hs, hn with
    | [], _, _, _ =>
      rw [encodeFields, List.cons_append, skipSpace_cons (by decide)]
      rfl
    | (k', v') :: fs', hd, hs, hn =>
      rw [sizeFields] at hn
      have hrest := readFields_encode k' v' fs' n (acc ++ [(k, v)]) t hd.2
        (by simpa using hs) (by omega)
      simp only [encodeFields, List.cons_append, List.append_assoc]
      rw [skipSpace_cons (by decide)]
      simp only [List.append_assoc, List.cons_append, List.nil_append] at hrest
      simp only [hrest]

end

mutual

/-- The length of the text is fuel enough. -/
theorem size_le_length : ∀ d : Json, size d ≤ (encode d).length
  | null | bool true | bool false | str _ => by simp [size, encode, encodeString]
  | int n => by
    obtain ⟨c, t, he, -⟩ := intText_eq_cons n
    simp [size, encode, he]
  | float x => by
    obtain ⟨c, t, he, -⟩ := floatText_eq_cons x
    simp [size, encode, he]
  | arr [] => by simp [size, sizeItems, encode]
  | arr (x :: xs) => by
    have hx := size_le_length x
    have hxs := sizeItems_le_length xs
    simp only [size, sizeItems, encode, List.length_cons, List.length_append]
    omega
  | obj [] => by simp [size, sizeFields, encode]
  | obj ((k, v) :: fs) => by
    have hv := size_le_length v
    have hfs := sizeFields_le_length fs
    simp only [size, sizeFields, encode, encodeString, List.length_cons, List.length_append]
    omega

theorem sizeItems_le_length : ∀ xs : List Json, sizeItems xs < (encodeItems xs).length
  | [] => by simp [sizeItems, encodeItems]
  | x :: xs => by
    have hx := size_le_length x
    have hxs := sizeItems_le_length xs
    simp only [sizeItems, encodeItems, List.length_cons, List.length_append]
    omega

theorem sizeFields_le_length : ∀ fs : List (String × Json),
    sizeFields fs < (encodeFields fs).length
  | [] => by simp [sizeFields, encodeFields]
  | (k, v) :: fs => by
    have hv := size_le_length v
    have hfs := sizeFields_le_length fs
    simp only [sizeFields, encodeFields, encodeString, List.length_cons, List.length_append]
    omega

end

/-- **Reading back what was written gives the document**, white space around it
notwithstanding. -/
theorem loads_encode_append {d : Json} (hd : d.ordered = true) {t : List Char}
    (ht : (skipSpace t).isEmpty = true) (hs : Stops t) : loads (encode d ++ t) = some d := by
  have hfuel := size_le_length d
  rw [loads, readValue_encode d _ t hd (by rw [List.length_append]; omega) hs]
  simp only [Option.bind_eq_bind, Option.bind_some, ht, if_true]
  rfl

/-- **Reading back what was written gives the document.** -/
theorem loads_encode {d : Json} (hd : d.ordered = true) : loads (encode d) = some d := by
  have h := loads_encode_append hd (t := []) rfl stops_nil
  rwa [List.append_nil] at h

/-- **The text determines the document.** -/
theorem encode_injective {d d' : Json} (hd : d.ordered = true) (hd' : d'.ordered = true)
    (h : encode d = encode d') : d = d' := by
  have h1 := loads_encode hd
  rw [h, loads_encode hd'] at h1
  exact (Option.some.inj h1).symm

/-! ### What is read is in normal form -/

theorem orderedFields_insert {k : String} {v : Json} {fs : List (String × Json)}
    (hv : v.ordered = true) (h : orderedFields fs = true) :
    orderedFields (Entries.insert k v fs) = true := by
  rw [orderedFields_iff] at h ⊢
  intro e he
  rcases Entries.mem_insert_keys he with rfl | he
  · exact hv
  · exact h e he

theorem ordered_of_readNumber {t t' : List Char} {d : Json} (h : readNumber t = some (d, t')) :
    d.ordered = true := by
  unfold readNumber at h
  simp only at h
  split at h
  · cases h
    rfl
  · split at h
    · cases h
      rfl
    · cases h

/-- **What the reader accepts is in normal form**, for values, for items and for
fields read after fields in order. -/
theorem ordered_of_read (n : ℕ) :
    (∀ t d t', readValue n t = some (d, t') → d.ordered = true) ∧
    (∀ t xs t', readItems n t = some (xs, t') → orderedItems xs = true) ∧
    (∀ acc t fs t', Entries.Sorted acc → orderedFields acc = true →
      readFields n acc t = some (fs, t') → Entries.Sorted fs ∧ orderedFields fs = true) := by
  -- the three readers together, by induction on the fuel
  induction n with
  | zero =>
    refine ⟨fun t d t' h => ?_, fun t xs t' h => ?_, fun acc t fs t' _ _ h => ?_⟩
    · simp [readValue] at h
    · simp [readItems] at h
    · simp [readFields] at h
  | succ n ih =>
    obtain ⟨ihv, ihi, ihf⟩ := ih
    refine ⟨fun t d t' h => ?_, fun t xs t' h => ?_, fun acc t fs t' hs ho h => ?_⟩
    · rw [readValue] at h
      split at h
      · cases h; rfl
      · cases h; rfl
      · cases h; rfl
      · obtain ⟨p, -, hp⟩ := Option.map_eq_some_iff.mp h
        cases hp
        rfl
      · split at h
        · cases h; rfl
        · obtain ⟨p, hp, he⟩ := Option.map_eq_some_iff.mp h
          cases he
          rw [ordered]
          exact ihi _ _ _ hp
      · split at h
        · cases h; rfl
        · obtain ⟨p, hp, he⟩ := Option.map_eq_some_iff.mp h
          cases he
          obtain ⟨h1, h2⟩ := ihf [] _ _ _ Entries.sorted_nil rfl hp
          rw [ordered, h2, decide_eq_true h1]
          rfl
      · exact ordered_of_readNumber h
    · rw [readItems] at h
      obtain ⟨⟨x, t₁⟩, hx, h⟩ := Option.bind_eq_some_iff.mp h
      have hxo := ihv _ _ _ hx
      simp only at h
      split at h
      · obtain ⟨⟨ys, t₂⟩, hys, h⟩ := Option.bind_eq_some_iff.mp h
        cases h
        rw [orderedItems, hxo, ihi _ _ _ hys]
        rfl
      · cases h
        rw [orderedItems, hxo]
        rfl
      · cases h
    · rw [readFields] at h
      split at h
      · obtain ⟨⟨k, t₁⟩, -, h⟩ := Option.bind_eq_some_iff.mp h
        simp only at h
        split at h
        · obtain ⟨⟨v, t₂⟩, hv, h⟩ := Option.bind_eq_some_iff.mp h
          have hvo := ihv _ _ _ hv
          simp only at h
          split at h
          · exact ihf _ _ _ _ (Entries.sorted_insert hs k v) (orderedFields_insert hvo ho) h
          · cases h
            exact ⟨Entries.sorted_insert hs k v, orderedFields_insert hvo ho⟩
          · cases h
        · cases h
      · cases h

/-- **What `json.loads` accepts is in normal form.** -/
theorem loads_ordered {t : List Char} {d : Json} (h : loads t = some d) : d.ordered = true := by
  rw [loads] at h
  obtain ⟨⟨d', t'⟩, hd, h⟩ := Option.bind_eq_some_iff.mp h
  simp only at h
  split at h
  · cases h
    exact (ordered_of_read _).1 _ _ _ hd
  · cases h

/-! ### The text is printable ASCII -/

/-- Printable ASCII. -/
def IsPrintable (c : Char) : Prop := 32 ≤ c.toNat ∧ c.toNat ≤ 126

instance (c : Char) : Decidable (IsPrintable c) :=
  inferInstanceAs (Decidable (_ ∧ _))

theorem isPrintable_hexDigit (n : ℕ) : IsPrintable (hexDigit (n % 16)) :=
  (by decide : ∀ n < 16, IsPrintable (hexDigit n)) (n % 16) (Nat.mod_lt n (by decide))

theorem isPrintable_unicodeEscape {n : ℕ} {c : Char} (h : c ∈ unicodeEscape n) :
    IsPrintable c := by
  simp only [unicodeEscape, hex4, List.mem_cons, List.not_mem_nil, or_false] at h
  rcases h with rfl | rfl | rfl | rfl | rfl | rfl
  · decide
  · decide
  all_goals exact isPrintable_hexDigit _

theorem isPrintable_encodeChar {c c' : Char} (h : c' ∈ encodeChar c) : IsPrintable c' := by
  have hforms := encodedChar c
  generalize encodeChar c = encoded at h hforms
  cases hforms with
  | @short letter hletter =>
    have hletters : ∀ e ∈ shortEscapes, IsPrintable e.2 := by decide
    rcases List.mem_cons.mp h with rfl | h
    · decide
    · rw [List.mem_singleton.mp h]
      exact hletters _ hletter
  | plain _ _ hprintable =>
    rw [List.mem_singleton.mp h]
    exact hprintable
  | unit => exact isPrintable_unicodeEscape h
  | pair => rcases List.mem_append.mp h with h | h <;> exact isPrintable_unicodeEscape h

theorem isPrintable_encodeChars {cs : List Char} {c : Char} (h : c ∈ encodeChars cs) :
    IsPrintable c := by
  induction cs with
  | nil =>
    rw [List.mem_singleton.mp h]
    decide
  | cons c' cs ih =>
    rcases List.mem_append.mp h with h | h
    · exact isPrintable_encodeChar h
    · exact ih h

theorem isPrintable_encodeString {s : String} {c : Char} (h : c ∈ encodeString s) :
    IsPrintable c := by
  rcases List.mem_cons.mp h with rfl | h
  · decide
  · exact isPrintable_encodeChars h

theorem isPrintable_of_isNumberChar {c : Char} (h : isNumberChar c = true) : IsPrintable c := by
  simp only [isNumberChar, isExponentMark, Bool.or_eq_true, beq_iff_eq] at h
  rcases h with (((h | rfl) | rfl) | rfl) | (rfl | rfl)
  · simp only [Char.isDigit, ge_iff_le, Bool.and_eq_true, decide_eq_true_eq] at h
    have h1 : (48 : ℕ) ≤ c.toNat := h.1
    have h2 : c.toNat ≤ (57 : ℕ) := h.2
    exact ⟨by omega, by omega⟩
  all_goals decide

mutual

/-- **The text of a document is printable ASCII**: every other character is
escaped. -/
theorem encode_printable : ∀ (d : Json) (c : Char), c ∈ encode d → IsPrintable c
  | null, c, h | bool true, c, h | bool false, c, h | arr [], c, h | obj [], c, h => by
    simp only [encode, List.mem_cons, List.not_mem_nil, or_false] at h
    rcases h with rfl | h
    · decide
    · first
        | (rw [h]; decide)
        | (rcases h with rfl | rfl | rfl | rfl <;> decide)
  | int n, c, h => isPrintable_of_isNumberChar (List.all_eq_true.mp (all_isNumberChar_intText n) c h)
  | float x, c, h =>
    isPrintable_of_isNumberChar (List.all_eq_true.mp (all_isNumberChar_of_isFloatText x.2) c h)
  | str s, c, h => isPrintable_encodeString h
  | arr (x :: xs), c, h => by
    rw [encode, List.mem_cons, List.mem_append] at h
    rcases h with rfl | h | h
    · decide
    · exact encode_printable x c h
    · exact encodeItems_printable xs c h
  | obj ((k, v) :: fs), c, h => by
    rw [encode, List.mem_cons, List.mem_append, List.mem_cons, List.mem_append] at h
    rcases h with rfl | h | rfl | h | h
    · decide
    · exact isPrintable_encodeString h
    · decide
    · exact encode_printable v c h
    · exact encodeFields_printable fs c h

theorem encodeItems_printable : ∀ (xs : List Json) (c : Char), c ∈ encodeItems xs → IsPrintable c
  | [], c, h => by
    rw [List.mem_singleton.mp h]
    decide
  | x :: xs, c, h => by
    rw [encodeItems, List.mem_cons, List.mem_append] at h
    rcases h with rfl | h | h
    · decide
    · exact encode_printable x c h
    · exact encodeItems_printable xs c h

theorem encodeFields_printable : ∀ (fs : List (String × Json)) (c : Char),
    c ∈ encodeFields fs → IsPrintable c
  | [], c, h => by
    rw [List.mem_singleton.mp h]
    decide
  | (k, v) :: fs, c, h => by
    rw [encodeFields, List.mem_cons, List.mem_append, List.mem_cons, List.mem_append] at h
    rcases h with rfl | h | rfl | h | h
    · decide
    · exact isPrintable_encodeString h
    · decide
    · exact encode_printable v c h
    · exact encodeFields_printable fs c h

end

/-! ### How long the text is -/

/-- A bound for a quoted string: no character takes more than twelve. -/
def stringBound (s : String) : ℕ := 12 * s.toList.length + 2

mutual

/-- A bound for the text of a document. -/
def lengthBound : Json → ℕ
  | null | bool _ => 5
  | int n => (intText n).length
  | float x => x.1.length
  | str s => stringBound s
  | arr items => 2 + lengthBoundItems items
  | obj fields => 2 + lengthBoundFields fields

/-- A bound for the text of the items, with their separators. -/
def lengthBoundItems : List Json → ℕ
  | [] => 0
  | x :: xs => 1 + lengthBound x + lengthBoundItems xs

/-- A bound for the text of the fields, with their separators. -/
def lengthBoundFields : List (String × Json) → ℕ
  | [] => 0
  | (k, v) :: fs => 2 + stringBound k + lengthBound v + lengthBoundFields fs

end

theorem length_encodeChar_le (c : Char) : (encodeChar c).length ≤ 12 := by
  have hforms := encodedChar c
  generalize encodeChar c = encoded at hforms
  cases hforms <;> simp [unicodeEscape, hex4]

theorem length_encodeString_le (s : String) : (encodeString s).length ≤ stringBound s := by
  have hchars : ∀ cs : List Char, (encodeChars cs).length ≤ 12 * cs.length + 1 := fun cs => by
    induction cs with
    | nil => simp [encodeChars]
    | cons c cs ih =>
      have hc := length_encodeChar_le c
      rw [encodeChars, List.length_append, List.length_cons]
      omega
  have hs := hchars s.toList
  rw [encodeString, stringBound, List.length_cons]
  omega

mutual

/-- **The text of a document is within its bound.** -/
theorem length_encode_le : ∀ d : Json, (encode d).length ≤ lengthBound d
  | null | bool true | bool false | int _ | float _ => by simp [encode, lengthBound]
  | str s => length_encodeString_le s
  | arr [] => by simp [encode, lengthBound]
  | arr (x :: xs) => by
    have hx := length_encode_le x
    have hxs := length_encodeItems_le xs
    simp only [encode, lengthBound, lengthBoundItems, List.length_cons, List.length_append]
    omega
  | obj [] => by simp [encode, lengthBound]
  | obj ((k, v) :: fs) => by
    have hk := length_encodeString_le k
    have hv := length_encode_le v
    have hfs := length_encodeFields_le fs
    simp only [encode, lengthBound, lengthBoundFields, List.length_cons, List.length_append]
    omega

theorem length_encodeItems_le : ∀ xs : List Json,
    (encodeItems xs).length ≤ lengthBoundItems xs + 1
  | [] => by simp [encodeItems]
  | x :: xs => by
    have hx := length_encode_le x
    have hxs := length_encodeItems_le xs
    simp only [encodeItems, lengthBoundItems, List.length_cons, List.length_append]
    omega

theorem length_encodeFields_le : ∀ fs : List (String × Json),
    (encodeFields fs).length ≤ lengthBoundFields fs + 1
  | [] => by simp [encodeFields]
  | (k, v) :: fs => by
    have hk := length_encodeString_le k
    have hv := length_encode_le v
    have hfs := length_encodeFields_le fs
    simp only [encodeFields, lengthBoundFields, List.length_cons, List.length_append]
    omega

end

end Json
