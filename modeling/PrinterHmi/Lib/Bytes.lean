import Mathlib.Data.List.Basic
import Mathlib.Data.List.GetD
import Mathlib.Data.List.Nodup
import Mathlib.Data.String.Basic
import Mathlib.Data.Nat.Notation
import Mathlib.Tactic.IntervalCases

/-!
# Byte strings and their printable forms

A byte string is a list of bytes. What is needed of it is how it is read from and
written to text: UTF-8 (`utf8`, `utf8?`), hexadecimal digits (`hexText`), the
base-32 text of a digest (`Base32.encode`), and the URL-safe base-64 text of a
key, a nonce or a signature (`Base64.encode`).

Reading base 64 is more liberal than writing it. `Base64.decode` takes what a
validating decoder takes once its input has been padded to a multiple of four:
data characters of the URL-safe alphabet *and* the two characters they replace,
then at most two padding characters, the unused low bits of the last data
character being ignored. What the two have in common is the round trip
(`Base64.decode_encode`), which also says that the encoder is injective.
-/

/-- A byte string. -/
abbrev Bytes := List UInt8

/-- What holds of every character of a text is checked on the text, not on all characters. -/
instance decidableForallChar {p : Char → Prop} [DecidablePred p] (t : List Char) :
    Decidable (∀ c ∈ t, p c) :=
  List.decidableBAll p t

/-- The UTF-8 bytes of a text. -/
def utf8 (s : String) : Bytes := s.toUTF8.data.toList

/-- The text whose UTF-8 bytes these are, if there is one. -/
def utf8? (b : Bytes) : Option String := String.fromUTF8? ⟨b.toArray⟩

/-- **Reading UTF-8 back.** -/
@[simp] theorem utf8?_utf8 (s : String) : utf8? (utf8 s) = some s := by
  have h : (⟨(utf8 s).toArray⟩ : ByteArray) = s.toByteArray := by
    rw [utf8, Array.toArray_toList]
    rfl
  rw [utf8?, h, String.fromUTF8?, dif_pos s.isValidUTF8]
  rfl

theorem utf8_injective {s t : String} (h : utf8 s = utf8 t) : s = t := by
  have hst : some s = some t := by rw [← utf8?_utf8 s, h, utf8?_utf8]
  exact Option.some.inj hst

theorem utf8_ofList (t : List Char) :
    utf8 (String.ofList t) = t.flatMap String.utf8EncodeChar := by
  have h : (String.ofList t).toUTF8 = (t.flatMap String.utf8EncodeChar).toByteArray := rfl
  rw [utf8, h, List.toList_data_toByteArray]

/-- An ASCII text is one byte a character. -/
theorem utf8_ascii {t : List Char} (h : ∀ c ∈ t, c.toNat < 128) :
    utf8 (String.ofList t) = t.map fun c => c.val.toUInt8 := by
  rw [utf8_ofList]
  induction t with
  | nil => rfl
  | cons c t ih =>
    have hc : c.utf8Size = 1 := by
      have hlt := h c (by simp)
      refine Char.utf8Size_eq_one_iff.mpr (UInt32.le_iff_toNat_le.mpr ?_)
      have htoNat : c.val.toNat = c.toNat := rfl
      simp only [UInt32.reduceToNat]
      omega
    rw [List.flatMap_cons, String.utf8EncodeChar_eq_singleton hc,
      ih fun c' hc' => h c' (List.mem_cons_of_mem c hc')]
    rfl

/-- An ASCII text without a NUL is bytes without a zero. -/
theorem zero_notMem_utf8 {t : List Char} (h : ∀ c ∈ t, 0 < c.toNat ∧ c.toNat < 128) :
    0 ∉ utf8 (String.ofList t) := by
  rw [utf8_ascii fun c hc => (h c hc).2, List.mem_map]
  rintro ⟨c, hc, hzero⟩
  obtain ⟨hpos, hlt⟩ := h c hc
  have hnat : c.val.toNat % 256 = 0 := congrArg UInt8.toNat hzero
  have htoNat : c.val.toNat = c.toNat := rfl
  omega

/-! ### Hexadecimal -/

/-- The lower-case hexadecimal digits. -/
def hexAlphabet : List Char := "0123456789abcdef".toList

/-- The two hexadecimal digits of a byte. -/
def hexByte (b : UInt8) : List Char :=
  [hexAlphabet.getD (b.toNat / 16) '0', hexAlphabet.getD (b.toNat % 16) '0']

/-! ### Base 32 -/

namespace Base32

/-- The base-32 digits, in lower case. -/
def alphabet : List Char := "abcdefghijklmnopqrstuvwxyz234567".toList

/-- The digit of a number below `32`. -/
def digit (n : ℕ) : Char := alphabet.getD n 'a'

/-- The eight digits of a group of five bytes. -/
def group (a b c d e : UInt8) : List Char :=
  let n := (((a.toNat * 256 + b.toNat) * 256 + c.toNat) * 256 + d.toNat) * 256 + e.toNat
  [digit (n / 2 ^ 35 % 32), digit (n / 2 ^ 30 % 32), digit (n / 2 ^ 25 % 32),
    digit (n / 2 ^ 20 % 32), digit (n / 2 ^ 15 % 32), digit (n / 2 ^ 10 % 32),
    digit (n / 2 ^ 5 % 32), digit (n % 32)]

/-- The unpadded base-32 text of a byte string, in lower case. -/
def encode : Bytes → List Char
  | a :: b :: c :: d :: e :: rest => group a b c d e ++ encode rest
  | [a, b, c, d] => (group a b c d 0).take 7
  | [a, b, c] => (group a b c 0 0).take 5
  | [a, b] => (group a b 0 0 0).take 4
  | [a] => (group a 0 0 0 0).take 2
  | [] => []

theorem length_alphabet : alphabet.length = 32 := by rfl

theorem digit_mem {n : ℕ} (hn : n < 32) : digit n ∈ alphabet := by
  have hlt : n < alphabet.length := length_alphabet ▸ hn
  rw [digit, List.getD_eq_getElem _ _ hlt]
  exact List.getElem_mem hlt

theorem group_mem {a b c d e : UInt8} {x : Char} (h : x ∈ group a b c d e) : x ∈ alphabet := by
  simp only [group, List.mem_cons, List.not_mem_nil, or_false] at h
  rcases h with rfl | rfl | rfl | rfl | rfl | rfl | rfl | rfl <;>
    exact digit_mem (Nat.mod_lt _ (by decide))

/-- The text uses the alphabet only. -/
theorem encode_mem {b : Bytes} {x : Char} (h : x ∈ encode b) : x ∈ alphabet := by
  fun_induction encode b with
  | case1 a b c d e rest ih =>
    rcases List.mem_append.mp h with h | h
    · exact group_mem h
    · exact ih h
  | case2 | case3 | case4 | case5 => exact group_mem (List.mem_of_mem_take h)
  | case6 => cases h

/-- The text is long enough to have one digit for every five bits. -/
theorem length_encode (b : Bytes) : (encode b).length = (8 * b.length + 4) / 5 := by
  fun_induction encode b with
  | case1 a b c d e rest ih =>
    simp only [group, List.length_append, List.length_cons, List.length_nil, ih]
    omega
  | case2 | case3 | case4 | case5 | case6 => simp [group]

end Base32

/-! ### Base 64 -/

namespace Base64

/-- The URL-safe base-64 digits. -/
def alphabet : List Char :=
  "ABCDEFGHIJKLMNOPQRSTUVWXYZabcdefghijklmnopqrstuvwxyz0123456789-_".toList

/-- The digit of a number below `64`. -/
def digit (n : ℕ) : Char := alphabet.getD n 'A'

/-- The number of a digit. The two characters the URL-safe alphabet replaces are
read as well. -/
def digit? (c : Char) : Option ℕ :=
  if c ∈ alphabet then some (alphabet.idxOf c)
  else if c = '+' then some 62
  else if c = '/' then some 63
  else none

/-- The digit values of a byte string: four for every three bytes, the bits of a
short last group being followed by zeros. -/
def sixes : Bytes → List ℕ
  | a :: b :: c :: rest =>
    a.toNat / 4 :: (a.toNat % 4 * 16 + b.toNat / 16) :: (b.toNat % 16 * 4 + c.toNat / 64) ::
      c.toNat % 64 :: sixes rest
  | [a, b] => [a.toNat / 4, a.toNat % 4 * 16 + b.toNat / 16, b.toNat % 16 * 4]
  | [a] => [a.toNat / 4, a.toNat % 4 * 16]
  | [] => []

/-- The unpadded URL-safe text of a byte string. -/
def encode (b : Bytes) : List Char := (sixes b).map digit

/-- The bytes spelled by a list of digit values. -/
def bytesOf : List ℕ → Bytes
  | p :: q :: r :: s :: rest =>
    UInt8.ofNat (p * 4 + q / 16) :: UInt8.ofNat (q % 16 * 16 + r / 4) ::
      UInt8.ofNat (r % 4 * 64 + s) :: bytesOf rest
  | [p, q, r] => [UInt8.ofNat (p * 4 + q / 16), UInt8.ofNat (q % 16 * 16 + r / 4)]
  | [p, q] => [UInt8.ofNat (p * 4 + q / 16)]
  | _ => []

/-- A text padded to a multiple of four. -/
def pad (t : List Char) : List Char := t ++ List.replicate ((4 - t.length % 4) % 4) '='

/-- The bytes of a padded text: data characters, then at most two padding
characters. -/
def decode (t : List Char) : Option Bytes :=
  let data := t.takeWhile (· != '=')
  let padding := t.dropWhile (· != '=')
  if padding.all (· == '=') && padding.length ≤ 2 && t.length % 4 == 0 then
    (data.mapM digit?).map bytesOf
  else none

theorem length_alphabet : alphabet.length = 64 := by rfl

theorem nodup_alphabet : alphabet.Nodup := List.Nodup.of_map Char.toNat (by decide)

theorem digit_mem {n : ℕ} (hn : n < 64) : digit n ∈ alphabet := by
  have hlt : n < alphabet.length := length_alphabet ▸ hn
  rw [digit, List.getD_eq_getElem _ _ hlt]
  exact List.getElem_mem hlt

theorem digit?_digit {n : ℕ} (hn : n < 64) : digit? (digit n) = some n := by
  have hlt : n < alphabet.length := length_alphabet ▸ hn
  rw [digit?, if_pos (digit_mem hn), digit, List.getD_eq_getElem _ _ hlt,
    nodup_alphabet.idxOf_getElem n hlt]

theorem sixes_lt {b : Bytes} {n : ℕ} (h : n ∈ sixes b) : n < 64 := by
  have hlt (u : UInt8) : u.toNat < 256 := u.toNat_lt
  fun_induction sixes b with
  | case1 a b c rest ih =>
    have ha := hlt a; have hb := hlt b; have hc := hlt c
    simp only [List.mem_cons] at h
    rcases h with rfl | rfl | rfl | rfl | h
    · omega
    · omega
    · omega
    · omega
    · exact ih h
  | case2 a b =>
    have ha := hlt a; have hb := hlt b
    simp only [List.mem_cons, List.not_mem_nil, or_false] at h
    rcases h with rfl | rfl | rfl <;> omega
  | case3 a =>
    have ha := hlt a
    simp only [List.mem_cons, List.not_mem_nil, or_false] at h
    rcases h with rfl | rfl <;> omega
  | case4 => cases h

/-- The digit values spell the bytes they were taken from. -/
theorem bytesOf_sixes (b : Bytes) : bytesOf (sixes b) = b := by
  have hlt (u : UInt8) : u.toNat < 256 := u.toNat_lt
  have hof {n : ℕ} {u : UInt8} (h : n = u.toNat) : UInt8.ofNat n = u := by
    rw [h, UInt8.ofNat_toNat]
  fun_induction sixes b with
  | case1 a b c rest ih =>
    have ha := hlt a; have hb := hlt b; have hc := hlt c
    rw [bytesOf, ih, hof (u := a) (by omega), hof (u := b) (by omega), hof (u := c) (by omega)]
  | case2 a b =>
    have ha := hlt a; have hb := hlt b
    rw [bytesOf, hof (u := a) (by omega), hof (u := b) (by omega)]
  | case3 a =>
    have ha := hlt a
    rw [bytesOf, hof (u := a) (by omega)]
  | case4 => rfl

theorem length_sixes (b : Bytes) : (sixes b).length = (4 * b.length + 2) / 3 := by
  fun_induction sixes b with
  | case1 a b c rest ih =>
    simp only [List.length_cons, ih]
    omega
  | case2 | case3 | case4 => simp

/-- The text uses the alphabet only. -/
theorem encode_mem {b : Bytes} {x : Char} (h : x ∈ encode b) : x ∈ alphabet := by
  obtain ⟨n, hn, rfl⟩ := List.mem_map.mp h
  exact digit_mem (sixes_lt hn)

/-- The length of the text. -/
theorem length_encode (b : Bytes) : (encode b).length = (4 * b.length + 2) / 3 := by
  rw [encode, List.length_map, length_sixes]

theorem mapM_digit? {ds : List ℕ} (h : ∀ n ∈ ds, n < 64) :
    (ds.map digit).mapM digit? = some ds := by
  induction ds with
  | nil => rfl
  | cons n ds ih =>
    rw [List.map_cons, List.mapM_cons, digit?_digit (h n (by simp)),
      ih fun m hm => h m (List.mem_cons_of_mem n hm)]
    rfl

/-- What the decoder takes for data and for padding in a text without padding of its own. -/
theorem takeWhile_pad {t : List Char} (h : '=' ∉ t) (n : ℕ) :
    (t ++ List.replicate n '=').takeWhile (· != '=') = t ∧
      (t ++ List.replicate n '=').dropWhile (· != '=') = List.replicate n '=' := by
  have hne : ∀ c ∈ t, (c != '=') = true := fun c hc => bne_iff_ne.mpr fun heq => h (heq ▸ hc)
  have hnil : (List.replicate n '=').takeWhile (· != '=') = [] ∧
      (List.replicate n '=').dropWhile (· != '=') = List.replicate n '=' := by
    cases n <;> simp [List.replicate_succ]
  rw [List.takeWhile_append_of_pos hne, List.dropWhile_append_of_pos hne, hnil.1, hnil.2]
  exact ⟨List.append_nil t, rfl⟩

/-- **What a text without padding decodes to**: the bytes its digits spell, unless its length is
one that no text of digits has. -/
theorem decode_pad {t : List Char} (h : '=' ∉ t) : decode (pad t) =
    if t.length % 4 = 1 then none else (t.mapM digit?).map bytesOf := by
  obtain ⟨htake, hdrop⟩ := takeWhile_pad h ((4 - t.length % 4) % 4)
  have hlength : (pad t).length = t.length + (4 - t.length % 4) % 4 := by
    rw [pad, List.length_append, List.length_replicate]
  have hcond : (((pad t).dropWhile (· != '=')).all (· == '=') &&
      ((pad t).dropWhile (· != '=')).length ≤ 2 &&
      (pad t).length % 4 == 0) = !decide (t.length % 4 = 1) := by
    have hfour : (t.length + (4 - t.length % 4) % 4) % 4 = 0 := by omega
    have htwo : (4 - t.length % 4) % 4 ≤ 2 ↔ ¬ t.length % 4 = 1 := by omega
    rw [hlength, pad, hdrop, hfour]
    simp [htwo]
  rw [decode, hcond, pad, htake]
  by_cases hone : t.length % 4 = 1
  · rw [if_pos hone, if_neg (by simp [hone])]
  · rw [if_neg hone, if_pos (by simp [hone])]

theorem padding_notMem_alphabet : '=' ∉ alphabet := by decide

/-- **Reading base 64 back.** -/
theorem decode_encode (b : Bytes) : decode (pad (encode b)) = some b := by
  have hds : (encode b).mapM digit? = some (sixes b) := mapM_digit? fun _ => sixes_lt
  have hlength : ¬ (encode b).length % 4 = 1 := by
    rw [length_encode]
    omega
  rw [decode_pad (fun h => padding_notMem_alphabet (encode_mem h)), if_neg hlength, hds,
    Option.map_some, bytesOf_sixes]

theorem encode_injective {b b' : Bytes} (h : encode b = encode b') : b = b' := by
  have hb : some b = some b' := by rw [← decode_encode b, h, decode_encode]
  exact Option.some.inj hb

/-! ### Spellings of one byte string

The converse of reading back fails: a byte string has several texts that decode to it. A text is
the one `encode` writes if it has none of the characters that are only read, and if the bits of
its last digit in which no byte has a share are zeros. -/

/-- The bits no byte has a share in are zeros, in a list of digit values. -/
def spareZero : List ℕ → Bool
  | _ :: _ :: _ :: _ :: rest => spareZero rest
  | [_, _, r] => r % 4 == 0
  | [_, q] => q % 16 == 0
  | _ => true

/-- The characters that are read and never written: padding, and the two characters that the
URL-safe alphabet replaces. -/
def aliases : List Char := ['+', '/', '=']

/-- The text has no such character. -/
def Plain (t : List Char) : Prop := ∀ c ∈ aliases, c ∉ t

instance : DecidablePred Plain := fun t => inferInstanceAs (Decidable (∀ c ∈ aliases, c ∉ t))

/-- The bits no byte has a share in are zeros, in a text. -/
def SpareZero (t : List Char) : Prop := spareZero (t.map alphabet.idxOf) = true

instance : DecidablePred SpareZero := fun t =>
  inferInstanceAs (Decidable (spareZero (t.map alphabet.idxOf) = true))

theorem length_bytesOf (ns : List ℕ) : (bytesOf ns).length = 3 * ns.length / 4 := by
  fun_induction bytesOf ns with
  | case1 p q r s rest ih =>
    simp only [List.length_cons, ih]
    omega
  | case2 | case3 => simp
  | case4 ns hfour hthree htwo =>
    match ns with
    | [] | [_] => simp
    | [_, _] => exact (htwo _ _ rfl).elim
    | [_, _, _] => exact (hthree _ _ _ rfl).elim
    | _ :: _ :: _ :: _ :: _ => exact (hfour _ _ _ _ _ rfl).elim

/-- **Which digit values are those of their bytes.** -/
theorem sixes_bytesOf_iff {ns : List ℕ} (h : ∀ n ∈ ns, n < 64) (hlength : ¬ ns.length % 4 = 1) :
    sixes (bytesOf ns) = ns ↔ spareZero ns = true := by
  have hto {n : ℕ} (hn : n < 256) : (UInt8.ofNat n).toNat = n := by
    rw [UInt8.toNat_ofNat', Nat.mod_eq_of_lt hn]
  -- the induction is on the groups of four digits; only a shorter last one has spare bits
  fun_induction bytesOf ns with
  | case1 p q r s rest ih =>
    have hp := h p (by simp); have hq := h q (by simp)
    have hr := h r (by simp); have hs := h s (by simp)
    have hrest : ¬ rest.length % 4 = 1 := by
      simp only [List.length_cons] at hlength
      omega
    have hih : sixes (bytesOf rest) = rest ↔ spareZero rest = true :=
      ih (fun n hn => h n (by simp [hn])) hrest
    rw [sixes, spareZero, hto (by omega), hto (by omega), hto (by omega), ← hih]
    have hp' : (p * 4 + q / 16) / 4 = p := by omega
    have hq' : (p * 4 + q / 16) % 4 * 16 + (q % 16 * 16 + r / 4) / 16 = q := by omega
    have hr' : (q % 16 * 16 + r / 4) % 16 * 4 + (r % 4 * 64 + s) / 64 = r := by omega
    have hs' : (r % 4 * 64 + s) % 64 = s := by omega
    simp only [List.cons.injEq, hp', hq', hr', hs', true_and]
  | case2 p q r =>
    have hp := h p (by simp); have hq := h q (by simp); have hr := h r (by simp)
    rw [sixes, spareZero, hto (by omega), hto (by omega)]
    have hp' : (p * 4 + q / 16) / 4 = p := by omega
    have hq' : (p * 4 + q / 16) % 4 * 16 + (q % 16 * 16 + r / 4) / 16 = q := by omega
    have hr' : (q % 16 * 16 + r / 4) % 16 * 4 = r ↔ r % 4 = 0 := by omega
    simp only [List.cons.injEq, hp', hq', hr', true_and, and_true, beq_iff_eq]
  | case3 p q =>
    have hp := h p (by simp); have hq := h q (by simp)
    rw [sixes, spareZero, hto (by omega)]
    have hp' : (p * 4 + q / 16) / 4 = p := by omega
    have hq' : (p * 4 + q / 16) % 4 * 16 = q ↔ q % 16 = 0 := by omega
    simp only [List.cons.injEq, hp', hq', true_and, and_true, beq_iff_eq]
  | case4 ns hfour hthree htwo =>
    -- no group is left, and one digit alone does not come up
    match ns with
    | [] => exact iff_of_true rfl rfl
    | [_] => exact (hlength rfl).elim
    | [_, _] => exact (htwo _ _ rfl).elim
    | [_, _, _] => exact (hthree _ _ _ rfl).elim
    | _ :: _ :: _ :: _ :: _ => exact (hfour _ _ _ _ _ rfl).elim

/-- What is written is plain. -/
theorem plain_of_mem_alphabet {t : List Char} (h : ∀ c ∈ t, c ∈ alphabet) : Plain t := by
  have hnot : ∀ c ∈ aliases, c ∉ alphabet := by decide
  exact fun c hc hmem => hnot c hc (h c hmem)

/-- The digits of a plain text, each with its value. -/
theorem mapM_digit?_plain {t : List Char} {ns : List ℕ} (hplain : Plain t)
    (h : t.mapM digit? = some ns) :
    ns = t.map alphabet.idxOf ∧ ∀ c ∈ t, c ∈ alphabet := by
  induction t generalizing ns with
  | nil =>
    obtain rfl := Option.some.inj h
    exact ⟨rfl, fun c hc => by cases hc⟩
  | cons c t ih =>
    rw [List.mapM_cons] at h
    obtain ⟨n, hn, hrest⟩ := Option.bind_eq_some_iff.mp h
    obtain ⟨ms, hms, hns⟩ := Option.bind_eq_some_iff.mp hrest
    obtain rfl := Option.some.inj hns
    obtain ⟨rfl, hmem⟩ := ih (fun a ha hat => hplain a ha (List.mem_cons_of_mem c hat)) hms
    have hc : c ∈ alphabet ∧ n = alphabet.idxOf c := by
      have hplus : c ≠ '+' := fun hc => hplain '+' (by decide) (hc ▸ List.mem_cons_self)
      have hslash : c ≠ '/' := fun hc => hplain '/' (by decide) (hc ▸ List.mem_cons_self)
      rw [digit?, if_neg hplus, if_neg hslash] at hn
      split_ifs at hn with hc
      exact ⟨hc, (Option.some.inj hn).symm⟩
    obtain ⟨hc, rfl⟩ := hc
    exact ⟨rfl, List.forall_mem_cons.mpr ⟨hc, hmem⟩⟩

theorem digit_idxOf {c : Char} (h : c ∈ alphabet) : digit (alphabet.idxOf c) = c := by
  have hlt := List.idxOf_lt_length_of_mem h
  rw [digit, List.getD_eq_getElem _ _ hlt, List.getElem_idxOf hlt]

theorem idxOf_lt {c : Char} (h : c ∈ alphabet) : alphabet.idxOf c < 64 :=
  length_alphabet ▸ List.idxOf_lt_length_of_mem h

/-- A plain text that decodes is made of digits, and decodes to the bytes they spell. -/
theorem decode_plain {t : List Char} {b : Bytes} (hplain : Plain t)
    (h : decode (pad t) = some b) :
    (∀ c ∈ t, c ∈ alphabet) ∧ ¬ t.length % 4 = 1 ∧ b = bytesOf (t.map alphabet.idxOf) := by
  rw [decode_pad (hplain '=' (by decide))] at h
  split_ifs at h with hlength
  obtain ⟨ns, hns, rfl⟩ := Option.map_eq_some_iff.mp h
  obtain ⟨rfl, hmem⟩ := mapM_digit?_plain hplain hns
  exact ⟨hmem, hlength, rfl⟩

/-- **Which spelling is the one written**, among those of a byte string. -/
theorem eq_encode_iff {t : List Char} {b : Bytes} (h : decode (pad t) = some b) :
    t = encode b ↔ Plain t ∧ SpareZero t := by
  constructor
  · rintro rfl
    have hidx : (encode b).map alphabet.idxOf = sixes b := by
      rw [encode, List.map_map]
      refine (List.map_congr_left fun n hn => ?_).trans (List.map_id _)
      exact Option.some.inj ((if_pos (digit_mem (sixes_lt hn))).symm.trans
        (digit?_digit (sixes_lt hn)))
    refine ⟨plain_of_mem_alphabet fun c hc => encode_mem hc, ?_⟩
    rw [SpareZero, hidx, ← sixes_bytesOf_iff (fun n hn => sixes_lt hn), bytesOf_sixes]
    rw [length_sixes]
    omega
  · rintro ⟨hplain, hspare⟩
    obtain ⟨hmem, hlength, rfl⟩ := decode_plain hplain h
    have hlt : ∀ n ∈ t.map alphabet.idxOf, n < 64 := by
      intro n hn
      obtain ⟨c, hc, rfl⟩ := List.mem_map.mp hn
      exact idxOf_lt (hmem c hc)
    rw [encode, (sixes_bytesOf_iff hlt (by rwa [List.length_map])).mpr hspare, List.map_map]
    exact (List.map_id _).symm.trans
      (List.map_congr_left fun c hc => (digit_idxOf (hmem c hc)).symm)

/-- **Which spellings have the form of what is written**: its alphabet and its length. -/
theorem form_iff {t : List Char} {b : Bytes} (h : decode (pad t) = some b) :
    (∀ c ∈ t, c ∈ alphabet) ∧ t.length = (4 * b.length + 2) / 3 ↔ Plain t := by
  constructor
  · exact fun hform => plain_of_mem_alphabet hform.1
  · intro hplain
    obtain ⟨hmem, hlength, rfl⟩ := decode_plain hplain h
    refine ⟨hmem, ?_⟩
    rw [length_bytesOf, List.length_map]
    obtain hzero | htwo | hthree : t.length % 4 = 0 ∨ t.length % 4 = 2 ∨ t.length % 4 = 3 := by
      omega
    · omega
    · omega
    · omega

end Base64
