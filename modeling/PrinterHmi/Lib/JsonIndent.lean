import PrinterHmi.Lib.JsonText

/-!
# Indented JSON text

`Json.indented` writes a document over several lines, each item and each field on
a line of its own, two spaces to a level. The text says no more than the compact
one: it is ASCII (`Json.ascii_indented`) and it reads back as the document it was
made from (`Json.loads_indented`).

What the reader took does not depend on what it has not seen yet: a value that was
read with text to spare is read alike whatever is appended
(`Json.readValue_append`). An object ends where it says it does, so no part of
its text is a document (`Json.loads_prefix`): a file that was cut off within an
object is noticed when it is read.
-/

namespace Json

/-! ### Writing -/

/-- A new line, at a level of the document. -/
def newline (level : ℕ) : List Char := '\n' :: List.replicate (2 * level) ' '

mutual

/-- The text of a document whose lines are at a level. -/
def indented (level : ℕ) : Json → List Char
  | arr [] => ['[', ']']
  | arr (x :: xs) =>
    '[' :: (newline (level + 1) ++ (indented (level + 1) x ++ indentedItems level xs))
  | obj [] => ['{', '}']
  | obj ((k, v) :: fs) =>
    '{' :: (newline (level + 1) ++
      (encodeString k ++ ':' :: ' ' :: (indented (level + 1) v ++ indentedFields level fs)))
  | d => encode d

/-- The items after the first, and the closing bracket. -/
def indentedItems (level : ℕ) : List Json → List Char
  | [] => newline level ++ [']']
  | x :: xs =>
    ',' :: (newline (level + 1) ++ (indented (level + 1) x ++ indentedItems level xs))

/-- The fields after the first, and the closing brace. -/
def indentedFields (level : ℕ) : List (String × Json) → List Char
  | [] => newline level ++ ['}']
  | (k, v) :: fs =>
    ',' :: (newline (level + 1) ++
      (encodeString k ++ ':' :: ' ' :: (indented (level + 1) v ++ indentedFields level fs)))

end

/-! ### Reading back -/

theorem skipSpace_newline (level : ℕ) (t : List Char) :
    skipSpace (newline level ++ t) = skipSpace t := by
  have hspaces : ∀ c ∈ newline level, isSpace c = true := by
    intro c hc
    rcases List.mem_cons.mp hc with rfl | hc
    · rfl
    · rw [List.eq_of_mem_replicate hc]
      rfl
  rw [skipSpace, List.dropWhile_append_of_pos hspaces]
  rfl

theorem skipSpace_space (t : List Char) : skipSpace (' ' :: t) = skipSpace t := rfl

/-- White space before a value is of no account. -/
theorem readValue_congr {t t' : List Char} (h : skipSpace t = skipSpace t') (n : ℕ) :
    readValue n t = readValue n t' := by
  cases n with
  | zero => rw [readValue, readValue]
  | succ n => rw [readValue, readValue, h]

theorem readItems_congr {t t' : List Char} (h : skipSpace t = skipSpace t') (n : ℕ) :
    readItems n t = readItems n t' := by
  cases n with
  | zero => rw [readItems, readItems]
  | succ n => rw [readItems, readItems, readValue_congr h]

theorem readFields_congr {t t' : List Char} (h : skipSpace t = skipSpace t') (n : ℕ)
    (acc : List (String × Json)) : readFields n acc t = readFields n acc t' := by
  cases n with
  | zero => rw [readFields, readFields]
  | succ n => rw [readFields, readFields, h]

/-- The first character of a document: it is neither white space nor a closing
bracket. -/
theorem indented_eq_cons (level : ℕ) (d : Json) :
    ∃ c t, indented level d = c :: t ∧ isSpace c = false ∧ c ≠ ']' := by
  cases d with
  | arr items => cases items <;> exact ⟨_, _, rfl, by decide⟩
  | obj fields =>
    cases fields with
    | nil => exact ⟨_, _, rfl, by decide⟩
    | cons e fields => exact ⟨_, _, rfl, by decide⟩
  | _ => exact encode_eq_cons _

theorem skipSpace_indented (level : ℕ) (d : Json) (t : List Char) :
    skipSpace (indented level d ++ t) = indented level d ++ t := by
  obtain ⟨c, t', he, hc, -⟩ := indented_eq_cons level d
  rw [he, List.cons_append, skipSpace_cons hc]

/-- The continuation of an item or of a field stops a number. -/
theorem stops_indentedItems (level : ℕ) (xs : List Json) (t : List Char) :
    Stops (indentedItems level xs ++ t) := by
  cases xs <;> exact stops_cons (by decide)

theorem stops_indentedFields (level : ℕ) (fs : List (String × Json)) (t : List Char) :
    Stops (indentedFields level fs ++ t) := by
  cases fs <;> exact stops_cons (by decide)

mutual

/-- **A document reads back**, whatever follows it. -/
theorem readValue_indented : ∀ (d : Json) (level n : ℕ) (t : List Char), d.ordered = true →
    size d ≤ n → Stops t → readValue n (indented level d ++ t) = some (d, t)
  | d, _, 0, t, _, hn, _ => by cases d <;> simp [size] at hn
  | null, _, n + 1, t, hd, hn, ht => readValue_encode null _ t hd hn ht
  | bool b, _, n + 1, t, hd, hn, ht => readValue_encode (bool b) _ t hd hn ht
  | int k, _, n + 1, t, hd, hn, ht => readValue_encode (int k) _ t hd hn ht
  | float x, _, n + 1, t, hd, hn, ht => readValue_encode (float x) _ t hd hn ht
  | str s, _, n + 1, t, hd, hn, ht => readValue_encode (str s) _ t hd hn ht
  | arr [], _, n + 1, t, hd, hn, ht => readValue_encode (arr []) _ t hd hn ht
  | obj [], _, n + 1, t, hd, hn, ht => readValue_encode (obj []) _ t hd hn ht
  | arr (x :: xs), level, n + 1, t, hd, hn, _ => by
    obtain ⟨c, t', he, hc, hne⟩ := indented_eq_cons (level + 1) x
    have hread := readItems_indented x xs level n t (by simpa [ordered] using hd)
      (by rw [size, sizeItems] at hn; omega)
    have hskip : skipSpace (newline (level + 1) ++ (c :: (t' ++ (indentedItems level xs ++ t)))) =
        c :: (t' ++ (indentedItems level xs ++ t)) := by
      rw [skipSpace_newline, skipSpace_cons hc]
    rw [readValue, skipSpace_indented]
    rw [he, List.cons_append] at hread
    simp only [indented, he, List.cons_append, List.append_assoc, hskip]
    split
    · next hb => exact absurd (List.cons.inj hb).1 hne
    · rw [hread]
      rfl
  | obj ((k, v) :: fs), level, n + 1, t, hd, hn, _ => by
    rw [ordered, Bool.and_eq_true, decide_eq_true_eq] at hd
    have hread := readFields_indented k v fs level n [] t hd.2 hd.1
      (by rw [size, sizeFields] at hn; omega)
    rw [readValue, skipSpace_indented]
    simp only [indented, encodeString, List.cons_append, List.append_assoc] at hread ⊢
    rw [skipSpace_newline, skipSpace_cons (by decide)]
    split
    · next hb => exact absurd (List.cons.inj hb).1 (by decide)
    · rw [hread]
      rfl

/-- The items of an array read back. -/
theorem readItems_indented : ∀ (x : Json) (xs : List Json) (level n : ℕ) (t : List Char),
    orderedItems (x :: xs) = true → 1 + size x + sizeItems xs ≤ n →
    readItems n (indented (level + 1) x ++ (indentedItems level xs ++ t)) = some (x :: xs, t)
  | x, xs, _, 0, t, _, hn => by omega
  | x, [], level, n + 1, t, hd, hn => by
    have hx := readValue_indented x (level + 1) n (indentedItems level [] ++ t)
      (by simpa [orderedItems] using hd) (by omega) (stops_indentedItems level [] t)
    rw [readItems, hx]
    simp only [Option.bind_eq_bind, Option.bind_some, indentedItems, List.append_assoc]
    rw [skipSpace_newline, List.cons_append, skipSpace_cons (by decide)]
    rfl
  | x, y :: ys, level, n + 1, t, hd, hn => by
    rw [orderedItems, Bool.and_eq_true] at hd
    rw [sizeItems] at hn
    have hx := readValue_indented x (level + 1) n (indentedItems level (y :: ys) ++ t) hd.1
      (by omega) (stops_indentedItems level _ t)
    have hy := readItems_indented y ys level n t hd.2 (by omega)
    rw [readItems, hx]
    simp only [Option.bind_eq_bind, Option.bind_some, indentedItems, List.cons_append,
      List.append_assoc]
    rw [skipSpace_cons (by decide)]
    simp only [readItems_congr (skipSpace_newline (level + 1) _), hy]
    rfl

/-- The fields of an object read back, after the fields already read. -/
theorem readFields_indented : ∀ (k : String) (v : Json) (fs : List (String × Json))
    (level n : ℕ) (acc : List (String × Json)) (t : List Char),
    orderedFields ((k, v) :: fs) = true → Entries.Sorted (acc ++ (k, v) :: fs) →
    1 + size v + sizeFields fs ≤ n →
    readFields n acc (encodeString k ++
        (':' :: ' ' :: (indented (level + 1) v ++ (indentedFields level fs ++ t)))) =
      some (acc ++ (k, v) :: fs, t)
  | k, v, fs, _, 0, acc, t, _, _, hn => by omega
  | k, v, fs, level, n + 1, acc, t, hd, hs, hn => by
    rw [orderedFields, Bool.and_eq_true] at hd
    have hv : readValue n (' ' :: (indented (level + 1) v ++ (indentedFields level fs ++ t))) =
        some (v, indentedFields level fs ++ t) := by
      rw [readValue_congr (skipSpace_space _)]
      exact readValue_indented v (level + 1) n _ hd.1 (by omega) (stops_indentedFields level fs t)
    have hlast := insert_of_sorted hs
    rw [readFields, encodeString, List.cons_append, skipSpace_cons (by decide)]
    simp only [readString_encodeChars, Option.bind_eq_bind, Option.bind_some]
    rw [skipSpace_cons (by decide)]
    simp only [hv, Option.bind_some, hlast]
    match fs, hd, hs, hn with
    | [], _, _, _ =>
      rw [indentedFields, List.append_assoc, skipSpace_newline, List.cons_append,
        skipSpace_cons (by decide)]
      rfl
    | (k', v') :: fs', hd, hs, hn =>
      rw [sizeFields] at hn
      have hrest := readFields_indented k' v' fs' level n (acc ++ [(k, v)]) t hd.2
        (by simpa using hs) (by omega)
      simp only [indentedFields, List.cons_append, List.append_assoc]
      rw [skipSpace_cons (by decide)]
      simp only [List.append_assoc, List.cons_append, List.nil_append] at hrest
      simp only [readFields_congr (skipSpace_newline (level + 1) _), hrest]

end

mutual

/-- An indented text is no shorter than the compact one. -/
theorem length_encode_le_indented : ∀ (d : Json) (level : ℕ),
    (encode d).length ≤ (indented level d).length
  | null, _ | bool _, _ | int _, _ | float _, _ | str _, _ | arr [], _ | obj [], _ => le_rfl
  | arr (x :: xs), level => by
    have hx := length_encode_le_indented x (level + 1)
    have hxs := length_encodeItems_le_indented xs level
    simp only [encode, indented, List.length_cons, List.length_append]
    omega
  | obj ((k, v) :: fs), level => by
    have hv := length_encode_le_indented v (level + 1)
    have hfs := length_encodeFields_le_indented fs level
    simp only [encode, indented, List.length_cons, List.length_append]
    omega

theorem length_encodeItems_le_indented : ∀ (xs : List Json) (level : ℕ),
    (encodeItems xs).length ≤ (indentedItems level xs).length
  | [], level => by simp [encodeItems, indentedItems]
  | x :: xs, level => by
    have hx := length_encode_le_indented x (level + 1)
    have hxs := length_encodeItems_le_indented xs level
    simp only [encodeItems, indentedItems, List.length_cons, List.length_append]
    omega

theorem length_encodeFields_le_indented : ∀ (fs : List (String × Json)) (level : ℕ),
    (encodeFields fs).length ≤ (indentedFields level fs).length
  | [], level => by simp [encodeFields, indentedFields]
  | (k, v) :: fs, level => by
    have hv := length_encode_le_indented v (level + 1)
    have hfs := length_encodeFields_le_indented fs level
    simp only [encodeFields, indentedFields, List.length_cons, List.length_append]
    omega

end

/-- **Reading back what was written gives the document**, white space after it
notwithstanding. -/
theorem loads_indented {d : Json} (hd : d.ordered = true) {level : ℕ} {t : List Char}
    (ht : (skipSpace t).isEmpty = true) (hs : Stops t) :
    loads (indented level d ++ t) = some d := by
  have hfuel := (size_le_length d).trans (length_encode_le_indented d level)
  rw [loads, readValue_indented d level _ t hd (by rw [List.length_append]; omega) hs]
  simp only [Option.bind_eq_bind, Option.bind_some, ht, if_true]
  rfl

/-! ### The text is ASCII -/

/-- A text is ASCII. -/
def Ascii (t : List Char) : Prop := ∀ c ∈ t, c.toNat < 128

theorem Ascii.append {t t' : List Char} (h : Ascii t) (h' : Ascii t') : Ascii (t ++ t') := by
  intro c hc
  rcases List.mem_append.mp hc with hc | hc
  · exact h c hc
  · exact h' c hc

theorem Ascii.cons {c : Char} {t : List Char} (hc : c.toNat < 128) (h : Ascii t) :
    Ascii (c :: t) := by
  intro c' hc'
  rcases List.mem_cons.mp hc' with rfl | hc'
  · exact hc
  · exact h c' hc'

theorem ascii_of_printable {t : List Char} (h : ∀ c ∈ t, IsPrintable c) : Ascii t :=
  fun c hc => (h c hc).2.trans_lt (by decide)

theorem ascii_encode (d : Json) : Ascii (encode d) := ascii_of_printable (encode_printable d)

theorem ascii_encodeString (s : String) : Ascii (encodeString s) :=
  ascii_of_printable fun _ => isPrintable_encodeString

theorem ascii_newline (level : ℕ) : Ascii (newline level) := by
  refine .cons (by decide) fun c hc => ?_
  rw [List.eq_of_mem_replicate hc]
  decide

mutual

/-- **The text of a document is ASCII.** -/
theorem ascii_indented : ∀ (d : Json) (level : ℕ), Ascii (indented level d)
  | null, _ => ascii_encode _
  | bool _, _ => ascii_encode _
  | int _, _ => ascii_encode _
  | float _, _ => ascii_encode _
  | str _, _ => ascii_encode _
  | arr [], _ => ascii_encode (arr [])
  | obj [], _ => ascii_encode (obj [])
  | arr (x :: xs), level =>
    .cons (by decide) ((ascii_newline _).append
      ((ascii_indented x (level + 1)).append (ascii_indentedItems xs level)))
  | obj ((k, v) :: fs), level =>
    .cons (by decide) ((ascii_newline _).append ((ascii_encodeString k).append
      (.cons (by decide) (.cons (by decide)
        ((ascii_indented v (level + 1)).append (ascii_indentedFields fs level))))))

theorem ascii_indentedItems : ∀ (xs : List Json) (level : ℕ), Ascii (indentedItems level xs)
  | [], level => (ascii_newline level).append (.cons (by decide) fun _ h => by cases h)
  | x :: xs, level =>
    .cons (by decide) ((ascii_newline _).append
      ((ascii_indented x (level + 1)).append (ascii_indentedItems xs level)))

theorem ascii_indentedFields : ∀ (fs : List (String × Json)) (level : ℕ),
    Ascii (indentedFields level fs)
  | [], level => (ascii_newline level).append (.cons (by decide) fun _ h => by cases h)
  | (k, v) :: fs, level =>
    .cons (by decide) ((ascii_newline _).append ((ascii_encodeString k).append
      (.cons (by decide) (.cons (by decide)
        ((ascii_indented v (level + 1)).append (ascii_indentedFields fs level))))))

end

/-! ### What is read does not depend on what follows -/

/-- A text that starts otherwise still does. -/
theorem head_ne_append {c : Char} {t u : List Char} (hne : t ≠ [])
    (h : ∀ t', t = c :: t' → False) : ∀ t', t ++ u = c :: t' → False := by
  intro t' he
  cases t with
  | nil => exact hne rfl
  | cons c₀ t₀ => exact h t₀ (congrArg (· :: t₀) (List.cons.inj he).1)

theorem skipSpace_append {t : List Char} (h : skipSpace t ≠ []) (u : List Char) :
    skipSpace (t ++ u) = skipSpace t ++ u := by
  rw [skipSpace, List.dropWhile_append, if_neg]
  · rfl
  · simpa [skipSpace] using h

theorem readHex4_append {t t' : List Char} {n : ℕ} (h : readHex4 t = some (n, t'))
    (u : List Char) : readHex4 (t ++ u) = some (n, t' ++ u) := by
  unfold readHex4 at h
  split at h
  · next a b c d t =>
    simp only [Option.bind_eq_bind, Option.bind_eq_some_iff] at h
    obtain ⟨a', ha, b', hb, c', hc, d', hd, h⟩ := h
    cases h
    simp only [List.cons_append, readHex4, ha, hb, hc, hd]
    rfl
  · cases h

theorem readUnicode_append {t t' : List Char} {c : Char} (h : readUnicode t = some (c, t'))
    (u : List Char) : readUnicode (t ++ u) = some (c, t' ++ u) := by
  rw [readUnicode] at h ⊢
  obtain ⟨⟨n, t₁⟩, hn, h⟩ := Option.bind_eq_some_iff.mp h
  rw [readHex4_append hn u]
  simp only [Option.bind_eq_bind, Option.bind_some] at h ⊢
  by_cases hhigh : 55296 ≤ n ∧ n < 56320
  · rw [if_pos hhigh] at h ⊢
    split at h
    · next t₂ =>
      obtain ⟨⟨m, t₃⟩, hm, h⟩ := Option.bind_eq_some_iff.mp h
      simp only [List.cons_append, readHex4_append hm u, Option.bind_some]
      simp only at h
      split at h
      · next hlow =>
        simp only [pure, Option.some.injEq, Prod.mk.injEq] at h
        obtain ⟨hc, rfl⟩ := h
        simp only [if_pos hlow, pure, hc]
      · cases h
    · cases h
  · rw [if_neg hhigh] at h ⊢
    by_cases hlow : 56320 ≤ n ∧ n < 57344
    · rw [if_pos hlow] at h
      cases h
    · rw [if_neg hlow] at h ⊢
      cases h
      rfl

theorem readChar_append {t t' : List Char} {c : Char} (h : readChar t = some (c, t'))
    (u : List Char) : readChar (t ++ u) = some (c, t' ++ u) := by
  unfold readChar at h
  split at h
  · exact readUnicode_append h u
  iterate 8
    · cases h
      rfl
  · split at h
    · cases h
    · next hplain =>
      cases h
      exact readChar_plain hplain _
  · cases h

theorem readChars_append {n m : ℕ} {t t' : List Char} {cs : List Char}
    (h : readChars n t = some (cs, t')) (hnm : n ≤ m) (u : List Char) :
    readChars m (t ++ u) = some (cs, t' ++ u) := by
  induction n generalizing m t cs with
  | zero => simp [readChars] at h
  | succ n ih =>
    obtain ⟨m, rfl⟩ : ∃ k, m = k + 1 := ⟨m - 1, by omega⟩
    unfold readChars at h ⊢
    simp only at h ⊢
    split at h
    · cases h
      rfl
    · next hquote =>
      obtain ⟨⟨c, t₁⟩, hc, h⟩ := Option.bind_eq_some_iff.mp h
      obtain ⟨⟨cs', t₂⟩, hcs, h⟩ := Option.bind_eq_some_iff.mp h
      cases h
      have hchars := ih hcs (Nat.le_of_succ_le_succ hnm)
      have hne : t ≠ [] := by
        rintro rfl
        cases hc
      split
      · next he => exact (head_ne_append hne hquote _ he).elim
      · rw [readChar_append hc u]
        simp only [Option.bind_eq_bind, Option.bind_some, hchars]
        rfl

theorem readString_append {t t' : List Char} {s : String} (h : readString t = some (s, t'))
    (u : List Char) : readString (t ++ u) = some (s, t' ++ u) := by
  rw [readString] at h ⊢
  obtain ⟨⟨cs, t₁⟩, hcs, h⟩ := Option.bind_eq_some_iff.mp h
  cases h
  rw [readChars_append hcs (by rw [List.length_append]; omega) u]
  rfl

/-- An integer token starts with a digit or its sign. -/
theorem isIntText_head {t : List Char} (h : isIntText t = true) :
    ∃ c t₀, t = c :: t₀ ∧ IsNumberHead c := by
  unfold isIntText dropMinus at h
  split at h
  · exact ⟨_, _, rfl, .inr rfl⟩
  · cases t with
    | nil => cases h
    | cons c t₀ => exact ⟨c, t₀, rfl, .inl (all_isDigit_of_isWholeText h c List.mem_cons_self)⟩

/-- **What a number is read from**: a token, and the text after its last character. -/
theorem readNumber_eq_some {t t' : List Char} {d : Json} (h : readNumber t = some (d, t')) :
    t' = t.dropWhile isNumberChar ∧ ∃ c t₀, t = c :: t₀ ∧ IsNumberHead c := by
  have hsplit : t = t.takeWhile isNumberChar ++ t.dropWhile isNumberChar :=
    List.takeWhile_append_dropWhile.symm
  unfold readNumber at h
  simp only at h
  split at h
  · next hint =>
    cases h
    obtain ⟨c, t₀, ht, hc⟩ := isIntText_head hint
    rw [ht] at hsplit
    exact ⟨rfl, c, _, hsplit, hc⟩
  · split at h
    · next hfloat =>
      cases h
      obtain ⟨c, t₀, ht, hc⟩ := floatText_eq_cons ⟨_, hfloat⟩
      rw [show t.takeWhile isNumberChar = c :: t₀ from ht] at hsplit
      exact ⟨rfl, c, _, hsplit, hc⟩
    · cases h

/-- A number reads alike whatever is appended, if it has ended. -/
theorem readNumber_append_rest {t t' : List Char} {d : Json} (h : readNumber t = some (d, t'))
    (hne : t' ≠ []) (u : List Char) : readNumber (t ++ u) = some (d, t' ++ u) := by
  obtain ⟨rfl, -⟩ := readNumber_eq_some h
  have hdrop : (t ++ u).dropWhile isNumberChar = t.dropWhile isNumberChar ++ u := by
    rw [List.dropWhile_append, if_neg (by simpa using hne)]
  have htake : (t ++ u).takeWhile isNumberChar = t.takeWhile isNumberChar := by
    have hlen := congrArg List.length (List.takeWhile_append_dropWhile (p := isNumberChar) (l := t))
    rw [List.length_append] at hlen
    have hpos := List.length_pos_of_ne_nil hne
    rw [List.takeWhile_append, if_neg (by omega)]
  unfold readNumber at h ⊢
  simp only [htake, hdrop] at h ⊢
  split at h
  · next hint =>
    cases h
    rw [if_pos hint]
  · next hint =>
    rw [if_neg hint]
    split at h
    · next hfloat =>
      cases h
      rw [dif_pos hfloat]
    · cases h

/-- A number is no object. -/
theorem readNumber_not_isObj {t t' : List Char} {d : Json} (h : readNumber t = some (d, t')) :
    ¬ d.isObj = true := by
  unfold readNumber at h
  simp only at h
  split at h
  · cases h
    exact Bool.false_ne_true
  · split at h
    · cases h
      exact Bool.false_ne_true
    · cases h

/-- There is no value in white space. -/
theorem skipSpace_ne_nil {n : ℕ} {t t' : List Char} {d : Json}
    (h : readValue n t = some (d, t')) : skipSpace t ≠ [] := by
  intro hnil
  cases n with
  | zero => simp [readValue] at h
  | succ n =>
    rw [readValue, hnil] at h
    cases h

/-- There is neither an item nor a field in an empty text. -/
theorem readItems_ne_nil {n : ℕ} {t : List Char} {p : List Json × List Char}
    (h : readItems n t = some p) : t ≠ [] := by
  rintro rfl
  cases n with
  | zero => simp [readItems] at h
  | succ n =>
    rw [readItems] at h
    obtain ⟨⟨x, t₁⟩, hx, -⟩ := Option.bind_eq_some_iff.mp h
    exact skipSpace_ne_nil hx rfl

theorem readFields_ne_nil {n : ℕ} {acc : List (String × Json)} {t : List Char}
    {p : List (String × Json) × List Char} (h : readFields n acc t = some p) : t ≠ [] := by
  rintro rfl
  cases n with
  | zero => simp [readFields] at h
  | succ n =>
    rw [readFields] at h
    cases h

theorem ne_nil_of_skipSpace {t t' : List Char} {c : Char} (h : skipSpace t = c :: t') : t ≠ [] := by
  rintro rfl
  cases h

/-- **What was read with text to spare is read alike whatever is appended**, for values, for
items and for fields, up to a depth. The closing brace of an object is text enough. -/
structure ReadsOn (u : List Char) (n : ℕ) : Prop where
  value {m : ℕ} {t t' : List Char} {d : Json} (hnm : n ≤ m) (h : readValue n t = some (d, t'))
    (hend : t' ≠ [] ∨ d.isObj = true) : readValue m (t ++ u) = some (d, t' ++ u)
  items {m : ℕ} {t t' : List Char} {xs : List Json} (hnm : n ≤ m)
    (h : readItems n t = some (xs, t')) : readItems m (t ++ u) = some (xs, t' ++ u)
  fields {m : ℕ} {acc fs : List (String × Json)} {t t' : List Char} (hnm : n ≤ m)
    (h : readFields n acc t = some (fs, t')) : readFields m acc (t ++ u) = some (fs, t' ++ u)

section Deeper

variable {u t t' : List Char} {n m : ℕ}

/-- A value one level up. -/
theorem ReadsOn.nextValue (ih : ReadsOn u n) {d : Json} (hle : n ≤ m)
    (h : readValue (n + 1) t = some (d, t')) (hend : t' ≠ [] ∨ d.isObj = true) :
    readValue (m + 1) (t ++ u) = some (d, t' ++ u) := by
  -- the first character tells the kind of the value, and more text does not change it
  have hskip := skipSpace_ne_nil h
  rw [readValue] at h
  rw [readValue, skipSpace_append hskip]
  split at h
  · next he =>
    cases h
    rw [he]
    rfl
  · next he =>
    cases h
    rw [he]
    rfl
  · next he =>
    cases h
    rw [he]
    rfl
  · next he =>
    obtain ⟨p, hp, heq⟩ := Option.map_eq_some_iff.mp h
    cases heq
    simp only [he, List.cons_append, readString_append hp u, Option.map_some]
  · next t₁ he =>
    simp only [he, List.cons_append]
    split at h
    · next t₂ hclose =>
      cases h
      rw [skipSpace_append (by simp [hclose]), hclose]
      rfl
    · next hopen =>
      obtain ⟨p, hp, heq⟩ := Option.map_eq_some_iff.mp h
      cases heq
      have hne := readItems_ne_nil hp
      rw [skipSpace_append hne]
      split
      · next hclose => exact (head_ne_append hne hopen _ hclose).elim
      · rw [ih.items hle hp]
        rfl
  · next t₁ he =>
    simp only [he, List.cons_append]
    split at h
    · next t₂ hclose =>
      cases h
      rw [skipSpace_append (by simp [hclose]), hclose]
      rfl
    · next hopen =>
      obtain ⟨p, hp, heq⟩ := Option.map_eq_some_iff.mp h
      cases heq
      have hne := readFields_ne_nil hp
      rw [skipSpace_append hne]
      split
      · next hclose => exact (head_ne_append hne hopen _ hclose).elim
      · rw [ih.fields hle hp]
        rfl
  · -- what is left is a number, which is no object
    obtain ⟨hrest, c, t₀, ht, hc⟩ := readNumber_eq_some h
    have hread := readNumber_append_rest h (hend.resolve_right (readNumber_not_isObj h)) u
    rw [ht, List.cons_append] at hread ⊢
    have hvalue := readValue_number m (t := t₀ ++ u) hc
    rw [readValue, skipSpace_cons hc.isSpace] at hvalue
    exact hvalue.trans hread

/-- Items one level up. -/
theorem ReadsOn.nextItems (ih : ReadsOn u n) {xs : List Json} (hle : n ≤ m)
    (h : readItems (n + 1) t = some (xs, t')) : readItems (m + 1) (t ++ u) = some (xs, t' ++ u) := by
  rw [readItems] at h ⊢
  obtain ⟨⟨x, t₁⟩, hx, h⟩ := Option.bind_eq_some_iff.mp h
  simp only at h
  split at h
  · next t₂ hcomma =>
    obtain ⟨⟨ys, t₃⟩, hys, h⟩ := Option.bind_eq_some_iff.mp h
    cases h
    have hne := ne_nil_of_skipSpace hcomma
    rw [ih.value hle hx (.inl hne)]
    simp only [Option.bind_eq_bind, Option.bind_some]
    rw [skipSpace_append (by simp [hcomma]), hcomma]
    simp only [List.cons_append, ih.items hle hys, Option.bind_some]
    rfl
  · next t₂ hclose =>
    cases h
    have hne := ne_nil_of_skipSpace hclose
    rw [ih.value hle hx (.inl hne)]
    simp only [Option.bind_eq_bind, Option.bind_some]
    rw [skipSpace_append (by simp [hclose]), hclose]
    rfl
  · cases h

/-- Fields one level up. -/
theorem ReadsOn.nextFields (ih : ReadsOn u n) {acc fs : List (String × Json)} (hle : n ≤ m)
    (h : readFields (n + 1) acc t = some (fs, t')) :
    readFields (m + 1) acc (t ++ u) = some (fs, t' ++ u) := by
  rw [readFields] at h ⊢
  split at h
  · next t₁ hquote =>
    obtain ⟨⟨k, t₂⟩, hk, h⟩ := Option.bind_eq_some_iff.mp h
    rw [skipSpace_append (by simp [hquote]), hquote]
    simp only [List.cons_append, readString_append hk u, Option.bind_eq_bind, Option.bind_some]
    simp only at h
    split at h
    · next t₃ hcolon =>
      obtain ⟨⟨v, t₄⟩, hv, h⟩ := Option.bind_eq_some_iff.mp h
      rw [skipSpace_append (by simp [hcolon]), hcolon]
      simp only at h
      split at h
      · next t₅ hcomma =>
        -- a comma follows, so that the value does not end where the text did
        have hne := ne_nil_of_skipSpace hcomma
        simp only [List.cons_append, ih.value hle hv (.inl hne), Option.bind_some]
        rw [skipSpace_append (by simp [hcomma]), hcomma]
        exact ih.fields hle h
      · next t₅ hclose =>
        cases h
        have hne := ne_nil_of_skipSpace hclose
        simp only [List.cons_append, ih.value hle hv (.inl hne), Option.bind_some]
        rw [skipSpace_append (by simp [hclose]), hclose]
        rfl
      · cases h
    · cases h
  · cases h

end Deeper

/-- At every depth. -/
theorem readsOn (u : List Char) (n : ℕ) : ReadsOn u n := by
  induction n with
  | zero =>
    refine ⟨fun _ h => ?_, fun _ h => ?_, fun _ h => ?_⟩
    · simp [readValue] at h
    · simp [readItems] at h
    · simp [readFields] at h
  | succ n ih =>
    have hpred {m : ℕ} (hnm : n + 1 ≤ m) : ∃ k, m = k + 1 ∧ n ≤ k := ⟨m - 1, by omega, by omega⟩
    refine ⟨fun hnm h hend => ?_, fun hnm h => ?_, fun hnm h => ?_⟩ <;>
      obtain ⟨m, rfl, hle⟩ := hpred hnm
    · exact ih.nextValue hle h hend
    · exact ih.nextItems hle h
    · exact ih.nextFields hle h

/-- **An object reads alike whatever is appended.** -/
theorem readValue_append {n m : ℕ} {t t' : List Char} {d : Json} (hle : n ≤ m)
    (h : readValue n t = some (d, t')) (hobj : d.isObj = true) (u : List Char) :
    readValue m (t ++ u) = some (d, t' ++ u) :=
  (readsOn u n).value hle h (.inr hobj)

/-! ### A part of an object's text -/

/-- Text that starts with a brace is an object, if it is anything. -/
theorem isObj_of_readValue {n : ℕ} {t t' : List Char} {d : Json}
    (h : readValue n ('{' :: t) = some (d, t')) : d.isObj = true := by
  cases n with
  | zero => simp [readValue] at h
  | succ n =>
    rw [readValue, skipSpace_cons (by decide)] at h
    simp only at h
    split at h
    · cases h
      rfl
    · obtain ⟨p, -, hp⟩ := Option.map_eq_some_iff.mp h
      cases hp
      rfl

/-- The text of an object starts with a brace. -/
theorem indented_obj (level : ℕ) (fields : List (String × Json)) :
    ∃ t, indented level (obj fields) = '{' :: t := by
  cases fields with
  | nil => exact ⟨_, rfl⟩
  | cons e fields => exact ⟨_, rfl⟩

/-- **No part of the text of an object is a document**: as long as a last piece of it is
missing, it does not read. -/
theorem loads_prefix {fields : List (String × Json)} (hd : (obj fields).ordered = true)
    {level : ℕ} {t u : List Char} (htext : indented level (obj fields) = t ++ u) (hu : u ≠ []) :
    loads t = none := by
  cases hread : loads t with
  | none => rfl
  | some d =>
    obtain ⟨⟨d', t'⟩, hvalue, -⟩ := Option.bind_eq_some_iff.mp hread
    -- the whole text has to read as `d'` too, with at least `u` left over
    have hobj : d'.isObj = true := by
      obtain ⟨t₀, ht₀⟩ := indented_obj level fields
      cases t with
      | nil => exact (skipSpace_ne_nil hvalue rfl).elim
      | cons c t =>
        rw [ht₀, List.cons_append] at htext
        obtain ⟨rfl, -⟩ := List.cons.inj htext
        exact isObj_of_readValue hvalue
    have hwhole := readValue_indented (obj fields) level
      (max (t.length + 1) (size (obj fields))) [] hd (le_max_right ..) stops_nil
    rw [List.append_nil, htext,
      readValue_append (le_max_left ..) hvalue hobj u] at hwhole
    have hnil : t' ++ u = [] := (Prod.mk.inj (Option.some.inj hwhole)).2
    exact absurd (List.append_eq_nil_iff.mp hnil).2 hu

end Json
