import PrinterHmi.Lib.JsonIndent

/-!
# The limits of a JSON reader

A reader of JSON may give up a text that is a document: an integer has more digits than the
reader converts, or arrays and objects lie deeper in one another than it follows. `Json.Limits`
says how far a reader goes, and `Json.decode` is `Json.loads` for a reader with limits.

A reader meets its limits as it goes along, so a text whose syntax is wrong further on may be
given up for a limit first. It meets one where it expects a value, and it does so after a part of
the text exactly when that part becomes a document by a value and the brackets that close what is
open (`Json.expects`). The first such place counts (`Json.firstStop`).

What is written fits a reader as soon as the document does (`Json.decode_encode`,
`Json.decode_indented`). Here a text is gone through with what follows it in view
(`Json.Passes`), as a number ends only where something else starts.
-/

namespace Json

/-! ### Going through a text -/

/-- **How far a reader goes**: the most digits of an integer, if their number is limited, and
the most arrays and objects around one another. -/
structure Limits where
  digits : Option ℕ
  depth : ℕ

/-- Where a place of a text is: between strings, in a string, or after a backslash in one. -/
inductive Lexing : Type where
  | between
  | inString
  | escaped
  deriving DecidableEq

/-- A place of a text, and the brackets that close what is open there, the innermost first. -/
structure Scan where
  lexing : Lexing
  closers : List Char

/-- The place after one more character. -/
def Scan.next (s : Scan) (c : Char) : Scan :=
  match s.lexing with
  | .between =>
    if c = '"' then { s with lexing := .inString }
    else if c = '[' then { s with closers := ']' :: s.closers }
    else if c = '{' then { s with closers := '}' :: s.closers }
    else if c = ']' ∨ c = '}' then { s with closers := s.closers.tail }
    else s
  | .inString =>
    if c = '"' then { s with lexing := .between }
    else if c = '\\' then { s with lexing := .escaped }
    else s
  | .escaped => { s with lexing := .inString }

/-- The place after a text. -/
def scan (u : List Char) : Scan := u.foldl Scan.next ⟨.between, []⟩

/-- After this part of a text a reader expects a value. -/
def expects (u : List Char) : Bool :=
  (scan u).lexing == .between &&
    (loads (u ++ 'n' :: 'u' :: 'l' :: 'l' :: (scan u).closers)).isSome

/-- What makes a number of the digits before it that is no integer. -/
def continuesFloat : List Char → Bool
  | '.' :: d :: _ => d.isDigit
  | e :: '+' :: d :: _ => isExponentMark e && d.isDigit
  | e :: '-' :: d :: _ => isExponentMark e && d.isDigit
  | e :: d :: _ => isExponentMark e && d.isDigit
  | _ => false

/-- A text starts with an integer of too many digits. -/
def startsTooLong (L : Limits) (v : List Char) : Bool :=
  let v := dropMinus v
  let digits := v.takeWhile Char.isDigit
  L.digits.any (· < digits.length) && digits.head? != some '0' &&
    !continuesFloat (v.dropWhile Char.isDigit)

/-- A character opens an array or an object. -/
def opens (c : Char) : Bool := c == '[' || c == '{'

/-! ### Reading with limits -/

/-- What a reader gives a text up for. -/
inductive Stop : Type where
  | tooLong
  | tooDeep
  deriving DecidableEq

/-- Why a reader gives up between two parts of a text, if it does. -/
def stop? (L : Limits) (u v : List Char) : Option Stop :=
  if expects u = false then none
  else if startsTooLong L v then some .tooLong
  else if v.head?.any opens = true ∧ L.depth ≤ (scan u).closers.length then some .tooDeep
  else none

/-- The first place a reader gives up at, the first part of the text being behind it. -/
def firstStop (L : Limits) (u : List Char) : List Char → Option Stop
  | [] => none
  | c :: v => (stop? L u (c :: v)).or (firstStop L (u ++ [c]) v)

/-- Why a text is not read. -/
inductive Failure : Type where
  | malformed
  | stopped (stop : Stop)
  deriving DecidableEq

/-- **Read a text**, with the limits of the reader. -/
def decode (L : Limits) (t : List Char) : Except Failure Json :=
  match firstStop L [] t with
  | some stop => .error (.stopped stop)
  | none =>
    match loads t with
    | some document => .ok document
    | none => .error .malformed

/-- **A text is within the limits**: nothing in it makes the reader give up. -/
def Within (L : Limits) (t : List Char) : Prop := ∀ u v, u ++ v = t → stop? L u v = none

variable {L : Limits} {t rest : List Char} {d : Json}

theorem startsTooLong_nil : startsTooLong L [] = false := by
  rw [startsTooLong]
  cases L.digits <;> rfl

theorem firstStop_eq_none_iff (u v : List Char) :
    firstStop L u v = none ↔ ∀ v₁ v₂, v₁ ++ v₂ = v → stop? L (u ++ v₁) v₂ = none := by
  have hend (u : List Char) : stop? L u [] = none := by
    rw [stop?, startsTooLong_nil]
    simp
  induction v generalizing u with
  | nil =>
    refine iff_of_true rfl fun v₁ v₂ h => ?_
    obtain ⟨rfl, rfl⟩ := List.append_eq_nil_iff.mp h
    rw [List.append_nil]
    exact hend u
  | cons c v ih =>
    rw [firstStop, Option.or_eq_none_iff]
    refine (and_congr_right' (ih (u ++ [c]))).trans ⟨?_, ?_⟩
    · rintro ⟨hhere, hlater⟩ v₁ v₂ h
      cases v₁ with
      | nil =>
        obtain rfl : v₂ = c :: v := h
        rwa [List.append_nil]
      | cons c' v₁ =>
        obtain ⟨rfl, htail⟩ := List.cons.inj h
        have hthere := hlater v₁ v₂ htail
        rwa [List.append_assoc] at hthere
    · intro h
      refine ⟨?_, fun v₁ v₂ hv => ?_⟩
      · have hhere := h [] (c :: v) rfl
        rwa [List.append_nil] at hhere
      · rw [List.append_assoc]
        exact h (c :: v₁) v₂ (by rw [← hv]; rfl)

/-- **What a reader with limits returns**: the document of a text within them. -/
theorem decode_eq_ok : decode L t = .ok d ↔ Within L t ∧ loads t = some d := by
  have hwithin : firstStop L [] t = none ↔ Within L t := firstStop_eq_none_iff [] t
  rw [← hwithin, decode]
  cases firstStop L [] t with
  | some stop => exact iff_of_false nofun fun h => by cases h.1
  | none =>
    cases loads t with
    | some document => exact ⟨fun h => ⟨rfl, congrArg some (Except.ok.inj h)⟩,
        fun h => congrArg Except.ok (Option.some.inj h.2)⟩
    | none => exact iff_of_false nofun fun h => by cases h.2

/-- A text that is a document but not within the limits is given up for one of them. -/
theorem decode_eq_stopped (h : ¬Within L t) : ∃ stop, decode L t = .error (.stopped stop) := by
  have hstop : firstStop L [] t ≠ none := fun hc => h ((firstStop_eq_none_iff [] t).mp hc)
  obtain ⟨stop, hstop⟩ := Option.ne_none_iff_exists'.mp hstop
  exact ⟨stop, by rw [decode, hstop]⟩

-- the array is not closed, but its second item is too long
example : decode ⟨some 3, 2⟩ ['[', '1', ',', '2', '3', '4', '5'] = .error (.stopped .tooLong) := by
  rfl

-- where the item is too long a comma is expected
example : decode ⟨some 3, 2⟩ ['[', '1', ' ', '2', '3', '4', '5'] = .error .malformed := by rfl

/-! ### Texts that are gone through -/

/-- From a place on, nothing in a text can make a reader give up. -/
def Calm (L : Limits) (rest : List Char) : Scan → List Char → Prop
  | _, [] => True
  | s, c :: t =>
    (s.lexing = .between → startsTooLong L (c :: t ++ rest) = false ∧
      (opens c = true → s.closers.length < L.depth)) ∧ Calm L rest (s.next c) t

theorem calm_append {w t : List Char} {s : Scan} : Calm L rest s (w ++ t) ↔
    Calm L (t ++ rest) s w ∧ Calm L rest (w.foldl Scan.next s) t := by
  induction w generalizing s with
  | nil => exact ⟨fun h => ⟨trivial, h⟩, And.right⟩
  | cons c w ih =>
    rw [List.cons_append, Calm, Calm, ih, List.foldl_cons, and_assoc]
    simp only [List.cons_append, List.append_assoc]

/-- A text nothing in which can make a reader give up is within its limits. -/
theorem within_of_calm (h : Calm L [] ⟨.between, []⟩ t) : Within L t := by
  rintro u v rfl
  have hcalm : Calm L [] (scan u) v := (calm_append.mp h).2
  rw [stop?]
  by_cases hexpects : expects u = false
  · rw [if_pos hexpects]
  have hbetween : (scan u).lexing = .between := by
    rw [Bool.not_eq_false, expects, Bool.and_eq_true] at hexpects
    exact eq_of_beq hexpects.1
  rw [if_neg hexpects]
  cases v with
  | nil => simp [startsTooLong_nil]
  | cons c v =>
    obtain ⟨hshort, hflat⟩ := hcalm.1 hbetween
    rw [List.append_nil] at hshort
    have hflat' : ¬((c :: v).head?.any opens = true ∧ L.depth ≤ (scan u).closers.length) :=
      fun hc => not_lt_of_ge hc.2 (hflat hc.1)
    rw [hshort, if_neg (by decide), if_neg hflat']

/-- A text stays in a string. -/
def StaysInString (w : List Char) : Prop := ∀ (L : Limits) (rest : List Char) (closers : List Char),
  Calm L rest ⟨.inString, closers⟩ w ∧
    w.foldl Scan.next ⟨.inString, closers⟩ = ⟨.inString, closers⟩

theorem StaysInString.append {w w' : List Char} (h : StaysInString w) (h' : StaysInString w') :
    StaysInString (w ++ w') := by
  intro L rest closers
  obtain ⟨hcalm, hplace⟩ := h L (w' ++ rest) closers
  obtain ⟨hcalm', hplace'⟩ := h' L rest closers
  rw [calm_append, List.foldl_append, hplace]
  exact ⟨⟨hcalm, hcalm'⟩, hplace'⟩

theorem staysInString_plain {c : Char} (hquote : c ≠ '"') (hslash : c ≠ '\\') :
    StaysInString [c] := by
  intro L rest closers
  refine ⟨⟨nofun, trivial⟩, ?_⟩
  rw [List.foldl_cons, List.foldl_nil, Scan.next]
  dsimp only
  rw [if_neg hquote, if_neg hslash]

theorem staysInString_escape (c : Char) : StaysInString ['\\', c] :=
  fun _ _ _ => ⟨⟨nofun, nofun, trivial⟩, rfl⟩

theorem staysInString_unicodeEscape (n : ℕ) : StaysInString (unicodeEscape n) := by
  have hdigit : ∀ k < 16, hexDigit k ≠ '"' ∧ hexDigit k ≠ '\\' := by decide
  have hplain (k : ℕ) : StaysInString [hexDigit (k % 16)] :=
    staysInString_plain (hdigit _ (Nat.mod_lt _ (by decide))).1
      (hdigit _ (Nat.mod_lt _ (by decide))).2
  exact (staysInString_escape 'u').append
    ((hplain _).append ((hplain _).append ((hplain _).append (hplain _))))

theorem staysInString_encodeChar (c : Char) : StaysInString (encodeChar c) := by
  have hforms := encodedChar c
  generalize encodeChar c = encoded at hforms
  cases hforms with
  | short => exact staysInString_escape _
  | plain hquote hslash => exact staysInString_plain hquote hslash
  | unit => exact staysInString_unicodeEscape _
  | pair => exact (staysInString_unicodeEscape _).append (staysInString_unicodeEscape _)

/-- **A text is gone through**: a reader does not give up in it, and comes out of it where it
went in, in so many arrays and objects. -/
def Passes (L : Limits) (k : ℕ) (w rest : List Char) : Prop := ∀ closers : List Char,
  closers.length = k → Calm L rest ⟨.between, closers⟩ w ∧
    w.foldl Scan.next ⟨.between, closers⟩ = ⟨.between, closers⟩

/-- A text is gone through and closes what it is in. -/
def Closes (L : Limits) (k : ℕ) (w rest : List Char) : Prop := ∀ (b : Char) (closers : List Char),
  closers.length = k → Calm L rest ⟨.between, b :: closers⟩ w ∧
    w.foldl Scan.next ⟨.between, b :: closers⟩ = ⟨.between, closers⟩

variable {k : ℕ} {w w' : List Char}

theorem Passes.append (h : Passes L k w (w' ++ rest)) (h' : Passes L k w' rest) :
    Passes L k (w ++ w') rest := by
  intro closers hlength
  obtain ⟨hcalm, hplace⟩ := h closers hlength
  rw [calm_append, List.foldl_append, hplace]
  exact ⟨⟨hcalm, (h' closers hlength).1⟩, (h' closers hlength).2⟩

theorem Passes.closes (h : Passes L (k + 1) w (w' ++ rest)) (h' : Closes L k w' rest) :
    Closes L k (w ++ w') rest := by
  intro b closers hlength
  obtain ⟨hcalm, hplace⟩ := h (b :: closers) (congrArg (· + 1) hlength)
  rw [calm_append, List.foldl_append, hplace]
  exact ⟨⟨hcalm, (h' b closers hlength).1⟩, (h' b closers hlength).2⟩

/-- A character that opens and closes nothing is gone by, if no number too long starts there. -/
theorem Passes.cons {c : Char} (hflat : c ≠ '"' ∧ c ≠ '[' ∧ c ≠ '{' ∧ c ≠ ']' ∧ c ≠ '}')
    (hshort : startsTooLong L (c :: w ++ rest) = false) (h : Passes L k w rest) :
    Passes L k (c :: w) rest := by
  intro closers hlength
  obtain ⟨hquote, hbracket, hbrace, hbracket', hbrace'⟩ := hflat
  have hnext : Scan.next ⟨.between, closers⟩ c = ⟨.between, closers⟩ := by
    rw [Scan.next]
    dsimp only
    rw [if_neg hquote, if_neg hbracket, if_neg hbrace, if_neg (by simp [hbracket', hbrace'])]
  have hopens : opens c = false := by
    rw [opens, beq_eq_false_iff_ne.mpr hbracket, beq_eq_false_iff_ne.mpr hbrace]
    rfl
  obtain ⟨hcalm, hplace⟩ := h closers hlength
  rw [Calm, List.foldl_cons, hnext]
  refine ⟨⟨fun _ => ⟨hshort, fun hc => ?_⟩, hcalm⟩, hplace⟩
  rw [hopens] at hc
  cases hc

/-- No number starts with another character. -/
theorem startsTooLong_eq_false {c : Char} (hdigit : c.isDigit = false) (hminus : c ≠ '-')
    (t : List Char) : startsTooLong L (c :: t) = false := by
  have hsame : dropMinus (c :: t) = c :: t := by
    rw [dropMinus.eq_def]
    split
    · next hc => exact absurd (List.cons.inj hc).1 hminus
    · rfl
  rw [startsTooLong, hsame, List.takeWhile_cons, hdigit]
  cases L.digits <;> rfl

/-- The characters that say neither where a number starts nor where something opens or closes. -/
def isFiller (c : Char) : Bool :=
  !(c.isDigit || c == '-' || c == '"' || c == '[' || c == '{' || c == ']' || c == '}')

theorem passes_filler (h : w.all isFiller = true) : Passes L k w rest := by
  induction w with
  | nil => exact fun _ _ => ⟨trivial, rfl⟩
  | cons c w ih =>
    obtain ⟨hc, hw⟩ := Bool.and_eq_true_iff.mp h
    simp only [isFiller, Bool.not_eq_true', Bool.or_eq_false_iff, beq_eq_false_iff_ne] at hc
    obtain ⟨⟨⟨⟨⟨⟨hdigit, hminus⟩, hquote⟩, hbracket⟩, hbrace⟩, hbracket'⟩, hbrace'⟩ := hc
    exact Passes.cons ⟨hquote, hbracket, hbrace, hbracket', hbrace'⟩
      (startsTooLong_eq_false hdigit hminus _) (ih hw)

/-! ### Numbers -/

/-- No more digits come together than there are characters, if none follows. -/
theorem length_takeWhile_append_le {p : Char → Bool} (h : rest.takeWhile p = []) :
    ((w ++ rest).takeWhile p).length ≤ w.length := by
  induction w with
  | nil => rw [List.nil_append, h]
  | cons c w ih =>
    rw [List.cons_append, List.takeWhile_cons]
    split
    · exact Nat.succ_le_succ ih
    · exact Nat.zero_le _

theorem takeWhile_isDigit_of_stops (h : Stops rest) : rest.takeWhile Char.isDigit = [] := by
  cases rest with
  | nil => rfl
  | cons c rest =>
    rw [List.takeWhile_cons]
    split
    · next hdigit =>
      rw [Stops, List.takeWhile_cons, if_pos (isNumberChar_of_isDigit hdigit)] at h
      cases h
    · rfl

/-- A short token starts no integer of too many digits. -/
theorem startsTooLong_token (hlength : ∀ n ∈ L.digits, w.length ≤ n) (h : Stops rest) :
    startsTooLong L (w ++ rest) = false := by
  have hrest := takeWhile_isDigit_of_stops h
  have hshort : ((dropMinus (w ++ rest)).takeWhile Char.isDigit).length ≤ w.length := by
    rw [dropMinus.eq_def]
    split
    · next t ht =>
      cases w with
      | nil =>
        -- what follows starts with no sign
        rw [List.nil_append] at ht
        rw [ht, Stops] at h
        cases h
      | cons c w =>
        obtain ⟨-, rfl⟩ := List.cons.inj ht
        exact (length_takeWhile_append_le hrest).trans (Nat.le_succ _)
    · exact length_takeWhile_append_le hrest
  rw [startsTooLong]
  cases hdigits : L.digits with
  | none => rfl
  | some n =>
    have hle : ¬n < ((dropMinus (w ++ rest)).takeWhile Char.isDigit).length :=
      not_lt_of_ge (hshort.trans (hlength n hdigits))
    rw [Option.any_some, decide_eq_false hle]
    rfl

theorem not_bracket_of_isNumberChar {c : Char} (h : isNumberChar c = true) :
    c ≠ '"' ∧ c ≠ '[' ∧ c ≠ '{' ∧ c ≠ ']' ∧ c ≠ '}' := by
  refine ⟨?_, ?_, ?_, ?_, ?_⟩ <;>
  · rintro rfl
    cases h

/-- A short token of a number is gone through. -/
theorem passes_token (hw : ∀ c ∈ w, isNumberChar c = true)
    (hlength : ∀ n ∈ L.digits, w.length ≤ n) (h : Stops rest) : Passes L k w rest := by
  induction w with
  | nil => exact fun _ _ => ⟨trivial, rfl⟩
  | cons c w ih =>
    exact Passes.cons (not_bracket_of_isNumberChar (hw c List.mem_cons_self))
      (startsTooLong_token hlength h) (ih (fun c' hc' => hw c' (List.mem_cons_of_mem _ hc'))
        fun n hn => (Nat.le_succ _).trans (hlength n hn))

/-! ### Strings, and what is around them -/

theorem passes_encodeString (s : String) : Passes L k (encodeString s) rest := by
  intro closers _
  have hchars : ∀ cs : List Char, Calm L rest ⟨.inString, closers⟩ (encodeChars cs) ∧
      (encodeChars cs).foldl Scan.next ⟨.inString, closers⟩ = ⟨.between, closers⟩ := by
    intro cs
    induction cs with
    | nil => exact ⟨⟨(fun hc => by cases hc), trivial⟩, rfl⟩
    | cons c cs ih =>
      obtain ⟨hcalm, hplace⟩ := staysInString_encodeChar c L (encodeChars cs ++ rest) closers
      rw [encodeChars, calm_append, List.foldl_append, hplace]
      exact ⟨⟨hcalm, ih.1⟩, ih.2⟩
  obtain ⟨hcalm, hplace⟩ := hchars s.toList
  refine ⟨⟨fun _ => ⟨startsTooLong_eq_false (by decide) (by decide) _,
    fun hc => absurd hc (by decide)⟩, hcalm⟩, hplace⟩

theorem closes_bracket {c : Char} (h : c = ']' ∨ c = '}') : Closes L k [c] rest := by
  intro b closers _
  rcases h with rfl | rfl
  · exact ⟨⟨fun _ => ⟨startsTooLong_eq_false (by decide) (by decide) _, nofun⟩, trivial⟩, rfl⟩
  · exact ⟨⟨fun _ => ⟨startsTooLong_eq_false (by decide) (by decide) _, nofun⟩, trivial⟩, rfl⟩

/-- What opens and is closed is gone through, if it does not lie too deep. -/
theorem passes_open {c : Char} (hc : c = '[' ∨ c = '{') (hdepth : k < L.depth)
    (h : Closes L k w rest) : Passes L k (c :: w) rest := by
  rintro closers rfl
  rcases hc with rfl | rfl
  · obtain ⟨hcalm, hplace⟩ := h ']' closers rfl
    exact ⟨⟨fun _ => ⟨startsTooLong_eq_false (by decide) (by decide) _, fun _ => hdepth⟩, hcalm⟩,
      hplace⟩
  · obtain ⟨hcalm, hplace⟩ := h '}' closers rfl
    exact ⟨⟨fun _ => ⟨startsTooLong_eq_false (by decide) (by decide) _, fun _ => hdepth⟩, hcalm⟩,
      hplace⟩

/-! ### Documents that fit -/

mutual

/-- A document in so many arrays and objects fits a reader. -/
def fits (L : Limits) (k : ℕ) : Json → Bool
  | int n => L.digits.all ((intText n).length ≤ ·)
  | float x => L.digits.all (x.1.length ≤ ·)
  | arr items => k < L.depth && fitsItems L (k + 1) items
  | obj fields => k < L.depth && fitsFields L (k + 1) fields
  | _ => true

def fitsItems (L : Limits) (k : ℕ) : List Json → Bool
  | [] => true
  | x :: xs => fits L k x && fitsItems L k xs

def fitsFields (L : Limits) (k : ℕ) : List (String × Json) → Bool
  | [] => true
  | (_, v) :: fs => fits L k v && fitsFields L k fs

end

theorem length_le_of_all (h : L.digits.all (w.length ≤ ·) = true) :
    ∀ n ∈ L.digits, w.length ≤ n :=
  fun n hn => of_decide_eq_true ((Option.all_eq_true _ _).mp h n hn)

/-- A single character between what is read. -/
theorem Closes.filler {c : Char} (h : Closes L k w rest) (hc : isFiller c = true) :
    Closes L k (c :: w) rest :=
  Passes.closes (passes_filler (w := [c]) (by simp [hc])) h

mutual

/-- **The text of a document that fits is gone through.** -/
theorem passes_encode : ∀ (d : Json) (k : ℕ) (rest : List Char), fits L k d = true →
    Stops rest → Passes L k (encode d) rest
  | null, _, _, _, _ => passes_filler rfl
  | bool true, _, _, _, _ => passes_filler rfl
  | bool false, _, _, _, _ => passes_filler rfl
  | int n, _, _, hd, h =>
    passes_token (List.all_eq_true.mp (all_isNumberChar_intText n)) (length_le_of_all hd) h
  | float x, _, _, hd, h =>
    passes_token (List.all_eq_true.mp (all_isNumberChar_of_isFloatText x.2))
      (length_le_of_all hd) h
  | str s, _, _, _, _ => passes_encodeString s
  | arr [], k, rest, hd, _ => by
    rw [fits, Bool.and_eq_true, decide_eq_true_eq] at hd
    exact passes_open (.inl rfl) hd.1 (closes_bracket (.inl rfl))
  | arr (x :: xs), k, rest, hd, _ => by
    rw [fits, fitsItems, Bool.and_eq_true, Bool.and_eq_true, decide_eq_true_eq] at hd
    have hx := passes_encode x (k + 1) (encodeItems xs ++ rest) hd.2.1 (stops_encodeItems xs rest)
    rw [encode]
    exact passes_open (.inl rfl) hd.1 (hx.closes (closes_encodeItems xs k rest hd.2.2))
  | obj [], k, rest, hd, _ => by
    rw [fits, Bool.and_eq_true, decide_eq_true_eq] at hd
    exact passes_open (.inr rfl) hd.1 (closes_bracket (.inr rfl))
  | obj ((key, v) :: fs), k, rest, hd, _ => by
    rw [fits, fitsFields, Bool.and_eq_true, Bool.and_eq_true, decide_eq_true_eq] at hd
    have hv := passes_encode v (k + 1) (encodeFields fs ++ rest) hd.2.1 (stops_encodeFields fs rest)
    have hfields := (hv.closes (closes_encodeFields fs k rest hd.2.2)).filler (c := ':') rfl
    rw [encode]
    exact passes_open (.inr rfl) hd.1 ((passes_encodeString key).closes hfields)

theorem closes_encodeItems : ∀ (xs : List Json) (k : ℕ) (rest : List Char),
    fitsItems L (k + 1) xs = true → Closes L k (encodeItems xs) rest
  | [], _, _, _ => closes_bracket (.inl rfl)
  | x :: xs, k, rest, hd => by
    rw [fitsItems, Bool.and_eq_true] at hd
    have hx := passes_encode x (k + 1) (encodeItems xs ++ rest) hd.1 (stops_encodeItems xs rest)
    rw [encodeItems]
    exact (hx.closes (closes_encodeItems xs k rest hd.2)).filler rfl

theorem closes_encodeFields : ∀ (fs : List (String × Json)) (k : ℕ) (rest : List Char),
    fitsFields L (k + 1) fs = true → Closes L k (encodeFields fs) rest
  | [], _, _, _ => closes_bracket (.inr rfl)
  | (key, v) :: fs, k, rest, hd => by
    rw [fitsFields, Bool.and_eq_true] at hd
    have hv := passes_encode v (k + 1) (encodeFields fs ++ rest) hd.1 (stops_encodeFields fs rest)
    have hfields := (hv.closes (closes_encodeFields fs k rest hd.2)).filler (c := ':') rfl
    rw [encodeFields]
    exact ((passes_encodeString key).closes hfields).filler rfl

end

theorem passes_newline (level : ℕ) : Passes L k (newline level) rest := by
  refine passes_filler (List.all_eq_true.mpr fun c hc => ?_)
  rcases List.mem_cons.mp hc with rfl | hc
  · rfl
  · rw [List.eq_of_mem_replicate hc]
    rfl

mutual

/-- **The indented text of a document that fits is gone through.** -/
theorem passes_indented : ∀ (d : Json) (level k : ℕ) (rest : List Char), fits L k d = true →
    Stops rest → Passes L k (indented level d) rest
  | null, _, k, rest, hd, h => passes_encode null k rest hd h
  | bool b, _, k, rest, hd, h => passes_encode (bool b) k rest hd h
  | int n, _, k, rest, hd, h => passes_encode (int n) k rest hd h
  | float x, _, k, rest, hd, h => passes_encode (float x) k rest hd h
  | str s, _, k, rest, hd, h => passes_encode (str s) k rest hd h
  | arr [], _, k, rest, hd, h => passes_encode (arr []) k rest hd h
  | obj [], _, k, rest, hd, h => passes_encode (obj []) k rest hd h
  | arr (x :: xs), level, k, rest, hd, _ => by
    rw [fits, fitsItems, Bool.and_eq_true, Bool.and_eq_true, decide_eq_true_eq] at hd
    have hx := passes_indented x (level + 1) (k + 1) (indentedItems level xs ++ rest) hd.2.1
      (stops_indentedItems level xs rest)
    rw [indented]
    exact passes_open (.inl rfl) hd.1 ((passes_newline (level + 1)).closes
      (hx.closes (closes_indentedItems xs level k rest hd.2.2)))
  | obj ((key, v) :: fs), level, k, rest, hd, _ => by
    rw [fits, fitsFields, Bool.and_eq_true, Bool.and_eq_true, decide_eq_true_eq] at hd
    have hv := passes_indented v (level + 1) (k + 1) (indentedFields level fs ++ rest) hd.2.1
      (stops_indentedFields level fs rest)
    have hfields := ((hv.closes (closes_indentedFields fs level k rest hd.2.2)).filler
      (c := ' ') rfl).filler (c := ':') rfl
    rw [indented]
    exact passes_open (.inr rfl) hd.1 ((passes_newline (level + 1)).closes
      ((passes_encodeString key).closes hfields))

theorem closes_indentedItems : ∀ (xs : List Json) (level k : ℕ) (rest : List Char),
    fitsItems L (k + 1) xs = true → Closes L k (indentedItems level xs) rest
  | [], level, _, _, _ => (passes_newline level).closes (closes_bracket (.inl rfl))
  | x :: xs, level, k, rest, hd => by
    rw [fitsItems, Bool.and_eq_true] at hd
    have hx := passes_indented x (level + 1) (k + 1) (indentedItems level xs ++ rest) hd.1
      (stops_indentedItems level xs rest)
    rw [indentedItems]
    exact ((passes_newline (level + 1)).closes
      (hx.closes (closes_indentedItems xs level k rest hd.2))).filler rfl

theorem closes_indentedFields : ∀ (fs : List (String × Json)) (level k : ℕ) (rest : List Char),
    fitsFields L (k + 1) fs = true → Closes L k (indentedFields level fs) rest
  | [], level, _, _, _ => (passes_newline level).closes (closes_bracket (.inr rfl))
  | (key, v) :: fs, level, k, rest, hd => by
    rw [fitsFields, Bool.and_eq_true] at hd
    have hv := passes_indented v (level + 1) (k + 1) (indentedFields level fs ++ rest) hd.1
      (stops_indentedFields level fs rest)
    have hfields := ((hv.closes (closes_indentedFields fs level k rest hd.2)).filler
      (c := ' ') rfl).filler (c := ':') rfl
    rw [indentedFields]
    exact ((passes_newline (level + 1)).closes
      ((passes_encodeString key).closes hfields)).filler rfl

end

/-- A text that is gone through, with white space after it, is within the limits. -/
theorem within_of_passes (h : Passes L 0 w t) (ht : t.all isSpace = true) :
    Within L (w ++ t) := by
  have hfiller : t.all isFiller = true := by
    refine List.all_eq_true.mpr fun c hc => ?_
    have hspace := List.all_eq_true.mp ht c hc
    simp only [isSpace, Bool.or_eq_true, beq_iff_eq] at hspace
    rcases hspace with ((rfl | rfl) | rfl) | rfl <;> rfl
  have hboth : Passes L 0 (w ++ t) [] :=
    Passes.append ((List.append_nil t).symm ▸ h) (passes_filler hfiller)
  exact within_of_calm (hboth [] rfl).1

/-- **A document that fits is read from its text.** -/
theorem decode_encode (hd : d.ordered = true) (hfits : fits L 0 d = true) :
    decode L (encode d) = .ok d := by
  have hwithin := within_of_passes (t := []) (passes_encode d 0 [] hfits stops_nil) rfl
  rw [List.append_nil] at hwithin
  exact decode_eq_ok.mpr ⟨hwithin, loads_encode hd⟩

/-- **A document that fits is read from its indented text**, and the new line after it. -/
theorem decode_indented (hd : d.ordered = true) (hfits : fits L 0 d = true) :
    decode L (indented 0 d ++ ['\n']) = .ok d := by
  have hstops : Stops ['\n'] := stops_cons (by decide)
  have hwithin := within_of_passes (passes_indented d 0 0 ['\n'] hfits hstops) rfl
  exact decode_eq_ok.mpr ⟨hwithin, loads_indented hd rfl hstops⟩

end Json
