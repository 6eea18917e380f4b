import Mathlib.Data.String.Basic
import PrinterHmi.Lib.Checks
import PrinterHmi.Lib.JsonText
import PrinterHmi.Platform

/-!
# What the modules share on the wire

The enrollment store, the transport, the receiver and the relay configuration
each carry their own copy of a few helpers: the canonical JSON bytes a signature
covers, the unpadded URL-safe base 64 of keys, nonces and signatures, the device
identifier derived from a public key, the canonical UUID test, the timestamp
reader, and the patterns of identifiers. The copies have the same text and differ
only in the exception they raise, so each is one definition here, the exception
being an argument; the modules fix it.
-/

namespace PrinterHmi

/-! ### Bytes and base 64 -/

/-- `_canonical`: the bytes a signature covers. -/
def canonical (document : Json) : Bytes := utf8 (String.ofList document.encode)

/-- `_b64encode`, `_encode`. -/
def b64encode (value : Bytes) : String := String.ofList (Base64.encode value)

/-- `_b64decode`, `_decode`, on a text. -/
def b64decodeText (e : Exn) (value : String) : Except Exn Bytes :=
  match Base64.decode (Base64.pad value.toList) with
  | some b => .ok b
  | none => .error e

/-- `_b64decode`, `_decode`, raising `e` on anything that is not encoded text. -/
def b64decode (e : Exn) (value : Json) : Except Exn Bytes :=
  match value with
  | .str text => b64decodeText e text
  | _ => .error e

@[simp] theorem b64decodeText_b64encode (e : Exn) (b : Bytes) :
    b64decodeText e (b64encode b) = .ok b := by
  rw [b64decodeText, b64encode, String.toList_ofList, Base64.decode_encode]

@[simp] theorem b64decode_str_b64encode (e : Exn) (b : Bytes) :
    b64decode e (.str (b64encode b)) = .ok b :=
  b64decodeText_b64encode e b

theorem raises_b64decodeText {E : Exn → Prop} {e : Exn} (he : E e) (s : String) :
    (b64decodeText e s).Raises E := by
  rw [b64decodeText]
  cases Base64.decode (Base64.pad s.toList) with
  | some b => exact Except.raises_ok b
  | none => exact Except.raises_error_iff.mpr he

theorem raises_b64decode {E : Exn → Prop} {e : Exn} (he : E e) (v : Json) :
    (b64decode e v).Raises E := by
  cases v with
  | str s => exact raises_b64decodeText he s
  | _ => exact Except.raises_error_iff.mpr he

theorem raises_keyBytes {E : Exn → Prop} {e : Exn} (he : E e) (b : Bytes) :
    (keyBytes e b).Raises E := by
  rw [keyBytes]
  cases bytes32? b with
  | some k => exact Except.raises_ok k
  | none => exact Except.raises_error_iff.mpr he

theorem raises_signatureBytes {E : Exn → Prop} {e : Exn} (he : E e) (b : Bytes) :
    (signatureBytes e b).Raises E := by
  rw [signatureBytes]
  cases signature? b with
  | some s => exact Except.raises_ok s
  | none => exact Except.raises_error_iff.mpr he

theorem b64encode_injective {b b' : Bytes} (h : b64encode b = b64encode b') : b = b' :=
  Base64.encode_injective (String.ofList_injective h)

/-- What a decoder returned is what the base-64 decoder gave for the padded text. -/
theorem decode_of_b64decodeText {e : Exn} {s : String} {b : Bytes}
    (h : b64decodeText e s = .ok b) : Base64.decode (Base64.pad s.toList) = some b := by
  rw [b64decodeText] at h
  cases hd : Base64.decode (Base64.pad s.toList) with
  | some _ =>
    rw [hd] at h
    exact congrArg some (Except.ok.inj h)
  | none =>
    rw [hd] at h
    cases h

/-- **Which text is the encoding of what it decodes to.** -/
theorem eq_b64encode_iff {e : Exn} {s : String} {b : Bytes} (h : b64decodeText e s = .ok b) :
    s = b64encode b ↔ Base64.Plain s.toList ∧ Base64.SpareZero s.toList := by
  rw [← Base64.eq_encode_iff (decode_of_b64decodeText h), b64encode]
  constructor
  · intro hs
    rw [hs, String.toList_ofList]
  · intro hs
    rw [← hs, String.ofList_toList]

/-- What decodes was a text. -/
theorem b64decode_eq_ok {e : Exn} {v : Json} {b : Bytes} (h : b64decode e v = .ok b) :
    ∃ s, v = .str s ∧ b64decodeText e s = .ok b := by
  cases v with
  | str s => exact ⟨s, rfl, h⟩
  | _ => cases h

/-- Whether a text decodes, and to what, does not depend on the exception. -/
theorem b64decodeText_eq_ok {e e' : Exn} {s : String} {b : Bytes}
    (h : b64decodeText e s = .ok b) : b64decodeText e' s = .ok b := by
  rw [b64decodeText, decode_of_b64decodeText h]

/-- Whether a value decodes, and to what, does not depend on the exception. -/
theorem b64decode_congr {e e' : Exn} {v : Json} {b : Bytes} (h : b64decode e v = .ok b) :
    b64decode e' v = .ok b := by
  obtain ⟨s, rfl, hs⟩ := b64decode_eq_ok h
  exact b64decodeText_eq_ok hs

/-- **The canonical bytes determine the document.** -/
theorem canonical_injective {d d' : Json} (hd : d.ordered = true) (hd' : d'.ordered = true)
    (h : canonical d = canonical d') : d = d' :=
  Json.encode_injective hd hd' (String.ofList_injective (utf8_injective h))

/-! ### Identifiers -/

section Ids

variable (P : Platform)

/-- The prefix of device identifiers, `phm_`. -/
def deviceIdPrefix : List Char := ['p', 'h', 'm', '_']

/-- `_device_id`: the prefix `phm_` and the first 26 base-32 digits of the digest
of a public key. -/
def deviceId (publicKey : Bytes) : String :=
  String.ofList (deviceIdPrefix ++ (Base32.encode (P.sha256 publicKey)).take 26)

/-- `_fingerprint`: the first sixteen bytes of the digest, in hexadecimal. -/
def fingerprint (publicKey : Bytes) : String :=
  String.ofList (((P.sha256 publicKey).take 16).map hexByte |>.intersperse [':'] |>.flatten)

end Ids

/-- Every character of a text is of a kind, and there are between `lo` and `hi` of
them. -/
def matchesClass (p : Char → Bool) (lo hi : ℕ) (t : List Char) : Bool :=
  decide (lo ≤ t.length) && decide (t.length ≤ hi) && t.all p

/-- The characters of identifiers, `[A-Za-z0-9._-]`. -/
def isIdentifierChar (c : Char) : Bool := c.isAlphanum || c == '.' || c == '_' || c == '-'

/-- `RELAY_ID_PATTERN.fullmatch`. -/
def relayIdPattern (s : String) : Bool := matchesClass isIdentifierChar 1 64 s.toList

/-- `PEER_ID_PATTERN.fullmatch`. -/
def peerIdPattern (s : String) : Bool := matchesClass isIdentifierChar 1 64 s.toList

/-- `DEVICE_ID_PATTERN.fullmatch`. -/
def deviceIdPattern (s : String) : Bool :=
  s.toList.take 4 == deviceIdPrefix &&
    matchesClass (· ∈ Base32.alphabet) 26 26 (s.toList.drop 4)

/-- `PUBLIC_KEY_PATTERN.fullmatch`. -/
def publicKeyPattern (s : String) : Bool := matchesClass (· ∈ Base64.alphabet) 43 43 s.toList

theorem deviceIdPattern_deviceId (P : Platform) (publicKey : Bytes) :
    deviceIdPattern (deviceId P publicKey) = true := by
  have hlen : ((Base32.encode (P.sha256 publicKey)).take 26).length = 26 := by
    rw [List.length_take, Base32.length_encode, P.length_sha256]
    decide
  have hpre : deviceIdPrefix.length = 4 := rfl
  have htake : (deviceId P publicKey).toList.take 4 = deviceIdPrefix := by
    rw [deviceId, String.toList_ofList, List.take_left' hpre]
  have hdrop : (deviceId P publicKey).toList.drop 4 =
      (Base32.encode (P.sha256 publicKey)).take 26 := by
    rw [deviceId, String.toList_ofList, List.drop_left' hpre]
  rw [deviceIdPattern, htake, hdrop, matchesClass, hlen]
  have hall : ((Base32.encode (P.sha256 publicKey)).take 26).all (· ∈ Base32.alphabet) = true :=
    List.all_eq_true.mpr fun c hc =>
      decide_eq_true (Base32.encode_mem (List.mem_of_mem_take hc))
  simp [hall]

theorem publicKeyPattern_b64encode (k : Bytes32) : publicKeyPattern (b64encode k.1) = true := by
  have hlen : (Base64.encode k.1).length = 43 := by rw [Base64.length_encode, k.2]
  have hall : (Base64.encode k.1).all (· ∈ Base64.alphabet) = true :=
    List.all_eq_true.mpr fun c hc => decide_eq_true (Base64.encode_mem hc)
  rw [publicKeyPattern, b64encode, String.toList_ofList, matchesClass, hlen, hall]
  rfl

/-- A member that must be a text of a certain form: `isinstance(value, str)` and
`pattern.fullmatch(value)`, or `e` is raised. -/
def patternText (e : Exn) (pattern : String → Bool) (value : Json) : Except Exn String :=
  match value with
  | .str s => if pattern s then .ok s else .error e
  | _ => .error e

theorem patternText_eq_ok {e : Exn} {pattern : String → Bool} {v : Json} {s : String} :
    patternText e pattern v = .ok s ↔ v = .str s ∧ pattern s = true := by
  cases v with
  | str t =>
    rw [patternText]
    split_ifs with h
    · constructor
      · rintro ⟨⟩
        exact ⟨rfl, h⟩
      · rintro ⟨⟨⟩, -⟩
        rfl
    · constructor
      · intro hc
        cases hc
      · rintro ⟨⟨⟩, hc⟩
        exact absurd hc h
  | _ => simp [patternText]

theorem raises_patternText {E : Exn → Prop} {e : Exn} (he : E e) (pattern : String → Bool)
    (v : Json) : (patternText e pattern v).Raises E := by
  cases v with
  | str s =>
    rw [patternText]
    split_ifs
    · exact Except.raises_ok s
    · exact Except.raises_error_iff.mpr he
  | _ => exact Except.raises_error_iff.mpr he

/-! ### UUIDs -/

/-- The text is a canonical UUID, `8-4-4-4-12` lower-case hexadecimal digits. -/
def isUuidText (s : String) : Bool :=
  s.toList.length == 36 &&
    s.toList.zipIdx.all fun ⟨c, i⟩ => if i ∈ [8, 13, 18, 23] then c == '-' else c ∈ hexAlphabet

/-- A UUID, as `str(uuid.uuid4())` writes it. -/
abbrev Uuid := { s : String // isUuidText s = true }

instance : Inhabited Uuid := ⟨"00000000-0000-4000-8000-000000000000", by decide⟩

theorem length_uuid (u : Uuid) : u.1.toList.length = 36 := by
  have huuid := u.2
  rw [isUuidText, Bool.and_eq_true, beq_iff_eq] at huuid
  exact huuid.1

/-- `uuid.UUID(value)` followed by `str(parsed) != value`: the value is the
canonical text of a UUID, or `e` is raised. -/
def uuidText (e : Exn) (value : Json) : Except Exn String := patternText e isUuidText value

theorem uuidText_eq_ok {e : Exn} {v : Json} {s : String} :
    uuidText e v = .ok s ↔ v = .str s ∧ isUuidText s = true :=
  patternText_eq_ok

@[simp] theorem uuidText_uuid (e : Exn) (u : Uuid) : uuidText e (.str u.1) = .ok u.1 :=
  uuidText_eq_ok.mpr ⟨rfl, u.2⟩

/-! ### Timestamps -/

section Timestamps

variable (P : Platform)

/-- `value.endswith("Z")`, with `value[:-1] + "+00:00"`. -/
def zuluText? (value : String) : Option String :=
  if value.toList.getLast? = some 'Z' then
    some (String.ofList (value.toList.dropLast ++ "+00:00".toList))
  else none

/-- `_parse_timestamp`, raising `e` on what is no timestamp. -/
def parseTimestamp (e : Exn) (value : Json) : Except Exn Time :=
  match value with
  | .str s =>
    match (zuluText? s).bind P.fromisoformat with
    | some stamp => .ok stamp.time
    | none => .error e
  | _ => .error e

theorem zuluText?_timestamp (t : Time) :
    zuluText? (P.timestamp t) = some (P.stem t ++ "+00:00") := by
  have h : (P.timestamp t).toList = (P.stem t).toList ++ ['Z'] := by
    rw [Platform.timestamp, String.toList_append]
    rfl
  rw [zuluText?, h, List.getLast?_append_cons, List.getLast?_singleton, if_pos rfl,
    List.dropLast_concat, String.ofList_append, String.ofList_toList, String.ofList_toList]

/-- **A timestamp reads back as the moment it was written at.** -/
@[simp] theorem parseTimestamp_timestamp (e : Exn) (t : Time) :
    parseTimestamp P e (.str (P.timestamp t)) = .ok t := by
  rw [parseTimestamp, zuluText?_timestamp, Option.bind_some, P.fromisoformat_stem]

end Timestamps

end PrinterHmi
