import Mathlib.Algebra.Order.Ring.Int
import Mathlib.Data.Int.Notation
import PrinterHmi.Lib.Bytes
import PrinterHmi.Lib.JsonLimits

/-!
# The host under the program

What the agent and the relay take from elsewhere: the exceptions of the language,
the clock, and a `Platform` – the signature scheme, the two digests, the case
mapping of text and the calendar. A platform carries the documented facts the
program relies on as its own laws, so that every result below holds on any host
that keeps to its documentation. What is *not* a law is as important: nothing
says that a digest has no collisions or that a signature cannot be forged; a
result that needs such an idealization says so.

A clock reading is a number of microseconds since the epoch, the resolution of
the calendar. Readings are those the calendar can write (the years 1 to 9999).
-/

namespace PrinterHmi

/-! ### Exceptions -/

/-- The exception classes the program raises or meets. -/
inductive ExnClass : Type where
  | enrollmentError
  | relayTransportError
  | relayConfigurationError
  | relayReceiverError
  | moonrakerProtocolError
  | osError
  | valueError
  | typeError
  | attributeError
  | runtimeError
  | overflowError
  | recursionError
  | limitOverrunError
  deriving DecidableEq

/-- An exception: its class and its text. -/
structure Exn where
  cls : ExnClass
  message : String
  deriving DecidableEq

/-- A failed file step. -/
def osError (step : String) : Exn := ⟨.osError, step⟩

/-! ### Time -/

/-- A clock reading, in microseconds. -/
abbrev Time := ℤ

/-- A number of seconds. -/
def seconds (n : ℤ) : Time := n * 1000000

theorem seconds_pos {n : ℤ} (h : 1 ≤ n) : 0 < seconds n := mul_pos h (by decide)

/-- What `datetime.fromisoformat` returns: the moment, and whether the text
carried an offset. A text without one is read in the host's time zone. -/
structure Stamp where
  time : Time
  aware : Bool
  deriving DecidableEq

/-! ### Keys -/

/-- Thirty-two raw bytes: an Ed25519 key, a nonce or a digest. -/
abbrev Bytes32 := { b : Bytes // b.length = 32 }

/-- An Ed25519 signature. -/
abbrev Signature := { b : Bytes // b.length = 64 }

instance {n : ℕ} : Inhabited { b : Bytes // b.length = n } :=
  ⟨List.replicate n 0, List.length_replicate⟩

/-- The bytes as a key, if there are thirty-two. -/
def bytes32? (b : Bytes) : Option Bytes32 := if h : b.length = 32 then some ⟨b, h⟩ else none

/-- The bytes as a signature, if there are sixty-four. -/
def signature? (b : Bytes) : Option Signature := if h : b.length = 64 then some ⟨b, h⟩ else none

@[simp] theorem bytes32?_val (k : Bytes32) : bytes32? k.1 = some k := dif_pos k.2

@[simp] theorem signature?_val (s : Signature) : signature? s.1 = some s := dif_pos s.2

theorem bytes32?_eq_some {b : Bytes} {k : Bytes32} : bytes32? b = some k ↔ b = k.1 := by
  constructor
  · intro h
    rw [bytes32?] at h
    split_ifs at h with hb
    exact congrArg Subtype.val (Option.some.inj h)
  · rintro rfl
    exact bytes32?_val k

theorem signature?_eq_some {b : Bytes} {s : Signature} : signature? b = some s ↔ b = s.1 := by
  constructor
  · intro h
    rw [signature?] at h
    split_ifs at h with hb
    exact congrArg Subtype.val (Option.some.inj h)
  · rintro rfl
    exact signature?_val s

/-- The bytes as a key, or `e` is raised. -/
def keyBytes (e : Exn) (b : Bytes) : Except Exn Bytes32 :=
  match bytes32? b with
  | some k => .ok k
  | none => .error e

/-- The bytes as a signature, or `e` is raised. -/
def signatureBytes (e : Exn) (b : Bytes) : Except Exn Signature :=
  match signature? b with
  | some s => .ok s
  | none => .error e

theorem keyBytes_eq_ok {e : Exn} {b : Bytes} {k : Bytes32} : keyBytes e b = .ok k ↔ b = k.1 := by
  rw [keyBytes, ← bytes32?_eq_some]
  cases bytes32? b <;> simp

theorem signatureBytes_eq_ok {e : Exn} {b : Bytes} {s : Signature} :
    signatureBytes e b = .ok s ↔ b = s.1 := by
  rw [signatureBytes, ← signature?_eq_some]
  cases signature? b <;> simp

/-! ### The platform -/

/-- Every character of the text is ASCII. -/
def IsAscii (s : String) : Prop := ∀ c ∈ s.toList, c.toNat < 128

/-- **The host**: the third-party and system functions the program calls, with
the documented facts it relies on. -/
structure Platform where
  /-- `hashlib.sha256(b).digest()`. -/
  sha256 : Bytes → Bytes
  length_sha256 : ∀ b, (sha256 b).length = 32
  /-- `hashlib.pbkdf2_hmac("sha256", code, salt, 250_000, dklen=32)`. -/
  pbkdf2 : Bytes → Bytes → Bytes
  length_pbkdf2 : ∀ code salt, (pbkdf2 code salt).length = 32
  /-- The public key of a private key. -/
  publicKey : Bytes32 → Bytes32
  /-- `key.sign(payload)`. -/
  sign : Bytes32 → Bytes → Signature
  /-- `key.verify(signature, payload)` returns. -/
  verify : Bytes32 → Bytes → Signature → Bool
  verify_sign : ∀ key payload, verify (publicKey key) payload (sign key payload) = true
  /-- `text.lower()`. -/
  lower : String → String
  lower_ascii : ∀ s, IsAscii s → lower s = String.ofList (s.toList.map Char.toLower)
  /-- `text.upper()`. -/
  upper : String → String
  upper_ascii : ∀ s, IsAscii s → upper s = String.ofList (s.toList.map Char.toUpper)
  /-- A moment in UTC, as `isoformat` writes it before the offset. -/
  stem : Time → String
  /-- `datetime.fromisoformat(text)`, unless it raises `ValueError`. -/
  fromisoformat : String → Option Stamp
  fromisoformat_stem : ∀ t, fromisoformat (stem t ++ "+00:00") = some ⟨t, true⟩
  /-- `ipaddress.ip_address(text).is_loopback`, unless it raises `ValueError`. -/
  isLoopback : String → Option Bool
  isLoopback_localhost : isLoopback "127.0.0.1" = some true
  /-- How far `json.loads` goes: `sys.get_int_max_str_digits()`, and the stack. -/
  limits : Json.Limits
  digits_limits : ∀ n ∈ limits.digits, 640 ≤ n
  depth_limits : 64 ≤ limits.depth

namespace Platform

variable (P : Platform)

/-- `_timestamp`: the UTC time of a clock reading, its offset written as `Z`. -/
def timestamp (epoch : Time) : String := P.stem epoch ++ "Z"

theorem timestamp_injective {t t' : Time} (h : P.timestamp t = P.timestamp t') : t = t' := by
  have hstem : P.stem t = P.stem t' := by simpa [timestamp] using h
  have hstamp : some (⟨t, true⟩ : Stamp) = some ⟨t', true⟩ := by
    rw [← P.fromisoformat_stem, hstem, P.fromisoformat_stem]
  exact congrArg Stamp.time (Option.some.inj hstamp)

end Platform

end PrinterHmi
