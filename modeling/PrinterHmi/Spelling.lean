import PrinterHmi.Configuration.Documents
import PrinterHmi.Enrollment.Acceptance
import PrinterHmi.Sample

/-!
# Spellings of encoded fields

Nonces, keys and signatures travel as unpadded URL-safe base 64. The three decoders add padding
to a text and decode it, which reads more than is ever written: the two characters the URL-safe
alphabet replaces, padding that is already there, and any bits in the last digit that no byte has
a share in. So a byte string has several spellings. The one that is written is told from the
others by the text alone (`one_spelling_iff`), and so is, of a field that a validator accepts,
whether it has the form the schemas give it.
-/

namespace PrinterHmi

/-- The pattern of the schemas for an encoded field, `[A-Za-z0-9_-]` so many times. -/
def schemaPattern (length : ℕ) (s : String) : Bool :=
  matchesClass (· ∈ Base64.alphabet) length length s.toList

section Spelling

variable (P : Platform)

/-- **A field that has been accepted**: the nonce, a key or the signature of a challenge, a
request, a response or a receipt that passed the validation of its kind, with the number of
characters the schemas give it. -/
inductive AcceptedField : Json → ℕ → Prop
  | challengeNonce {challenge : Json} {deviceId : String} {now : Time} {accepted : RelayChallenge}
    (h : validateRelayChallenge P challenge deviceId now = .ok accepted) :
    AcceptedField (challenge.field "nonce") 43
  | responseKey {response : Json} {now : Time} {accepted : RelayChallenge}
    (h : verifyChallengeResponse P response now = .ok accepted) :
    AcceptedField (response.field "device_public_key") 43
  | responseSignature {response : Json} {now : Time} {accepted : RelayChallenge}
    (h : verifyChallengeResponse P response now = .ok accepted) :
    AcceptedField (response.field "signature") 86
  | requestKey {request : Json} {accepted : EnrollmentRequest}
    (h : readEnrollmentRequest P request = .ok accepted) :
    AcceptedField (request.field "peer_public_key") 43
  | requestSignature {request : Json} {accepted : EnrollmentRequest}
    (h : readEnrollmentRequest P request = .ok accepted) :
    AcceptedField (request.field "peer_signature") 86
  | receiptKey {receipt verified : Json}
    (h : verifyEnrollmentReceipt P receipt = .ok verified) :
    AcceptedField (receipt.field "device_public_key") 43
  | receiptSignature {receipt verified : Json}
    (h : verifyEnrollmentReceipt P receipt = .ok verified) :
    AcceptedField (receipt.field "signature") 86
  | receiptPeerKey {receipt : Json} {state : RelayState} {matched : String × EnrolledDevice}
    (hstate : checkRelayState P state.json = .ok ())
    (h : matchReceipt P state receipt = .ok matched) :
    AcceptedField (receipt.field "peer_public_key") 43
  | sessionNonce {challenge deviceId relayId : Json} {now : Time} {accepted : SessionChallenge}
    (h : validateSessionChallenge P challenge deviceId relayId now = .ok accepted) :
    AcceptedField (challenge.field "nonce") 43
  | authKey {response expected verified : Json} {now : Time}
    (h : verifySessionAuth P response expected now = .ok verified) :
    AcceptedField (response.field "device_public_key") 43
  | authSignature {response expected verified : Json} {now : Time}
    (h : verifySessionAuth P response expected now = .ok verified) :
    AcceptedField (response.field "signature") 86

variable {P}

/-- **An accepted field was decoded**, to as many bytes as its characters have room for. -/
theorem AcceptedField.decoded {v : Json} {length : ℕ} (h : AcceptedField P v length) :
    ∃ e b, b64decode e v = .ok b ∧ length = (4 * b.length + 2) / 3 := by
  cases h with
  | challengeNonce h =>
    obtain ⟨-, -, -, -, -, -, -, ⟨nonce, hnonce, hlength⟩, -⟩ := validateRelayChallenge_eq_ok.mp h
    exact ⟨_, nonce, hnonce, by rw [hlength]⟩
  | responseKey h =>
    obtain ⟨-, -, -, key, -, -, hkey, -⟩ := verifyChallengeResponse_eq_ok.mp h
    exact ⟨_, key.1, hkey, by rw [key.2]⟩
  | responseSignature h =>
    obtain ⟨-, -, -, -, signature, -, -, -, -, -, -, -, hsignature, -⟩ :=
      verifyChallengeResponse_eq_ok.mp h
    exact ⟨_, signature.1, hsignature, by rw [signature.2]⟩
  | requestKey h =>
    obtain ⟨-, -, -, -, -, -, -, hkey, -⟩ := readEnrollmentRequest_eq_ok.mp h
    exact ⟨_, _, hkey, by rw [(EnrollmentRequest.toAttempt _).key.2]⟩
  | requestSignature h =>
    obtain ⟨-, -, -, -, -, -, -, -, hsignature, -⟩ := readEnrollmentRequest_eq_ok.mp h
    exact ⟨_, _, hsignature, by rw [(EnrollmentRequest.signature _).2]⟩
  | receiptKey h =>
    obtain ⟨-, -, -, -, key, -, hkey, -⟩ := verifyEnrollmentReceipt_eq_ok.mp h
    exact ⟨_, key.1, hkey, by rw [key.2]⟩
  | receiptSignature h =>
    obtain ⟨-, -, -, -, -, signature, -, -, hsignature, -⟩ := verifyEnrollmentReceipt_eq_ok.mp h
    exact ⟨_, signature.1, hsignature, by rw [signature.2]⟩
  | receiptPeerKey hstate h =>
    -- the key is the relay's own, which was decoded when the state was loaded
    obtain ⟨-, -, key, -, hkey⟩ := checkRelayState_json.mp hstate
    obtain ⟨hreceipt, -⟩ := matchReceipt_eq_ok.mp h
    rw [hreceipt.peerKey]
    exact ⟨_, _, hkey, by rw [(P.publicKey key).2]⟩
  | sessionNonce h =>
    obtain ⟨-, -, -, -, -, -, -, ⟨nonce, hnonce, hlength⟩, -⟩ :=
      validateSessionChallenge_eq_ok.mp h
    exact ⟨_, nonce, hnonce, by rw [hlength]⟩
  | authKey h =>
    obtain ⟨-, -, -, -, -, key, -, -, -, hkey, -⟩ := verifySessionAuth_eq_ok.mp h
    exact ⟨_, key.1, hkey, by rw [key.2]⟩
  | authSignature h =>
    obtain ⟨-, -, -, -, -, -, signature, -, -, -, hsignature, -⟩ := verifySessionAuth_eq_ok.mp h
    exact ⟨_, signature.1, hsignature, by rw [signature.2]⟩

variable (P)

/-- **Encoded fields have several spellings, told apart by the text.** A text that decodes is the
encoding of its bytes exactly if it has no `+`, `/` or `=` and the unused bits of its last digit
are zeros; an encoding decodes to its bytes; and an accepted field has the form the schemas
give it exactly if it has no `+`, `/` or `=`. -/
theorem one_spelling_iff :
    (∀ e s b, b64decodeText e s = .ok b →
      (s = b64encode b ↔ Base64.Plain s.toList ∧ Base64.SpareZero s.toList)) ∧
    (∀ e b, b64decodeText e (b64encode b) = .ok b) ∧
    ∀ v length, AcceptedField P v length →
      ∃ s, v = .str s ∧ (schemaPattern length s = true ↔ Base64.Plain s.toList) := by
  refine ⟨fun e s b => eq_b64encode_iff, b64decodeText_b64encode, fun v length h => ?_⟩
  obtain ⟨e, b, hb, rfl⟩ := h.decoded
  obtain ⟨s, rfl, hs⟩ := b64decode_eq_ok hb
  refine ⟨s, rfl, ?_⟩
  rw [← Base64.form_iff (decode_of_b64decodeText hs), schemaPattern, matchesClass]
  simp only [Bool.and_eq_true, decide_eq_true_eq, List.all_eq_true]
  constructor
  · rintro ⟨⟨hle, hge⟩, hmem⟩
    exact ⟨hmem, le_antisymm hge hle⟩
  · rintro ⟨hmem, hlength⟩
    exact ⟨⟨hlength.ge, hlength.le⟩, hmem⟩

end Spelling

section Sample

open PrinterHmi.Sample

/-- The sample challenge, its nonce spelled otherwise. -/
def respelled (nonce : String) : Json :=
  .obj [("audience", .str device), ("challenge_id", .str challengeId.1),
    ("expires_at", .str "2023-11-14T22:18:21Z"), ("issued_at", .str "2023-11-14T22:13:21Z"),
    ("nonce", .str nonce), ("relay_id", .str "relay-1"), ("schema_version", schemaVersion),
    ("type", .str "relay.challenge")]

/-- It is accepted whatever the spelling. -/
theorem validateRelayChallenge_respelled {spelling : String}
    (h : b64decodeText invalidEncoded spelling = .ok nonce.1) :
    validateRelayChallenge platform (respelled spelling) device (moment 2) =
      .ok ⟨respelled spelling, challengeId.1, "relay-1", moment 1, moment 301⟩ := by
  have hissued : parseTimestamp platform invalidChallengeTimestamp (.str "2023-11-14T22:13:21Z") =
      .ok (moment 1) := by decide
  have hexpires : parseTimestamp platform invalidChallengeTimestamp
      (.str "2023-11-14T22:18:21Z") = .ok (moment 301) := by decide
  have hdates : moment 1 < moment 301 ∧ moment 301 - moment 1 ≤ maxChallengeLifetime ∧
      moment 1 ≤ moment 2 + challengeClockSkew ∧ moment 2 < moment 301 := by decide
  exact validateRelayChallenge_eq_ok.mpr ⟨rfl, rfl, rfl, rfl, challengeId.2, rfl,
    (by decide : relayIdPattern "relay-1" = true), ⟨nonce.1, h, nonce.2⟩, rfl, hissued, hexpires,
    hdates.1, hdates.2.1, hdates.2.2.1, hdates.2.2.2, rfl⟩

/-- The nonce with its padding. -/
def paddedNonce : String := String.ofList (Base64.encode nonce.1 ++ ['='])

theorem b64decodeText_paddedNonce : b64decodeText invalidEncoded paddedNonce = .ok nonce.1 := by
  decide

/-- The text `QR` is a second spelling of the byte that is written `QQ`, and a challenge is
accepted with a nonce of 44 characters. -/
theorem not_one_spelling :
    (¬ ∀ s b, b64decodeText invalidEncoded s = .ok b → s = b64encode b) ∧
      ¬ ∀ challenge now accepted,
        validateRelayChallenge platform challenge device now = .ok accepted →
          ∃ s, challenge.field "nonce" = .str s ∧ schemaPattern 43 s = true := by
  constructor
  · intro h
    have hsecond : b64decodeText invalidEncoded "QR" = .ok [65] := by decide
    exact absurd (h "QR" [65] hsecond) (by decide)
  · intro h
    obtain ⟨s, hs, hpattern⟩ :=
      h _ _ _ (validateRelayChallenge_respelled b64decodeText_paddedNonce)
    obtain rfl : paddedNonce = s := Json.str.inj hs
    exact absurd hpattern (by decide)

/-- The text `QQ` is the encoding of its byte, and the nonce of the sample challenge has the form
of the schemas. -/
theorem one_spelling_iff_sample :
    ("QQ" : String) = b64encode [65] ∧
      ∃ s, relayChallenge.field "nonce" = .str s ∧
        (schemaPattern 43 s = true ↔ Base64.Plain s.toList) := by
  have hnonce := b64decodeText_b64encode invalidEncoded nonce.1
  constructor
  · have hdecoded : b64decodeText invalidEncoded "QQ" = .ok [65] := by decide
    exact ((one_spelling_iff platform).1 _ _ _ hdecoded).mpr (by decide)
  · exact (one_spelling_iff platform).2.2 _ 43
      (.challengeNonce (validateRelayChallenge_respelled hnonce))

end Sample

end PrinterHmi
