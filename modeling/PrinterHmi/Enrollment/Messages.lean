import PrinterHmi.Lib.Checks
import PrinterHmi.Wire

/-!
# The messages of relay enrollment

The relay addresses a *challenge* to a device; the device signs it
(`agent.challenge-response`) or answers an enrollment request that carries it with
a signed *receipt* (`agent.enrollment-receipt`); the peer that wants to be
enrolled proves possession of its key over the challenge (`peerProofPayload`).
This module has the documents, the bytes each signature covers, and the two
verifiers, all of them functions of documents and clock readings alone. What
keeps state is in the module on the store.

Object literals are written in the order of their field names, the order their
canonical bytes have.
-/

namespace PrinterHmi

/-! ### Constants -/

/-- `SCHEMA_VERSION`. -/
def schemaVersion : Json := .int 1

/-- `MAX_CHALLENGE_LIFETIME`. -/
def maxChallengeLifetime : Time := seconds 300

/-- `CHALLENGE_CLOCK_SKEW`. -/
def challengeClockSkew : Time := seconds 30

/-- The bytes of a domain text, with its final NUL. -/
def domain (text : String) : Bytes := utf8 text ++ [0]

/-- `CHALLENGE_SIGNATURE_DOMAIN`. -/
def challengeSignatureDomain : Bytes := domain "PrinterHMI Remote relay challenge response v1"

/-- `PEER_PROOF_DOMAIN`. -/
def peerProofDomain : Bytes := domain "PrinterHMI Remote peer enrollment proof v1"

/-- `ENROLLMENT_RECEIPT_DOMAIN`. -/
def enrollmentReceiptDomain : Bytes := domain "PrinterHMI Remote enrollment receipt v1"

/-- `EnrollmentError(message)`. -/
def enrollmentError (message : String) : Exn := ⟨.enrollmentError, message⟩

/-- What `_b64decode` of the enrollment module raises. -/
def invalidEncoded : Exn := enrollmentError "invalid encoded value"

/-- What `_parse_timestamp` of the enrollment module raises. -/
def invalidChallengeTimestamp : Exn := enrollmentError "invalid relay challenge timestamp"

/-! ### Challenges -/

section Challenges

variable (P : Platform)

/-- A challenge that has been validated: the document, and what was read in it. -/
structure RelayChallenge where
  document : Json
  challengeId : String
  relayId : String
  issued : Time
  expires : Time

/-- The fields of a challenge. -/
def relayChallengeFields : List String :=
  ["audience", "challenge_id", "expires_at", "issued_at", "nonce", "relay_id", "schema_version",
    "type"]

/-- `_validate_relay_challenge`. The document it returns went through
`json.loads(json.dumps(challenge))`, which is the document itself. -/
def validateRelayChallenge (challenge : Json) (deviceId : String) (now : Time) :
    Except Exn RelayChallenge := do
  require (challenge.hasFields relayChallengeFields) (enrollmentError "invalid relay challenge")
  require (challenge.fieldEq "schema_version" schemaVersion)
    (enrollmentError "unsupported relay challenge version")
  require (challenge.fieldEq "type" (.str "relay.challenge"))
    (enrollmentError "invalid relay challenge type")
  let challengeId ← uuidText (enrollmentError "invalid relay challenge identifier")
    (challenge.field "challenge_id")
  let relayId ← patternText (enrollmentError "invalid relay identifier") relayIdPattern
    (challenge.field "relay_id")
  let nonce ← b64decode invalidEncoded (challenge.field "nonce")
  require (nonce.length = 32) (enrollmentError "invalid relay challenge nonce")
  require (challenge.fieldEq "audience" (.str deviceId))
    (enrollmentError "relay challenge has the wrong audience")
  let issued ← parseTimestamp P invalidChallengeTimestamp (challenge.field "issued_at")
  let expires ← parseTimestamp P invalidChallengeTimestamp (challenge.field "expires_at")
  require (issued < expires ∧ expires - issued ≤ maxChallengeLifetime)
    (enrollmentError "invalid relay challenge lifetime")
  require (issued ≤ now + challengeClockSkew)
    (enrollmentError "relay challenge is not yet valid")
  require (now < expires) (enrollmentError "relay challenge has expired")
  pure ⟨challenge, challengeId, relayId, issued, expires⟩

/-- `create_relay_challenge`, with the UUID, the nonce and the clock reading it
takes from the host. -/
def createRelayChallenge (deviceId relayId : String) (ttlSeconds : ℤ) (challengeId : Uuid)
    (nonce : Bytes32) (now : Time) : Except Exn Json := do
  require (deviceId.toList.take 4 = deviceIdPrefix ∧ deviceId.length = 30)
    (enrollmentError "invalid challenge audience")
  require (relayIdPattern relayId) (enrollmentError "invalid relay identifier")
  require (1 ≤ ttlSeconds ∧ seconds ttlSeconds ≤ maxChallengeLifetime)
    (enrollmentError "invalid relay challenge lifetime")
  pure (.obj [("audience", .str deviceId), ("challenge_id", .str challengeId.1),
    ("expires_at", .str (P.timestamp (now + seconds ttlSeconds))),
    ("issued_at", .str (P.timestamp now)), ("nonce", .str (b64encode nonce.1)),
    ("relay_id", .str relayId), ("schema_version", schemaVersion),
    ("type", .str "relay.challenge")])

/-- `peer_proof_payload`. -/
def peerProofPayload (challenge : Json) (pairingId peerId deviceId : String) : Bytes :=
  peerProofDomain ++ canonical (.obj [("challenge_id", challenge.field "challenge_id"),
    ("device_id", .str deviceId), ("nonce", challenge.field "nonce"),
    ("pairing_id", .str pairingId), ("peer_id", .str peerId),
    ("relay_id", challenge.field "relay_id"), ("schema_version", schemaVersion),
    ("type", .str "peer.enrollment-proof")])

variable {P}

/-- **What validation establishes**, field by field. -/
theorem validateRelayChallenge_eq_ok {d : Json} {deviceId : String} {now : Time}
    {c : RelayChallenge} :
    validateRelayChallenge P d deviceId now = .ok c ↔
      d.hasFields relayChallengeFields = true ∧
      d.fieldEq "schema_version" schemaVersion = true ∧
      d.field "type" = .str "relay.challenge" ∧
      d.field "challenge_id" = .str c.challengeId ∧ isUuidText c.challengeId = true ∧
      d.field "relay_id" = .str c.relayId ∧ relayIdPattern c.relayId = true ∧
      (∃ nonce, b64decode invalidEncoded (d.field "nonce") = .ok nonce ∧ nonce.length = 32) ∧
      d.field "audience" = .str deviceId ∧
      parseTimestamp P invalidChallengeTimestamp (d.field "issued_at") = .ok c.issued ∧
      parseTimestamp P invalidChallengeTimestamp (d.field "expires_at") = .ok c.expires ∧
      c.issued < c.expires ∧ c.expires - c.issued ≤ maxChallengeLifetime ∧
      c.issued ≤ now + challengeClockSkew ∧ now < c.expires ∧ c.document = d := by
  simp only [validateRelayChallenge, Except.bind_eq_ok, require_eq_ok, exists_const,
    Json.fieldEq_str_iff, uuidText_eq_ok, patternText_eq_ok, and_assoc]
  constructor
  · rintro ⟨hfields, hversion, htype, id, hid, hid', relay, hrelay, hrelay', nonce, hnonce, hlen,
      haud, issued, hissued, expires, hexpires, hlt, hle, hskew, hnow, hc⟩
    obtain rfl : (⟨d, id, relay, issued, expires⟩ : RelayChallenge) = c := Except.ok.inj hc
    exact ⟨hfields, hversion, htype, hid, hid', hrelay, hrelay', ⟨nonce, hnonce, hlen⟩, haud,
      hissued, hexpires, hlt, hle, hskew, hnow, rfl⟩
  · rintro ⟨hfields, hversion, htype, hid, hid', hrelay, hrelay', ⟨nonce, hnonce, hlen⟩, haud,
      hissued, hexpires, hlt, hle, hskew, hnow, rfl⟩
    exact ⟨hfields, hversion, htype, _, hid, hid', _, hrelay, hrelay', nonce, hnonce, hlen, haud,
      _, hissued, _, hexpires, hlt, hle, hskew, hnow, rfl⟩

end Challenges

/-! ### Signed documents -/

/-- `document["signature"] = _b64encode(signature)`. -/
def withSignature (document : Json) (signature : Signature) : Json :=
  document.set "signature" (.str (b64encode signature.1))

/-- A signed document is in normal form if what is signed is. -/
theorem ordered_withSignature {d : Json} (hd : d.ordered = true) (signature : Signature) :
    (withSignature d signature).ordered = true := by
  cases d with
  | obj fields =>
    obtain ⟨hsorted, hvalues⟩ := Json.ordered_obj.mp hd
    refine Json.ordered_obj.mpr ⟨Entries.sorted_insert hsorted _ _, fun e he => ?_⟩
    rcases Entries.mem_insert_keys he with rfl | he
    · rfl
    · exact hvalues e he
  | _ => exact hd

/-- The document carries a signature, encoded. -/
def Carries (d : Json) (signature : Signature) : Prop :=
  ∃ e, b64decode e (d.field "signature") = .ok signature.1

/-- The `agent.challenge-response` a device signs. -/
def challengeResponse (challenge : Json) (deviceId publicKey signedAt : String) : Json :=
  .obj [("challenge", challenge), ("device_id", .str deviceId),
    ("device_public_key", .str publicKey), ("schema_version", schemaVersion),
    ("signed_at", .str signedAt), ("type", .str "agent.challenge-response")]

/-- The fields of a signed challenge response. -/
def challengeResponseFields : List String :=
  ["challenge", "device_id", "device_public_key", "schema_version", "signature", "signed_at",
    "type"]

/-- The `agent.enrollment-receipt` a device signs. -/
def enrollmentReceipt (challengeId relayId pairingId deviceId devicePublicKey peerId
    peerPublicKey enrolledAt : String) : Json :=
  .obj [("challenge_id", .str challengeId), ("device_id", .str deviceId),
    ("device_public_key", .str devicePublicKey), ("enrolled_at", .str enrolledAt),
    ("pairing_id", .str pairingId), ("peer_id", .str peerId),
    ("peer_public_key", .str peerPublicKey), ("relay_id", .str relayId),
    ("schema_version", schemaVersion), ("type", .str "agent.enrollment-receipt")]

/-- A receipt is in normal form. -/
theorem ordered_enrollmentReceipt {challengeId relayId pairingId deviceId devicePublicKey peerId
    peerPublicKey enrolledAt : String} : (enrollmentReceipt challengeId relayId pairingId deviceId
      devicePublicKey peerId peerPublicKey enrolledAt).ordered = true := by
  have hsorted : ["challenge_id", "device_id", "device_public_key", "enrolled_at", "pairing_id",
      "peer_id", "peer_public_key", "relay_id", "schema_version", "type"].Pairwise (· < ·) := by
    decide
  exact Json.ordered_obj.mpr ⟨hsorted, by simp [Json.ordered, schemaVersion]⟩

/-- The fields of a signed enrollment receipt. -/
def enrollmentReceiptFields : List String :=
  ["challenge_id", "device_id", "device_public_key", "enrolled_at", "pairing_id", "peer_id",
    "peer_public_key", "relay_id", "schema_version", "signature", "type"]

/-- The `relay.enrollment-request` a relay makes of an offer. -/
def enrollmentRequest (challenge code : Json) (pairingId peerId peerPublicKey : String)
    (peerSignature : Signature) : Json :=
  .obj [("challenge", challenge), ("code", code), ("pairing_id", .str pairingId),
    ("peer_id", .str peerId), ("peer_public_key", .str peerPublicKey),
    ("peer_signature", .str (b64encode peerSignature.1)), ("schema_version", schemaVersion),
    ("type", .str "relay.enrollment-request")]

section Verify

variable (P : Platform)

/-- `verify_challenge_response`. -/
def verifyChallengeResponse (response : Json) (now : Time) : Except Exn RelayChallenge := do
  require (response.hasFields challengeResponseFields ∧
      response.fieldEq "schema_version" schemaVersion ∧
      response.fieldEq "type" (.str "agent.challenge-response"))
    (enrollmentError "invalid agent challenge response")
  let publicBytes ← b64decode invalidEncoded (response.field "device_public_key")
  let key ← keyBytes (enrollmentError "invalid agent challenge identity") publicBytes
  require (response.fieldEq "device_id" (.str (deviceId P key.1)))
    (enrollmentError "invalid agent challenge identity")
  let challenge ← validateRelayChallenge P (response.field "challenge") (deviceId P key.1) now
  let signedAt ← parseTimestamp P invalidChallengeTimestamp (response.field "signed_at")
  require (challenge.issued - challengeClockSkew ≤ signedAt ∧ signedAt < challenge.expires)
    (enrollmentError "invalid agent challenge response time")
  let signatureText ← b64decode invalidEncoded (response.field "signature")
  let signature ← signatureBytes (enrollmentError "invalid agent challenge signature")
    signatureText
  require (P.verify key (challengeSignatureDomain ++ canonical (response.erase "signature"))
      signature)
    (enrollmentError "invalid agent challenge signature")
  pure challenge

/-- `verify_enrollment_receipt`: the receipt without its signature. -/
def verifyEnrollmentReceipt (receipt : Json) : Except Exn Json := do
  require (receipt.hasFields enrollmentReceiptFields ∧
      receipt.fieldEq "schema_version" schemaVersion ∧
      receipt.fieldEq "type" (.str "agent.enrollment-receipt"))
    (enrollmentError "invalid enrollment receipt")
  let publicBytes ← b64decode invalidEncoded (receipt.field "device_public_key")
  let key ← keyBytes (enrollmentError "invalid enrollment receipt identity") publicBytes
  require (receipt.fieldEq "device_id" (.str (deviceId P key.1)))
    (enrollmentError "invalid enrollment receipt identity")
  let signatureText ← b64decode invalidEncoded (receipt.field "signature")
  let signature ← signatureBytes (enrollmentError "invalid enrollment receipt signature")
    signatureText
  require (P.verify key (enrollmentReceiptDomain ++ canonical (receipt.erase "signature"))
      signature)
    (enrollmentError "invalid enrollment receipt signature")
  pure (receipt.erase "signature")

variable {P}

/-- **What an accepted challenge response is.** -/
theorem verifyChallengeResponse_eq_ok {d : Json} {now : Time} {c : RelayChallenge} :
    verifyChallengeResponse P d now = .ok c ↔
      d.hasFields challengeResponseFields = true ∧
      d.fieldEq "schema_version" schemaVersion = true ∧
      d.field "type" = .str "agent.challenge-response" ∧
      ∃ (key : Bytes32) (signature : Signature) (signedAt : Time),
        b64decode invalidEncoded (d.field "device_public_key") = .ok key.1 ∧
        d.field "device_id" = .str (deviceId P key.1) ∧
        validateRelayChallenge P (d.field "challenge") (deviceId P key.1) now = .ok c ∧
        parseTimestamp P invalidChallengeTimestamp (d.field "signed_at") = .ok signedAt ∧
        c.issued - challengeClockSkew ≤ signedAt ∧ signedAt < c.expires ∧
        b64decode invalidEncoded (d.field "signature") = .ok signature.1 ∧
        P.verify key (challengeSignatureDomain ++ canonical (d.erase "signature"))
          signature = true := by
  simp only [verifyChallengeResponse, Except.bind_eq_ok, require_eq_ok, exists_const,
    Json.fieldEq_str_iff, keyBytes_eq_ok, signatureBytes_eq_ok, and_assoc]
  constructor
  · rintro ⟨hfields, hversion, htype, _, hkey, key, rfl, hid, challenge, hc, signedAt, hsigned,
      hle, hlt, _, hsig, signature, rfl, hverify, hc'⟩
    obtain rfl : challenge = c := Except.ok.inj hc'
    exact ⟨hfields, hversion, htype, key, signature, signedAt, hkey, hid, hc, hsigned, hle, hlt,
      hsig, hverify⟩
  · rintro ⟨hfields, hversion, htype, key, signature, signedAt, hkey, hid, hc, hsigned, hle, hlt,
      hsig, hverify⟩
    exact ⟨hfields, hversion, htype, _, hkey, key, rfl, hid, c, hc, signedAt, hsigned, hle, hlt, _,
      hsig, signature, rfl, hverify, rfl⟩

/-- **What an accepted receipt is.** -/
theorem verifyEnrollmentReceipt_eq_ok {d r : Json} :
    verifyEnrollmentReceipt P d = .ok r ↔
      d.hasFields enrollmentReceiptFields = true ∧
      d.fieldEq "schema_version" schemaVersion = true ∧
      d.field "type" = .str "agent.enrollment-receipt" ∧ r = d.erase "signature" ∧
      ∃ (key : Bytes32) (signature : Signature),
        b64decode invalidEncoded (d.field "device_public_key") = .ok key.1 ∧
        d.field "device_id" = .str (deviceId P key.1) ∧
        b64decode invalidEncoded (d.field "signature") = .ok signature.1 ∧
        P.verify key (enrollmentReceiptDomain ++ canonical (d.erase "signature"))
          signature = true := by
  simp only [verifyEnrollmentReceipt, Except.bind_eq_ok, require_eq_ok, exists_const,
    Json.fieldEq_str_iff, keyBytes_eq_ok, signatureBytes_eq_ok, and_assoc]
  constructor
  · rintro ⟨hfields, hversion, htype, _, hkey, key, rfl, hid, _, hsig, signature, rfl, hverify,
      hr⟩
    exact ⟨hfields, hversion, htype, (Except.ok.inj hr).symm, key, signature, hkey, hid, hsig,
      hverify⟩
  · rintro ⟨hfields, hversion, htype, rfl, key, signature, hkey, hid, hsig, hverify⟩
    exact ⟨hfields, hversion, htype, _, hkey, key, rfl, hid, _, hsig, signature, rfl, hverify,
      rfl⟩

end Verify

end PrinterHmi
