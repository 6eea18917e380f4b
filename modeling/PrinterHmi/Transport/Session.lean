import PrinterHmi.Enrollment.Store

/-!
# The session handshake

An agent that has been enrolled opens a session with a relay in three messages: a
*hello* that names the device, a *challenge* the relay makes for that device, and
an *authentication* in which the device signs the challenge it was sent. The
documents, what each side checks of them, and the signed bytes are functions of
documents and clock readings; the agent's signature goes through the enrollment
store, which holds the key.
-/

namespace PrinterHmi

/-! ### Constants -/

/-- `PROTOCOL_VERSION`. -/
def protocolVersion : Json := .int 1

/-- `MAX_SESSION_LIFETIME`. -/
def maxSessionLifetime : Time := seconds 120

/-- `CLOCK_SKEW_SECONDS`. -/
def clockSkew : Time := seconds 30

/-- `SESSION_SIGNATURE_DOMAIN`. -/
def sessionSignatureDomain : Bytes := domain "PrinterHMI Remote relay session authentication v1"

/-- `RelayTransportError(message)`. -/
def transportError (message : String) : Exn := ⟨.relayTransportError, message⟩

/-- What `_decode` of the transport module raises. -/
def invalidTransportEncoding : Exn := transportError "invalid encoded value"

/-- What `_parse_timestamp` of the transport module raises. -/
def invalidSessionTimestamp : Exn := transportError "invalid session timestamp"

/-! ### Hello -/

/-- `create_agent_hello`, for a device. -/
def agentHello (deviceId : String) : Json :=
  .obj [("device_id", .str deviceId), ("protocol_version", protocolVersion),
    ("type", .str "agent.hello")]

/-- `validate_agent_hello`: the device it names. -/
def validateAgentHello (document : Json) : Except Exn String := do
  require (document.hasFields ["device_id", "protocol_version", "type"] ∧
      document.fieldEq "protocol_version" protocolVersion ∧
      document.fieldEq "type" (.str "agent.hello"))
    (transportError "invalid agent hello")
  patternText (transportError "invalid agent hello identity") deviceIdPattern
    (document.field "device_id")

theorem validateAgentHello_eq_ok {d : Json} {deviceId : String} :
    validateAgentHello d = .ok deviceId ↔
      d.hasFields ["device_id", "protocol_version", "type"] = true ∧
      d.fieldEq "protocol_version" protocolVersion = true ∧ d.field "type" = .str "agent.hello" ∧
      d.field "device_id" = .str deviceId ∧ deviceIdPattern deviceId = true := by
  simp only [validateAgentHello, Except.bind_eq_ok, require_eq_ok, exists_const,
    Json.fieldEq_str_iff, patternText_eq_ok, and_assoc]

/-! ### Challenge -/

section Challenge

variable (P : Platform)

/-- A session challenge that has been validated: the document, and what was read
in it. -/
structure SessionChallenge where
  document : Json
  sessionId : String
  issued : Time
  expires : Time

/-- The fields of a session challenge. -/
def sessionChallengeFields : List String :=
  ["audience", "expires_at", "issued_at", "nonce", "protocol_version", "relay_id", "session_id",
    "type"]

/-- The challenge `create_session_challenge` makes. -/
def sessionChallenge (deviceId relayId : String) (lifetime : ℤ) (sessionId : Uuid)
    (nonce : Bytes32) (now : Time) : Json :=
  .obj [("audience", .str deviceId),
    ("expires_at", .str (P.timestamp (now + seconds lifetime))),
    ("issued_at", .str (P.timestamp now)), ("nonce", .str (b64encode nonce.1)),
    ("protocol_version", protocolVersion), ("relay_id", .str relayId),
    ("session_id", .str sessionId.1), ("type", .str "relay.session-challenge")]

/-- `create_session_challenge`, with the UUID, the nonce and the clock reading it
takes from the host. -/
def createSessionChallenge (deviceId relayId : String) (lifetime : ℤ) (sessionId : Uuid)
    (nonce : Bytes32) (now : Time) : Except Exn Json := do
  require (deviceIdPattern deviceId) (transportError "invalid session audience")
  require (relayIdPattern relayId) (transportError "invalid relay identifier")
  require (1 ≤ lifetime ∧ seconds lifetime ≤ maxSessionLifetime)
    (transportError "invalid session lifetime")
  pure (sessionChallenge P deviceId relayId lifetime sessionId nonce now)

/-- `_validate_session_challenge`. The document it returns went through
`json.loads(json.dumps(challenge))`, which is the document itself. -/
def validateSessionChallenge (challenge deviceId relayId : Json) (now : Time) :
    Except Exn SessionChallenge := do
  require (challenge.hasFields sessionChallengeFields)
    (transportError "invalid relay session challenge")
  require (challenge.fieldEq "protocol_version" protocolVersion)
    (transportError "unsupported relay session version")
  require (challenge.fieldEq "type" (.str "relay.session-challenge"))
    (transportError "invalid relay session challenge type")
  let sessionId ← uuidText (transportError "invalid relay session identifier")
    (challenge.field "session_id")
  require (challenge.fieldEq "relay_id" relayId)
    (transportError "relay identity does not match configuration")
  require (challenge.fieldEq "audience" deviceId)
    (transportError "relay session has the wrong audience")
  let nonce ← b64decode invalidTransportEncoding (challenge.field "nonce")
  require (nonce.length = 32) (transportError "invalid relay session nonce")
  let issued ← parseTimestamp P invalidSessionTimestamp (challenge.field "issued_at")
  let expires ← parseTimestamp P invalidSessionTimestamp (challenge.field "expires_at")
  require (issued < expires ∧ expires - issued ≤ maxSessionLifetime)
    (transportError "invalid relay session lifetime")
  require (issued ≤ now + clockSkew) (transportError "relay session is not yet valid")
  require (now < expires) (transportError "relay session has expired")
  pure ⟨challenge, sessionId, issued, expires⟩

variable {P}

/-- **What validation establishes**, field by field. -/
theorem validateSessionChallenge_eq_ok {d deviceId relayId : Json} {now : Time}
    {c : SessionChallenge} :
    validateSessionChallenge P d deviceId relayId now = .ok c ↔
      d.hasFields sessionChallengeFields = true ∧
      d.fieldEq "protocol_version" protocolVersion = true ∧
      d.field "type" = .str "relay.session-challenge" ∧
      d.field "session_id" = .str c.sessionId ∧ isUuidText c.sessionId = true ∧
      d.fieldEq "relay_id" relayId = true ∧ d.fieldEq "audience" deviceId = true ∧
      (∃ nonce, b64decode invalidTransportEncoding (d.field "nonce") = .ok nonce ∧
        nonce.length = 32) ∧
      parseTimestamp P invalidSessionTimestamp (d.field "issued_at") = .ok c.issued ∧
      parseTimestamp P invalidSessionTimestamp (d.field "expires_at") = .ok c.expires ∧
      c.issued < c.expires ∧ c.expires - c.issued ≤ maxSessionLifetime ∧
      c.issued ≤ now + clockSkew ∧ now < c.expires ∧ c.document = d := by
  simp only [validateSessionChallenge, Except.bind_eq_ok, require_eq_ok, exists_const,
    Json.fieldEq_str_iff, uuidText_eq_ok, and_assoc]
  constructor
  · rintro ⟨hfields, hversion, htype, id, hid, hid', hrelay, haud, nonce, hnonce, hlen, issued,
      hissued, expires, hexpires, hlt, hle, hskew, hnow, hc⟩
    obtain rfl : (⟨d, id, issued, expires⟩ : SessionChallenge) = c := Except.ok.inj hc
    exact ⟨hfields, hversion, htype, hid, hid', hrelay, haud, ⟨nonce, hnonce, hlen⟩, hissued,
      hexpires, hlt, hle, hskew, hnow, rfl⟩
  · rintro ⟨hfields, hversion, htype, hid, hid', hrelay, haud, ⟨nonce, hnonce, hlen⟩, hissued,
      hexpires, hlt, hle, hskew, hnow, rfl⟩
    exact ⟨hfields, hversion, htype, _, hid, hid', hrelay, haud, nonce, hnonce, hlen, _, hissued,
      _, hexpires, hlt, hle, hskew, hnow, rfl⟩

end Challenge

/-! ### Authentication -/

section Authentication

variable (P : Platform)

/-- The `agent.session-auth` a device signs. -/
def sessionAuth (challenge : Json) (deviceId publicKey signedAt : Json) : Json :=
  .obj [("challenge", challenge), ("device_id", deviceId), ("device_public_key", publicKey),
    ("protocol_version", protocolVersion), ("signed_at", signedAt),
    ("type", .str "agent.session-auth")]

/-- The fields of a signed session authentication. -/
def sessionAuthFields : List String :=
  ["challenge", "device_id", "device_public_key", "protocol_version", "signature", "signed_at",
    "type"]

/-- What `sign_session_challenge` signs for a challenge: the response it builds from
the identity the store returned, if the challenge is valid for that device. -/
def sessionResponse (identity challenge : Json) (relayId : String) (now : Time) :
    Except Exn Json := do
  let normalized ← validateSessionChallenge P challenge (identity.field "device_id")
    (.str relayId) now
  pure (sessionAuth normalized.document (identity.field "device_id")
    (identity.field "public_key") (.str (P.timestamp now)))

/-- `sign_session_challenge`: two operations of the store, with the validation
between them. -/
def signSessionChallenge (env : Supply) (challenge : Json) (relayId : String) (now : Time) :
    StoreProg Json := do
  let identity ← identity P env
  let response ← sessionResponse P identity challenge relayId now
  let signature ← sign P env (sessionSignatureDomain ++ canonical response)
  pure (withSignature response signature)

/-- `verify_session_auth`: the authentication without its signature. -/
def verifySessionAuth (response expectedChallenge : Json) (now : Time) : Except Exn Json := do
  require (response.hasFields sessionAuthFields)
    (transportError "invalid agent session authentication")
  require (response.fieldEq "protocol_version" protocolVersion)
    (transportError "unsupported agent session version")
  require (response.fieldEq "type" (.str "agent.session-auth"))
    (transportError "invalid agent session authentication type")
  require (response.fieldEq "challenge" expectedChallenge)
    (transportError "agent session challenge does not match")
  let publicBytes ← b64decode invalidTransportEncoding (response.field "device_public_key")
  let signatureText ← b64decode invalidTransportEncoding (response.field "signature")
  let key ← keyBytes (transportError "invalid agent session signature") publicBytes
  let signature ← signatureBytes (transportError "invalid agent session signature") signatureText
  require (response.fieldEq "device_id" (.str (deviceId P key.1)))
    (transportError "invalid agent session identity")
  let challenge ← validateSessionChallenge P expectedChallenge (.str (deviceId P key.1))
    (expectedChallenge.field "relay_id") now
  let signedAt ← parseTimestamp P invalidSessionTimestamp (response.field "signed_at")
  require (challenge.issued - clockSkew ≤ signedAt ∧ signedAt < challenge.expires)
    (transportError "invalid agent session authentication time")
  require (P.verify key (sessionSignatureDomain ++ canonical (response.erase "signature"))
      signature)
    (transportError "invalid agent session signature")
  pure (response.erase "signature")

variable {P}

/-- **What an accepted session authentication is.** -/
theorem verifySessionAuth_eq_ok {d expected r : Json} {now : Time} :
    verifySessionAuth P d expected now = .ok r ↔
      d.hasFields sessionAuthFields = true ∧
      d.fieldEq "protocol_version" protocolVersion = true ∧
      d.field "type" = .str "agent.session-auth" ∧ d.fieldEq "challenge" expected = true ∧
      r = d.erase "signature" ∧
      ∃ (key : Bytes32) (signature : Signature) (challenge : SessionChallenge) (signedAt : Time),
        b64decode invalidTransportEncoding (d.field "device_public_key") = .ok key.1 ∧
        b64decode invalidTransportEncoding (d.field "signature") = .ok signature.1 ∧
        d.field "device_id" = .str (deviceId P key.1) ∧
        validateSessionChallenge P expected (.str (deviceId P key.1))
          (expected.field "relay_id") now = .ok challenge ∧
        parseTimestamp P invalidSessionTimestamp (d.field "signed_at") = .ok signedAt ∧
        challenge.issued - clockSkew ≤ signedAt ∧ signedAt < challenge.expires ∧
        P.verify key (sessionSignatureDomain ++ canonical (d.erase "signature"))
          signature = true := by
  simp only [verifySessionAuth, Except.bind_eq_ok, require_eq_ok, exists_const,
    keyBytes_eq_ok, signatureBytes_eq_ok, and_assoc]
  constructor
  · rintro ⟨hfields, hversion, htype, hch, _, hkey, _, hsig, key, rfl, signature, rfl, hid,
      challenge, hc, signedAt, hsigned, hle, hlt, hverify, hr⟩
    exact ⟨hfields, hversion, Json.fieldEq_str_iff.mp htype, hch, (Except.ok.inj hr).symm, key,
      signature, challenge, signedAt, hkey, hsig, Json.fieldEq_str_iff.mp hid, hc, hsigned, hle,
      hlt, hverify⟩
  · rintro ⟨hfields, hversion, htype, hch, rfl, key, signature, challenge, signedAt, hkey, hsig,
      hid, hc, hsigned, hle, hlt, hverify⟩
    exact ⟨hfields, hversion, Json.fieldEq_str_iff.mpr htype, hch, _, hkey, _, hsig, key, rfl,
      signature, rfl, Json.fieldEq_str_iff.mpr hid, challenge, hc, signedAt, hsigned, hle, hlt,
      hverify, rfl⟩

end Authentication

end PrinterHmi
