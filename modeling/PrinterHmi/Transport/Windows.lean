import PrinterHmi.Transport.Authenticity

/-!
# When a signed challenge is accepted

A device signs a challenge of either protocol at one clock reading, and the relay
verifies the answer at another. Both sides check the dates of the challenge against
their own clock, and the relay checks the date of the answer as well. Here is that
these checks come to one window (`InWindow`): an answer the device was willing to give
is accepted exactly from half a minute before the challenge was issued until it
expires, whatever the device's clock showed (`challenge_windows`).
-/

namespace PrinterHmi

/-- The moments at which the answer to a challenge is accepted. -/
def InWindow (issued expires now : Time) : Prop :=
  issued - challengeClockSkew ≤ now ∧ now < expires

instance (issued expires now : Time) : Decidable (InWindow issued expires now) :=
  inferInstanceAs (Decidable (_ ∧ _))

section Windows

variable {P : Platform} {env : Supply} {h h' h₁ : Host} {i : Identity} {k : Bytes32}

/-! ### The response to a challenge -/

/-- A response, once the identity is in place and the challenge is valid. -/
theorem exec_signRelayChallenge {c : Json} {challenge : RelayChallenge}
    (hid : Identified P env.initial h i k h₁)
    (hch : validateRelayChallenge P c i.deviceId env.now = .ok challenge) :
    (signRelayChallenge P env c).exec h = (.ok (withSignature (responseOf P env i challenge)
      (P.sign k (challengeSignatureDomain ++ canonical (responseOf P env i challenge)))),
      (h₁.withSigned k (challengeSignatureDomain ++
        canonical (responseOf P env i challenge))).audited P env.audited
        "relay.challenge.signed" "success" [("challenge_id", .str challenge.challengeId),
          ("relay_id", .str challenge.relayId)]) := by
  rw [signRelayChallenge, exec_locked, FileProg.exec_bind_ok hid.exec]
  dsimp only
  rw [hch, FileProg.exec_bind_ok (FileProg.exec_lift _ _)]
  rfl

/-- What `sign_relay_challenge` returns. -/
theorem signRelayChallenge_eq_ok {c response : Json}
    (hexec : (signRelayChallenge P env c).exec h = (.ok response, h')) :
    ∃ i k challenge, i.publicKey = b64encode (P.publicKey k).1 ∧
      i.deviceId = deviceId P (P.publicKey k).1 ∧
      validateRelayChallenge P c i.deviceId env.now = .ok challenge ∧
      response = withSignature (responseOf P env i challenge)
        (P.sign k (challengeSignatureDomain ++ canonical (responseOf P env i challenge))) := by
  have hout : HasOutcome P h env (.signRelayChallenge c) _ := signRelayChallenge_outcome c
  rw [HasOutcome, hexec] at hout
  cases hout with
  | signedChallenge hid hch => exact ⟨_, _, _, hid.key.1, hid.key.2, hch, rfl⟩

/-- A challenge that was valid once is valid exactly in its window. -/
theorem validateRelayChallenge_iff {c : Json} {device : String} {made now : Time}
    {challenge : RelayChallenge} (hch : validateRelayChallenge P c device made = .ok challenge) :
    validateRelayChallenge P c device now = .ok challenge ↔
      InWindow challenge.issued challenge.expires now := by
  obtain ⟨hfields, hversion, htype, hid, hid', hrelay, hrelay', hnonce, haud, hissued, hexpires,
    hlt, hle, -, -, hdoc⟩ := validateRelayChallenge_eq_ok.mp hch
  constructor
  · intro hnow
    obtain ⟨-, -, -, -, -, -, -, -, -, -, -, -, -, hskew, hlive, -⟩ :=
      validateRelayChallenge_eq_ok.mp hnow
    exact ⟨sub_le_iff_le_add.mpr hskew, hlive⟩
  · rintro ⟨hskew, hlive⟩
    exact validateRelayChallenge_eq_ok.mpr ⟨hfields, hversion, htype, hid, hid', hrelay, hrelay',
      hnonce, haud, hissued, hexpires, hlt, hle, sub_le_iff_le_add.mp hskew, hlive, hdoc⟩

/-- A challenge is read the same at any moment. -/
theorem validateRelayChallenge_unique {c : Json} {device : String} {now now' : Time}
    {challenge challenge' : RelayChallenge}
    (hch : validateRelayChallenge P c device now = .ok challenge)
    (hch' : validateRelayChallenge P c device now' = .ok challenge') : challenge = challenge' := by
  obtain ⟨-, -, -, hid, -, hrelay, -, -, -, hissued, hexpires, -, -, -, -, hdoc⟩ :=
    validateRelayChallenge_eq_ok.mp hch
  obtain ⟨-, -, -, hid', -, hrelay', -, -, -, hissued', hexpires', -, -, -, -, hdoc'⟩ :=
    validateRelayChallenge_eq_ok.mp hch'
  obtain ⟨document, id, relay, issued, expires⟩ := challenge
  obtain ⟨document', id', relay', issued', expires'⟩ := challenge'
  obtain rfl := Json.str.inj (hid.symm.trans hid')
  obtain rfl := Json.str.inj (hrelay.symm.trans hrelay')
  obtain rfl := Except.ok.inj (hissued.symm.trans hissued')
  obtain rfl := Except.ok.inj (hexpires.symm.trans hexpires')
  obtain rfl := hdoc.trans hdoc'.symm
  rfl

/-- **The verifier accepts the response of the device in the window of the challenge**,
and returns the challenge. -/
theorem verifyChallengeResponse_iff {c : Json} {challenge accepted : RelayChallenge} {now : Time}
    (hpublic : i.publicKey = b64encode (P.publicKey k).1)
    (hdevice : i.deviceId = deviceId P (P.publicKey k).1)
    (hch : validateRelayChallenge P c i.deviceId env.now = .ok challenge) :
    verifyChallengeResponse P (withSignature (responseOf P env i challenge)
        (P.sign k (challengeSignatureDomain ++ canonical (responseOf P env i challenge)))) now =
          .ok accepted ↔
      accepted = challenge ∧ InWindow challenge.issued challenge.expires now := by
  have hchecks := validateRelayChallenge_eq_ok.mp hch
  obtain ⟨-, -, -, -, -, -, -, -, -, -, -, -, -, hskew, hlive, hdoc⟩ := hchecks
  rw [hdevice] at hch
  rw [verifyChallengeResponse_eq_ok]
  constructor
  · rintro ⟨-, -, -, key, -, -, hkey, -, hvalid, -⟩
    rw [show (withSignature (responseOf P env i challenge) _).field "device_public_key" =
      .str i.publicKey from rfl, hpublic, b64decode_str_b64encode] at hkey
    obtain rfl : P.publicKey k = key := Subtype.ext (Except.ok.inj hkey)
    rw [show (withSignature (responseOf P env i challenge) _).field "challenge" =
      challenge.document from rfl, hdoc] at hvalid
    -- what is valid at two times is read the same, and only the window can fail
    obtain rfl := validateRelayChallenge_unique hch hvalid
    exact ⟨rfl, (validateRelayChallenge_iff hch).mp hvalid⟩
  · rintro ⟨rfl, hwindow⟩
    refine ⟨rfl, rfl, rfl, P.publicKey k, P.sign k (challengeSignatureDomain ++
      canonical (responseOf P env i accepted)), env.now, ?_, ?_, ?_, ?_, ?_, hlive, ?_, ?_⟩
    · change b64decode _ (.str i.publicKey) = _
      rw [hpublic, b64decode_str_b64encode]
    · exact congrArg Json.str hdevice
    · change validateRelayChallenge P accepted.document _ now = _
      rw [hdoc]
      exact (validateRelayChallenge_iff hch).mpr hwindow
    · exact parseTimestamp_timestamp P _ env.now
    · exact sub_le_iff_le_add.mpr hskew
    · exact b64decode_str_b64encode _ _
    · exact P.verify_sign _ _

/-! ### The authentication of a session -/

/-- What `sign_session_challenge` returns. -/
theorem signSessionChallenge_eq_ok {c response : Json} {relayId : String} {now : Time}
    (hexec : (signSessionChallenge P env c relayId now).exec h = (.ok response, h')) :
    ∃ (i : Identity) (k : Bytes32) (challenge : SessionChallenge),
      i.publicKey = b64encode (P.publicKey k).1 ∧ i.deviceId = deviceId P (P.publicKey k).1 ∧
      validateSessionChallenge P c (.str i.deviceId) (.str relayId) now = .ok challenge ∧
      response = withSignature
        (sessionAuth c (.str i.deviceId) (.str i.publicKey) (.str (P.timestamp now)))
        (P.sign k (sessionSignatureDomain ++ canonical
          (sessionAuth c (.str i.deviceId) (.str i.publicKey) (.str (P.timestamp now))))) := by
  obtain ⟨document, h₁, r, signature, hidentity, hresponse, hsign, rfl⟩ :=
    signSessionChallenge_parts hexec
  rcases exec_ensureIdentity_bind (P := P) env.initial h
    (fun x => pure (publicIdentity x.1)) with ⟨e, he⟩ | ⟨i, k, h₂, hid, hex⟩
  · cases hidentity.symm.trans he
  obtain ⟨hdocument, rfl⟩ := Prod.mk.inj (hidentity.symm.trans hex)
  obtain rfl := Except.ok.inj hdocument
  simp only [sessionResponse, Except.bind_eq_ok] at hresponse
  obtain ⟨challenge, hch, hr⟩ := hresponse
  obtain ⟨-, -, -, -, -, -, -, -, -, -, -, -, -, -, hdoc⟩ := validateSessionChallenge_eq_ok.mp hch
  obtain rfl : sessionAuth c (.str i.deviceId) (.str i.publicKey) (.str (P.timestamp now)) = r :=
    hdoc ▸ Except.ok.inj hr
  -- the second operation of the store finds the identity the first one left
  have hid₁ : Identified P env.initial h₁ i k h₁ := .stored hid.identity hid.checked
  obtain rfl := Except.ok.inj
    (congrArg Prod.fst (hsign.symm.trans (exec_sign_identified hid₁ _)))
  exact ⟨i, k, challenge, hid.key.1, hid.key.2, hch, rfl⟩

/-- An authentication, once the identity is in place and the challenge is valid. -/
theorem exec_signSessionChallenge {c : Json} {relayId : String} {now : Time}
    {challenge : SessionChallenge} (hid : Identified P env.initial h i k h)
    (hch : validateSessionChallenge P c (.str i.deviceId) (.str relayId) now = .ok challenge) :
    (signSessionChallenge P env c relayId now).exec h =
      (.ok (withSignature
        (sessionAuth c (.str i.deviceId) (.str i.publicKey) (.str (P.timestamp now)))
        (P.sign k (sessionSignatureDomain ++ canonical
          (sessionAuth c (.str i.deviceId) (.str i.publicKey) (.str (P.timestamp now)))))),
        h.withSigned k (sessionSignatureDomain ++ canonical
          (sessionAuth c (.str i.deviceId) (.str i.publicKey) (.str (P.timestamp now))))) := by
  obtain ⟨-, -, -, -, -, -, -, -, -, -, -, -, -, -, hdoc⟩ := validateSessionChallenge_eq_ok.mp hch
  have hidentity : (identity P env).exec h = (.ok (publicIdentity i), h) :=
    FileProg.exec_bind_ok hid.exec _
  have hresponse : sessionResponse P (publicIdentity i) c relayId now =
      .ok (sessionAuth c (.str i.deviceId) (.str i.publicKey) (.str (P.timestamp now))) := by
    refine (Except.ok_bind_eq hch _).trans ?_
    rw [hdoc]
    rfl
  rw [signSessionChallenge, FileProg.exec_bind_ok hidentity, hresponse,
    FileProg.exec_bind_ok (FileProg.exec_lift _ _),
    FileProg.exec_bind_ok (exec_sign_identified hid _)]
  rfl

/-- A session challenge that was valid once is valid exactly in its window. -/
theorem validateSessionChallenge_iff {c device relayId : Json} {made now : Time}
    {challenge : SessionChallenge}
    (hch : validateSessionChallenge P c device relayId made = .ok challenge) :
    validateSessionChallenge P c device relayId now = .ok challenge ↔
      InWindow challenge.issued challenge.expires now := by
  obtain ⟨hfields, hversion, htype, hid, hid', hrelay, haud, hnonce, hissued, hexpires, hlt, hle,
    -, -, hdoc⟩ := validateSessionChallenge_eq_ok.mp hch
  constructor
  · intro hnow
    obtain ⟨-, -, -, -, -, -, -, -, -, -, -, -, hskew, hlive, -⟩ :=
      validateSessionChallenge_eq_ok.mp hnow
    exact ⟨sub_le_iff_le_add.mpr hskew, hlive⟩
  · rintro ⟨hskew, hlive⟩
    exact validateSessionChallenge_eq_ok.mpr ⟨hfields, hversion, htype, hid, hid', hrelay, haud,
      hnonce, hissued, hexpires, hlt, hle, sub_le_iff_le_add.mp hskew, hlive, hdoc⟩

/-- A session challenge is read the same at any moment. -/
theorem validateSessionChallenge_unique {c device relayId : Json} {now now' : Time}
    {challenge challenge' : SessionChallenge}
    (hch : validateSessionChallenge P c device relayId now = .ok challenge)
    (hch' : validateSessionChallenge P c device relayId now' = .ok challenge') :
    challenge = challenge' := by
  obtain ⟨-, -, -, hid, -, -, -, -, hissued, hexpires, -, -, -, -, hdoc⟩ :=
    validateSessionChallenge_eq_ok.mp hch
  obtain ⟨-, -, -, hid', -, -, -, -, hissued', hexpires', -, -, -, -, hdoc'⟩ :=
    validateSessionChallenge_eq_ok.mp hch'
  obtain ⟨document, id, issued, expires⟩ := challenge
  obtain ⟨document', id', issued', expires'⟩ := challenge'
  obtain rfl := Json.str.inj (hid.symm.trans hid')
  obtain rfl := Except.ok.inj (hissued.symm.trans hissued')
  obtain rfl := Except.ok.inj (hexpires.symm.trans hexpires')
  obtain rfl := hdoc.trans hdoc'.symm
  rfl

/-- **The verifier accepts the authentication of the device in the window of the
challenge**, and returns it without its signature. -/
theorem verifySessionAuth_iff {c r : Json} {relayId : String} {challenge : SessionChallenge}
    {made now : Time} (hpublic : i.publicKey = b64encode (P.publicKey k).1)
    (hdevice : i.deviceId = deviceId P (P.publicKey k).1)
    (hch : validateSessionChallenge P c (.str i.deviceId) (.str relayId) made = .ok challenge) :
    verifySessionAuth P (withSignature
        (sessionAuth c (.str i.deviceId) (.str i.publicKey) (.str (P.timestamp made)))
        (P.sign k (sessionSignatureDomain ++ canonical
          (sessionAuth c (.str i.deviceId) (.str i.publicKey) (.str (P.timestamp made)))))) c now =
          .ok r ↔
      r = sessionAuth c (.str i.deviceId) (.str i.publicKey) (.str (P.timestamp made)) ∧
        InWindow challenge.issued challenge.expires now := by
  obtain ⟨-, -, -, -, -, hrelay, -, -, -, -, -, -, hskew, hlive, -⟩ :=
    validateSessionChallenge_eq_ok.mp hch
  rw [hdevice, ← Json.fieldEq_str_iff.mp hrelay] at hch
  rw [verifySessionAuth_eq_ok]
  constructor
  · rintro ⟨-, -, -, -, rfl, key, -, challenge', -, hkey, -, -, hvalid, -⟩
    rw [show (withSignature (sessionAuth c _ _ _) _).field "device_public_key" =
      .str i.publicKey from rfl, hpublic, b64decode_str_b64encode] at hkey
    obtain rfl : P.publicKey k = key := Subtype.ext (Except.ok.inj hkey)
    -- the challenge is read as it was when it was signed
    obtain rfl := validateSessionChallenge_unique hch hvalid
    exact ⟨rfl, (validateSessionChallenge_iff hch).mp hvalid⟩
  · rintro ⟨rfl, hwindow⟩
    refine ⟨rfl, rfl, rfl, Json.pyEq_refl c, rfl, P.publicKey k, P.sign k (sessionSignatureDomain ++
      canonical (sessionAuth c (.str i.deviceId) (.str i.publicKey) (.str (P.timestamp made)))),
      challenge, made, ?_, ?_, ?_, ?_, ?_, ?_, hlive, ?_⟩
    · change b64decode _ (.str i.publicKey) = _
      rw [hpublic, b64decode_str_b64encode]
    · exact b64decode_str_b64encode _ _
    · exact congrArg Json.str hdevice
    · exact (validateSessionChallenge_iff hch).mpr hwindow
    · exact parseTimestamp_timestamp P _ made
    · exact sub_le_iff_le_add.mpr hskew
    · exact P.verify_sign _ _

/-! ### The law -/

/-- **Signer and verifier have one window**, for both protocols: if the device answered a
challenge, then the answer reads back from its text, and the relay accepts it exactly
from half a minute before the challenge was issued until it expires, returning the
challenge, or the answer without its signature. -/
theorem challenge_windows {c : Json} (hc : c.ordered = true) :
    (∀ env h h' response, (signRelayChallenge P env c).exec h = (.ok response, h') →
      Json.loads response.encode = some response ∧ ∃ issued expires,
        parseTimestamp P invalidChallengeTimestamp (c.field "issued_at") = .ok issued ∧
        parseTimestamp P invalidChallengeTimestamp (c.field "expires_at") = .ok expires ∧
        (∀ now, (∃ accepted, verifyChallengeResponse P response now = .ok accepted) ↔
          InWindow issued expires now) ∧
        ∀ now accepted, verifyChallengeResponse P response now = .ok accepted →
          accepted.document = c) ∧
    ∀ env h h' response relayId made,
      (signSessionChallenge P env c relayId made).exec h = (.ok response, h') →
      Json.loads response.encode = some response ∧ ∃ issued expires,
        parseTimestamp P invalidSessionTimestamp (c.field "issued_at") = .ok issued ∧
        parseTimestamp P invalidSessionTimestamp (c.field "expires_at") = .ok expires ∧
        (∀ now, (∃ r, verifySessionAuth P response c now = .ok r) ↔ InWindow issued expires now) ∧
        ∀ now r, verifySessionAuth P response c now = .ok r → r = response.erase "signature" := by
  constructor
  · intro env h h' response hexec
    -- a response that was made is for a challenge that was valid when it was made
    obtain ⟨i, k, challenge, hpublic, hdevice, hch, rfl⟩ := signRelayChallenge_eq_ok hexec
    obtain ⟨-, -, -, -, -, -, -, -, -, hissued, hexpires, -, -, -, -, hdoc⟩ :=
      validateRelayChallenge_eq_ok.mp hch
    refine ⟨Json.loads_encode (ordered_withSignature (responseOf_ordered env i (hdoc ▸ hc)) _),
      challenge.issued, challenge.expires, hissued, hexpires, fun now => ?_, fun now accepted ha => ?_⟩
    · rw [exists_congr fun accepted => verifyChallengeResponse_iff hpublic hdevice hch]
      exact ⟨fun ⟨_, _, hwindow⟩ => hwindow, fun hwindow => ⟨_, rfl, hwindow⟩⟩
    · obtain ⟨rfl, -⟩ := (verifyChallengeResponse_iff hpublic hdevice hch).mp ha
      exact hdoc
  · intro env h h' response relayId made hexec
    obtain ⟨i, k, challenge, hpublic, hdevice, hch, rfl⟩ := signSessionChallenge_eq_ok hexec
    obtain ⟨-, -, -, -, -, -, -, -, hissued, hexpires, -, -, -, -, -⟩ :=
      validateSessionChallenge_eq_ok.mp hch
    refine ⟨Json.loads_encode (ordered_withSignature (sessionAuth_ordered hc rfl rfl rfl) _),
      challenge.issued, challenge.expires, hissued, hexpires, fun now => ?_, fun now r hr => ?_⟩
    · rw [exists_congr fun r => verifySessionAuth_iff hpublic hdevice hch]
      exact ⟨fun ⟨_, _, hwindow⟩ => hwindow, fun hwindow => ⟨_, rfl, hwindow⟩⟩
    · obtain ⟨rfl, -⟩ := (verifySessionAuth_iff hpublic hdevice hch).mp hr
      rfl

end Windows

open Sample in
/-- The agent signs the sample challenge two seconds into the sample run; the relay
accepts the answer one second later, and not when the challenge has expired. -/
theorem challenge_windows_sample : ∃ response h', (signRelayChallenge platform
      (supply (moment 2) pairingId) relayChallenge).exec .fresh = (.ok response, h') ∧
    (∃ accepted, verifyChallengeResponse platform response (moment 3) = .ok accepted) ∧
    ¬∃ accepted, verifyChallengeResponse platform response (moment 301) = .ok accepted := by
  have hdevice : agentIdentity.deviceId = device := by decide
  have hissued : parseTimestamp platform invalidChallengeTimestamp
      (relayChallenge.field "issued_at") = .ok (moment 1) := by decide
  have hexpires : parseTimestamp platform invalidChallengeTimestamp
      (relayChallenge.field "expires_at") = .ok (moment 301) := by decide
  obtain ⟨response, h', hexec⟩ : ∃ response h', (signRelayChallenge platform
      (supply (moment 2) pairingId) relayChallenge).exec .fresh = (.ok response, h') := by
    have hch : validateRelayChallenge platform relayChallenge agentIdentity.deviceId (moment 2) =
        .ok ⟨relayChallenge, challengeId.1, "relay-1", moment 1, moment 301⟩ := by
      rw [hdevice]
      exact validateRelayChallenge_eq_ok.mpr ⟨by decide, rfl, rfl, rfl, challengeId.2, rfl,
        by decide, ⟨nonce.1, b64decode_str_b64encode _ _, nonce.2⟩, rfl, hissued, hexpires,
        by decide, by decide, by decide, by decide, rfl⟩
    exact ⟨_, _, exec_signRelayChallenge (.generated rfl) hch⟩
  obtain ⟨-, issued, expires, hissued', hexpires', hwindow, -⟩ :=
    (challenge_windows (P := platform) (c := relayChallenge) rfl).1 _ _ _ _ hexec
  obtain rfl := Except.ok.inj (hissued.symm.trans hissued')
  obtain rfl := Except.ok.inj (hexpires.symm.trans hexpires')
  refine ⟨response, h', hexec, (hwindow _).mpr (by decide), fun hlate => ?_⟩
  exact absurd ((hwindow _).mp hlate) (by decide)

end PrinterHmi
