import PrinterHmi.Enrollment.Store

/-!
# What an operation of the store can do

The public operations as one machine (`storeStep`), when no file step fails, and
the inversion every invariant is derived from: `storeStep_outcome` lists, once
and for all, what a call may answer and what host it then leaves.

Most operations do nothing before the identity is in place, so an outcome is told
relative to the host `ensureIdentity` leaves (`Identified`), which differs from
the one before only in the identity and its audit record. The two operations that
consume an offer share their cases: what they tried is an `Attempt`, and the state
they tried it on is `Call.base`.
-/

namespace PrinterHmi

/-- The public operations of the store, with their arguments. -/
inductive Call : Type where
  | createPairing (ttlSeconds : ℤ)
  | consumePairing (pairingId code peerId peerPublicKey : Json)
  | completeRelayEnrollment (request : Json)
  | signRelayChallenge (challenge : Json)
  | listPeers
  | revokePeer (peerId : Json)
  | rotateIdentity (confirmed : Bool)
  | identity
  | sign (payload : Bytes)

/-- What an operation returns. -/
inductive Reply : Type where
  | document (d : Json)
  | signature (s : Signature)

/-- A call, with what it takes from outside. -/
structure Invocation where
  call : Call
  env : Supply

section Machine

variable (P : Platform)

/-- The program of a call. -/
def Call.program (env : Supply) : Call → StoreProg Reply
  | createPairing ttlSeconds => do pure (.document (← PrinterHmi.createPairing P env ttlSeconds))
  | consumePairing pairingId code peerId peerPublicKey => do
    pure (.document (← PrinterHmi.consumePairing P env pairingId code peerId peerPublicKey))
  | completeRelayEnrollment request => do
    pure (.document (← PrinterHmi.completeRelayEnrollment P env request))
  | signRelayChallenge challenge => do
    pure (.document (← PrinterHmi.signRelayChallenge P env challenge))
  | listPeers => do pure (.document (← PrinterHmi.listPeers P env))
  | revokePeer peerId => do pure (.document (← PrinterHmi.revokePeer P env peerId))
  | rotateIdentity confirmed => do
    pure (.document (← PrinterHmi.rotateIdentity P env confirmed))
  | identity => do pure (.document (← PrinterHmi.identity P env))
  | sign payload => do pure (.signature (← PrinterHmi.sign P env payload))

/-- **The store as a machine**: one call, no file step failing. -/
def storeStep (h : Host) (c : Invocation) : Except Exn Reply × Host :=
  (c.call.program P c.env).exec h

/-- An event of a run of the store. -/
abbrev StoreEvent := Event Host Invocation (Except Exn Reply)

/-- What a call tries to consume, if it consumes and its arguments have the right
form. -/
def Call.attempt? : Call → Option Attempt
  | consumePairing pairingId code peerId peerPublicKey =>
    (readAttempt P pairingId code peerId peerPublicKey).toOption
  | completeRelayEnrollment request =>
    (readEnrollmentRequest P request).toOption.map EnrollmentRequest.toAttempt
  | _ => none

end Machine

/-- The state an attempt is made on. -/
def Call.base (now : Time) (state : StoreState) : Call → StoreState
  | completeRelayEnrollment _ => state.pruneUsedChallenges now
  | _ => state

/-! ### The pieces, executed -/

section Pieces

variable (P : Platform) (h : Host)

/-- An audit record appended. -/
def Host.audited (h : Host) (clock : Time) (event outcome : String)
    (details : List (String × Json)) : Host :=
  { h with audit := h.audit ++ [⟨P.timestamp clock, event, outcome, details⟩] }

@[simp] theorem exec_writeJson (f : Host → Host) : (writeJson f).exec h = (.ok (), f h) := rfl

@[simp] theorem exec_chmodFile : chmodFile.exec h = (.ok (), h) := rfl

@[simp] theorem exec_auditLocked (clock : Time) (event outcome : String)
    (details : List (String × Json)) :
    (auditLocked P clock event outcome details).exec h =
      (.ok (), h.audited P clock event outcome details) := rfl

@[simp] theorem exec_locked {α : Type} (body : StoreProg α) :
    (locked body).exec h = body.exec h := rfl

@[simp] theorem exec_saveState (state : StoreState) :
    (saveState state).exec h = (.ok (), { h with state := some state }) := rfl

@[simp] theorem exec_signPayload (key : Bytes32) (payload : Bytes) :
    (signPayload P key payload).exec h =
      (.ok (P.sign key payload), { h with signed := (key, payload) :: h.signed }) := rfl

@[simp] theorem exec_loadState : loadState.exec h = (.ok h.loaded, h) := by
  rw [loadState, FileProg.exec_bind_ok (FileProg.exec_state h)]
  cases hs : h.state with
  | none => simp [Host.loaded, hs]
  | some s => simp [Host.loaded, hs]

@[simp] theorem exec_rejectPairing {α : Type} (env : Supply) (state : StoreState)
    (details : List (String × Json)) (e : Exn) :
    (rejectPairing P env state details e : StoreProg α).exec h =
      (.error e, ({ h with state := some state } : Host).audited P env.audited "pairing.consumed"
        "rejected" details) := rfl

@[simp] theorem exec_auditConsumed (env : Supply) (pairingId : String) (peer : Peer) :
    (auditConsumed P env pairingId peer).exec h =
      (.ok (), h.audited P env.audited "pairing.consumed" "success"
        [("pairing_id", .str pairingId), ("peer_fingerprint", .str peer.fingerprint),
          ("peer_id", .str peer.peerId)]) := rfl

/-- The host after an identity has been generated. -/
def Host.withIdentity (h : Host) (g : Generation) (generation : ℤ) : Host :=
  ({ h with identity := some (newIdentity P g generation) } : Host).audited P g.audited
    "identity.created" "success"
    [("device_id", .str (newIdentity P g generation).deviceId), ("generation", .int generation)]

@[simp] theorem exec_generateIdentity (g : Generation) (generation : ℤ) :
    (generateIdentity P g generation).exec h =
      (.ok (newIdentity P g generation, g.key), h.withIdentity P g generation) := rfl

end Pieces

/-! ### The identity in place -/

section Identity

variable (P : Platform)

/-- The host `h₁` has the identity `i` with private key `k`: either `h` has it, or
`h` has none and it has just been generated. -/
inductive Identified (g : Generation) (h : Host) : Identity → Bytes32 → Host → Prop
  | stored {i : Identity} {k : Bytes32} (hi : h.identity = some i)
      (hk : checkIdentity P i = .ok k) : Identified g h i k h
  | generated (hi : h.identity = none) :
      Identified g h (newIdentity P g 1) g.key (h.withIdentity P g 1)

variable {P} {g : Generation} {h h₁ : Host} {i : Identity} {k : Bytes32}

/-- Putting the identity in place changes neither the state nor the record of
comparisons and signatures. -/
theorem Identified.frame (hid : Identified P g h i k h₁) :
    h₁.state = h.state ∧ h₁.compared = h.compared ∧ h₁.signed = h.signed := by
  cases hid with
  | stored => exact ⟨rfl, rfl, rfl⟩
  | generated => exact ⟨rfl, rfl, rfl⟩

/-- The identity that was there stays in place. -/
theorem Identified.unrotated (hid : Identified P g h i k h₁) :
    h₁.identity = h.identity ∨ h.identity = none := by
  cases hid with
  | stored => exact .inl rfl
  | generated hi => exact .inr hi

theorem Identified.loaded (hid : Identified P g h i k h₁) : h₁.loaded = h.loaded := by
  rw [Host.loaded, hid.frame.1, Host.loaded]

theorem Identified.identity (hid : Identified P g h i k h₁) : h₁.identity = some i := by
  cases hid with
  | stored hi => exact hi
  | generated => rfl

/-- The identity put in place is the one that was there. -/
theorem Identified.of_identity (hid : Identified P g h i k h₁) {i' : Identity}
    (hi' : h.identity = some i') : i = i' := by
  cases hid with
  | stored hi => exact Option.some.inj (hi.symm.trans hi')
  | generated hi =>
    rw [hi] at hi'
    cases hi'

/-- An identity written for a key checks out with that key. -/
theorem checkIdentity_newIdentity (g : Generation) (generation : ℤ) :
    checkIdentity P (newIdentity P g generation) = .ok g.key := by
  simp only [checkIdentity, Except.bind_eq_ok, require_eq_ok, exists_const, keyBytes_eq_ok]
  exact ⟨g.key.1, b64decodeText_b64encode _ _, g.key, rfl, rfl, rfl, rfl⟩

/-- An identity that checks out is that of its key. -/
theorem checkIdentity_eq_ok (hk : checkIdentity P i = .ok k) :
    i.publicKey = b64encode (P.publicKey k).1 ∧ i.deviceId = deviceId P (P.publicKey k).1 := by
  simp only [checkIdentity, Except.bind_eq_ok, require_eq_ok, exists_const, keyBytes_eq_ok] at hk
  obtain ⟨_, -, _, -, hpublic, hdevice, hk⟩ := hk
  obtain rfl := Except.ok.inj hk
  exact ⟨hpublic.symm, hdevice.symm⟩

/-- The identity in place checks out. -/
theorem Identified.checked (hid : Identified P g h i k h₁) :
    checkIdentity P i = .ok k := by
  cases hid with
  | stored _ hk => exact hk
  | generated => exact checkIdentity_newIdentity g 1

/-- The identity in place is that of its key. -/
theorem Identified.key (hid : Identified P g h i k h₁) :
    i.publicKey = b64encode (P.publicKey k).1 ∧ i.deviceId = deviceId P (P.publicKey k).1 :=
  checkIdentity_eq_ok hid.checked

/-- The identity put in place. -/
theorem Identified.exec (hid : Identified P g h i k h₁) :
    (ensureIdentity P g).exec h = (.ok (i, k), h₁) := by
  cases hid with
  | stored hi hk =>
    rw [ensureIdentity, FileProg.exec_bind_ok (FileProg.exec_state h)]
    simp [hi, hk]
  | generated hi =>
    rw [ensureIdentity, FileProg.exec_bind_ok (FileProg.exec_state h), hi]
    rfl

/-- `ensureIdentity` either raises and changes nothing, or puts the identity in
place. -/
theorem exec_ensureIdentity (g : Generation) (h : Host) :
    (∃ e, (ensureIdentity P g).exec h = (.error e, h)) ∨
      ∃ i k h₁, (ensureIdentity P g).exec h = (.ok (i, k), h₁) ∧ Identified P g h i k h₁ := by
  cases hi : h.identity with
  | none => exact .inr ⟨_, _, _, Identified.exec (.generated hi), .generated hi⟩
  | some i =>
    cases hk : checkIdentity P i with
    | error e =>
      rw [ensureIdentity, FileProg.exec_bind_ok (FileProg.exec_state h)]
      exact .inl ⟨e, by simp [hi, hk]⟩
    | ok k => exact .inr ⟨i, k, h, Identified.exec (.stored hi hk), .stored hi hk⟩

/-- **An operation that needs the identity** raises and changes nothing, or goes on
with the identity in place. -/
theorem exec_ensureIdentity_bind {α : Type} (g : Generation) (h : Host)
    (f : Identity × Bytes32 → StoreProg α) :
    (∃ e, (ensureIdentity P g >>= f).exec h = (.error e, h)) ∨
      ∃ i k h₁, Identified P g h i k h₁ ∧ (ensureIdentity P g >>= f).exec h = (f (i, k)).exec h₁ := by
  rcases exec_ensureIdentity (P := P) g h with ⟨e, he⟩ | ⟨i, k, h₁, hex, hid⟩
  · exact .inl ⟨e, FileProg.exec_bind_error he f⟩
  · exact .inr ⟨i, k, h₁, hid, FileProg.exec_bind_ok hex f⟩

end Identity

/-! ### Consuming an offer -/

section Consuming

variable (P : Platform)

/-- The code is the one the offer was made with: what is compared with the digest
equals it. -/
def Pairing.Accepts (env : Supply) (pairing : Pairing) (code : Option String) : Prop :=
  ∃ salt expected, b64decodeText invalidEncoded pairing.salt = .ok salt ∧
    b64decodeText invalidEncoded pairing.codeDigest = .ok expected ∧
    candidateDigest P env code salt = expected

/-- The host with a comparison recorded. -/
def Host.withComparison (h : Host) (pairingId : String) (right : Bool) : Host :=
  { h with compared := (pairingId, right) :: h.compared }

/-- The host after a refusal. -/
def Host.afterRefusal (h : Host) (env : Supply) (state : StoreState)
    (details : List (String × Json)) : Host :=
  ({ h with state := some state } : Host).audited P env.audited "pairing.consumed" "rejected"
    details

/-- The host after a consumed pairing has been recorded. -/
def Host.afterConsumption (h : Host) (env : Supply) (pairingId : String) (peer : Peer) : Host :=
  h.audited P env.audited "pairing.consumed" "success"
    [("pairing_id", .str pairingId), ("peer_fingerprint", .str peer.fingerprint),
      ("peer_id", .str peer.peerId)]

/-- **What an attempt on an offer does**, case by case: with the state `s` in
memory, on the host `h`. -/
inductive Consumed (env : Supply) (s : StoreState) (a : Attempt) (persist : Bool) (h : Host) :
    Except Exn (Peer × StoreState) → Host → Prop
  | absent (hp : ∀ pairing, s.pairings.get? a.pairingId = some pairing →
      pairing.expiresEpoch ≤ env.now) :
      Consumed env s a persist h (.error invalidPairingCode)
        (h.afterRefusal P env (s.dropPairing a.pairingId) [("pairing_id", .str a.pairingId)])
  | undecodable {pairing : Pairing} {e : Exn} (hp : s.pairings.get? a.pairingId = some pairing)
      (hlive : env.now < pairing.expiresEpoch) : Consumed env s a persist h (.error e) h
  | miss {pairing : Pairing} (hp : s.pairings.get? a.pairingId = some pairing)
      (hlive : env.now < pairing.expiresEpoch) (hwrong : ¬pairing.Accepts P env a.code) :
      Consumed env s a persist h (.error invalidPairingCode)
        ((h.withComparison a.pairingId false).afterRefusal P env
          (s.afterMiss a.pairingId pairing) [("pairing_id", .str a.pairingId)])
  | active {pairing : Pairing} (hp : s.pairings.get? a.pairingId = some pairing)
      (hlive : env.now < pairing.expiresEpoch) (hright : pairing.Accepts P env a.code)
      (hactive : s.isActive a.peerId = true) :
      Consumed env s a persist h (.error (enrollmentError "peer is already enrolled"))
        ((h.withComparison a.pairingId true).afterRefusal P env (s.dropPairing a.pairingId)
          [("pairing_id", .str a.pairingId), ("peer_id", .str a.peerId)])
  | success {pairing : Pairing} (hp : s.pairings.get? a.pairingId = some pairing)
      (hlive : env.now < pairing.expiresEpoch) (hright : pairing.Accepts P env a.code)
      (hinactive : s.isActive a.peerId = false) :
      Consumed env s a persist h
        (.ok (newPeer P a.peerId a.key env.now,
          s.enroll a.pairingId (newPeer P a.peerId a.key env.now)))
        (if persist then
          ({ h.withComparison a.pairingId true with
            state := some (s.enroll a.pairingId (newPeer P a.peerId a.key env.now)) } :
              Host).afterConsumption P env a.pairingId (newPeer P a.peerId a.key env.now)
        else h.withComparison a.pairingId true)

variable {P}

/-- `consumePairingLocked` does one of these things. -/
theorem consumePairingLocked_consumed (env : Supply) (s : StoreState) (a : Attempt)
    (persist : Bool) (h : Host) :
    Consumed P env s a persist h ((consumePairingLocked P env s a persist).exec h).1
      ((consumePairingLocked P env s a persist).exec h).2 := by
  rw [consumePairingLocked]
  cases hp : s.pairings.get? a.pairingId with
  | none => exact .absent fun pairing hpairing => by rw [hp] at hpairing; cases hpairing
  | some pairing =>
    dsimp only
    by_cases hlive : pairing.expiresEpoch ≤ env.now
    · rw [if_pos hlive]
      exact .absent fun pairing' hp' => by
        rw [hp] at hp'
        exact Option.some.inj hp' ▸ hlive
    rw [if_neg hlive]
    have hlive' : env.now < pairing.expiresEpoch := not_le.mp hlive
    -- the salt and the digest are decoded before the comparison is counted
    rcases hsalt : b64decodeText invalidEncoded pairing.salt with e | salt
    · simp only [FileProg.exec_bind, FileProg.exec_lift]
      exact .undecodable hp hlive'
    rcases hexp : b64decodeText invalidEncoded pairing.codeDigest with e | expected
    · simp only [FileProg.exec_bind, FileProg.exec_lift]
      exact .undecodable hp hlive'
    have haccepts : pairing.Accepts P env a.code ↔ candidateDigest P env a.code salt = expected := by
      constructor
      · rintro ⟨_, _, hs, he, heq⟩
        rw [hsalt] at hs
        rw [hexp] at he
        obtain rfl := Except.ok.inj hs
        obtain rfl := Except.ok.inj he
        exact heq
      · exact fun heq => ⟨salt, expected, hsalt, hexp, heq⟩
    simp only [FileProg.exec_bind, FileProg.exec_lift, FileProg.exec_record]
    by_cases hright : candidateDigest P env a.code salt = expected
    · have hbeq : (candidateDigest P env a.code salt == expected) = true := beq_iff_eq.mpr hright
      simp only [hbeq, Bool.not_true, Bool.false_eq_true, if_false]
      -- the code is right, and the offer is used up by an active peer too
      cases hactive : s.isActive a.peerId with
      | true => exact .active hp hlive' (haccepts.mpr hright) hactive
      | false =>
        have hsuccess : Consumed P env s a persist h _ _ :=
          .success hp hlive' (haccepts.mpr hright) hactive
        cases persist <;> exact hsuccess
    · have hbeq : (candidateDigest P env a.code salt == expected) = false :=
        beq_eq_false_iff_ne.mpr hright
      simp only [hbeq, Bool.not_false, if_true]
      exact .miss hp hlive' fun hc => hright (haccepts.mp hc)

end Consuming

/-! ### The outcomes of a call -/

section Outcomes

variable (P : Platform)

/-- The state after an enrollment over a challenge. -/
def StoreState.useChallenge (s : StoreState) (challenge : RelayChallenge) (now : Time) :
    StoreState :=
  { s with
    usedChallenges := s.usedChallenges.insert challenge.challengeId
      ⟨challenge.relayId, challenge.expires, P.timestamp now⟩ }

/-- The state with a new offer in place of the expired ones. -/
def StoreState.offer (s : StoreState) (env : Supply) (ttl : ℤ) : StoreState :=
  { s.pruneExpired env.now with
    pairings := (s.pruneExpired env.now).pairings.insert env.pairingId.1 (newPairing P env ttl) }

/-- A peer, revoked. -/
def Peer.revoked (peer : Peer) (now : Time) : Peer :=
  { peer with revokedAt := some (P.timestamp now) }

/-- The state with a peer revoked. -/
def StoreState.revoke (s : StoreState) (peerId : String) (peer : Peer) (now : Time) :
    StoreState :=
  { s with peers := s.peers.insert peerId (peer.revoked P now) }

/-- The receipt `complete_relay_enrollment` signs. -/
def receiptOf (env : Supply) (i : Identity) (challenge : RelayChallenge) (a : Attempt) : Json :=
  enrollmentReceipt challenge.challengeId challenge.relayId a.pairingId i.deviceId i.publicKey
    a.peerId (b64encode a.key.1) (P.timestamp env.now)

/-- The response `sign_relay_challenge` signs. -/
def responseOf (env : Supply) (i : Identity) (challenge : RelayChallenge) : Json :=
  challengeResponse challenge.document i.deviceId i.publicKey (P.timestamp env.now)

/-- The host with a signature recorded. -/
def Host.withSigned (h : Host) (key : Bytes32) (payload : Bytes) : Host :=
  { h with signed := (key, payload) :: h.signed }

/-- The host with its state replaced. -/
def Host.withState (h : Host) (s : StoreState) : Host := { h with state := some s }

/-- **What a call can do**, case by case: its answer and the host it leaves. The
host `h₁` is `h` with the identity in place. -/
inductive Outcome (h : Host) (env : Supply) : Call → Except Exn Reply → Host → Prop
  /-- It raised before it changed anything. -/
  | raised {call : Call} {e : Exn} : Outcome h env call (.error e) h
  /-- It raised with the identity in place and nothing else done. -/
  | refused {call : Call} {e : Exn} {i : Identity} {k : Bytes32} {h₁ : Host}
      (hid : Identified P env.initial h i k h₁) : Outcome h env call (.error e) h₁
  | created {ttl : ℤ} {i : Identity} {k : Bytes32} {h₁ : Host}
      (httl : minPairingTtl ≤ ttl ∧ ttl ≤ maxPairingTtl)
      (hid : Identified P env.initial h i k h₁) :
      Outcome h env (.createPairing ttl) (.ok (.document (pairingOffer P env ttl i)))
        ((h₁.withState (h.loaded.offer P env ttl)).audited P env.audited "pairing.created" "success"
          [("expires_at", .str (P.timestamp (env.now + seconds ttl))),
            ("pairing_id", .str env.pairingId.1)])
  /-- An attempt on an offer failed. -/
  | unconsumed {call : Call} {a : Attempt} {persist : Bool} {e : Exn} {i : Identity} {k : Bytes32}
      {h₁ h₂ : Host} (ha : call.attempt? P = some a) (hid : Identified P env.initial h i k h₁)
      (hc : Consumed P env (call.base env.now h.loaded) a persist h₁ (.error e) h₂) :
      Outcome h env call (.error e) h₂
  | consumed {pairingId code peerId peerPublicKey : Json} {a : Attempt} {i : Identity}
      {k : Bytes32} {h₁ h₂ : Host} {peer : Peer} {s : StoreState}
      (ha : readAttempt P pairingId code peerId peerPublicKey = .ok a)
      (hid : Identified P env.initial h i k h₁)
      (hc : Consumed P env h.loaded a true h₁ (.ok (peer, s)) h₂) :
      Outcome h env (.consumePairing pairingId code peerId peerPublicKey)
        (.ok (.document (publicPeer peer))) h₂
  /-- The peer's proof of possession was rejected. -/
  | unproved {document : Json} {request : EnrollmentRequest} {challenge : RelayChallenge}
      {i : Identity} {k : Bytes32} {h₁ : Host}
      (hr : readEnrollmentRequest P document = .ok request)
      (hid : Identified P env.initial h i k h₁) :
      Outcome h env (.completeRelayEnrollment document)
        (.error (enrollmentError "invalid peer enrollment proof"))
        (h₁.audited P env.audited "relay.enrollment.completed" "rejected"
          [("challenge_id", .str challenge.challengeId), ("peer_id", .str request.peerId),
            ("relay_id", .str challenge.relayId)])
  | completed {document : Json} {request : EnrollmentRequest} {challenge : RelayChallenge}
      {i : Identity} {k : Bytes32} {h₁ h₂ : Host} {peer : Peer} {s : StoreState}
      (hr : readEnrollmentRequest P document = .ok request)
      (hid : Identified P env.initial h i k h₁)
      (hch : validateRelayChallenge P request.challenge i.deviceId env.now = .ok challenge)
      (hunused : (h.loaded.pruneUsedChallenges env.now).usedChallenges.get?
        challenge.challengeId = none)
      (hproof : P.verify request.key (peerProofPayload challenge.document request.pairingId
        request.peerId i.deviceId) request.signature = true)
      (hc : Consumed P env (h.loaded.pruneUsedChallenges env.now) request.toAttempt false h₁
        (.ok (peer, s)) h₂) :
      Outcome h env (.completeRelayEnrollment document)
        (.ok (.document (withSignature (receiptOf P env i challenge request.toAttempt)
          (P.sign k (enrollmentReceiptDomain ++
            canonical (receiptOf P env i challenge request.toAttempt))))))
        ((((h₂.withState (s.useChallenge P challenge env.now)).afterConsumption P env
          request.pairingId peer).withSigned k (enrollmentReceiptDomain ++
            canonical (receiptOf P env i challenge request.toAttempt))).audited P env.completed
          "relay.enrollment.completed" "success"
          [("challenge_id", .str challenge.challengeId), ("pairing_id", .str request.pairingId),
            ("peer_fingerprint", .str peer.fingerprint), ("peer_id", .str request.peerId),
            ("relay_id", .str challenge.relayId)])
  | signedChallenge {document : Json} {challenge : RelayChallenge} {i : Identity} {k : Bytes32}
      {h₁ : Host} (hid : Identified P env.initial h i k h₁)
      (hch : validateRelayChallenge P document i.deviceId env.now = .ok challenge) :
      Outcome h env (.signRelayChallenge document)
        (.ok (.document (withSignature (responseOf P env i challenge)
          (P.sign k (challengeSignatureDomain ++ canonical (responseOf P env i challenge))))))
        ((h₁.withSigned k (challengeSignatureDomain ++
          canonical (responseOf P env i challenge))).audited P env.audited
          "relay.challenge.signed" "success"
          [("challenge_id", .str challenge.challengeId), ("relay_id", .str challenge.relayId)])
  | listed {i : Identity} {k : Bytes32} {h₁ : Host} (hid : Identified P env.initial h i k h₁) :
      Outcome h env .listPeers
        (.ok (.document (.arr (h.loaded.peers.entries.map fun entry => publicPeer entry.2)))) h₁
  | revoked {peerId : String} {peer : Peer} {i : Identity} {k : Bytes32} {h₁ : Host}
      (hid : Identified P env.initial h i k h₁) (hpeer : h.loaded.peers.get? peerId = some peer)
      (hactive : peer.revokedAt = none) :
      Outcome h env (.revokePeer (.str peerId))
        (.ok (.document (publicPeer (peer.revoked P env.now))))
        ((h₁.withState (h.loaded.revoke P peerId peer env.now)).audited P env.audited
          "peer.revoked" "success"
          [("peer_fingerprint", .str peer.fingerprint), ("peer_id", .str peerId)])
  | rotated {i : Identity} {k : Bytes32} {h₁ : Host} (hid : Identified P env.initial h i k h₁) :
      Outcome h env (.rotateIdentity true)
        (.ok (.document (publicIdentity (newIdentity P env.rotated (i.generation + 1)))))
        (((h₁.withIdentity P env.rotated (i.generation + 1)).withState .empty).audited P env.audited
          "identity.rotated" "success"
          [("device_id", .str (newIdentity P env.rotated (i.generation + 1)).deviceId),
            ("previous_device_id", .str i.deviceId)])
  | identified {i : Identity} {k : Bytes32} {h₁ : Host} (hid : Identified P env.initial h i k h₁) :
      Outcome h env .identity (.ok (.document (publicIdentity i))) h₁
  | signed {payload : Bytes} {i : Identity} {k : Bytes32} {h₁ : Host}
      (hid : Identified P env.initial h i k h₁) :
      Outcome h env (.sign payload) (.ok (.signature (P.sign k payload)))
        (h₁.withSigned k payload)

end Outcomes

/-! ### The machine, executed -/

/-- Wrapping the answer of a program. -/
theorem exec_wrap {α : Type} (p : StoreProg α) (f : α → Reply) (h : Host) :
    (p >>= fun a => pure (f a)).exec h = ((p.exec h).1.map f, (p.exec h).2) := by
  rw [FileProg.exec_bind]
  rcases p.exec h with ⟨_ | _, _⟩ <;> rfl

/-- An operation that returns a document, as a call. -/
theorem storeStep_document {P : Platform} {h h' : Host} {c : Invocation} {p : StoreProg Json}
    {d : Json} (hc : c.call.program P c.env = p >>= fun d => pure (.document d))
    (hp : p.exec h = (.ok d, h')) : storeStep P h c = (.ok (.document d), h') := by
  rw [storeStep, hc, exec_wrap, hp]
  rfl

/-- The operation that returns a signature, as a call. -/
theorem storeStep_signature {P : Platform} {h h' : Host} {env : Supply} {payload : Bytes}
    {s : Signature} (hp : (sign P env payload).exec h = (.ok s, h')) :
    storeStep P h ⟨.sign payload, env⟩ = (.ok (.signature s), h') := by
  rw [storeStep, Call.program, exec_wrap, hp]
  rfl

/-! ### Operations that go through -/

section Success

variable {P : Platform} {h h₁ : Host} {env : Supply} {i : Identity} {k : Bytes32}

/-- An offer, once the identity is in place. -/
theorem exec_createPairing {ttl : ℤ} (httl : minPairingTtl ≤ ttl ∧ ttl ≤ maxPairingTtl)
    (hid : Identified P env.initial h i k h₁) :
    (createPairing P env ttl).exec h = (.ok (pairingOffer P env ttl i),
      (h₁.withState (h.loaded.offer P env ttl)).audited P env.audited "pairing.created" "success"
        [("expires_at", .str (P.timestamp (env.now + seconds ttl))),
          ("pairing_id", .str env.pairingId.1)]) := by
  rw [createPairing, require_pos httl, FileProg.exec_bind_ok (FileProg.exec_lift _ _), exec_locked,
    FileProg.exec_bind_ok hid.exec]
  simp only [FileProg.exec_bind, exec_loadState, hid.loaded, exec_saveState, exec_auditLocked,
    FileProg.exec_pure]
  rfl

/-- A signature, once the identity is in place. -/
theorem exec_sign_identified (hid : Identified P env.initial h i k h₁) (payload : Bytes) :
    (sign P env payload).exec h = (.ok (P.sign k payload), h₁.withSigned k payload) :=
  FileProg.exec_bind_ok hid.exec _

/-- **A right code on a live offer**, for a peer that is not active. -/
theorem exec_consumePairingLocked {s : StoreState} {a : Attempt} {pairing : Pairing} (h : Host)
    (hp : s.pairings.get? a.pairingId = some pairing) (hlive : env.now < pairing.expiresEpoch)
    (hright : pairing.Accepts P env a.code) (hinactive : s.isActive a.peerId = false) :
    (consumePairingLocked P env s a false).exec h =
      (.ok (newPeer P a.peerId a.key env.now,
        s.enroll a.pairingId (newPeer P a.peerId a.key env.now)),
        h.withComparison a.pairingId true) := by
  obtain ⟨salt, expected, hsalt, hexp, hcand⟩ := hright
  have hbeq : (candidateDigest P env a.code salt == expected) = true := beq_iff_eq.mpr hcand
  rw [consumePairingLocked, hp]
  simp only [if_neg (not_le.mpr hlive), FileProg.exec_bind, FileProg.exec_lift, hsalt, hexp,
    FileProg.exec_record, hbeq, hinactive, Bool.not_true, Bool.false_eq_true, if_false]
  rfl

/-- **A right code on a live offer**, presented by itself. -/
theorem exec_consumePairing {pairingId code peerId peerPublicKey : Json} {a : Attempt}
    (pairing : Pairing) (ha : readAttempt P pairingId code peerId peerPublicKey = .ok a)
    (hid : Identified P env.initial h i k h₁)
    (hp : h.loaded.pairings.get? a.pairingId = some pairing)
    (hlive : env.now < pairing.expiresEpoch) (hright : pairing.Accepts P env a.code)
    (hinactive : h.loaded.isActive a.peerId = false) :
    (consumePairing P env pairingId code peerId peerPublicKey).exec h =
      (.ok (publicPeer (newPeer P a.peerId a.key env.now)),
        ((h₁.withComparison a.pairingId true).withState (h.loaded.enroll a.pairingId
          (newPeer P a.peerId a.key env.now))).afterConsumption P env a.pairingId
            (newPeer P a.peerId a.key env.now)) := by
  obtain ⟨salt, expected, hsalt, hexp, hcand⟩ := hright
  have hbeq : (candidateDigest P env a.code salt == expected) = true := beq_iff_eq.mpr hcand
  rw [consumePairing, ha, FileProg.exec_bind_ok (FileProg.exec_lift _ _), exec_locked,
    FileProg.exec_bind_ok hid.exec, FileProg.exec_bind_ok (exec_loadState h₁), hid.loaded,
    consumePairingLocked, hp]
  simp only [if_neg (not_le.mpr hlive), FileProg.exec_bind, FileProg.exec_lift, hsalt, hexp,
    FileProg.exec_record, hbeq, hinactive, Bool.not_true, Bool.false_eq_true, if_false]
  rfl

/-- The host after an enrollment over a challenge. -/
def Host.afterEnrollment (P : Platform) (h : Host) (env : Supply) (i : Identity) (k : Bytes32)
    (challenge : RelayChallenge) (a : Attempt) (s : StoreState) : Host :=
  (((h.withState (s.useChallenge P challenge env.now)).afterConsumption P env
    a.pairingId (newPeer P a.peerId a.key env.now)).withSigned k (enrollmentReceiptDomain ++
      canonical (receiptOf P env i challenge a))).audited P env.completed
    "relay.enrollment.completed" "success"
    [("challenge_id", .str challenge.challengeId), ("pairing_id", .str a.pairingId),
      ("peer_fingerprint", .str (newPeer P a.peerId a.key env.now).fingerprint),
      ("peer_id", .str a.peerId), ("relay_id", .str challenge.relayId)]

/-- The receipt of an enrollment, signed. -/
def signedReceipt (P : Platform) (env : Supply) (i : Identity) (k : Bytes32)
    (challenge : RelayChallenge) (a : Attempt) : Json :=
  withSignature (receiptOf P env i challenge a)
    (P.sign k (enrollmentReceiptDomain ++ canonical (receiptOf P env i challenge a)))

/-- **A request that completes its enrollment**: well formed, over an acceptable
unused challenge, with the peer's proof and the right code. -/
theorem exec_completeRelayEnrollment {document : Json} {request : EnrollmentRequest}
    {challenge : RelayChallenge} (pairing : Pairing)
    (hr : readEnrollmentRequest P document = .ok request)
    (hid : Identified P env.initial h i k h₁)
    (hch : validateRelayChallenge P request.challenge i.deviceId env.now = .ok challenge)
    (hunused : (h.loaded.pruneUsedChallenges env.now).usedChallenges.get?
      challenge.challengeId = none)
    (hproof : P.verify request.key (peerProofPayload challenge.document request.pairingId
      request.peerId i.deviceId) request.signature = true)
    (hp : h.loaded.pairings.get? request.pairingId = some pairing)
    (hlive : env.now < pairing.expiresEpoch) (hright : pairing.Accepts P env request.code)
    (hinactive : h.loaded.isActive request.peerId = false) :
    (completeRelayEnrollment P env document).exec h =
      (.ok (signedReceipt P env i k challenge request.toAttempt),
        (h₁.withComparison request.pairingId true).afterEnrollment P env i k challenge
          request.toAttempt ((h.loaded.pruneUsedChallenges env.now).enroll request.pairingId
            (newPeer P request.peerId request.key env.now))) := by
  have hconsume : (consumePairingLocked P env (h.loaded.pruneUsedChallenges env.now)
      request.toAttempt false).exec h₁ = _ :=
    exec_consumePairingLocked h₁ hp hlive hright hinactive
  rw [completeRelayEnrollment, hr, FileProg.exec_bind_ok (FileProg.exec_lift _ _), exec_locked,
    FileProg.exec_bind_ok hid.exec]
  dsimp only
  rw [hch, FileProg.exec_bind_ok (FileProg.exec_lift _ _),
    FileProg.exec_bind_ok (exec_loadState h₁), hid.loaded,
    require_pos (Option.isNone_iff_eq_none.mpr hunused),
    FileProg.exec_bind_ok (FileProg.exec_lift _ _), if_pos hproof, completeLocked,
    FileProg.exec_bind_ok hconsume]
  rfl

end Success

/-! ### Every call has one of these outcomes -/

section Inversion

variable {P : Platform} (h : Host) (env : Supply)

/-- The outcome of a program whose answer is a document. -/
def HasOutcome (P : Platform) (h : Host) (env : Supply) (call : Call) (p : StoreProg Json) : Prop :=
  Outcome P h env call ((p.exec h).1.map .document) (p.exec h).2

variable {h env}

/-- The outcome of an operation that starts with the identity. -/
theorem HasOutcome.of_identified {call : Call} {p : StoreProg Json}
    {f : Identity × Bytes32 → StoreProg Json}
    (hp : p.exec h = (ensureIdentity P env.initial >>= f).exec h)
    (hf : ∀ i k h₁, Identified P env.initial h i k h₁ →
      Outcome P h env call (((f (i, k)).exec h₁).1.map .document) ((f (i, k)).exec h₁).2) :
    HasOutcome P h env call p := by
  rw [HasOutcome, hp]
  rcases exec_ensureIdentity_bind (P := P) env.initial h f with ⟨e, he⟩ | ⟨i, k, h₁, hid, hex⟩
  · rw [he]
    exact .raised
  · rw [hex]
    exact hf i k h₁ hid

theorem createPairing_outcome (ttl : ℤ) :
    HasOutcome P h env (.createPairing ttl) (createPairing P env ttl) := by
  by_cases httl : minPairingTtl ≤ ttl ∧ ttl ≤ maxPairingTtl
  · refine .of_identified (f := _)
      (by rw [createPairing, require_pos httl, FileProg.exec_bind_ok (FileProg.exec_lift _ _),
        exec_locked]) fun i k h₁ hid => ?_
    simp only [FileProg.exec_bind, exec_loadState, hid.loaded, exec_saveState, exec_auditLocked,
      FileProg.exec_pure]
    exact .created httl hid
  · rw [HasOutcome, createPairing, require_neg httl, FileProg.exec_bind_error
      (FileProg.exec_lift _ _)]
    exact .raised

theorem consumePairing_outcome (pairingId code peerId peerPublicKey : Json) :
    HasOutcome P h env (.consumePairing pairingId code peerId peerPublicKey)
      (consumePairing P env pairingId code peerId peerPublicKey) := by
  cases ha : readAttempt P pairingId code peerId peerPublicKey with
  | error e =>
    rw [HasOutcome, consumePairing, ha, FileProg.exec_bind_error (FileProg.exec_lift _ _)]
    exact .raised
  | ok a =>
    refine .of_identified (f := _)
      (by rw [consumePairing, ha, FileProg.exec_bind_ok (FileProg.exec_lift _ _), exec_locked])
      fun i k h₁ hid => ?_
    rw [FileProg.exec_bind_ok (exec_loadState h₁), hid.loaded, FileProg.exec_bind]
    have hc := consumePairingLocked_consumed (P := P) env h.loaded a true h₁
    rcases hex : (consumePairingLocked P env h.loaded a true).exec h₁ with ⟨e | ⟨peer, s⟩, h₂⟩
    · rw [hex] at hc
      exact .unconsumed (by rw [Call.attempt?, ha]; rfl) hid hc
    · rw [hex] at hc
      exact .consumed ha hid hc

theorem completeRelayEnrollment_outcome (document : Json) :
    HasOutcome P h env (.completeRelayEnrollment document)
      (completeRelayEnrollment P env document) := by
  cases hr : readEnrollmentRequest P document with
  | error e =>
    rw [HasOutcome, completeRelayEnrollment, hr, FileProg.exec_bind_error (FileProg.exec_lift _ _)]
    exact .raised
  | ok request =>
    refine .of_identified (f := _)
      (by rw [completeRelayEnrollment, hr, FileProg.exec_bind_ok (FileProg.exec_lift _ _),
        exec_locked]) fun i k h₁ hid => ?_
    -- from here on the identity is there, and the checks follow in the order of the source
    cases hch : validateRelayChallenge P request.challenge i.deviceId env.now with
    | error e =>
      simp only [FileProg.exec_bind, FileProg.exec_lift, hch]
      exact .refused hid
    | ok challenge =>
      dsimp only
      rw [hch, FileProg.exec_bind_ok (FileProg.exec_lift _ _),
        FileProg.exec_bind_ok (exec_loadState h₁), hid.loaded]
      by_cases hunused : ((h.loaded.pruneUsedChallenges env.now).usedChallenges.get?
          challenge.challengeId).isNone = true
      · rw [require_pos hunused, FileProg.exec_bind_ok (FileProg.exec_lift _ _)]
        by_cases hproof : P.verify request.key (peerProofPayload challenge.document
            request.pairingId request.peerId i.deviceId) request.signature = true
        · rw [if_pos hproof, completeLocked, FileProg.exec_bind]
          have hc := consumePairingLocked_consumed (P := P) env
            (h.loaded.pruneUsedChallenges env.now) request.toAttempt false h₁
          rcases hex : (consumePairingLocked P env (h.loaded.pruneUsedChallenges env.now)
            request.toAttempt false).exec h₁ with ⟨e | ⟨peer, s⟩, h₂⟩
          · rw [hex] at hc
            exact .unconsumed (by rw [Call.attempt?, hr]; rfl) hid hc
          · rw [hex] at hc
            -- the receipt names the key the peer was enrolled with
            have hpeer : peer.publicKey = b64encode request.key.1 := by
              cases hc
              rfl
            have hout := Outcome.completed hr hid hch (Option.isNone_iff_eq_none.mp hunused) hproof
              hc
            rw [receiptOf, ← hpeer] at hout
            exact hout
        · rw [if_neg hproof]
          exact .unproved hr hid
      · rw [require_neg hunused, FileProg.exec_bind_error (FileProg.exec_lift _ _)]
        exact .refused hid

theorem signRelayChallenge_outcome (challenge : Json) :
    HasOutcome P h env (.signRelayChallenge challenge) (signRelayChallenge P env challenge) := by
  refine .of_identified (f := _) (by rw [signRelayChallenge, exec_locked]) fun i k h₁ hid => ?_
  cases hch : validateRelayChallenge P challenge i.deviceId env.now with
  | error e =>
    simp only [FileProg.exec_bind, FileProg.exec_lift, hch]
    exact .refused hid
  | ok c =>
    simp only [FileProg.exec_bind, FileProg.exec_lift, hch]
    exact .signedChallenge hid hch

theorem listPeers_outcome : HasOutcome P h env .listPeers (listPeers P env) := by
  refine .of_identified (f := _) (by rw [listPeers, exec_locked]) fun i k h₁ hid => ?_
  rw [FileProg.exec_bind_ok (exec_loadState h₁), hid.loaded]
  exact .listed hid

theorem revokePeer_outcome (peerId : Json) :
    HasOutcome P h env (.revokePeer peerId) (revokePeer P env peerId) := by
  refine .of_identified (f := _) (by rw [revokePeer, exec_locked]) fun i k h₁ hid => ?_
  rw [FileProg.exec_bind_ok (exec_loadState h₁), hid.loaded]
  rcases hp : h.loaded.peerOf peerId with e | (_ | ⟨key, peer⟩)
  · rw [FileProg.exec_bind_error (FileProg.exec_lift _ _)]
    exact .refused hid
  · rw [FileProg.exec_bind_ok (FileProg.exec_lift _ _)]
    exact .refused hid
  · rw [FileProg.exec_bind_ok (FileProg.exec_lift _ _)]
    -- only a text is found among the peers
    obtain ⟨rfl, hpeer⟩ : peerId = .str key ∧ h.loaded.peers.get? key = some peer := by
      cases peerId with
      | str text =>
        rw [StoreState.peerOf, Except.ok.injEq, Option.map_eq_some_iff] at hp
        obtain ⟨p, hp, heq⟩ := hp
        obtain ⟨rfl, rfl⟩ := Prod.mk.inj heq
        exact ⟨rfl, hp⟩
      | _ => cases hp
    dsimp only
    cases hactive : peer.revokedAt with
    | some moment =>
      rw [Option.isNone_some, require_neg (by decide),
        FileProg.exec_bind_error (FileProg.exec_lift _ _)]
      exact .refused hid
    | none =>
      rw [Option.isNone_none, require_pos rfl, FileProg.exec_bind_ok (FileProg.exec_lift _ _)]
      exact .revoked hid hpeer hactive

theorem rotateIdentity_outcome (confirmed : Bool) :
    HasOutcome P h env (.rotateIdentity confirmed) (rotateIdentity P env confirmed) := by
  cases confirmed with
  | false => exact .raised
  | true =>
    refine .of_identified (f := _)
      (by rw [rotateIdentity, require_pos rfl, FileProg.exec_bind_ok (FileProg.exec_lift _ _),
        exec_locked]) fun i k h₁ hid => ?_
    rw [FileProg.exec_bind_ok (exec_loadState h₁)]
    exact .rotated hid

theorem identity_outcome : HasOutcome P h env .identity (identity P env) := by
  refine .of_identified (f := _) (by rw [identity, exec_locked]) fun i k h₁ hid => ?_
  exact .identified hid

theorem sign_outcome (payload : Bytes) :
    Outcome P h env (.sign payload) (((sign P env payload).exec h).1.map .signature)
      ((sign P env payload).exec h).2 := by
  have hp : (sign P env payload).exec h = (ensureIdentity P env.initial >>=
      fun x => signPayload P x.2 payload).exec h := rfl
  rw [hp]
  rcases exec_ensureIdentity_bind (P := P) env.initial h fun x => signPayload P x.2 payload with
    ⟨e, he⟩ | ⟨i, k, h₁, hid, hex⟩
  · rw [he]
    exact .raised
  · rw [hex]
    exact .signed hid

/-- **Every call of the store has one of the outcomes.** -/
theorem storeStep_outcome (h : Host) (c : Invocation) :
    Outcome P h c.env c.call (storeStep P h c).1 (storeStep P h c).2 := by
  obtain ⟨call, env⟩ := c
  cases call <;> rw [storeStep, Call.program, exec_wrap]
  case createPairing ttl => exact createPairing_outcome ttl
  case consumePairing a b c d => exact consumePairing_outcome a b c d
  case completeRelayEnrollment d => exact completeRelayEnrollment_outcome d
  case signRelayChallenge d => exact signRelayChallenge_outcome d
  case listPeers => exact listPeers_outcome
  case revokePeer d => exact revokePeer_outcome d
  case rotateIdentity b => exact rotateIdentity_outcome b
  case identity => exact identity_outcome
  case sign b => exact sign_outcome b

end Inversion

end PrinterHmi
