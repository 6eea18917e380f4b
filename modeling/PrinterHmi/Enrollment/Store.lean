import PrinterHmi.Enrollment.Messages
import PrinterHmi.Lib.FileProg
import PrinterHmi.Lib.Runs

/-!
# The enrollment store

The agent keeps its device identity, its pairing offers, its peers and the
challenges it has answered in two JSON documents, `identity.json` and
`state.json`, and appends what it did to `audit.jsonl`. Every public operation
takes the directory's lock, reads what it needs, and writes whole documents back,
each through a temporary file that replaces the old one in its last step.

An operation is a `FileProg` over a `Host`, the files of one store. The temporary
files are not part of a host: what a step does to one of them is invisible until
the replacement. Two components of a host are not files but a record of the
program's own run, added to speak about it: which codes were compared with which
offer (`Host.compared`), and what was signed with which key (`Host.signed`).

What an operation takes from outside – clock readings, freshly drawn keys,
identifiers, codes and salts – is its `Supply`.
-/

namespace PrinterHmi

/-! ### Constants -/

/-- `PAIRING_ALPHABET`. -/
def pairingAlphabet : List Char := "23456789ABCDEFGHJKLMNPQRSTUVWXYZ".toList

/-- `PAIRING_CODE_LENGTH`. -/
def pairingCodeLength : ℕ := 10

/-- `MIN_PAIRING_TTL`, in seconds. -/
def minPairingTtl : ℤ := 60

/-- `MAX_PAIRING_TTL`, in seconds. -/
def maxPairingTtl : ℤ := 1800

/-- `PAIRING_ATTEMPTS`. -/
def pairingAttempts : ℤ := 5

/-- What every refused pairing code raises. -/
def invalidPairingCode : Exn := enrollmentError "invalid or expired pairing code"

/-- Ten characters of the pairing alphabet, as `create_pairing` draws them. -/
abbrev PairingCode := { t : List Char // t.length = pairingCodeLength ∧ ∀ c ∈ t, c ∈ pairingAlphabet }

instance : Inhabited PairingCode := ⟨List.replicate pairingCodeLength '2', by decide⟩

/-! ### The files -/

/-- `identity.json`. Its schema version and algorithm are constants. -/
structure Identity where
  deviceId : String
  publicKey : String
  privateKey : String
  fingerprint : String
  generation : ℤ
  createdAt : String
  deriving DecidableEq

/-- A pairing offer, as `state.json` keeps it. -/
structure Pairing where
  createdAt : String
  expiresAt : String
  expiresEpoch : Time
  salt : String
  codeDigest : String
  attemptsRemaining : ℤ
  deriving DecidableEq

/-- An enrolled peer. -/
structure Peer where
  peerId : String
  publicKey : String
  fingerprint : String
  pairedAt : String
  revokedAt : Option String
  deriving DecidableEq

/-- A challenge that completed an enrollment. -/
structure UsedChallenge where
  relayId : String
  expiresEpoch : Time
  usedAt : String
  deriving DecidableEq

/-- `state.json`. Its schema version is a constant. -/
structure StoreState where
  pairings : Dict String Pairing
  peers : Dict String Peer
  usedChallenges : Dict String UsedChallenge
  deriving DecidableEq

/-- What `_load_state_locked` returns when there is no file. -/
def StoreState.empty : StoreState := ⟨∅, ∅, ∅⟩

/-- A line of `audit.jsonl`. -/
structure AuditRecord where
  timestamp : String
  event : String
  outcome : String
  details : List (String × Json)
  deriving DecidableEq

/-- **The files of one store**, with the record of its run. -/
structure Host where
  /-- `identity.json`, if it exists. -/
  identity : Option Identity
  /-- `state.json`, if it exists. -/
  state : Option StoreState
  /-- `audit.jsonl`. -/
  audit : List AuditRecord
  /-- The comparisons made, latest first: the offer, and whether the code was
  right. -/
  compared : List (String × Bool)
  /-- The signatures made, latest first: the private key and the payload. -/
  signed : List (Bytes32 × Bytes)

/-- A fresh directory. -/
def Host.fresh : Host := ⟨none, none, [], [], []⟩

/-- What `_load_state_locked` returns. -/
def Host.loaded (h : Host) : StoreState := h.state.getD .empty

/-- What the generation of an identity takes from outside. -/
structure Generation where
  /-- The private key drawn. -/
  key : Bytes32
  /-- The clock when the identity is dated. -/
  created : Time
  /-- The clock when its audit record is. -/
  audited : Time
  deriving Inhabited

/-- **What one operation takes from outside.** -/
structure Supply where
  /-- For an identity that does not exist yet. -/
  initial : Generation
  /-- For the identity a rotation installs. -/
  rotated : Generation
  /-- `self.clock()`, as the operation reads it. -/
  now : Time
  /-- `self.clock()`, when the first audit record is written. -/
  audited : Time
  /-- `self.clock()`, when the second one is. -/
  completed : Time
  /-- `uuid.uuid4()`. -/
  pairingId : Uuid
  /-- The characters `secrets.choice` draws for a pairing code. -/
  code : PairingCode
  /-- `secrets.token_bytes(16)`, the salt of a code. -/
  salt : { b : Bytes // b.length = 16 }
  /-- `secrets.token_bytes(32)`, compared in place of a malformed code. -/
  decoy : Bytes32
  deriving Inhabited

/-- A program over the files of a store. -/
abbrev StoreProg := FileProg Host Exn

/-! ### Writing -/

/-- `_write_json`: the temporary file is opened, written, flushed and given its
mode before it replaces the document. -/
def writeJson (replace : Host → Host) : StoreProg Unit := do
  FileProg.fileStep (osError "open") id
  FileProg.fileStep (osError "write") id
  FileProg.fileStep (osError "fsync") id
  FileProg.fileStep (osError "chmod") id
  FileProg.fileStep (osError "replace") replace

/-- `os.chmod` of a file of the store. -/
def chmodFile : StoreProg Unit := FileProg.fileStep (osError "chmod") id

section Store

variable (P : Platform)

/-- `_audit_locked`, at a clock reading. -/
def auditLocked (clock : Time) (event outcome : String) (details : List (String × Json)) :
    StoreProg Unit := do
  FileProg.fileStep (osError "open") id
  chmodFile
  FileProg.fileStep (osError "write") fun h =>
    { h with audit := h.audit ++ [⟨P.timestamp clock, event, outcome, details⟩] }
  FileProg.fileStep (osError "fsync") id

/-- `_locked`: the directory and the lock file are made, then the body runs. -/
def locked {α : Type} (body : StoreProg α) : StoreProg α := do
  FileProg.fileStep (osError "mkdir") id
  chmodFile
  FileProg.fileStep (osError "open") id
  chmodFile
  FileProg.fileStep (osError "flock") id
  body

/-- `_write_json(self.state_path, state)`. -/
def saveState (state : StoreState) : StoreProg Unit :=
  writeJson fun h => { h with state := some state }

/-- `private_key.sign(payload)`. -/
def signPayload (key : Bytes32) (payload : Bytes) : StoreProg Signature := do
  FileProg.record fun h => { h with signed := (key, payload) :: h.signed }
  pure (P.sign key payload)

/-! ### The identity -/

/-- The identity `_generate_identity_locked` writes for a key. -/
def newIdentity (g : Generation) (generation : ℤ) : Identity where
  deviceId := deviceId P (P.publicKey g.key).1
  publicKey := b64encode (P.publicKey g.key).1
  privateKey := b64encode g.key.1
  fingerprint := fingerprint P (P.publicKey g.key).1
  generation := generation
  createdAt := P.timestamp g.created

/-- `_generate_identity_locked`. -/
def generateIdentity (g : Generation) (generation : ℤ) : StoreProg (Identity × Bytes32) := do
  let identity := newIdentity P g generation
  writeJson fun h => { h with identity := some identity }
  auditLocked P g.audited "identity.created" "success"
    [("device_id", .str identity.deviceId), ("generation", .int generation)]
  pure (identity, g.key)

/-- The checks of `_ensure_identity_locked` on a stored identity: its private
key. -/
def checkIdentity (identity : Identity) : Except Exn Bytes32 := do
  let privateBytes ← b64decodeText invalidEncoded identity.privateKey
  let key ← keyBytes (enrollmentError "stored device key is invalid") privateBytes
  require (b64encode (P.publicKey key).1 = identity.publicKey)
    (enrollmentError "stored device identity does not match its key")
  require (deviceId P (P.publicKey key).1 = identity.deviceId)
    (enrollmentError "stored device identifier is invalid")
  pure key

/-- `_ensure_identity_locked`. -/
def ensureIdentity (g : Generation) : StoreProg (Identity × Bytes32) := do
  let h ← FileProg.state
  match h.identity with
  | none => generateIdentity P g 1
  | some identity =>
    let key ← checkIdentity P identity
    chmodFile
    pure (identity, key)

/-- `_public_identity`. -/
def publicIdentity (identity : Identity) : Json :=
  .obj [("algorithm", .str "Ed25519"), ("created_at", .str identity.createdAt),
    ("device_id", .str identity.deviceId), ("fingerprint", .str identity.fingerprint),
    ("generation", .int identity.generation), ("public_key", .str identity.publicKey),
    ("schema_version", schemaVersion)]

/-- `identity`. -/
def identity (env : Supply) : StoreProg Json :=
  locked do
    let (identity, _) ← ensureIdentity P env.initial
    pure (publicIdentity identity)

/-- `sign`. -/
def sign (env : Supply) (payload : Bytes) : StoreProg Signature :=
  locked do
    let (_, key) ← ensureIdentity P env.initial
    signPayload P key payload

/-! ### The state -/

/-- `_load_state_locked`. -/
def loadState : StoreProg StoreState := do
  let h ← FileProg.state
  match h.state with
  | none => pure .empty
  | some state =>
    chmodFile
    pure state

/-- `_prune_expired_locked`. -/
def StoreState.pruneExpired (state : StoreState) (now : Time) : StoreState :=
  { state with pairings := state.pairings.filter fun _ pairing => now < pairing.expiresEpoch }

/-- `_prune_used_challenges_locked`. -/
def StoreState.pruneUsedChallenges (state : StoreState) (now : Time) : StoreState :=
  { state with
    usedChallenges := state.usedChallenges.filter fun _ challenge => now < challenge.expiresEpoch }

/-- `_public_peer`. -/
def publicPeer (peer : Peer) : Json :=
  .obj [("fingerprint", .str peer.fingerprint), ("paired_at", .str peer.pairedAt),
    ("peer_id", .str peer.peerId), ("public_key", .str peer.publicKey),
    ("revoked_at", match peer.revokedAt with
      | none => .null
      | some moment => .str moment)]

/-! ### Pairing -/

/-- `_code_digest`. -/
def codeDigest (code : String) (salt : Bytes) : Bytes := P.pbkdf2 (utf8 code) salt

/-- `_normalize_code`. -/
def normalizeCode (code : Json) : Except Exn String :=
  match code with
  | .str text => do
    let normalized := P.upper
      (String.ofList (text.toList.filter fun c => c != '-' && c != ' '))
    require (normalized.toList.length = pairingCodeLength) invalidPairingCode
    require (∀ c ∈ normalized.toList, c ∈ pairingAlphabet) invalidPairingCode
    pure normalized
  | _ => .error invalidPairingCode

/-- A pairing code as `create_pairing` hands it out, in two halves. -/
def displayCode (code : PairingCode) : String :=
  String.ofList (code.1.take 5 ++ '-' :: code.1.drop 5)

/-- The offer `create_pairing` stores. -/
def newPairing (env : Supply) (ttlSeconds : ℤ) : Pairing where
  createdAt := P.timestamp env.now
  expiresAt := P.timestamp (env.now + seconds ttlSeconds)
  expiresEpoch := env.now + seconds ttlSeconds
  salt := b64encode env.salt.1
  codeDigest := b64encode (codeDigest P (String.ofList env.code.1) env.salt.1)
  attemptsRemaining := pairingAttempts

/-- The offer `create_pairing` returns. -/
def pairingOffer (env : Supply) (ttlSeconds : ℤ) (identity : Identity) : Json :=
  .obj [("code", .str (displayCode env.code)), ("device_id", .str identity.deviceId),
    ("device_public_key", .str identity.publicKey),
    ("expires_at", .str (P.timestamp (env.now + seconds ttlSeconds))),
    ("pairing_id", .str env.pairingId.1), ("schema_version", schemaVersion)]

/-- `create_pairing`. -/
def createPairing (env : Supply) (ttlSeconds : ℤ) : StoreProg Json := do
  require (minPairingTtl ≤ ttlSeconds ∧ ttlSeconds ≤ maxPairingTtl)
    (enrollmentError "pairing TTL must be between 60 and 1800 seconds")
  locked do
    let (identity, _) ← ensureIdentity P env.initial
    let state ← loadState
    let pruned := state.pruneExpired env.now
    saveState { pruned with
      pairings := pruned.pairings.insert env.pairingId.1 (newPairing P env ttlSeconds) }
    auditLocked P env.audited "pairing.created" "success"
      [("expires_at", .str (P.timestamp (env.now + seconds ttlSeconds))),
        ("pairing_id", .str env.pairingId.1)]
    pure (pairingOffer P env ttlSeconds identity)

/-- A refused code: the state is written, the refusal recorded, and `e` raised. -/
def rejectPairing {α : Type} (env : Supply) (state : StoreState)
    (details : List (String × Json)) (e : Exn) : StoreProg α := do
  saveState state
  auditLocked P env.audited "pairing.consumed" "rejected" details
  throw e

/-- What is compared with the digest of an offer: the digest of a well-formed
code, or the decoy. -/
def candidateDigest (env : Supply) (normalized : Option String) (salt : Bytes) : Bytes :=
  match normalized with
  | some code => codeDigest P code salt
  | none => env.decoy.1

/-- An offer with one attempt less, gone if that was the last. -/
def StoreState.afterMiss (state : StoreState) (pairingId : String) (pairing : Pairing) :
    StoreState :=
  { state with
    pairings :=
      if pairing.attemptsRemaining - 1 ≤ 0 then state.pairings.erase pairingId
      else state.pairings.insert pairingId
        { pairing with attemptsRemaining := pairing.attemptsRemaining - 1 } }

/-- `state["pairings"].pop(pairing_id, None)`. -/
def StoreState.dropPairing (state : StoreState) (pairingId : String) : StoreState :=
  { state with pairings := state.pairings.erase pairingId }

/-- The peer `_consume_pairing_locked` enrolls. -/
def newPeer (peerId : String) (key : Bytes32) (now : Time) : Peer where
  peerId := peerId
  publicKey := b64encode key.1
  fingerprint := fingerprint P key.1
  pairedAt := P.timestamp now
  revokedAt := none

/-- The peer is enrolled and not revoked. -/
def StoreState.isActive (state : StoreState) (peerId : String) : Bool :=
  match state.peers.get? peerId with
  | some peer => peer.revokedAt.isNone
  | none => false

/-- `_consume_pairing_locked` where it succeeds, before it is persisted: the offer
is gone and the peer is in. -/
def StoreState.enroll (state : StoreState) (pairingId : String) (peer : Peer) : StoreState :=
  { state.dropPairing pairingId with peers := state.peers.insert peer.peerId peer }

/-- The audit record of a consumed pairing. -/
def auditConsumed (env : Supply) (pairingId : String) (peer : Peer) : StoreProg Unit :=
  auditLocked P env.audited "pairing.consumed" "success"
    [("pairing_id", .str pairingId), ("peer_fingerprint", .str peer.fingerprint),
      ("peer_id", .str peer.peerId)]

/-- An attempt to consume an offer: the arguments of a call, once their form has
been checked. -/
structure Attempt where
  pairingId : String
  /-- The normalized code, if it has the form of one. -/
  code : Option String
  peerId : String
  key : Bytes32

/-- The checks `consume_pairing` makes before it takes the lock. -/
def readAttempt (pairingId code peerId peerPublicKey : Json) : Except Exn Attempt := do
  let pairingId ← uuidText invalidPairingCode pairingId
  let peerId ← patternText (enrollmentError "invalid peer identifier") peerIdPattern peerId
  let peerKeyBytes ← b64decode invalidEncoded peerPublicKey
  let key ← keyBytes (enrollmentError "invalid peer public key") peerKeyBytes
  pure ⟨pairingId, (normalizeCode P code).toOption, peerId, key⟩

/-- `_consume_pairing_locked`. It returns the peer and the state it made of
`state`, which it has written itself if `persistSuccess`. -/
def consumePairingLocked (env : Supply) (state : StoreState) (attempt : Attempt)
    (persistSuccess : Bool) : StoreProg (Peer × StoreState) :=
  let pairingId := attempt.pairingId
  match state.pairings.get? pairingId with
  | none =>
    rejectPairing P env (state.dropPairing pairingId) [("pairing_id", .str pairingId)]
      invalidPairingCode
  | some pairing => do
    if pairing.expiresEpoch ≤ env.now then
      rejectPairing P env (state.dropPairing pairingId) [("pairing_id", .str pairingId)]
        invalidPairingCode
    else
      let salt ← b64decodeText invalidEncoded pairing.salt
      let expected ← b64decodeText invalidEncoded pairing.codeDigest
      let right := candidateDigest P env attempt.code salt == expected
      FileProg.record fun h => { h with compared := (pairingId, right) :: h.compared }
      if !right then
        rejectPairing P env (state.afterMiss pairingId pairing) [("pairing_id", .str pairingId)]
          invalidPairingCode
      else if state.isActive attempt.peerId then
        rejectPairing P env (state.dropPairing pairingId)
          [("pairing_id", .str pairingId), ("peer_id", .str attempt.peerId)]
          (enrollmentError "peer is already enrolled")
      else
        let peer := newPeer P attempt.peerId attempt.key env.now
        let enrolled := state.enroll pairingId peer
        if persistSuccess then
          saveState enrolled
          auditConsumed P env pairingId peer
        pure (peer, enrolled)

/-- `consume_pairing`. -/
def consumePairing (env : Supply) (pairingId code peerId peerPublicKey : Json) :
    StoreProg Json := do
  let attempt ← readAttempt P pairingId code peerId peerPublicKey
  locked do
    let _ ← ensureIdentity P env.initial
    let state ← loadState
    let (peer, _) ← consumePairingLocked P env state attempt true
    pure (publicPeer peer)

/-! ### Relay enrollment -/

/-- `sign_relay_challenge`. -/
def signRelayChallenge (env : Supply) (challenge : Json) : StoreProg Json :=
  locked do
    let (identity, key) ← ensureIdentity P env.initial
    let normalized ← validateRelayChallenge P challenge identity.deviceId env.now
    let response := challengeResponse normalized.document identity.deviceId identity.publicKey
      (P.timestamp env.now)
    let signature ← signPayload P key (challengeSignatureDomain ++ canonical response)
    auditLocked P env.audited "relay.challenge.signed" "success"
      [("challenge_id", .str normalized.challengeId), ("relay_id", .str normalized.relayId)]
    pure (withSignature response signature)

/-- The fields of an enrollment request. -/
def enrollmentRequestFields : List String :=
  ["challenge", "code", "pairing_id", "peer_id", "peer_public_key", "peer_signature",
    "schema_version", "type"]

/-- An enrollment request whose form has been checked. -/
structure EnrollmentRequest extends Attempt where
  challenge : Json
  signature : Signature

/-- The checks `complete_relay_enrollment` makes before it takes the lock. -/
def readEnrollmentRequest (request : Json) : Except Exn EnrollmentRequest := do
  require (request.hasFields enrollmentRequestFields ∧
      request.fieldEq "schema_version" schemaVersion ∧
      request.fieldEq "type" (.str "relay.enrollment-request"))
    (enrollmentError "invalid relay enrollment request")
  let pairingId ← uuidText (enrollmentError "invalid relay enrollment request")
    (request.field "pairing_id")
  let peerId ← patternText (enrollmentError "invalid peer identifier") peerIdPattern
    (request.field "peer_id")
  let peerKeyBytes ← b64decode invalidEncoded (request.field "peer_public_key")
  let peerSignature ← b64decode invalidEncoded (request.field "peer_signature")
  let key ← keyBytes (enrollmentError "invalid peer enrollment proof") peerKeyBytes
  let signature ← signatureBytes (enrollmentError "invalid peer enrollment proof") peerSignature
  pure
    { pairingId := pairingId
      code := (normalizeCode P (request.field "code")).toOption
      peerId := peerId
      key := key
      challenge := request.field "challenge"
      signature := signature }

/-- What `complete_relay_enrollment` does once the challenge and the peer's proof
are accepted. -/
def completeLocked (env : Supply) (state : StoreState) (identity : Identity)
    (privateKey : Bytes32) (challenge : RelayChallenge) (request : EnrollmentRequest) :
    StoreProg Json := do
  let (peer, enrolled) ← consumePairingLocked P env state request.toAttempt false
  saveState { enrolled with
    usedChallenges := enrolled.usedChallenges.insert challenge.challengeId
      ⟨challenge.relayId, challenge.expires, P.timestamp env.now⟩ }
  auditConsumed P env request.pairingId peer
  let receipt := enrollmentReceipt challenge.challengeId challenge.relayId request.pairingId
    identity.deviceId identity.publicKey request.peerId peer.publicKey (P.timestamp env.now)
  let signature ← signPayload P privateKey (enrollmentReceiptDomain ++ canonical receipt)
  auditLocked P env.completed "relay.enrollment.completed" "success"
    [("challenge_id", .str challenge.challengeId), ("pairing_id", .str request.pairingId),
      ("peer_fingerprint", .str peer.fingerprint), ("peer_id", .str request.peerId),
      ("relay_id", .str challenge.relayId)]
  pure (withSignature receipt signature)

/-- `complete_relay_enrollment`. -/
def completeRelayEnrollment (env : Supply) (requestDocument : Json) : StoreProg Json := do
  let request ← readEnrollmentRequest P requestDocument
  locked do
    let (identity, privateKey) ← ensureIdentity P env.initial
    let challenge ← validateRelayChallenge P request.challenge identity.deviceId env.now
    let loaded ← loadState
    let state := loaded.pruneUsedChallenges env.now
    require ((state.usedChallenges.get? challenge.challengeId).isNone)
      (enrollmentError "relay challenge has already been used")
    if P.verify request.key (peerProofPayload challenge.document request.pairingId request.peerId
        identity.deviceId) request.signature then
      completeLocked P env state identity privateKey challenge request
    else
      auditLocked P env.audited "relay.enrollment.completed" "rejected"
        [("challenge_id", .str challenge.challengeId), ("peer_id", .str request.peerId),
          ("relay_id", .str challenge.relayId)]
      throw (enrollmentError "invalid peer enrollment proof")

/-! ### Peers and rotation -/

/-- `list_peers`, in the order of the peer ids. -/
def listPeers (env : Supply) : StoreProg Json :=
  locked do
    let _ ← ensureIdentity P env.initial
    let state ← loadState
    pure (.arr (state.peers.entries.map fun entry => publicPeer entry.2))

/-- `state["peers"].get(peer_id)`, with the id: a list or an object is no key. -/
def StoreState.peerOf (state : StoreState) (peerId : Json) : Except Exn (Option (String × Peer)) :=
  match peerId with
  | .str text => .ok ((state.peers.get? text).map fun peer => (text, peer))
  | .arr _ | .obj _ => .error ⟨.typeError, "unhashable type"⟩
  | _ => .ok none

/-- `revoke_peer`. -/
def revokePeer (env : Supply) (peerId : Json) : StoreProg Json :=
  locked do
    let _ ← ensureIdentity P env.initial
    let state ← loadState
    match ← state.peerOf peerId with
    | none => throw (enrollmentError "active peer not found")
    | some (key, peer) =>
      require (peer.revokedAt.isNone) (enrollmentError "active peer not found")
      let revoked := { peer with revokedAt := some (P.timestamp env.now) }
      saveState { state with peers := state.peers.insert key revoked }
      auditLocked P env.audited "peer.revoked" "success"
        [("peer_fingerprint", .str peer.fingerprint), ("peer_id", .str key)]
      pure (publicPeer revoked)

/-- `rotate_identity`. -/
def rotateIdentity (env : Supply) (confirmed : Bool) : StoreProg Json := do
  require (confirmed) (enrollmentError "identity rotation requires explicit confirmation")
  locked do
    let (oldIdentity, _) ← ensureIdentity P env.initial
    let _ ← loadState
    let (identity, _) ← generateIdentity P env.rotated (oldIdentity.generation + 1)
    saveState .empty
    auditLocked P env.audited "identity.rotated" "success"
      [("device_id", .str identity.deviceId),
        ("previous_device_id", .str oldIdentity.deviceId)]
    pure (publicIdentity identity)

end Store

end PrinterHmi
