import PrinterHmi.Configuration.Documents
import PrinterHmi.Lib.Faults
import PrinterHmi.Lib.Runs

/-!
# The relay's configuration manager

`RelayConfigurationManager` keeps the two documents of a relay in one directory, beside
the certificates of its receiver. Every operation takes the directory's lock, reads the
documents, and replaces one or both of them; an enrollment request is written elsewhere,
to a path of the operator's choice, before the challenge in it is recorded.

An operation is a `FileProg` over a `Directory`. As in the enrollment store, a document
changes in one step, when a temporary file that has been written and flushed replaces
it, and neither temporary files nor the *candidate* of a new configuration, which is
validated before it replaces the old one, are part of a directory.

What comes from elsewhere are the arguments of a call, the files it is pointed to and
its `ManagerSupply`. How a path of the configuration resolves is a parameter, `resolve`.
-/

namespace PrinterHmi

/-! ### The directory -/

/-- **The files of one manager.** -/
structure Directory where
  /-- `relay-enrollment.json`, if it exists. -/
  state : Option RelayState
  /-- `relay-receiver.json`, if it exists. -/
  config : Option ReceiverDocument
  /-- The names of the certificate and key files that exist. -/
  certificates : List String
  /-- The enrollment requests that have been written, by their paths. -/
  outputs : Dict String Json

/-- A directory without files. -/
def Directory.fresh : Directory := ⟨none, none, [], ∅⟩

/-- The paths of a configuration in the directory. -/
def Directory.paths (resolve : String → String) (d : Directory) : Paths where
  resolve := resolve
  isFile path := path ∈ d.certificates.map resolve

/-- **What an operation takes from outside.** -/
structure ManagerSupply where
  /-- The clock, when an offer is checked. -/
  checked : Time
  /-- The clock, when a challenge is made. -/
  made : Time
  /-- `uuid.uuid4()`, the identifier of a challenge. -/
  challengeId : Uuid
  /-- `secrets.token_bytes(32)`, the nonce of a challenge. -/
  nonce : Bytes32
  /-- The directory of the output exists. -/
  parentExists : Bool
  /-- There is a file at the output path. -/
  occupied : Bool

/-- A program over the files of a manager. -/
abbrev ManagerProg := FileProg Directory Exn

namespace Manager

/-! ### File names -/

/-- `STATE_NAME`. -/
def stateName : String := "relay-enrollment.json"

/-- `CONFIG_NAME`. -/
def configName : String := "relay-receiver.json"

/-- `CA_NAME`. -/
def caName : String := "relay-ca.pem"

/-- `CA_KEY_NAME`. -/
def caKeyName : String := "relay-ca-key.pem"

/-- `CERT_NAME`. -/
def certName : String := "relay-cert.pem"

/-- `KEY_NAME`. -/
def keyName : String := "relay-key.pem"

/-- `path.parent`, of an absolute path. -/
def pathParent (path : String) : String :=
  let parent := (path.toList.reverse.dropWhile (· ≠ '/')).tail.reverse
  if parent.isEmpty then "/" else String.ofList parent

/-! ### Writing -/

/-- `os.chmod` of a file or directory. -/
def chmodPath : ManagerProg Unit := FileProg.fileStep (osError "chmod") id

/-- The temporary file of a document is written and replaces it. -/
def writeTemporary (replace : Directory → Directory) : ManagerProg Unit := do
  FileProg.fileStep (osError "open") id
  FileProg.fileStep (osError "write") id
  FileProg.fileStep (osError "fsync") id
  chmodPath
  FileProg.fileStep (osError "replace") replace

/-- `_write_private_json`, of a file in the directory, that is `present` or not. -/
def writePrivateJson (path : String) (overwrite : Bool) (present : Directory → Bool)
    (replace : Directory → Directory) : ManagerProg Unit := do
  FileProg.fileStep (osError "mkdir") id
  chmodPath
  let d ← FileProg.state
  require (present d = true → overwrite = true) (configurationError ("refusing to overwrite " ++ path))
  writeTemporary replace

/-- `_write_private_json(output, request, overwrite=False, secure_parent=False)`. -/
def writeOutput (env : ManagerSupply) (output : String) (request : Json) : ManagerProg Unit := do
  require (env.parentExists)
    (configurationError ("output parent directory was not found: " ++ pathParent output))
  require (env.occupied = false) (configurationError ("refusing to overwrite " ++ output))
  writeTemporary fun d => { d with outputs := d.outputs.insert output request }

/-- `_write_file`. The name is taken as soon as the file has been opened. -/
def writeFile (name : String) : ManagerProg Unit := do
  FileProg.fileStep (osError "open") fun d => { d with certificates := d.certificates ++ [name] }
  FileProg.fileStep (osError "write") id
  FileProg.fileStep (osError "fsync") id
  chmodPath

/-- `_locked`: the directory and the lock file are made, then the body runs. -/
def locked {α : Type} (body : ManagerProg α) : ManagerProg α := do
  FileProg.fileStep (osError "mkdir") id
  chmodPath
  FileProg.fileStep (osError "open") id
  chmodPath
  FileProg.fileStep (osError "flock") id
  body

section Manager

variable (P : Platform) (resolve : String → String)

/-- `_write_private_json(self.state_path, state)`. -/
def saveState (state : RelayState) : ManagerProg Unit :=
  writePrivateJson (resolve stateName) true (·.state.isSome) fun d => { d with state := some state }

/-! ### Loading -/

/-- `_load_state`. -/
def loadState : ManagerProg RelayState := do
  let d ← FileProg.state
  let state ← orRaise d.state (configurationError "relay enrollment state could not be read")
  checkRelayState P state.json
  chmodPath
  pure state

/-- `_load_config`. -/
def loadConfig : ManagerProg ReceiverDocument := do
  let d ← FileProg.state
  let config ← orRaise d.config
    (configurationError "relay receiver configuration could not be read")
  let parsed ← config.load P (d.paths resolve)
  let state ← loadState P
  require (parsed.relayId = state.relayId)
    (configurationError "receiver and enrollment relay identifiers do not match")
  chmodPath
  pure config

/-- `_validate_config`. -/
def validateConfig (allowDisabled : Bool) : ManagerProg Unit := do
  let d ← FileProg.state
  let config ← orRaise d.config (configurationError "receiver configuration could not be read")
  let parsed ← config.load P (d.paths resolve)
  require (allowDisabled = true ∨ parsed.enabled = true)
    (configurationError "relay receiver is disabled")

/-- `_save_config`, up to its clean-up: the candidate is written, validated and put in
place. -/
def installConfig (document : ReceiverDocument) : ManagerProg Unit := do
  writePrivateJson (resolve (configName ++ ".candidate")) true (fun _ => false) id
  let d ← FileProg.state
  let parsed ← document.load P (d.paths resolve)
  let state ← loadState P
  require (parsed.relayId = state.relayId)
    (configurationError "receiver and enrollment relay identifiers do not match")
  FileProg.fileStep (osError "replace") fun d => { d with config := some document }
  chmodPath

/-- `_save_config`. The candidate is removed in any case; that it is gone already is no
error. -/
def saveConfig (document : ReceiverDocument) : ManagerProg Unit :=
  FileProg.tryFinally (installConfig P resolve document) (FileProg.fileStep (osError "unlink") id)

/-- What `_status_unlocked` returns. -/
def statusDocument (state : RelayState) (config : ReceiverDocument) : Json :=
  .obj [("ca_certificate", .str (resolve caName)), ("config", .str (resolve configName)),
    ("device_count", .int config.devices.length),
    ("devices", .arr (config.devices.map fun device => .str device.deviceId)),
    ("enabled", config.enabled), ("listen_host", .str config.listenHost),
    ("listen_port", .int config.listenPort), ("peer_id", .str state.peerId),
    ("peer_public_key", .str state.peerPublicKey),
    ("pending_challenge_count", .int state.pendingChallenges.entries.length),
    ("relay_id", .str state.relayId), ("schema_version", schemaVersion)]

/-- `_status_unlocked`. -/
def statusUnlocked : ManagerProg Json := do
  let state ← loadState P
  let config ← loadConfig P resolve
  pure (statusDocument resolve state config)

/-- `status`. -/
def status : ManagerProg Json := locked (statusUnlocked P resolve)

/-! ### Initialization -/

/-- What an initialization takes from outside. -/
structure Founding where
  /-- The private key drawn. -/
  key : Bytes32
  /-- The clock. -/
  now : Time

/-- The state a directory starts with. -/
def foundingState (env : Founding) (relayId peerId : String) : RelayState where
  relayId := relayId
  peerId := peerId
  peerPublicKey := b64encode (P.publicKey env.key).1
  peerPrivateKey := b64encode env.key.1
  createdAt := P.timestamp env.now
  pendingChallenges := ∅

/-- The configuration a directory starts with. -/
def foundingConfig (relayId : String) (listenPort : ℤ) : ReceiverDocument where
  enabled := .bool false
  relayId := relayId
  listenHost := "127.0.0.1"
  listenPort := listenPort
  apiSocket := "runtime/receiver.sock"
  stateFile := "runtime/latest.json"
  certFile := certName
  keyFile := keyName
  staleAfter := 30
  devices := []

/-- `_initialize_locked`, of a directory without files. -/
def initializeLocked (env : Founding) (relayId peerId : String) (listenPort : ℤ) :
    ManagerProg Json := do
  writeFile caName
  writeFile caKeyName
  writeFile certName
  writeFile keyName
  writePrivateJson (resolve stateName) false (·.state.isSome) fun d =>
    { d with state := some (foundingState P env relayId peerId) }
  writePrivateJson (resolve configName) false (·.config.isSome) fun d =>
    { d with config := some (foundingConfig relayId listenPort) }
  statusUnlocked P resolve

/-- `initialize`. -/
def initializeDirectory (env : Founding) (relayId peerId listenPort : Json) : ManagerProg Json := do
  let relayId ← patternText (configurationError "invalid relay identifier") relayIdPattern relayId
  let peerId ← patternText (configurationError "invalid relay peer identifier") peerIdPattern peerId
  let listenPort ← orRaise listenPort.int? (configurationError "invalid relay listener port")
  require (1 ≤ listenPort ∧ listenPort ≤ 65535) (configurationError "invalid relay listener port")
  FileProg.fileStep (osError "mkdir") id
  chmodPath
  locked do
    let d ← FileProg.state
    require (d.state.isNone ∧ d.config.isNone ∧ d.certificates = [])
      (configurationError "refusing to initialize a non-empty directory")
    initializeLocked P resolve env relayId peerId listenPort

/-! ### Requests -/

/-- The seconds an enrollment challenge lives. -/
def challengeTtl : ℤ := 300

/-- The challenge sent to a device that has made an offer, and the request around it. -/
def buildRequest (env : ManagerSupply) (state : RelayState) (offer : RelayOffer) :
    Except Exn (Json × Json) := do
  let challenge ← createRelayChallenge P offer.deviceId state.relayId challengeTtl env.challengeId
    env.nonce env.made
  let proof := peerProofPayload challenge offer.pairingId state.peerId offer.deviceId
  let privateBytes ← b64decodeText invalidEncodedKey state.peerPrivateKey
  let privateKey ← keyBytes ⟨.valueError, "An Ed25519 private key is 32 bytes long"⟩ privateBytes
  pure (challenge, enrollmentRequest challenge (.str offer.code) offer.pairingId state.peerId
    state.peerPublicKey (P.sign privateKey proof))

/-- The state with a challenge pending. -/
def withPending (state : RelayState) (env : ManagerSupply) (offer : RelayOffer)
    (challenge : Json) : RelayState :=
  { state with
    pendingChallenges := state.pendingChallenges.insert env.challengeId.1
      ⟨offer.deviceId, offer.publicKey, challenge.field "expires_at"⟩ }

/-- What `create_enrollment_request` returns. -/
def requestReply (env : ManagerSupply) (output : String) (offer : RelayOffer) (challenge : Json) :
    Json :=
  .obj [("challenge_id", .str env.challengeId.1), ("device_id", .str offer.deviceId),
    ("expires_at", challenge.field "expires_at"), ("request", .str output)]

/-- `create_enrollment_request`, for the file of an offer and a resolved output path. -/
def createEnrollmentRequest (env : ManagerSupply) (offerFile : Option Bytes) (output : String) :
    ManagerProg Json :=
  locked do
    let state ← loadState P
    let document ← readJson P offerFile "pairing offer"
    let offer ← readOffer P env.checked document
    let (challenge, request) ← buildRequest P env state offer
    writeOutput env output request
    saveState resolve (withPending state env offer challenge)
    pure (requestReply env output offer challenge)

/-! ### Receipts -/

/-- The item of an enrolled device, the last one of its identifier. -/
def findDevice (config : ReceiverDocument) (id : String) : Option EnrolledDevice :=
  config.devices.reverse.find? fun device => device.deviceId = id

/-- The configuration with one more device, in its place in the order of identifiers. -/
def withDevice (config : ReceiverDocument) (device : EnrolledDevice) : ReceiverDocument :=
  { config with
    devices := (config.devices ++ [device]).insertionSort fun a b => a.deviceId ≤ b.deviceId }

/-- The state with a challenge answered. -/
def withoutPending (state : RelayState) (challengeId : String) : RelayState :=
  { state with pendingChallenges := state.pendingChallenges.erase challengeId }

/-- What `add_receipt` returns. -/
def receiptReply (config : ReceiverDocument) (device : EnrolledDevice) (alreadyEnrolled : Bool) :
    Json :=
  .obj [("already_enrolled", .bool alreadyEnrolled), ("device_count", .int config.devices.length),
    ("device_id", .str device.deviceId)]

/-- What `_add_receipt_locked` does with a device whose receipt has been accepted. -/
def enrollDevice (state : RelayState) (config : ReceiverDocument) (challengeId : String)
    (device : EnrolledDevice) : ManagerProg Json :=
  match findDevice config device.deviceId with
  | some existing => do
    require (existing = device) (configurationError "enrolled device key conflict")
    saveState resolve (withoutPending state challengeId)
    validateConfig P resolve true
    pure (receiptReply config device true)
  | none => do
    saveConfig P resolve (withDevice config device)
    saveState resolve (withoutPending state challengeId)
    validateConfig P resolve true
    pure (receiptReply (withDevice config device) device false)

/-- `add_receipt`, for the file of a receipt. -/
def addReceipt (receiptFile : Option Bytes) : ManagerProg Json :=
  locked do
    let state ← loadState P
    let config ← loadConfig P resolve
    let receipt ← readJson P receiptFile "enrollment receipt"
    let (challengeId, device) ← matchReceipt P state receipt
    enrollDevice P resolve state config challengeId device

/-! ### Enabling and removing -/

/-- `set_enabled`. Any value may be passed, and only its truth is tested here. -/
def setEnabled (enabled : Json) (confirmed : Bool) : ManagerProg Json :=
  locked do
    require (enabled.truthy = true → confirmed = true)
      (configurationError "enabling requires explicit confirmation")
    let config ← loadConfig P resolve
    require (enabled.truthy = true → config.devices ≠ [])
      (configurationError "cannot enable without enrolled devices")
    saveConfig P resolve { config with enabled := enabled }
    statusUnlocked P resolve

/-- The configuration without a device. -/
def withoutDevice (config : ReceiverDocument) (id : Json) : ReceiverDocument :=
  { config with devices := config.devices.filter fun device => !(Json.str device.deviceId).pyEq id }

/-- `remove_device`. -/
def removeDevice (id : Json) (confirmed : Bool) : ManagerProg Json :=
  locked do
    require (confirmed) (configurationError "device removal requires confirmation")
    let config ← loadConfig P resolve
    require ((withoutDevice config id).devices.length ≠ config.devices.length)
      (configurationError "enrolled device was not found")
    require (config.enabled.truthy = true → (withoutDevice config id).devices ≠ [])
      (configurationError "disable the receiver before removing its final device")
    saveConfig P resolve (withoutDevice config id)
    statusUnlocked P resolve

end Manager

end Manager

/-! ### The manager as a machine -/

/-- The operations on an initialized directory, with their arguments. -/
inductive ManagerAction : Type where
  | createEnrollmentRequest (offerFile : Option Bytes) (output : String)
  | addReceipt (receiptFile : Option Bytes)
  | setEnabled (enabled : Json) (confirmed : Bool)
  | removeDevice (id : Json) (confirmed : Bool)
  | status

/-- A call, with what it takes from outside and which of its file steps fail. -/
structure ManagerCall where
  action : ManagerAction
  env : ManagerSupply
  faults : ℕ → Bool

section Machine

variable (P : Platform) (resolve : String → String)

/-- The program of a call. -/
def ManagerAction.program (env : ManagerSupply) : ManagerAction → ManagerProg Json
  | createEnrollmentRequest offerFile output =>
    Manager.createEnrollmentRequest P resolve env offerFile output
  | addReceipt receiptFile => Manager.addReceipt P resolve receiptFile
  | setEnabled enabled confirmed => Manager.setEnabled P resolve enabled confirmed
  | removeDevice id confirmed => Manager.removeDevice P resolve id confirmed
  | status => Manager.status P resolve

/-- **The manager as a machine**: one call, its file steps failing as it says. -/
def managerStep (d : Directory) (c : ManagerCall) : Except Exn Json × Directory :=
  (c.action.program P resolve c.env).run c.faults d

/-- An event of a run of the manager. -/
abbrev ManagerEvent := Event Directory ManagerCall (Except Exn Json)

/-- **The directory of a successful initialization.** -/
def Initialized (env : Manager.Founding) (relayId peerId listenPort : Json) (d : Directory) : Prop :=
  ∃ r, (Manager.initializeDirectory P resolve env relayId peerId listenPort).exec .fresh = (.ok r, d)

end Machine

end PrinterHmi
