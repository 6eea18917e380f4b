import Mathlib.Logic.Function.Basic
import PrinterHmi.Lib.Runs
import PrinterHmi.Receiver.Config
import PrinterHmi.Receiver.Registry
import PrinterHmi.Transport.Snapshot

/-!
# The handler of a connection

A receiver runs one `_handle_agent` for every connection. A handler gives way to the
others only where it waits for a line or for its own bytes to be taken, so what it does
between two such points is one step (`Receiver.step`), and where it waits is its
`Phase`. The steps of all connections of a receiver share its registry.

Any number of receivers run side by side (`receiversStep`), each with its own
configuration. What arrives at a connection, and when, is up to whoever is at the other
end of it; what a step takes from the host is its `HandlerSupply`.
-/

namespace PrinterHmi

/-! ### What is read at each point -/

/-- **What one step of a handler takes from outside.** -/
structure HandlerSupply where
  /-- `uuid.uuid4()`. -/
  sessionId : Uuid
  /-- `secrets.token_bytes(32)`. -/
  nonce : Bytes32
  /-- The clock of the session challenge, and of its verification. -/
  now : Time
  /-- The clock of the confirmation. -/
  accepted : Time
  /-- The clock of the registry. -/
  published : Time
  /-- Which file steps of a publication fail. -/
  faults : ℕ → Bool

section Reads

variable (P : Platform)

/-- The default lifetime of a session challenge, in seconds. -/
def sessionLifetime : ℤ := 60

/-- From the hello: the device, its enrolled key, and the challenge for it. -/
def readHello (config : ReceiverConfig) (env : HandlerSupply) (raw : Bytes) :
    Except Exn (String × String × Json) := do
  let hello ← readFrame raw
  let id ← validateAgentHello hello
  let enrolledKey ← orRaise (config.devices.get? id) (receiverError "agent is not enrolled")
  let challenge ← createSessionChallenge P id config.relayId sessionLifetime env.sessionId
    env.nonce env.now
  pure (id, enrolledKey, challenge)

/-- The checks of the authentication. -/
def readAuthentication (enrolledKey : String) (challenge : Json) (env : HandlerSupply)
    (raw : Bytes) : Except Exn Unit := do
  let authentication ← readFrame raw
  require (authentication.fieldEq "device_public_key" (.str enrolledKey))
    (receiverError "agent key is not enrolled")
  let _ ← verifySessionAuth P authentication challenge env.now
  pure ()

/-- The fields of a telemetry envelope. -/
def telemetryFields : List String :=
  ["protocol_version", "sequence", "session_id", "snapshot", "type"]

/-- From the telemetry: the snapshot to publish. -/
def readTelemetry (challenge : Json) (raw : Bytes) : Except Exn Json := do
  let envelope ← readFrame raw
  require (envelope.hasFields telemetryFields ∧
      envelope.fieldEq "protocol_version" protocolVersion ∧
      envelope.fieldEq "type" (.str "agent.telemetry") ∧
      envelope.fieldEq "session_id" (challenge.field "session_id") ∧
      envelope.fieldEq "sequence" (.int 1))
    (receiverError "invalid telemetry envelope")
  let snapshot ← sanitizeSnapshot P (envelope.field "snapshot")
  require (snapshot.pyEq (envelope.field "snapshot"))
    (receiverError "telemetry was not privacy filtered")
  pure snapshot

/-- The `relay.session-ready` of a session. -/
def sessionReady (challenge : Json) (relayId : String) (now : Time) : Json :=
  .obj [("accepted_at", .str (P.timestamp now)), ("challenge_id", challenge.field "session_id"),
    ("protocol_version", protocolVersion), ("relay_id", .str relayId),
    ("session_id", challenge.field "session_id"), ("type", .str "relay.session-ready")]

/-- The `relay.telemetry-ack` of a session. -/
def telemetryAck (challenge : Json) : Json :=
  .obj [("protocol_version", protocolVersion), ("sequence", .int 1),
    ("session_id", challenge.field "session_id"), ("type", .str "relay.telemetry-ack")]

variable {P}

/-- **What a hello that is answered is.** -/
theorem readHello_eq_ok {config : ReceiverConfig} {env : HandlerSupply} {raw : Bytes}
    {id enrolledKey : String} {challenge : Json} :
    readHello P config env raw = .ok (id, enrolledKey, challenge) ↔
      (∃ hello, readFrame raw = .ok hello ∧ validateAgentHello hello = .ok id) ∧
        config.devices.get? id = some enrolledKey ∧
        createSessionChallenge P id config.relayId sessionLifetime env.sessionId env.nonce
          env.now = .ok challenge := by
  simp only [readHello, Except.bind_eq_ok, orRaise_eq_ok]
  constructor
  · rintro ⟨hello, hread, id', hid, key', hkey, challenge', hch, hr⟩
    obtain ⟨rfl, hpair⟩ := Prod.mk.inj (Except.ok.inj hr)
    obtain ⟨rfl, rfl⟩ := Prod.mk.inj hpair
    exact ⟨⟨hello, hread, hid⟩, hkey, hch⟩
  · rintro ⟨⟨hello, hread, hid⟩, hkey, hch⟩
    exact ⟨hello, hread, id, hid, enrolledKey, hkey, challenge, hch, rfl⟩

/-- **What an authentication that passes is.** -/
theorem readAuthentication_eq_ok {enrolledKey : String} {challenge : Json} {env : HandlerSupply}
    {raw : Bytes} {u : Unit} : readAuthentication P enrolledKey challenge env raw = .ok u ↔
      ∃ authentication, readFrame raw = .ok authentication ∧
        authentication.field "device_public_key" = .str enrolledKey ∧
        ∃ r, verifySessionAuth P authentication challenge env.now = .ok r := by
  simp only [readAuthentication, Except.bind_eq_ok, require_eq_ok, exists_const,
    Json.fieldEq_str_iff]
  refine exists_congr fun authentication => and_congr_right fun _ => and_congr_right fun _ =>
    exists_congr fun r => and_iff_left rfl

/-- **What a telemetry frame that is published is.** -/
theorem readTelemetry_eq_ok {challenge snapshot : Json} {raw : Bytes} :
    readTelemetry P challenge raw = .ok snapshot ↔
      ∃ envelope, readFrame raw = .ok envelope ∧ envelope.hasFields telemetryFields = true ∧
        envelope.fieldEq "protocol_version" protocolVersion = true ∧
        envelope.field "type" = .str "agent.telemetry" ∧
        envelope.fieldEq "session_id" (challenge.field "session_id") = true ∧
        envelope.fieldEq "sequence" (.int 1) = true ∧
        sanitizeSnapshot P (envelope.field "snapshot") = .ok snapshot ∧
        snapshot.pyEq (envelope.field "snapshot") = true := by
  simp only [readTelemetry, Except.bind_eq_ok, require_eq_ok, exists_const,
    Json.fieldEq_str_iff, and_assoc]
  refine exists_congr fun envelope => and_congr_right fun _ => and_congr_right fun _ =>
    and_congr_right fun _ => and_congr_right fun _ => and_congr_right fun _ =>
    and_congr_right fun _ => ?_
  constructor
  · rintro ⟨snapshot', hs, heq, hr⟩
    obtain rfl := Except.ok.inj hr
    exact ⟨hs, heq⟩
  · rintro ⟨hs, heq⟩
    exact ⟨snapshot, hs, heq, rfl⟩

end Reads

/-! ### One connection -/

/-- Where a handler waits. -/
inductive Phase : Type where
  /-- For the hello. -/
  | hello
  /-- For the authentication, the challenge being written. -/
  | challenged (deviceId enrolledKey : String) (challenge : Json)
  /-- For the telemetry, the session being counted and confirmed. -/
  | opened (deviceId : String) (challenge : Json)
  /-- For the acknowledgement to be taken. -/
  | acknowledging (deviceId : String)
  /-- For nothing: it has ended. -/
  | closed

/-- What ends the wait of a handler. -/
inductive Input : Type where
  /-- A line has arrived. -/
  | line (raw : Bytes)
  /-- What was written has been taken. -/
  | drained
  /-- The connection fails, is closed by the peer, or the time for it is up. -/
  | broken

/-- A receiver: its registry, the count of its errors, and its connections. -/
structure Receiver where
  registry : Registry
  errors : ℕ
  connections : ℕ → Phase

namespace Receiver

/-- `RelayReceiver`, before any connection. -/
def start (config : ReceiverConfig) : Receiver :=
  ⟨.start (config.devices.entries.map Prod.fst), 0, fun _ => .hello⟩

/-- The handler of a connection waits in another phase. -/
def move (r : Receiver) (c : ℕ) (phase : Phase) : Receiver :=
  { r with connections := Function.update r.connections c phase }

/-- The `finally` of a handler: its session, if it has one, is closed. -/
def finish (r : Receiver) (c : ℕ) : Receiver :=
  match r.connections c with
  | .opened id _ | .acknowledging id =>
    { r with registry := r.registry.sessionClosed id }.move c .closed
  | _ => r.move c .closed

/-- The handler of a connection raises: it counts an error and ends. -/
def fail (r : Receiver) (c : ℕ) : Receiver := { r with errors := r.errors + 1 }.finish c

/-- The handler of a connection writes a frame and waits. -/
def answer (r : Receiver) (c : ℕ) (phase : Phase) (document : Json) : Option Bytes × Receiver :=
  match writeFrame document with
  | .ok payload => (some payload, r.move c phase)
  | .error _ => (none, (r.move c phase).fail c)

section Step

variable (P : Platform) (config : ReceiverConfig)

/-- The handler of a connection goes on with the line it waited for. -/
def receive (r : Receiver) (c : ℕ) (raw : Bytes) (env : HandlerSupply) : Option Bytes × Receiver :=
  match r.connections c with
  | .hello =>
    match readHello P config env raw with
    | .ok (id, enrolledKey, challenge) => r.answer c (.challenged id enrolledKey challenge) challenge
    | .error _ => (none, r.fail c)
  | .challenged id enrolledKey challenge =>
    match readAuthentication P enrolledKey challenge env raw with
    | .ok _ =>
      { r with registry := r.registry.sessionOpened id }.answer c (.opened id challenge)
        (sessionReady P challenge config.relayId env.accepted)
    | .error _ => (none, r.fail c)
  | .opened id challenge =>
    match readTelemetry P challenge raw with
    | .ok snapshot =>
      match (Registry.publish P id 1 snapshot env.published).run env.faults r.registry with
      | (.ok _, registry) =>
        { r with registry := registry }.answer c (.acknowledging id) (telemetryAck challenge)
      | (.error _, registry) => (none, { r with registry := registry }.fail c)
    | .error _ => (none, r.fail c)
  | .acknowledging _ | .closed => (none, r)

/-- **One step of `_handle_agent`**: the bytes it writes, and the receiver after it. -/
def step (r : Receiver) (c : ℕ) (input : Input) (env : HandlerSupply) : Option Bytes × Receiver :=
  match input, r.connections c with
  | _, .closed => (none, r)
  | .line raw, _ => r.receive P config c raw env
  | .drained, .acknowledging _ => (none, r.finish c)
  | .drained, _ => (none, r)
  | .broken, _ => (none, r.fail c)

end Step

/-! ### What a step does -/

section Lemmas

variable {r : Receiver} {c : ℕ} {phase : Phase}

@[simp] theorem move_registry : (r.move c phase).registry = r.registry := rfl

@[simp] theorem move_connections :
    (r.move c phase).connections = Function.update r.connections c phase := rfl

theorem finish_connections :
    (r.finish c).connections = Function.update r.connections c .closed := by
  rw [finish]
  split <;> rfl

theorem finish_records : (r.finish c).registry.records = r.registry.records := by
  rw [finish]
  split <;> rfl

theorem finish_deviceIds : (r.finish c).registry.deviceIds = r.registry.deviceIds := by
  rw [finish]
  split <;> rfl

/-- A connection that fails in its next phase is closed. -/
theorem fail_move_connections : ((r.move c phase).fail c).connections =
    Function.update r.connections c .closed := by
  rw [fail, finish_connections, move_connections, Function.update_idem]

/-- An answer that is not written ends the connection. -/
theorem answer_cases (r : Receiver) (c : ℕ) (phase : Phase) (document : Json) :
    (∃ payload, writeFrame document = .ok payload ∧
      r.answer c phase document = (some payload, r.move c phase)) ∨
      r.answer c phase document = (none, (r.move c phase).fail c) := by
  rw [answer]
  cases h : writeFrame document with
  | ok payload => exact .inl ⟨payload, rfl, rfl⟩
  | error e => exact .inr rfl

end Lemmas

/-- **What a step of a handler can do**: to the phase of its connection, and to the
records. -/
inductive Handled (P : Platform) (config : ReceiverConfig) (r : Receiver) (c : ℕ) :
    Input → HandlerSupply → Option Bytes → Receiver → Prop
  /-- It waits on. -/
  | waits {input env} : Handled P config r c input env none r
  /-- It ends. -/
  | ends {input env} {r' : Receiver} (hphase : r'.connections = Function.update r.connections c .closed)
      (hids : r'.registry.deviceIds = r.registry.deviceIds)
      (hrecords : r'.registry.records = r.registry.records) : Handled P config r c input env none r'
  /-- It answers a hello with a challenge. -/
  | challenges {raw env id enrolledKey challenge payload}
      (hphase : r.connections c = .hello)
      (hread : readHello P config env raw = .ok (id, enrolledKey, challenge))
      (hwrite : writeFrame challenge = .ok payload) :
      Handled P config r c (.line raw) env (some payload)
        (r.move c (.challenged id enrolledKey challenge))
  /-- It opens a session for an authentication. -/
  | opens {raw env id enrolledKey challenge payload} {r' : Receiver}
      (hphase : r.connections c = .challenged id enrolledKey challenge)
      (hread : readAuthentication P enrolledKey challenge env raw = .ok ())
      (hphase' : r'.connections = Function.update r.connections c (.opened id challenge))
      (hids : r'.registry.deviceIds = r.registry.deviceIds)
      (hrecords : r'.registry.records = r.registry.records) :
      Handled P config r c (.line raw) env (some payload) r'
  /-- It publishes a snapshot. -/
  | publishes {raw env id challenge snapshot out phase} {r' : Receiver}
      (hphase : r.connections c = .opened id challenge)
      (hread : readTelemetry P challenge raw = .ok snapshot)
      (hphase' : r'.connections = Function.update r.connections c phase)
      (hended : phase = .acknowledging id ∨ phase = .closed)
      (hids : r'.registry.deviceIds = r.registry.deviceIds)
      (hrecords : r'.registry.records = if id ∈ r.registry.deviceIds then
          r.registry.records.insert id (newRecord P id 1 snapshot env.published)
        else r.registry.records) :
      Handled P config r c (.line raw) env out r'

section Handled

variable {P : Platform} {config : ReceiverConfig} {r : Receiver} {c : ℕ} {env : HandlerSupply}

theorem handled_fail {r : Receiver} {input : Input} :
    Handled P config r c input env none (r.fail c) :=
  .ends finish_connections finish_deviceIds finish_records

theorem handled_receive (raw : Bytes) :
    Handled P config r c (.line raw) env (r.receive P config c raw env).1
      (r.receive P config c raw env).2 := by
  rw [receive]
  -- in each phase: the line is read, the state moves on, and the answer is written or fails
  cases hphase : r.connections c with
  | hello =>
    dsimp only
    cases hread : readHello P config env raw with
    | error e => exact handled_fail
    | ok v =>
      obtain ⟨id, enrolledKey, challenge⟩ := v
      dsimp only
      rcases answer_cases r c (.challenged id enrolledKey challenge) challenge with
        ⟨payload, hwrite, hanswer⟩ | hanswer
      · rw [hanswer]
        exact .challenges hphase hread hwrite
      · rw [hanswer]
        exact .ends fail_move_connections finish_deviceIds finish_records
  | challenged id enrolledKey challenge =>
    dsimp only
    cases hread : readAuthentication P enrolledKey challenge env raw with
    | error e => exact handled_fail
    | ok u =>
      dsimp only
      rcases answer_cases { r with registry := r.registry.sessionOpened id } c
        (.opened id challenge) (sessionReady P challenge config.relayId env.accepted) with
        ⟨payload, -, hanswer⟩ | hanswer
      · rw [hanswer]
        exact .opens hphase hread rfl rfl rfl
      · rw [hanswer]
        exact .ends fail_move_connections finish_deviceIds finish_records
  | opened id challenge =>
    dsimp only
    cases hread : readTelemetry P challenge raw with
    | error e => exact handled_fail
    | ok snapshot =>
      dsimp only
      obtain ⟨hids, -, hrecords⟩ :=
        (publish_spec (P := P) id 1 snapshot env.published r.registry).run env.faults
      rcases hrun : (Registry.publish P id 1 snapshot env.published).run env.faults r.registry with
        ⟨_ | _, registry⟩
      · rw [hrun] at hids hrecords
        exact .publishes hphase hread finish_connections (.inr rfl)
          (finish_deviceIds.trans hids) (finish_records.trans hrecords)
      · rw [hrun] at hids hrecords
        dsimp only
        rcases answer_cases { r with registry := registry } c (.acknowledging id)
          (telemetryAck challenge) with ⟨payload, -, hanswer⟩ | hanswer
        · rw [hanswer]
          exact .publishes hphase hread rfl (.inl rfl) hids hrecords
        · rw [hanswer]
          exact .publishes hphase hread fail_move_connections (.inr rfl)
            (finish_deviceIds.trans hids) (finish_records.trans hrecords)
  | acknowledging id => exact .waits
  | closed => exact .waits

variable (P config r c) in
/-- **Every step of a handler is one of these.** -/
theorem handled_step (input : Input) (env : HandlerSupply) :
    Handled P config r c input env (r.step P config c input env).1
      (r.step P config c input env).2 := by
  unfold step
  split
  · exact .waits
  · exact handled_receive _
  · exact .ends finish_connections finish_deviceIds finish_records
  · exact .waits
  · exact handled_fail

/-- A hello that passes is answered with a challenge. -/
theorem step_hello {raw payload : Bytes} {id enrolledKey : String} {challenge : Json}
    (hphase : r.connections c = .hello)
    (hread : readHello P config env raw = .ok (id, enrolledKey, challenge))
    (hwrite : writeFrame challenge = .ok payload) :
    r.step P config c (.line raw) env =
      (some payload, r.move c (.challenged id enrolledKey challenge)) := by
  unfold step receive
  rw [hphase]
  dsimp only
  rw [hread]
  dsimp only
  rw [answer, hwrite]

/-- An authentication that passes opens the session. -/
theorem step_challenged {raw payload : Bytes} {id enrolledKey : String} {challenge : Json}
    (hphase : r.connections c = .challenged id enrolledKey challenge)
    (hread : readAuthentication P enrolledKey challenge env raw = .ok ())
    (hwrite : writeFrame (sessionReady P challenge config.relayId env.accepted) = .ok payload) :
    r.step P config c (.line raw) env =
      (some payload, { r with registry := r.registry.sessionOpened id }.move c
        (.opened id challenge)) := by
  unfold step receive
  rw [hphase]
  dsimp only
  rw [hread]
  dsimp only
  rw [answer, hwrite]

/-- Telemetry that passes is published and acknowledged, if the state file is written. -/
theorem step_opened {raw payload : Bytes} {id : String} {challenge snapshot : Json}
    {registry : Registry} (hphase : r.connections c = .opened id challenge)
    (hread : readTelemetry P challenge raw = .ok snapshot)
    (hpublish : (Registry.publish P id 1 snapshot env.published).run env.faults r.registry =
      (.ok (), registry))
    (hwrite : writeFrame (telemetryAck challenge) = .ok payload) :
    r.step P config c (.line raw) env =
      (some payload, { r with registry := registry }.move c (.acknowledging id)) := by
  unfold step receive
  rw [hphase]
  dsimp only
  rw [hread]
  dsimp only
  rw [hpublish]
  dsimp only
  rw [answer, hwrite]

end Handled

end Receiver

/-! ### All receivers -/

/-- What happens at a connection of a receiver. -/
structure ReceiverAction (ι : Type) where
  receiver : ι
  connection : ℕ
  input : Input
  env : HandlerSupply

section System

variable {ι : Type} [DecidableEq ι] (P : Platform) (config : ι → ReceiverConfig)

/-- One step of the receivers. -/
def receiversStep (s : ι → Receiver) (a : ReceiverAction ι) : Option Bytes × (ι → Receiver) :=
  let (out, r) := (s a.receiver).step P (config a.receiver) a.connection a.input a.env
  (out, Function.update s a.receiver r)

/-- The receivers, before any connection. -/
def receiversStart : ι → Receiver := fun i => .start (config i)

/-- A step of the receivers, in the course of a run. -/
abbrev ReceiverEvent (ι : Type) := Event (ι → Receiver) (ReceiverAction ι) (Option Bytes)

end System

end PrinterHmi
