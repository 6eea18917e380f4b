import PrinterHmi.Lib.Runs
import PrinterHmi.Lib.Script
import PrinterHmi.Transport.Snapshot
import PrinterHmi.Transport.Windows

/-!
# The agent's side of a session

`RelayConnector.send_snapshot` speaks three times – the hello, the authentication and
the telemetry – and reads a frame after each. What it does between two waits is one step
(`Connector.step`); what it waits for is its `ConnectorPhase`. The peer is whoever
answers under the name the certificate was checked for: the lines that arrive are
arbitrary, and so is when the connection breaks. Other processes share the enrollment
store, so every operation on it finds a host of its own.

Whatever the peer sends, what the agent writes is a beginning of the three frames in
their order, the second only for a challenge it may answer and the third only for a
confirmation of that session, and it returns only on an acknowledgement
(`Dialogue`, `dialogue_of_run`).
-/

namespace PrinterHmi

/-! ### The connector -/

/-- What `send_snapshot` waits for. -/
inductive ConnectorPhase : Type where
  /-- For the connection. -/
  | connecting
  /-- For the challenge, the hello being written. -/
  | greeted
  /-- For the confirmation, the challenge being answered. -/
  | authenticated (challenge : Json)
  /-- For the acknowledgement, the telemetry being written. -/
  | told (challenge : Json)
  /-- For nothing: it has returned. -/
  | returned (result : Json)
  /-- For nothing: it has raised. -/
  | raised (e : Exn)

/-- What ends a wait of `send_snapshot`. -/
inductive ConnectorInput : Type where
  /-- The connection is there. -/
  | connected
  /-- A line has arrived, or the rest of the stream at its end. -/
  | line (raw : Bytes)
  /-- The time for it is up. -/
  | timedOut
  /-- The connection fails. -/
  | failed

/-- A call of `send_snapshot`: the relay of the configuration, the snapshot, and where
the call is. -/
structure Connector where
  relayId : String
  snapshot : Json
  phase : ConnectorPhase

/-- **What one step takes from outside.** -/
structure ConnectorSupply where
  /-- For the operations of the enrollment store. -/
  store : Supply
  /-- The host `identity` finds. -/
  shown : Host
  /-- The host `sign` finds. -/
  signing : Host
  /-- The clock of the authentication. -/
  now : Time

section Steps

variable (P : Platform)

/-- What `identity` answers. -/
def ConnectorSupply.identity (env : ConnectorSupply) : Except Exn Json :=
  ((PrinterHmi.identity P env.store).exec env.shown).1

/-- What `sign` answers. -/
def ConnectorSupply.sign (env : ConnectorSupply) (payload : Bytes) : Except Exn Signature :=
  ((PrinterHmi.sign P env.store payload).exec env.signing).1

/-- `create_agent_hello`. -/
def createAgentHello (env : ConnectorSupply) : Except Exn Json := do
  let identity ← env.identity P
  pure (.obj [("device_id", identity.field "device_id"), ("protocol_version", protocolVersion),
    ("type", .str "agent.hello")])

/-- The hello, written. -/
def writeHello (env : ConnectorSupply) : Except Exn Bytes := do
  let hello ← createAgentHello P env
  writeFrame hello

/-- From the challenge: the challenge, and the authentication, written. -/
def answerChallenge (relayId : String) (env : ConnectorSupply) (raw : Bytes) :
    Except Exn (Json × Bytes) := do
  let challenge ← readFrame raw
  let identity ← env.identity P
  let response ← sessionResponse P identity challenge relayId env.now
  let signature ← env.sign P (sessionSignatureDomain ++ canonical response)
  let payload ← writeFrame (withSignature response signature)
  pure (challenge, payload)

/-- The fields of a confirmation. -/
def sessionReadyFields : List String :=
  ["accepted_at", "challenge_id", "protocol_version", "relay_id", "session_id", "type"]

/-- The checks of the confirmation. -/
def readReady (relayId : String) (challenge : Json) (raw : Bytes) : Except Exn Json := do
  let ready ← readFrame raw
  require (ready.hasFields sessionReadyFields ∧
      ready.fieldEq "protocol_version" protocolVersion ∧
      ready.fieldEq "type" (.str "relay.session-ready") ∧
      ready.fieldEq "session_id" (challenge.field "session_id") ∧
      ready.fieldEq "challenge_id" (challenge.field "session_id") ∧
      ready.fieldEq "relay_id" (.str relayId))
    (transportError "invalid relay session confirmation")
  pure ready

/-- The envelope of a filtered snapshot, for the session of a challenge. -/
def agentTelemetry (challenge snapshot : Json) : Json :=
  .obj [("protocol_version", protocolVersion), ("sequence", .int 1),
    ("session_id", challenge.field "session_id"), ("snapshot", snapshot),
    ("type", .str "agent.telemetry")]

/-- From the confirmation: the telemetry, written. -/
def confirm (relayId : String) (snapshot challenge : Json) (raw : Bytes) : Except Exn Bytes := do
  let _ ← readReady relayId challenge raw
  let filtered ← sanitizeSnapshot P snapshot
  writeFrame (agentTelemetry challenge filtered)

/-- The fields of an acknowledgement. -/
def telemetryAckFields : List String := ["protocol_version", "sequence", "session_id", "type"]

/-- The checks of the acknowledgement. -/
def readAck (challenge : Json) (raw : Bytes) : Except Exn Json := do
  let acknowledgement ← readFrame raw
  require (acknowledgement.hasFields telemetryAckFields ∧
      acknowledgement.fieldEq "protocol_version" protocolVersion ∧
      acknowledgement.fieldEq "type" (.str "relay.telemetry-ack") ∧
      acknowledgement.fieldEq "session_id" (challenge.field "session_id") ∧
      acknowledgement.fieldEq "sequence" (.int 1))
    (transportError "invalid relay telemetry acknowledgement")
  pure acknowledgement

/-- What `send_snapshot` returns. -/
def sendResult (relayId : String) (challenge : Json) : Json :=
  .obj [("relay_id", .str relayId), ("sequence", .int 1),
    ("session_id", challenge.field "session_id")]

/-- What becomes of an exception on the way out: a failing file or connection is an
error of the transport. -/
def connectionFailure (e : Exn) : Exn :=
  if e.cls = .osError then transportError "secure relay connection failed" else e

/-- The call raises. -/
def Connector.raise (k : Connector) (e : Exn) : Option Bytes × Connector :=
  (none, { k with phase := .raised (connectionFailure e) })

/-- **One step of `send_snapshot`**: the bytes it writes, and where it is then. -/
def Connector.step (k : Connector) (input : ConnectorInput) (env : ConnectorSupply) :
    Option Bytes × Connector :=
  match k.phase, input with
  | .returned _, _ | .raised _, _ => (none, k)
  -- a connection that takes too long fails as one that breaks does
  | .connecting, .timedOut | _, .failed =>
    k.raise (transportError "secure relay connection failed")
  | _, .timedOut => k.raise (transportError "relay frame timed out")
  | .connecting, .connected =>
    match writeHello P env with
    | .ok payload => (some payload, { k with phase := .greeted })
    | .error e => k.raise e
  | .greeted, .line raw =>
    match answerChallenge P k.relayId env raw with
    | .ok (challenge, payload) => (some payload, { k with phase := .authenticated challenge })
    | .error e => k.raise e
  | .authenticated challenge, .line raw =>
    match confirm P k.relayId k.snapshot challenge raw with
    | .ok payload => (some payload, { k with phase := .told challenge })
    | .error e => k.raise e
  | .told challenge, .line raw =>
    match readAck challenge raw with
    | .ok _ => (none, { k with phase := .returned (sendResult k.relayId challenge) })
    | .error e => k.raise e
  -- nothing is read before the connection is there, and it is there once
  | .connecting, .line _ | _, .connected => (none, k)

end Steps

/-! ### What passes -/

section Reads

variable {P : Platform} {env : ConnectorSupply} {relayId : String} {challenge snapshot : Json}
  {raw payload : Bytes}

/-- What `identity` answers is the public part of an identity that checks out. -/
theorem identity_eq_ok {d : Json} (h : env.identity P = .ok d) :
    ∃ i k, d = publicIdentity i ∧ checkIdentity P i = .ok k := by
  have hout : HasOutcome P env.shown env.store .identity (PrinterHmi.identity P env.store) :=
    identity_outcome
  rw [HasOutcome, show ((PrinterHmi.identity P env.store).exec env.shown).1 = .ok d from h] at hout
  generalize ((PrinterHmi.identity P env.store).exec env.shown).2 = found at hout
  cases hout with
  | identified hid => exact ⟨_, _, rfl, hid.checked⟩

/-- **What a hello that is written is.** -/
theorem writeHello_eq_ok (h : writeHello P env = .ok payload) :
    ∃ i, env.identity P = .ok (publicIdentity i) ∧ writeFrame (agentHello i.deviceId) = .ok payload := by
  simp only [writeHello, createAgentHello, Except.bind_eq_ok] at h
  obtain ⟨hello, ⟨d, hd, hhello⟩, hwrite⟩ := h
  obtain ⟨i, -, rfl, -⟩ := identity_eq_ok hd
  obtain rfl := Except.ok.inj hhello
  exact ⟨i, hd, hwrite⟩

/-- **What a challenge that is answered is.** -/
theorem answerChallenge_eq_ok (h : answerChallenge P relayId env raw = .ok (challenge, payload)) :
    ∃ i c signature, readFrame raw = .ok challenge ∧ env.identity P = .ok (publicIdentity i) ∧
      validateSessionChallenge P challenge (.str i.deviceId) (.str relayId) env.now = .ok c ∧
      writeFrame (withSignature (sessionAuth challenge (.str i.deviceId) (.str i.publicKey)
        (.str (P.timestamp env.now))) signature) = .ok payload := by
  simp only [answerChallenge, sessionResponse, Except.bind_eq_ok] at h
  obtain ⟨challenge', hread, d, hd, response, ⟨c, hc, hresponse⟩, signature, -, payload', hwrite,
    hpair⟩ := h
  obtain ⟨rfl, rfl⟩ := Prod.mk.inj (Except.ok.inj hpair)
  obtain ⟨i, -, rfl, -⟩ := identity_eq_ok hd
  obtain ⟨-, -, -, -, -, -, -, -, -, -, -, -, -, -, hdocument⟩ := validateSessionChallenge_eq_ok.mp hc
  obtain rfl := Except.ok.inj hresponse
  rw [hdocument] at hwrite
  exact ⟨i, c, signature, hread, hd, hc, hwrite⟩

/-- **What a confirmation that passes is.** -/
theorem readReady_eq_ok {ready : Json} : readReady relayId challenge raw = .ok ready ↔
    readFrame raw = .ok ready ∧ ready.hasFields sessionReadyFields = true ∧
      ready.fieldEq "protocol_version" protocolVersion = true ∧
      ready.field "type" = .str "relay.session-ready" ∧
      ready.fieldEq "session_id" (challenge.field "session_id") = true ∧
      ready.fieldEq "challenge_id" (challenge.field "session_id") = true ∧
      ready.field "relay_id" = .str relayId := by
  simp only [readReady, Except.bind_eq_ok, require_eq_ok, exists_const, Json.fieldEq_str_iff,
    and_assoc]
  constructor
  · rintro ⟨ready', hread, hfields, hversion, htype, hsession, hchallenge, hrelay, hr⟩
    obtain rfl := Except.ok.inj hr
    exact ⟨hread, hfields, hversion, htype, hsession, hchallenge, hrelay⟩
  · rintro ⟨hread, hfields, hversion, htype, hsession, hchallenge, hrelay⟩
    exact ⟨ready, hread, hfields, hversion, htype, hsession, hchallenge, hrelay, rfl⟩

/-- **What a confirmation that is followed by telemetry is**, and the telemetry. -/
theorem confirm_eq_ok : confirm P relayId snapshot challenge raw = .ok payload ↔
    ∃ ready y, readReady relayId challenge raw = .ok ready ∧ sanitizeSnapshot P snapshot = .ok y ∧
      writeFrame (agentTelemetry challenge y) = .ok payload := by
  simp only [confirm, Except.bind_eq_ok]
  constructor
  · rintro ⟨ready, hready, y, hy, hwrite⟩
    exact ⟨ready, y, hready, hy, hwrite⟩
  · rintro ⟨ready, y, hready, hy, hwrite⟩
    exact ⟨ready, hready, y, hy, hwrite⟩

/-- **What an acknowledgement that passes is.** -/
theorem readAck_eq_ok {ack : Json} : readAck challenge raw = .ok ack ↔
    readFrame raw = .ok ack ∧ ack.hasFields telemetryAckFields = true ∧
      ack.fieldEq "protocol_version" protocolVersion = true ∧
      ack.field "type" = .str "relay.telemetry-ack" ∧
      ack.fieldEq "session_id" (challenge.field "session_id") = true ∧
      ack.fieldEq "sequence" (.int 1) = true := by
  simp only [readAck, Except.bind_eq_ok, require_eq_ok, exists_const, Json.fieldEq_str_iff,
    and_assoc]
  constructor
  · rintro ⟨ack', hread, hfields, hversion, htype, hsession, hsequence, hr⟩
    obtain rfl := Except.ok.inj hr
    exact ⟨hread, hfields, hversion, htype, hsession, hsequence⟩
  · rintro ⟨hread, hfields, hversion, htype, hsession, hsequence⟩
    exact ⟨ack, hread, hfields, hversion, htype, hsession, hsequence, rfl⟩

end Reads

/-! ### What a step does -/

/-- **What a step of `send_snapshot` can do**: what it writes, and where it is then. -/
inductive Connector.Stepped (P : Platform) (k : Connector) :
    ConnectorInput → ConnectorSupply → Option Bytes → ConnectorPhase → Prop
  /-- It waits on, or has ended. -/
  | waits {input env} : Stepped P k input env none k.phase
  /-- It raises. -/
  | raises {input env e} : Stepped P k input env none (.raised e)
  /-- It greets. -/
  | greets {env payload} (hphase : k.phase = .connecting) (hwrite : writeHello P env = .ok payload) :
      Stepped P k .connected env (some payload) .greeted
  /-- It answers a challenge. -/
  | answers {raw env challenge payload} (hphase : k.phase = .greeted)
      (hanswer : answerChallenge P k.relayId env raw = .ok (challenge, payload)) :
      Stepped P k (.line raw) env (some payload) (.authenticated challenge)
  /-- It tells the snapshot. -/
  | tells {raw env challenge payload} (hphase : k.phase = .authenticated challenge)
      (hconfirm : confirm P k.relayId k.snapshot challenge raw = .ok payload) :
      Stepped P k (.line raw) env (some payload) (.told challenge)
  /-- It returns. -/
  | returns {raw env challenge ack} (hphase : k.phase = .told challenge)
      (hack : readAck challenge raw = .ok ack) :
      Stepped P k (.line raw) env none (.returned (sendResult k.relayId challenge))

section Step

variable {P : Platform} {k : Connector}

/-- **Every step of `send_snapshot` is one of these**, and it is the same call. -/
theorem stepped_step (input : ConnectorInput) (env : ConnectorSupply) :
    Connector.Stepped P k input env (k.step P input env).1 (k.step P input env).2.phase ∧
      (k.step P input env).2.relayId = k.relayId ∧
      (k.step P input env).2.snapshot = k.snapshot := by
  unfold Connector.step
  split
  · exact ⟨.waits, rfl, rfl⟩
  · exact ⟨.waits, rfl, rfl⟩
  · exact ⟨.raises, rfl, rfl⟩
  · exact ⟨.raises, rfl, rfl⟩
  · exact ⟨.raises, rfl, rfl⟩
  · next hphase =>
    cases hwrite : writeHello P env with
    | ok payload => exact ⟨.greets hphase hwrite, rfl, rfl⟩
    | error e => exact ⟨.raises, rfl, rfl⟩
  · next raw hphase =>
    cases hanswer : answerChallenge P k.relayId env raw with
    | ok v => exact ⟨.answers hphase hanswer, rfl, rfl⟩
    | error e => exact ⟨.raises, rfl, rfl⟩
  · next challenge raw hphase =>
    cases hconfirm : confirm P k.relayId k.snapshot challenge raw with
    | ok payload => exact ⟨.tells hphase hconfirm, rfl, rfl⟩
    | error e => exact ⟨.raises, rfl, rfl⟩
  · next challenge raw hphase =>
    cases hack : readAck challenge raw with
    | ok ack => exact ⟨.returns hphase hack, rfl, rfl⟩
    | error e => exact ⟨.raises, rfl, rfl⟩
  · exact ⟨.waits, rfl, rfl⟩
  · exact ⟨.waits, rfl, rfl⟩

end Step

/-! ### What is written, over a run -/

/-- One step of the call, as it is made. -/
structure ConnectorCall where
  input : ConnectorInput
  env : ConnectorSupply

/-- A step of the call, in the course of a run. -/
abbrev ConnectorEvent := Event Connector ConnectorCall (Option Bytes)

section Dialogue

variable (P : Platform)

/-- **Runs of `send_snapshot`** against any peer. -/
abbrev ConnectorRun (k : Connector) :=
  Run (fun k (c : ConnectorCall) => k.step P c.input c.env) (fun _ _ => True) k

/-- The event writes the hello of the device. -/
def WritesHello (e : ConnectorEvent) : Prop :=
  ∃ i payload, e.call.env.identity P = .ok (publicIdentity i) ∧
    writeFrame (agentHello i.deviceId) = .ok payload ∧ e.result = some payload

/-- **The event writes an authentication** for a challenge it receives: addressed to this
device, from the relay of the configuration, with a nonce of thirty-two bytes, and with a
lifetime that is short enough and that the clock is in. -/
structure WritesAuthentication (relayId : String) (challenge : Json) (e : ConnectorEvent) :
    Prop where
  received : ∃ raw, e.call.input = .line raw ∧ readFrame raw = .ok challenge
  addressed : ∃ i, e.call.env.identity P = .ok (publicIdentity i) ∧
    challenge.field "audience" = .str i.deviceId ∧
    ∃ signature payload, e.result = some payload ∧ writeFrame (withSignature
      (sessionAuth challenge (.str i.deviceId) (.str i.publicKey)
        (.str (P.timestamp e.call.env.now))) signature) = .ok payload
  named : challenge.field "relay_id" = .str relayId
  nonce : ∃ nonce, b64decode invalidTransportEncoding (challenge.field "nonce") = .ok nonce ∧
    nonce.length = 32
  dated : ∃ issued expires,
    parseTimestamp P invalidSessionTimestamp (challenge.field "issued_at") = .ok issued ∧
    parseTimestamp P invalidSessionTimestamp (challenge.field "expires_at") = .ok expires ∧
    issued < expires ∧ expires - issued ≤ seconds 120 ∧
    issued - seconds 30 ≤ e.call.env.now ∧ e.call.env.now < expires

/-- **The event writes the telemetry** of the session of a challenge, on a confirmation of
that session by the relay of the configuration: it holds the filtered snapshot. -/
structure WritesTelemetry (relayId : String) (snapshot challenge : Json) (e : ConnectorEvent) :
    Prop where
  confirmed : ∃ raw ready, e.call.input = .line raw ∧ readFrame raw = .ok ready ∧
    ready.field "type" = .str "relay.session-ready" ∧
    ready.fieldEq "session_id" (challenge.field "session_id") = true ∧
    ready.field "relay_id" = .str relayId
  filtered : ∃ y payload, sanitizeSnapshot P snapshot = .ok y ∧
    writeFrame (agentTelemetry challenge y) = .ok payload ∧ e.result = some payload

/-- The event receives an acknowledgement of the session of a challenge. -/
def ReadsAcknowledgement (challenge : Json) (e : ConnectorEvent) : Prop :=
  ∃ raw ack, e.call.input = .line raw ∧ readFrame raw = .ok ack ∧
    ack.field "type" = .str "relay.telemetry-ack" ∧
    ack.fieldEq "session_id" (challenge.field "session_id") = true ∧
    ack.fieldEq "sequence" (.int 1) = true

/-- The event writes. -/
def connectorWrites (e : ConnectorEvent) : Bool := e.result.isSome

/-- What the three frames are, in their order. -/
def speaking (relayId : String) (snapshot challenge : Json) : List (ConnectorEvent → Prop) :=
  [WritesHello P, WritesAuthentication P relayId challenge,
    WritesTelemetry P relayId snapshot challenge]

/-- The first `n` frames of a session are what has been written. -/
abbrev Spoken (relayId : String) (snapshot challenge : Json) (n : ℕ) (es : List ConnectorEvent) :
    Prop :=
  Script.Spoken connectorWrites (speaking P relayId snapshot challenge) n es

/-- **What a call has behind it**, by what it waits for. -/
def Dialogue (relayId : String) (snapshot : Json) (es : List ConnectorEvent) :
    ConnectorPhase → Prop
  | .connecting => ∀ challenge, Spoken P relayId snapshot challenge 0 es
  | .greeted => ∀ challenge, Spoken P relayId snapshot challenge 1 es
  | .authenticated challenge => Spoken P relayId snapshot challenge 2 es
  | .told challenge => Spoken P relayId snapshot challenge 3 es
  | .returned result => ∃ challenge, Spoken P relayId snapshot challenge 3 es ∧
      result = sendResult relayId challenge ∧ ∃ pre e post, es = pre ++ e :: post ∧
        Spoken P relayId snapshot challenge 3 pre ∧ ReadsAcknowledgement challenge e
  | .raised _ => ∃ challenge n, Spoken P relayId snapshot challenge n es

variable {P} {relayId : String} {snapshot challenge : Json} {n : ℕ} {es : List ConnectorEvent}
  {e : ConnectorEvent}

theorem silent_of_none (he : e.result = none) : connectorWrites e = false := by
  rw [connectorWrites, he]
  rfl

theorem writes_of_some {payload : Bytes} (he : e.result = some payload) :
    connectorWrites e = true := by
  rw [connectorWrites, he]
  rfl

/-- Whatever the call waits for, it has written a beginning of the three frames. -/
theorem Dialogue.spoken {phase : ConnectorPhase} (h : Dialogue P relayId snapshot es phase) :
    ∃ challenge n, Spoken P relayId snapshot challenge n es := by
  cases phase with
  | connecting => exact ⟨.null, 0, h .null⟩
  | greeted => exact ⟨.null, 1, h .null⟩
  | authenticated challenge => exact ⟨challenge, 2, h⟩
  | told challenge => exact ⟨challenge, 3, h⟩
  | returned result =>
    obtain ⟨challenge, hspoken, -⟩ := h
    exact ⟨challenge, 3, hspoken⟩
  | raised e => exact h

/-- An event that leaves the call where it is. -/
theorem Dialogue.append_none {phase : ConnectorPhase} (h : Dialogue P relayId snapshot es phase)
    (he : e.result = none) : Dialogue P relayId snapshot (es ++ [e]) phase := by
  cases phase with
  | connecting => exact fun challenge => (h challenge).silent (silent_of_none he)
  | greeted => exact fun challenge => (h challenge).silent (silent_of_none he)
  | authenticated challenge => exact Script.Spoken.silent h (silent_of_none he)
  | told challenge => exact Script.Spoken.silent h (silent_of_none he)
  | returned result =>
    obtain ⟨challenge, hspoken, hresult, pre, e', post, rfl, hpre, hack⟩ := h
    exact ⟨challenge, hspoken.silent (silent_of_none he), hresult, pre, e', post ++ [e], by simp,
      hpre, hack⟩
  | raised _ =>
    obtain ⟨challenge, n, hspoken⟩ := h
    exact ⟨challenge, n, hspoken.silent (silent_of_none he)⟩

/-- **A step goes on with the dialogue.** -/
theorem dialogue_step {phase : ConnectorPhase}
    (hid : e.before.relayId = relayId ∧ e.before.snapshot = snapshot)
    (h : Dialogue P relayId snapshot es e.before.phase)
    (hstep : e.before.Stepped P e.call.input e.call.env e.result phase) :
    Dialogue P relayId snapshot (es ++ [e]) phase := by
  obtain ⟨rfl, rfl⟩ := hid
  generalize hinput : e.call.input = input at hstep
  generalize henv : e.call.env = env at hstep
  generalize hresult : e.result = out at hstep
  cases hstep with
  | waits => exact h.append_none hresult
  | raises =>
    obtain ⟨challenge, n, hspoken⟩ := h.spoken
    exact ⟨challenge, n, hspoken.silent (silent_of_none hresult)⟩
  | greets hphase hwrite =>
    rw [hphase] at h
    obtain ⟨i, hi, hhello⟩ := writeHello_eq_ok hwrite
    subst henv
    exact fun challenge =>
      Script.Spoken.says (h challenge) (writes_of_some hresult) rfl ⟨i, _, hi, hhello, hresult⟩
  -- what the challenge was checked for is what the dialogue asks of it
  | @answers raw _ challenge payload hphase hanswer =>
    rw [hphase] at h
    obtain ⟨i, c, signature, hread, hi, hc, hwrite⟩ := answerChallenge_eq_ok hanswer
    obtain ⟨-, -, -, -, -, hrelay, haudience, hnonce, hissued, hexpires, hlt, hle, hskew, hlive, -⟩ :=
      validateSessionChallenge_eq_ok.mp hc
    subst henv
    refine Script.Spoken.says (h challenge) (writes_of_some hresult) rfl ⟨⟨raw, hinput, hread⟩, ⟨i, hi,
      Json.fieldEq_str_iff.mp haudience, signature, payload, hresult, hwrite⟩,
      Json.fieldEq_str_iff.mp hrelay, hnonce, ⟨c.issued, c.expires, hissued, hexpires, hlt, hle, ?_,
        hlive⟩⟩
    exact sub_le_iff_le_add.mpr hskew
  | @tells raw _ challenge payload hphase hconfirm =>
    rw [hphase] at h
    obtain ⟨ready, y, hready, hy, hwrite⟩ := confirm_eq_ok.mp hconfirm
    obtain ⟨hread, -, -, htype, hsession, -, hrelay⟩ := readReady_eq_ok.mp hready
    exact Script.Spoken.says h (writes_of_some hresult) rfl
      ⟨⟨raw, ready, hinput, hread, htype, hsession, hrelay⟩, ⟨y, payload, hy, hwrite, hresult⟩⟩
  | @returns raw _ challenge ack hphase hack =>
    rw [hphase] at h
    obtain ⟨hread, -, -, htype, hsession, hsequence⟩ := readAck_eq_ok.mp hack
    exact ⟨challenge, Script.Spoken.silent h (silent_of_none hresult), rfl, es, e, [], rfl, h,
      ⟨raw, ack, hinput, hread, htype, hsession, hsequence⟩⟩

/-- **Against any peer, a call has the dialogue of its phase behind it.** -/
theorem dialogue_of_run {k : Connector}
    (hrun : ConnectorRun P ⟨relayId, snapshot, .connecting⟩ es k) :
    k.relayId = relayId ∧ k.snapshot = snapshot ∧ Dialogue P relayId snapshot es k.phase := by
  refine hrun.invariant (I := fun es k => k.relayId = relayId ∧ k.snapshot = snapshot ∧
    Dialogue P relayId snapshot es k.phase) ⟨rfl, rfl, fun _ => Script.spoken_nil⟩ ?_
  rintro es k c - ⟨hrelay, hsnapshot, hdialogue⟩ -
  obtain ⟨hstep, hrelay', hsnapshot'⟩ := stepped_step (P := P) (k := k) c.input c.env
  exact ⟨hrelay'.trans hrelay, hsnapshot'.trans hsnapshot,
    dialogue_step (e := ⟨k, c, _, _⟩) ⟨hrelay, hsnapshot⟩ hdialogue hstep⟩

end Dialogue

end PrinterHmi
