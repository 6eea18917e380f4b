import PrinterHmi.Receiver.Delivery
import PrinterHmi.Transport.Interleaving

/-!
# An undisturbed session

When an enrolled agent calls a receiver whose clock is near its own, and nothing breaks
the connection, every check on either side passes: the two ends take the seven steps of
a session in turn (`Meeting.opening`, `Meeting.closing`), and the call returns with its
snapshot published (`meeting_returns`). So the law of `send_snapshot_safe` is not about
calls that never return.
-/

namespace PrinterHmi

/-- The frame of a document. -/
def frame (d : Json) : Bytes := canonical d ++ [newline]

/-- **What the two ends of a session bring to it.** -/
structure Meeting where
  /-- Of the agent. -/
  identity : Identity
  key : Bytes32
  /-- What the agent's steps take from outside. -/
  agent : ConnectorSupply
  /-- What the handler's steps take from outside. -/
  handler : HandlerSupply
  snapshot : Json
  /-- What the filter makes of it. -/
  filtered : Json

section Documents

variable (P : Platform) (config : ReceiverConfig) (m : Meeting)

/-- The challenge of the session. -/
def Meeting.challenge : Json :=
  sessionChallenge P m.identity.deviceId config.relayId sessionLifetime m.handler.sessionId
    m.handler.nonce m.handler.now

/-- What the agent signs. -/
def Meeting.response : Json :=
  sessionAuth (m.challenge P config) (.str m.identity.deviceId) (.str m.identity.publicKey)
    (.str (P.timestamp m.agent.now))

/-- The authentication. -/
def Meeting.authentication : Json :=
  withSignature (m.response P config)
    (P.sign m.key (sessionSignatureDomain ++ canonical (m.response P config)))

/-- The confirmation. -/
def Meeting.ready : Json := sessionReady P (m.challenge P config) config.relayId m.handler.accepted

/-- The telemetry. -/
def Meeting.telemetry : Json := agentTelemetry (m.challenge P config) m.filtered

/-- The acknowledgement. -/
def Meeting.ack : Json := telemetryAck (m.challenge P config)

/-- **The two ends agree**: the agent is enrolled at this receiver under its key, the
clocks are near one another, and the frames are not too long. -/
structure Meeting.Agreed : Prop where
  shown : m.agent.identity P = .ok (publicIdentity m.identity)
  signs : ∀ payload, m.agent.sign P payload = .ok (P.sign m.key payload)
  checked : checkIdentity P m.identity = .ok m.key
  enrolled : config.devices.get? m.identity.deviceId = some m.identity.publicKey
  relay : relayIdPattern config.relayId = true
  early : m.handler.now ≤ m.agent.now + clockSkew
  live : m.agent.now < m.handler.now + seconds sessionLifetime
  normal : m.snapshot.ordered = true
  filters : sanitizeSnapshot P m.snapshot = .ok m.filtered
  stored : m.handler.faults = fun _ => false
  short : ∀ t ∈ [m.handler.now, m.handler.now + seconds sessionLifetime, m.agent.now,
    m.handler.accepted], (P.timestamp t).toList.length ≤ 64

/-- The line of the session, where the call is. -/
def Meeting.line (phase : ConnectorPhase) (up down : List Json) : Line :=
  ⟨⟨config.relayId, m.snapshot, phase⟩, up.map frame, down.map frame⟩

/-- The steps until the telemetry is on the way. -/
def Meeting.opening (c : ℕ) : List ExchangeAction :=
  [.agent c .connected m.agent,
    .handler c (.line (frame (agentHello m.identity.deviceId))) m.handler,
    .agent c (.line (frame (m.challenge P config))) m.agent,
    .handler c (.line (frame (m.authentication P config))) m.handler,
    .agent c (.line (frame (m.ready P config))) m.agent]

/-- The steps from there. -/
def Meeting.closing (c : ℕ) : List ExchangeAction :=
  [.handler c (.line (frame (m.telemetry P config))) m.handler,
    .agent c (.line (frame (m.ack P config))) m.agent]

end Documents

/-! ### The checks pass -/

section Checks

variable {P : Platform} {config : ReceiverConfig} {m : Meeting}

theorem Meeting.writes_ack (m : Meeting) :
    writeFrame (telemetryAck (m.challenge P config)) = .ok (frame (m.ack P config)) := by
  have hid : (m.challenge P config).field "session_id" = .str m.handler.sessionId.1 := rfl
  obtain ⟨payload, hwrite⟩ := writeFrame_telemetryAck hid
  obtain ⟨-, rfl⟩ := writeFrame_eq_ok.mp hwrite
  exact hwrite

theorem Meeting.reads_ack (m : Meeting) : readAck (m.challenge P config) (frame (m.ack P config)) =
    .ok (m.ack P config) := by
  have hordered : (m.ack P config).ordered = true :=
    ordered_telemetryAck (ordered_sessionChallenge _ _ _ _ _ _)
  refine readAck_eq_ok.mpr ⟨readFrame_writeFrame hordered rfl m.writes_ack, ?_, rfl, rfl,
    Json.pyEq_refl _, rfl⟩
  simp [Json.hasFields, Json.isObj, Json.names, Meeting.ack, telemetryAck, telemetryAckFields]

namespace Meeting.Agreed

variable (h : m.Agreed P config)
include h

theorem deviceId_eq : m.identity.deviceId = deviceId P (P.publicKey m.key).1 :=
  (checkIdentity_eq_ok h.checked).2

/-- The bounds of the texts in the documents of the session. -/
theorem texts : Json.stringBound m.identity.deviceId ≤ 362 ∧
    Json.stringBound m.identity.publicKey = 518 ∧ Json.stringBound config.relayId ≤ 770 ∧
    Json.stringBound m.handler.sessionId.1 = 434 ∧
    Json.stringBound (b64encode m.handler.nonce.1) = 518 := by
  have hkey (k : Bytes32) : Json.stringBound (b64encode k.1) = 518 := by
    rw [Json.stringBound, b64encode, String.toList_ofList, Base64.length_encode, k.2]
  obtain ⟨hpublic, hdevice⟩ := checkIdentity_eq_ok h.checked
  refine ⟨?_, ?_, ?_, ?_, hkey _⟩
  · have hlen : (m.identity.deviceId).toList.length ≤ 30 := by
      rw [hdevice, deviceId, String.toList_ofList, List.length_append, List.length_take]
      have hprefix : deviceIdPrefix.length = 4 := rfl
      omega
    rw [Json.stringBound]
    omega
  · rw [hpublic]
    exact hkey _
  · have hrelay := h.relay
    rw [relayIdPattern, matchesClass, Bool.and_eq_true, Bool.and_eq_true, decide_eq_true_eq,
      decide_eq_true_eq] at hrelay
    rw [Json.stringBound]
    omega
  · rw [Json.stringBound, length_uuid]

/-- The bounds of the moments in the documents of the session. -/
theorem moments : ∀ t ∈ [m.handler.now, m.handler.now + seconds sessionLifetime, m.agent.now,
    m.handler.accepted], Json.stringBound (P.timestamp t) ≤ 770 := by
  intro t ht
  have hlen := h.short t ht
  rw [Json.stringBound]
  omega

theorem challenge_bound : (m.challenge P config).lengthBound ≤ 8000 := by
  obtain ⟨hdevice, -, hrelay, hsession, hnonce⟩ := h.texts
  have hissued := h.moments m.handler.now (by simp)
  have hexpires := h.moments (m.handler.now + seconds sessionLifetime) (by simp)
  have hnames : Json.stringBound "audience" + Json.stringBound "expires_at" +
      Json.stringBound "issued_at" + Json.stringBound "nonce" + Json.stringBound "protocol_version" +
      Json.stringBound "relay_id" + Json.stringBound "session_id" + Json.stringBound "type" +
      Json.stringBound "relay.session-challenge" ≤ 2000 := by decide
  have hint : (Json.intText 1).length = 1 := rfl
  simp only [Meeting.challenge, sessionChallenge, protocolVersion, Json.lengthBound,
    Json.lengthBoundFields, hint]
  omega

/-- **The frames of the session fit.** -/
theorem fits : ∀ d ∈ [agentHello m.identity.deviceId, m.challenge P config,
    m.authentication P config, m.ready P config], writeFrame d = .ok (frame d) := by
  obtain ⟨hdevice, hpublic, hrelay, hsession, -⟩ := h.texts
  have hchallenge := h.challenge_bound
  have hsigned := h.moments m.agent.now (by simp)
  have haccepted := h.moments m.handler.accepted (by simp)
  have hint : (Json.intText 1).length = 1 := rfl
  have hsignature (signature : Signature) : Json.stringBound (b64encode signature.1) = 1034 := by
    rw [Json.stringBound, b64encode, String.toList_ofList, Base64.length_encode, signature.2]
  -- a frame is as long as its fields are; each of them has a bound
  intro d hd
  refine writeFrame_of_lengthBound ?_
  simp only [List.mem_cons, List.not_mem_nil, or_false] at hd
  rcases hd with rfl | rfl | rfl | rfl
  · have hnames : Json.stringBound "device_id" + Json.stringBound "protocol_version" +
        Json.stringBound "type" + Json.stringBound "agent.hello" ≤ 2000 := by decide
    simp only [agentHello, protocolVersion, Json.lengthBound, Json.lengthBoundFields, hint,
      maxFrameBytes]
    omega
  · rw [maxFrameBytes]
    omega
  · have hnames : Json.stringBound "challenge" + Json.stringBound "device_id" +
        Json.stringBound "device_public_key" + Json.stringBound "protocol_version" +
        Json.stringBound "signature" + Json.stringBound "signed_at" + Json.stringBound "type" +
        Json.stringBound "agent.session-auth" ≤ 3000 := by decide
    have hdocument : m.authentication P config = .obj [("challenge", m.challenge P config),
        ("device_id", .str m.identity.deviceId), ("device_public_key", .str m.identity.publicKey),
        ("protocol_version", protocolVersion),
        ("signature", .str (b64encode (P.sign m.key (sessionSignatureDomain ++
          canonical (m.response P config))).1)),
        ("signed_at", .str (P.timestamp m.agent.now)), ("type", .str "agent.session-auth")] := rfl
    rw [hdocument]
    simp only [protocolVersion, Json.lengthBound, Json.lengthBoundFields, hint, hsignature,
      maxFrameBytes]
    omega
  · have hnames : Json.stringBound "accepted_at" + Json.stringBound "challenge_id" +
        Json.stringBound "protocol_version" + Json.stringBound "relay_id" +
        Json.stringBound "session_id" + Json.stringBound "type" +
        Json.stringBound "relay.session-ready" ≤ 3000 := by decide
    have hid : (m.challenge P config).field "session_id" = .str m.handler.sessionId.1 := rfl
    simp only [Meeting.ready, sessionReady, hid, protocolVersion, Json.lengthBound,
      Json.lengthBoundFields, hint, maxFrameBytes]
    omega

theorem writes_hello : writeHello P m.agent = .ok (frame (agentHello m.identity.deviceId)) := by
  have hwrite := h.fits (agentHello m.identity.deviceId) (by simp)
  simp only [writeHello, createAgentHello, Except.bind_eq_ok]
  exact ⟨agentHello m.identity.deviceId, ⟨_, h.shown, rfl⟩, hwrite⟩

theorem reads_hello : readHello P config m.handler (frame (agentHello m.identity.deviceId)) =
    .ok (m.identity.deviceId, m.identity.publicKey, m.challenge P config) := by
  have hpattern : deviceIdPattern m.identity.deviceId = true := by
    rw [h.deviceId_eq]
    exact deviceIdPattern_deviceId P _
  have hread := readFrame_writeFrame (ordered_agentHello m.identity.deviceId) rfl
    (h.fits _ (by simp))
  refine readHello_eq_ok.mpr ⟨⟨_, hread, validateAgentHello_eq_ok.mpr ⟨rfl, rfl, rfl, rfl,
    hpattern⟩⟩, h.enrolled, ?_⟩
  rw [createSessionChallenge, require_pos hpattern, require_pos h.relay, require_pos (by decide)]
  rfl

/-- The challenge is valid for the agent. -/
theorem valid : validateSessionChallenge P (m.challenge P config) (.str m.identity.deviceId)
    (.str config.relayId) m.agent.now = .ok ⟨m.challenge P config, m.handler.sessionId.1,
      m.handler.now, m.handler.now + seconds sessionLifetime⟩ := by
  have hlt : m.handler.now < m.handler.now + seconds sessionLifetime :=
    lt_add_of_pos_right _ (by decide)
  have hle : m.handler.now + seconds sessionLifetime - m.handler.now ≤ maxSessionLifetime := by
    rw [add_sub_cancel_left]
    decide
  exact validateSessionChallenge_eq_ok.mpr ⟨rfl, rfl, rfl, rfl, m.handler.sessionId.2,
    Json.pyEq_refl _, Json.pyEq_refl _, ⟨_, b64decode_str_b64encode _ _, m.handler.nonce.2⟩,
    parseTimestamp_timestamp P _ _, parseTimestamp_timestamp P _ _, hlt, hle, h.early, h.live, rfl⟩

theorem answers : answerChallenge P config.relayId m.agent (frame (m.challenge P config)) =
    .ok (m.challenge P config, frame (m.authentication P config)) := by
  have hread := readFrame_writeFrame (ordered_sessionChallenge (P := P) m.identity.deviceId
    config.relayId sessionLifetime m.handler.sessionId m.handler.nonce m.handler.now) rfl
    (h.fits (m.challenge P config) (by simp))
  have hresponse : sessionResponse P (publicIdentity m.identity) (m.challenge P config)
      config.relayId m.agent.now = .ok (m.response P config) := by
    rw [sessionResponse, show (publicIdentity m.identity).field "device_id" =
      .str m.identity.deviceId from rfl, h.valid]
    rfl
  have hwrite := h.fits (m.authentication P config) (by simp)
  simp only [answerChallenge, Except.bind_eq_ok]
  exact ⟨_, hread, _, h.shown, _, hresponse, _, h.signs _, _, hwrite, rfl⟩

theorem authenticates : readAuthentication P m.identity.publicKey (m.challenge P config) m.handler
    (frame (m.authentication P config)) = .ok () := by
  have hordered : (m.authentication P config).ordered = true :=
    ordered_withSignature (sessionAuth_ordered (ordered_sessionChallenge _ _ _ _ _ _) rfl rfl rfl) _
  have hread := readFrame_writeFrame hordered rfl (h.fits _ (by simp))
  obtain ⟨hpublic, hdevice⟩ := checkIdentity_eq_ok h.checked
  have hwindow : InWindow m.handler.now (m.handler.now + seconds sessionLifetime) m.handler.now :=
    ⟨sub_le_self _ (by decide), lt_add_of_pos_right _ (by decide)⟩
  exact readAuthentication_eq_ok.mpr ⟨_, hread, rfl, _,
    (verifySessionAuth_iff hpublic hdevice h.valid).mpr ⟨rfl, hwindow⟩⟩

theorem confirms : confirm P config.relayId m.snapshot (m.challenge P config)
    (frame (m.ready P config)) = .ok (frame (m.telemetry P config)) := by
  have hread := readFrame_writeFrame (ordered_sessionReady (P := P)
    (ordered_sessionChallenge (P := P) m.identity.deviceId config.relayId sessionLifetime
      m.handler.sessionId m.handler.nonce m.handler.now) config.relayId m.handler.accepted) rfl
    (h.fits (m.ready P config) (by simp))
  have hready : readReady config.relayId (m.challenge P config) (frame (m.ready P config)) =
      .ok (m.ready P config) := by
    refine readReady_eq_ok.mpr ⟨hread, ?_, rfl, rfl, Json.pyEq_refl _, Json.pyEq_refl _, rfl⟩
    simp [Json.hasFields, Json.isObj, Json.names, Meeting.ready, sessionReady, sessionReadyFields]
  exact confirm_eq_ok.mpr ⟨_, _, hready, h.filters,
    writeFrame_telemetryEnvelope h.filters (length_uuid m.handler.sessionId)⟩

theorem reads_telemetry : readTelemetry P (m.challenge P config) (frame (m.telemetry P config)) =
    .ok m.filtered := by
  obtain ⟨payload, hsend, -, hread⟩ :=
    readTelemetry_sendTelemetry h.normal h.filters m.handler.sessionId
  have hwrite := writeFrame_telemetryEnvelope h.filters (length_uuid m.handler.sessionId)
  have hsend' : sendTelemetry P m.handler.sessionId.1 m.snapshot =
      .ok (frame (m.telemetry P config)) := (Except.ok_bind_eq h.filters _).trans hwrite
  obtain rfl := Except.ok.inj (hsend.symm.trans hsend')
  exact hread _ rfl

end Meeting.Agreed

end Checks

/-! ### The steps are taken -/

section Steps

variable {P : Platform} {config : ReceiverConfig} {m : Meeting} {x : Exchange} {c : ℕ}

/-- A step of the agent whose outcome is known. -/
theorem step_agent {l : Line} {input : ConnectorInput} {env : ConnectorSupply} {down : List Bytes}
    {out : Option Bytes} {connector : Connector} (hline : x.lines c = some l)
    (htake : input.take l.down = some down)
    (hstep : l.connector.step P input env = (out, connector)) :
    x.step P config (.agent c input env) =
      (out, x.setLine c ⟨connector, l.up ++ out.toList, down⟩) := by
  unfold Exchange.step
  dsimp only
  rw [hline]
  dsimp only
  rw [htake]
  dsimp only
  rw [hstep]

/-- A step of the handler of a call whose outcome is known. -/
theorem step_handler {l : Line} {input : Input} {env : HandlerSupply} {up : List Bytes}
    {out : Option Bytes} {receiver : Receiver} (hline : x.lines c = some l)
    (htake : input.take l.up = some up)
    (hstep : x.receiver.step P config c input env = (out, receiver)) :
    x.step P config (.handler c input env) =
      (out, { x with receiver := receiver }.setLine c
        ⟨l.connector, up, l.down ++ out.toList⟩) := by
  unfold Exchange.step
  dsimp only
  rw [hline]
  dsimp only
  rw [htake]
  dsimp only
  rw [hstep]

/-- The only line under way arrives. -/
theorem arrive_single (raw : Bytes) : arrive raw [raw] = some [] := if_pos rfl

namespace Meeting.Agreed

variable (h : m.Agreed P config)
include h

theorem step_greets (hline : x.lines c = some (m.line config .connecting [] [])) :
    x.step P config (.agent c .connected m.agent) =
      (some (frame (agentHello m.identity.deviceId)),
        x.setLine c (m.line config .greeted [agentHello m.identity.deviceId] [])) := by
  refine step_agent hline rfl ?_
  unfold Connector.step
  dsimp only [Meeting.line]
  rw [h.writes_hello]

theorem step_challenges
    (hline : x.lines c = some (m.line config .greeted [agentHello m.identity.deviceId] []))
    (hphase : x.receiver.connections c = .hello) :
    x.step P config (.handler c (.line (frame (agentHello m.identity.deviceId))) m.handler) =
      (some (frame (m.challenge P config)), { x with
        receiver := x.receiver.move c (.challenged m.identity.deviceId m.identity.publicKey
          (m.challenge P config)) }.setLine c (m.line config .greeted [] [m.challenge P config])) :=
  step_handler hline (arrive_single _)
    (Receiver.step_hello hphase h.reads_hello (h.fits _ (by simp)))

theorem step_answers (hline : x.lines c = some (m.line config .greeted [] [m.challenge P config])) :
    x.step P config (.agent c (.line (frame (m.challenge P config))) m.agent) =
      (some (frame (m.authentication P config)), x.setLine c
        (m.line config (.authenticated (m.challenge P config)) [m.authentication P config] [])) := by
  refine step_agent hline (arrive_single _) ?_
  unfold Connector.step
  dsimp only [Meeting.line]
  rw [h.answers]

theorem step_opens (hline : x.lines c = some (m.line config
      (.authenticated (m.challenge P config)) [m.authentication P config] []))
    (hphase : x.receiver.connections c = .challenged m.identity.deviceId m.identity.publicKey
      (m.challenge P config)) :
    x.step P config (.handler c (.line (frame (m.authentication P config))) m.handler) =
      (some (frame (m.ready P config)), { x with
        receiver := { x.receiver with registry :=
          x.receiver.registry.sessionOpened m.identity.deviceId }.move c
            (.opened m.identity.deviceId (m.challenge P config)) }.setLine c
        (m.line config (.authenticated (m.challenge P config)) [] [m.ready P config])) :=
  step_handler hline (arrive_single _)
    (Receiver.step_challenged hphase h.authenticates (h.fits _ (by simp [Meeting.ready])))

theorem step_tells (hline : x.lines c = some (m.line config
      (.authenticated (m.challenge P config)) [] [m.ready P config])) :
    x.step P config (.agent c (.line (frame (m.ready P config))) m.agent) =
      (some (frame (m.telemetry P config)), x.setLine c
        (m.line config (.told (m.challenge P config)) [m.telemetry P config] [])) := by
  refine step_agent hline (arrive_single _) ?_
  unfold Connector.step
  dsimp only [Meeting.line]
  rw [h.confirms]

/-- The telemetry is published whatever the call has come to. -/
theorem step_publishes {k : Connector} {down : List Bytes}
    (hline : x.lines c = some ⟨k, [frame (m.telemetry P config)], down⟩)
    (hphase : x.receiver.connections c = .opened m.identity.deviceId (m.challenge P config))
    (hid : m.identity.deviceId ∈ x.receiver.registry.deviceIds) :
    x.step P config (.handler c (.line (frame (m.telemetry P config))) m.handler) =
      (some (frame (m.ack P config)), { x with
        receiver := { x.receiver with registry := (x.receiver.registry.withRecord P
          (m.handler.publication m.identity.deviceId m.filtered)).saved }.move c
            (.acknowledging m.identity.deviceId) }.setLine c
        ⟨k, [], down ++ [frame (m.ack P config)]⟩) := by
  have hpublish : publishStep P x.receiver.registry
      (m.handler.publication m.identity.deviceId m.filtered) = (.ok (),
        (x.receiver.registry.withRecord P
          (m.handler.publication m.identity.deviceId m.filtered)).saved) := by
    rw [publish_enrolled hid, show (m.handler.publication m.identity.deviceId m.filtered).faults =
      fun _ => false from h.stored, FileProg.run_no_fault]
    exact exec_writeLocked _
  exact step_handler hline (arrive_single _)
    (Receiver.step_opened hphase h.reads_telemetry hpublish m.writes_ack)

omit h in
theorem step_returns (hline : x.lines c = some (m.line config (.told (m.challenge P config)) []
    [m.ack P config])) :
    x.step P config (.agent c (.line (frame (m.ack P config))) m.agent) =
      (none, x.setLine c (m.line config
        (.returned (sendResult config.relayId (m.challenge P config))) [] [])) := by
  refine step_agent hline (arrive_single _) ?_
  unfold Connector.step
  dsimp only [Meeting.line]
  rw [m.reads_ack]

end Meeting.Agreed

/-- The exchange once the telemetry of a session is on the way. -/
def Meeting.opened (P : Platform) (config : ReceiverConfig) (m : Meeting) (x : Exchange) (c : ℕ) :
    Exchange :=
  { x with
    receiver := { x.receiver with
      registry := x.receiver.registry.sessionOpened m.identity.deviceId }.move c
        (.opened m.identity.deviceId (m.challenge P config)) }.setLine c
    (m.line config (.told (m.challenge P config)) [m.telemetry P config] [])

/-- **The opening of a session goes through.** -/
theorem final_opening (h : m.Agreed P config)
    (hline : x.lines c = some (m.line config .connecting [] []))
    (hphase : x.receiver.connections c = .hello) :
    final (Exchange.step P config) x (m.opening P config c) = m.opened P config x c := by
  have hphase' (l : Line) : (x.setLine c l).receiver.connections c = .hello := hphase
  refine (final_cons (h.step_greets hline) _).trans ?_
  refine (final_cons (h.step_challenges (Function.update_self ..) (hphase' _)) _).trans ?_
  refine (final_cons (h.step_answers (Function.update_self ..)) _).trans ?_
  refine (final_cons (h.step_opens (Function.update_self ..) (Function.update_self ..)) _).trans ?_
  refine (final_cons (h.step_tells (Function.update_self ..)) _).trans ?_
  simp only [final, Meeting.opened, Exchange.setLine, Receiver.move, Function.update_idem]

/-- **The rest of a session goes through**: the snapshot is published and the call
returns. -/
theorem final_closing (h : m.Agreed P config)
    (hid : m.identity.deviceId ∈ x.receiver.registry.deviceIds) :
    (final (Exchange.step P config) (m.opened P config x c) (m.closing P config c)).lines c =
        some (m.line config (.returned (sendResult config.relayId (m.challenge P config))) [] []) ∧
      (final (Exchange.step P config) (m.opened P config x c)
          (m.closing P config c)).receiver.registry =
        ((x.receiver.registry.sessionOpened m.identity.deviceId).withRecord P
          (m.handler.publication m.identity.deviceId m.filtered)).saved := by
  have hpublishes := h.step_publishes (x := m.opened P config x c) (Function.update_self ..)
    (Function.update_self ..) hid
  rw [Meeting.closing, final_cons hpublishes,
    final_cons (Meeting.Agreed.step_returns (Function.update_self ..)), final]
  exact ⟨Function.update_self .., rfl⟩

/-! ### Calls return -/

/-- No step of a handler changes which devices the registry is for. -/
theorem deviceIds_of_handler {r r' : Receiver} {input : Input} {env : HandlerSupply}
    {out : Option Bytes} (hstep : r.step P config c input env = (out, r')) :
    r'.registry.deviceIds = r.registry.deviceIds := by
  have hhandled := Receiver.handled_step P config r c input env
  rw [hstep] at hhandled
  dsimp only at hhandled
  cases hhandled with
  | waits => rfl
  | ends _ hids => exact hids
  | challenges => rfl
  | opens _ _ _ hids => exact hids
  | publishes _ _ _ _ hids => exact hids

/-- The registry of an exchange is for the devices that are enrolled. -/
theorem deviceIds_of_exchange {es : List ExchangeEvent} (hrun : ExchangeRun P config es x) :
    x.receiver.registry.deviceIds = config.devices.entries.map Prod.fst := by
  refine hrun.invariant_state (I := fun x => x.receiver.registry.deviceIds =
    config.devices.entries.map Prod.fst) rfl fun x a hx => ?_
  have hmoved := moved_step P config x a
  generalize (x.step P config a).1 = out at hmoved
  generalize (x.step P config a).2 = x' at hmoved ⊢
  cases hmoved with
  | still => exact hx
  | attempts => exact hx
  | agent => exact hx
  | stranger _ hstep => exact (deviceIds_of_handler hstep).trans hx
  | handler _ _ hstep => exact (deviceIds_of_handler hstep).trans hx

/-- The steps of a session are admitted. -/
theorem admits_meeting (h : m.Agreed P config) (es : List ExchangeEvent) :
    Admits (Exchange.step P config) (fun _ a => a.Normal) es x
      (.attempt c config.relayId m.snapshot :: (m.opening P config c ++ m.closing P config c)) :=
  ⟨h.normal, trivial, trivial, trivial, trivial, trivial, trivial, trivial, trivial⟩

/-- **An undisturbed call returns, and its snapshot is published**: on any connection that
nobody has used, at any moment of any run. -/
theorem meeting_returns {es : List ExchangeEvent} (h : m.Agreed P config)
    (hrun : ExchangeRun P config es x) (hnone : x.lines c = none)
    (hphase : x.receiver.connections c = .hello) :
    ∃ es' x', ExchangeRun P config (es ++ es') x' ∧
      (∃ l, x'.lines c = some l ∧ l.connector.snapshot = m.snapshot ∧
        l.connector.phase = .returned (sendResult config.relayId (m.challenge P config))) ∧
      x'.receiver.registry.records.get? m.identity.deviceId =
        some (newRecord P m.identity.deviceId 1 m.filtered m.handler.published) := by
  have hid : m.identity.deviceId ∈ x.receiver.registry.deviceIds := by
    rw [deviceIds_of_exchange hrun]
    exact List.mem_map_of_mem (Dict.mem_entries_iff.mpr h.enrolled)
  have hattempt : x.step P config (.attempt c config.relayId m.snapshot) =
      (none, x.setLine c (m.line config .connecting [] [])) := by
    unfold Exchange.step
    dsimp only
    rw [hnone, hphase]
    rfl
  -- the call and the handler take turns: up to the session, then the snapshot
  have hopening := final_opening (x := x.setLine c (m.line config .connecting [] [])) h
    (Function.update_self ..) hphase
  obtain ⟨hline, hregistry⟩ := final_closing (c := c)
    (x := x.setLine c (m.line config .connecting [] [])) h hid
  have hrun' := hrun.of_calls (admits_meeting (x := x) (c := c) h es)
  refine ⟨_, _, hrun', ?_, ?_⟩
  · rw [final_cons hattempt, final_append, hopening]
    exact ⟨_, hline, rfl, rfl⟩
  · rw [final_cons hattempt, final_append, hopening, hregistry, saved_records, withRecord_records,
      Dict.get?_insert]
    exact if_pos rfl

end Steps

/-! ### A sample -/

namespace Sample

/-- The agent, in a step at a moment. -/
def connectorSupply (now : Time) : ConnectorSupply :=
  ⟨supply now pairingId, agentHost, agentHost, now⟩

/-- The sample agent sends a snapshot that is filtered already. -/
def meetingOf (now : Time) (handler : HandlerSupply) (snapshot : Json) : Meeting where
  identity := agentIdentity
  key := agentKey
  agent := connectorSupply now
  handler := handler
  snapshot := snapshot
  filtered := snapshot

theorem agreed_meetingOf {now : Time} {handler : HandlerSupply} {snapshot : Json}
    (hearly : handler.now ≤ now + clockSkew) (hlive : now < handler.now + seconds sessionLifetime)
    (hnormal : snapshot.ordered = true) (hfilters : sanitizeSnapshot platform snapshot = .ok snapshot)
    (hstored : handler.faults = fun _ => false)
    (hshort : ∀ t ∈ [handler.now, handler.now + seconds sessionLifetime, now, handler.accepted],
      (platform.timestamp t).toList.length ≤ 64) :
    (meetingOf now handler snapshot).Agreed platform receiverConfig where
  shown := congrArg Prod.fst (FileProg.exec_bind_ok agentHost_identified.exec _)
  signs payload := congrArg Prod.fst (exec_sign_identified agentHost_identified payload)
  checked := checkIdentity_newIdentity _ _
  enrolled := by
    have hdevice : agentIdentity.deviceId = device := by decide
    have hpublic : agentIdentity.publicKey = b64encode agentPublic.1 := by decide
    change receiverConfig.devices.get? agentIdentity.deviceId = some agentIdentity.publicKey
    rw [hdevice, hpublic, receiverConfig, Dict.get?_insert, if_pos rfl]
  relay := by decide
  early := hearly
  live := hlive
  normal := hnormal
  filters := hfilters
  stored := hstored
  short := hshort

/-- The agent sends the sample snapshot, and the receiver's clock is a second late. -/
def meeting : Meeting := meetingOf (moment 4) (handlerSupply sessionNonce (moment 3)) snapshot

theorem agreed_sample : meeting.Agreed platform receiverConfig :=
  agreed_meetingOf (by decide) (by decide) (by decide) sanitizeSnapshot_sample rfl
    (by decide)

end Sample

open Sample in
/-- A sample call that returns: its two ends have what the law says. -/
theorem send_snapshot_safe_sample : ∃ es x l, ExchangeRun platform receiverConfig es x ∧
    x.lines 0 = some l ∧ l.connector.snapshot = snapshot ∧
    l.connector.phase = .returned
      (sendResult "relay-1" (meeting.challenge platform receiverConfig)) ∧
    ∃ d, Greeted platform es 0 d ∧ ∃ e ∈ es, ∃ raw env challenge,
      e.call = .handler 0 (.line raw) env ∧
        e.before.receiver.connections 0 = .opened d challenge ∧
        e.after.receiver.registry = (e.before.receiver.registry.withRecord platform
          (env.publication d snapshot)).saved := by
  obtain ⟨es, x, hrun, ⟨l, hl, hsnapshot, hphase⟩, -⟩ :=
    meeting_returns (c := 0) agreed_sample Run.start rfl rfl
  obtain ⟨d, y, hgreeted, hy, hpublished⟩ :=
    (send_snapshot_safe platform receiverConfig).2 _ _ hrun 0 l _ hl hphase
  obtain rfl : snapshot = y := by
    rw [hsnapshot] at hy
    exact Except.ok.inj (sanitizeSnapshot_sample.symm.trans hy)
  exact ⟨_, x, l, hrun, hl, hsnapshot, hphase, d, hgreeted, hpublished⟩

end PrinterHmi
