import PrinterHmi.Receiver.Exchange
import PrinterHmi.Receiver.Telemetry

/-!
# What an acknowledged call has delivered

Every line under way between an agent and the handler of its connection has been written
by one of the two: to the receiver a hello, an authentication or the telemetry of the
call (`UpFrame`), to the agent a challenge, a confirmation or, once the snapshot of the
call is published, an acknowledgement (`DownFrame`). `Sound` says so of one line, and
`sound_of_run` of every line of every run.

`send_snapshot_safe` puts this beside what holds against any peer at all.
-/

namespace PrinterHmi

/-! ### What is under way -/

section Delivery

variable (P : Platform)

/-- A call on this connection has greeted for a device. -/
def Greeted (es : List ExchangeEvent) (c : ℕ) (d : String) : Prop :=
  ∃ e ∈ es, ∃ env i payload, e.call = .agent c .connected env ∧
    env.identity P = .ok (publicIdentity i) ∧ d = i.deviceId ∧
    writeFrame (agentHello d) = .ok payload ∧ e.result = some payload

/-- **The handler of this connection has published** a snapshot for a device. -/
def PublishedOn (es : List ExchangeEvent) (c : ℕ) (d : String) (snapshot : Json) : Prop :=
  ∃ e ∈ es, ∃ raw env challenge, e.call = .handler c (.line raw) env ∧
    e.before.receiver.connections c = .opened d challenge ∧
    publishStep P e.before.receiver.registry (env.publication d snapshot) =
      (.ok (), e.after.receiver.registry)

/-- The snapshot of a call has been published for the device it greeted for. -/
def Delivered (es : List ExchangeEvent) (c : ℕ) (snapshot : Json) : Prop :=
  ∃ d y, Greeted P es c d ∧ sanitizeSnapshot P snapshot = .ok y ∧ PublishedOn P es c d y

/-- What is under way to the receiver. -/
inductive UpFrame (es : List ExchangeEvent) (c : ℕ) (snapshot : Json) (raw : Bytes) : Prop
  | hello {d} (hread : readFrame raw = .ok (agentHello d)) (hgreeted : Greeted P es c d)
  | authentication {document} (hread : readFrame raw = .ok document)
      (htype : document.field "type" = .str "agent.session-auth")
  | telemetry {challenge y} (hread : readFrame raw = .ok (agentTelemetry challenge y))
      (hy : sanitizeSnapshot P snapshot = .ok y)

/-- What is under way to the agent. -/
def DownFrame (es : List ExchangeEvent) (c : ℕ) (snapshot : Json) (raw : Bytes) : Prop :=
  ∃ document, readFrame raw = .ok document ∧
    (document.field "type" = .str "relay.telemetry-ack" → Delivered P es c snapshot)

/-- What a handler that has read the hello of a call knows. -/
def HandlerOf (es : List ExchangeEvent) (c : ℕ) : Phase → Prop
  | .challenged d _ challenge => challenge.ordered = true ∧ Greeted P es c d
  | .opened d challenge => challenge.ordered = true ∧ Greeted P es c d
  | _ => True

/-- What a call has come to. -/
def CallOf (es : List ExchangeEvent) (c : ℕ) (snapshot : Json) : ConnectorPhase → Prop
  | .authenticated challenge => challenge.ordered = true
  | .told challenge => challenge.ordered = true
  | .returned _ => Delivered P es c snapshot
  | _ => True

/-- **What holds of a line**, and of the handler at its end. -/
structure Sound (es : List ExchangeEvent) (c : ℕ) (phase : Phase) (l : Line) : Prop where
  snapshot : l.connector.snapshot.ordered = true
  up : ∀ raw ∈ l.up, UpFrame P es c l.connector.snapshot raw
  down : ∀ raw ∈ l.down, DownFrame P es c l.connector.snapshot raw
  handler : HandlerOf P es c phase
  call : CallOf P es c l.connector.snapshot l.connector.phase

variable {P} {config : ReceiverConfig} {es : List ExchangeEvent} {x : Exchange} {c : ℕ}
  {l : Line} {e : ExchangeEvent}

/-! ### Histories grow -/

theorem Greeted.append {d : String} (h : Greeted P es c d) (e : ExchangeEvent) :
    Greeted P (es ++ [e]) c d := by
  obtain ⟨e', he', hrest⟩ := h
  exact ⟨e', List.mem_append_left _ he', hrest⟩

theorem PublishedOn.append {d : String} {y : Json} (h : PublishedOn P es c d y)
    (e : ExchangeEvent) : PublishedOn P (es ++ [e]) c d y := by
  obtain ⟨e', he', hrest⟩ := h
  exact ⟨e', List.mem_append_left _ he', hrest⟩

theorem Delivered.append {y : Json} (h : Delivered P es c y) (e : ExchangeEvent) :
    Delivered P (es ++ [e]) c y := by
  obtain ⟨d, y', hgreeted, hy, hpublished⟩ := h
  exact ⟨d, y', hgreeted.append e, hy, hpublished.append e⟩

theorem UpFrame.append {y : Json} {raw : Bytes} (h : UpFrame P es c y raw) (e : ExchangeEvent) :
    UpFrame P (es ++ [e]) c y raw := by
  cases h with
  | hello hread hgreeted => exact .hello hread (hgreeted.append e)
  | authentication hread htype => exact .authentication hread htype
  | telemetry hread hy => exact .telemetry hread hy

theorem DownFrame.append {y : Json} {raw : Bytes} (h : DownFrame P es c y raw)
    (e : ExchangeEvent) : DownFrame P (es ++ [e]) c y raw := by
  obtain ⟨document, hread, hack⟩ := h
  exact ⟨document, hread, fun htype => (hack htype).append e⟩

theorem HandlerOf.append {phase : Phase} (h : HandlerOf P es c phase) (e : ExchangeEvent) :
    HandlerOf P (es ++ [e]) c phase := by
  cases phase with
  | challenged d enrolledKey challenge => exact ⟨h.1, h.2.append e⟩
  | opened d challenge => exact ⟨h.1, h.2.append e⟩
  | _ => trivial

theorem CallOf.append {y : Json} {phase : ConnectorPhase} (h : CallOf P es c y phase)
    (e : ExchangeEvent) : CallOf P (es ++ [e]) c y phase := by
  cases phase with
  | authenticated challenge => exact h
  | told challenge => exact h
  | returned result => exact Delivered.append h e
  | _ => trivial

theorem Sound.append {phase : Phase} (h : Sound P es c phase l) (e : ExchangeEvent) :
    Sound P (es ++ [e]) c phase l where
  snapshot := h.snapshot
  up raw hraw := (h.up raw hraw).append e
  down raw hraw := (h.down raw hraw).append e
  handler := h.handler.append e
  call := h.call.append e

/-! ### The agent's steps -/

theorem ordered_agentHello (d : String) : (agentHello d).ordered = true := by
  have hnames : ["device_id", "protocol_version", "type"].Pairwise (· < ·) := by decide
  exact Json.ordered_obj.mpr ⟨hnames, by simp [Json.ordered, protocolVersion]⟩

theorem ordered_agentTelemetry {challenge y : Json} (hc : challenge.ordered = true)
    (hy : y.ordered = true) : (agentTelemetry challenge y).ordered = true := by
  have hnames : ["protocol_version", "sequence", "session_id", "snapshot", "type"].Pairwise
      (· < ·) := by decide
  exact Json.ordered_obj.mpr ⟨hnames, by
    simp [Json.ordered, Json.ordered_field hc, hy, protocolVersion]⟩

/-- What the agent writes is one of the frames of its call. -/
theorem upFrame_of_stepped {connector : Connector} {input : ConnectorInput} {env : ConnectorSupply}
    {payload : Bytes} {phase : ConnectorPhase} (hx : connector.snapshot.ordered = true)
    (hcall : CallOf P es c connector.snapshot connector.phase)
    (he : e.call = .agent c input env) (hresult : e.result = some payload)
    (hstep : connector.Stepped P input env (some payload) phase) :
    UpFrame P (es ++ [e]) c connector.snapshot payload := by
  cases hstep with
  | greets hphase hwrite =>
    obtain ⟨i, hi, hhello⟩ := writeHello_eq_ok hwrite
    exact .hello (readFrame_writeFrame (ordered_agentHello _) rfl hhello)
      ⟨e, by simp, env, i, payload, he, hi, rfl, hhello, hresult⟩
  | answers hphase hanswer =>
    obtain ⟨i, _, signature, hread, -, -, hwrite⟩ := answerChallenge_eq_ok hanswer
    have hauth : (sessionAuth _ (.str i.deviceId) (.str i.publicKey)
        (.str (P.timestamp env.now))).ordered = true :=
      sessionAuth_ordered (readFrame_ordered hread).1 rfl rfl rfl
    have hordered := ordered_withSignature hauth signature
    exact .authentication (readFrame_writeFrame hordered rfl hwrite) rfl
  | @tells _ _ challenge _ hphase hconfirm =>
    rw [hphase] at hcall
    obtain ⟨ready, y, -, hy, hwrite⟩ := confirm_eq_ok.mp hconfirm
    have hordered := ordered_agentTelemetry hcall (ordered_sanitizeSnapshot hx hy)
    exact .telemetry (readFrame_writeFrame hordered rfl hwrite) hy

/-- Nothing that passes for a frame is empty. -/
theorem readFrame_nil (document : Json) : readFrame [] ≠ .ok document := nofun

/-- **The line after a step of the agent.** -/
theorem sound_agent {phase : Phase} {input : ConnectorInput} {env : ConnectorSupply}
    {out : Option Bytes} {connector : Connector} {down : List Bytes} (h : Sound P es c phase l)
    (he : e.call = .agent c input env) (hresult : e.result = out)
    (htake : input.take l.down = some down)
    (hstep : l.connector.step P input env = (out, connector)) :
    Sound P (es ++ [e]) c phase ⟨connector, l.up ++ out.toList, down⟩ := by
  obtain ⟨hstepped, -, hsnapshot⟩ := stepped_step (P := P) (k := l.connector) input env
  rw [hstep] at hstepped hsnapshot
  dsimp only at hstepped hsnapshot
  refine ⟨hsnapshot ▸ h.snapshot, fun raw hraw => ?_, fun raw hraw => ?_, h.handler.append e, ?_⟩
  · rw [hsnapshot]
    rcases List.mem_append.mp hraw with hraw | hraw
    · exact (h.up raw hraw).append e
    · rw [Option.mem_toList] at hraw
      subst hraw
      exact upFrame_of_stepped h.snapshot h.call he hresult hstepped
  · rw [hsnapshot]
    exact (h.down raw (ConnectorInput.mem_of_take htake raw hraw)).append e
  · dsimp only
    rw [hsnapshot]
    generalize connector.phase = phase' at hstepped
    have hcall := h.call
    cases hstepped with
    | waits => exact hcall.append e
    | raises => trivial
    | greets => trivial
    | answers hphase hanswer =>
      obtain ⟨_, _, _, hread, -⟩ := answerChallenge_eq_ok hanswer
      exact (readFrame_ordered hread).1
    | tells hphase =>
      rw [hphase] at hcall
      exact hcall
    | returns hphase hack =>
      -- the acknowledgement was under way, so the snapshot is published
      obtain ⟨hread, -, -, htype, -⟩ := readAck_eq_ok.mp hack
      rcases (mem_of_arrive htake).1 with hmem | rfl
      · obtain ⟨document, hread', hdelivered⟩ := h.down _ hmem
        obtain rfl := Except.ok.inj (hread.symm.trans hread')
        exact (hdelivered htype).append e
      · exact absurd hread (readFrame_nil _)

/-! ### The handler's steps -/

theorem ordered_sessionChallenge (deviceId relayId : String) (lifetime : ℤ) (sessionId : Uuid)
    (nonce : Bytes32) (now : Time) :
    (sessionChallenge P deviceId relayId lifetime sessionId nonce now).ordered = true := by
  have hnames : ["audience", "expires_at", "issued_at", "nonce", "protocol_version", "relay_id",
      "session_id", "type"].Pairwise (· < ·) := by decide
  exact Json.ordered_obj.mpr ⟨hnames, by simp [Json.ordered, protocolVersion]⟩

theorem ordered_sessionReady {challenge : Json} (hc : challenge.ordered = true) (relayId : String)
    (now : Time) : (sessionReady P challenge relayId now).ordered = true := by
  have hnames : ["accepted_at", "challenge_id", "protocol_version", "relay_id", "session_id",
      "type"].Pairwise (· < ·) := by decide
  exact Json.ordered_obj.mpr ⟨hnames, by
    simp [Json.ordered, Json.ordered_field hc, protocolVersion]⟩

theorem ordered_telemetryAck {challenge : Json} (hc : challenge.ordered = true) :
    (telemetryAck challenge).ordered = true := by
  have hnames : ["protocol_version", "sequence", "session_id", "type"].Pairwise (· < ·) := by
    decide
  exact Json.ordered_obj.mpr ⟨hnames, by
    simp [Json.ordered, Json.ordered_field hc, protocolVersion]⟩

/-- The challenge a handler makes. -/
theorem challenge_of_readHello {env : HandlerSupply} {raw : Bytes} {id enrolledKey : String}
    {challenge : Json} (h : readHello P config env raw = .ok (id, enrolledKey, challenge)) :
    challenge = sessionChallenge P id config.relayId sessionLifetime env.sessionId env.nonce
      env.now := by
  obtain ⟨-, -, hch⟩ := readHello_eq_ok.mp h
  simp only [createSessionChallenge, Except.bind_eq_ok, require_eq_ok, exists_const] at hch
  exact (Except.ok.inj hch.2.2.2).symm

/-- The hello a handler reads on a line is that of the call. -/
theorem greeted_of_readHello {env : HandlerSupply} {raw : Bytes} {id enrolledKey : String}
    {challenge snapshot : Json} (hup : UpFrame P es c snapshot raw)
    (h : readHello P config env raw = .ok (id, enrolledKey, challenge)) : Greeted P es c id := by
  obtain ⟨⟨hello, hread, hid⟩, -, -⟩ := readHello_eq_ok.mp h
  obtain ⟨-, -, htype, hdevice, -⟩ := validateAgentHello_eq_ok.mp hid
  cases hup with
  | hello hread' hgreeted =>
    obtain rfl := Except.ok.inj (hread.symm.trans hread')
    obtain rfl := Json.str.inj hdevice
    exact hgreeted
  | authentication hread' htype' =>
    obtain rfl := Except.ok.inj (hread.symm.trans hread')
    exact absurd (Json.field_str_inj htype' htype) (by decide)
  | telemetry hread' =>
    obtain rfl := Except.ok.inj (hread.symm.trans hread')
    exact absurd (Json.field_str_inj rfl htype) (by decide)

/-- **The telemetry a handler reads on a line is that of the call**: what passes is what the
filter made of its snapshot. -/
theorem sanitizeSnapshot_of_readTelemetry {raw : Bytes} {challenge snapshot y : Json}
    (hup : UpFrame P es c snapshot raw) (h : readTelemetry P challenge raw = .ok y) :
    sanitizeSnapshot P snapshot = .ok y := by
  obtain ⟨envelope, hread, -, -, htype, -, -, hy, -⟩ := readTelemetry_eq_ok.mp h
  cases hup with
  | hello hread' =>
    obtain rfl := Except.ok.inj (hread.symm.trans hread')
    exact absurd (Json.field_str_inj rfl htype) (by decide)
  | authentication hread' htype' =>
    obtain rfl := Except.ok.inj (hread.symm.trans hread')
    exact absurd (Json.field_str_inj htype' htype) (by decide)
  | @telemetry _ y' hread' hy' =>
    obtain rfl := Except.ok.inj (hread.symm.trans hread')
    -- the receiver filters what the agent has filtered
    have hagain : sanitizeSnapshot P y' = .ok y := hy
    rw [sanitizeSnapshot_sanitized hy'] at hagain
    obtain rfl := Except.ok.inj hagain
    exact hy'

/-- A line that a handler reads something in was under way. -/
theorem upFrame_of_take {raw : Bytes} {up : List Bytes} {phase : Phase} {document : Json}
    (h : Sound P es c phase l) (htake : (Input.line raw).take l.up = some up)
    (hread : readFrame raw = .ok document) : UpFrame P es c l.connector.snapshot raw := by
  rcases (mem_of_arrive htake).1 with hmem | rfl
  · exact h.up raw hmem
  · exact absurd hread (readFrame_nil document)

/-- What a handler writes to the agent of a call. -/
theorem downFrame_of_wrote {input : Input} {env : HandlerSupply} {payload : Bytes}
    {r' : Receiver} {up : List Bytes} (h : Sound P es c (x.receiver.connections c) l)
    (he : e.call = .handler c input env) (hbefore : e.before = x)
    (hafter : e.after.receiver = r') (htake : input.take l.up = some up)
    (hwrote : x.receiver.Wrote P config c env input payload r') :
    DownFrame P (es ++ [e]) c l.connector.snapshot payload := by
  have hhandler := h.handler
  cases hwrote with
  | challenge hphase hread hwrite =>
    obtain rfl := challenge_of_readHello hread
    exact ⟨_, readFrame_writeFrame (ordered_sessionChallenge _ _ _ _ _ _) rfl hwrite, fun hc =>
      absurd (Json.field_str_inj rfl hc) (by decide)⟩
  | ready hphase hwrite =>
    rw [hphase] at hhandler
    exact ⟨_, readFrame_writeFrame (ordered_sessionReady hhandler.1 _ _) rfl hwrite, fun hc =>
      absurd (Json.field_str_inj rfl hc) (by decide)⟩
  | @ack raw id challenge y _ _ hphase hread hpublish hwrite =>
    rw [hphase] at hhandler
    obtain ⟨envelope, hframe, -⟩ := readTelemetry_eq_ok.mp hread
    have hy := sanitizeSnapshot_of_readTelemetry (upFrame_of_take h htake hframe) hread
    subst hbefore hafter
    exact ⟨_, readFrame_writeFrame (ordered_telemetryAck hhandler.1) rfl hwrite, fun _ =>
      ⟨id, y, hhandler.2.append e, hy, e, by simp, raw, env, challenge, he, hphase, hpublish⟩⟩

variable (config) in
/-- What the handler of a call knows after a step. -/
theorem handlerOf_step {input : Input} (env : HandlerSupply) {up : List Bytes}
    (h : Sound P es c (x.receiver.connections c) l) (htake : input.take l.up = some up) :
    HandlerOf P es c ((x.receiver.step P config c input env).2.connections c) := by
  have hhandled := Receiver.handled_step P config x.receiver c input env
  have hhandler := h.handler
  generalize (x.receiver.step P config c input env).1 = out at hhandled
  generalize (x.receiver.step P config c input env).2 = r' at hhandled
  cases hhandled with
  | waits => exact hhandler
  | ends hphase' =>
    rw [hphase', Function.update_self]
    trivial
  | challenges hphase hread =>
    rw [Receiver.move_connections, Function.update_self]
    obtain ⟨⟨hello, hframe, -⟩, -, -⟩ := readHello_eq_ok.mp hread
    obtain rfl := challenge_of_readHello hread
    exact ⟨ordered_sessionChallenge _ _ _ _ _ _,
      greeted_of_readHello (upFrame_of_take h htake hframe) hread⟩
  | opens hphase hread hphase' =>
    rw [hphase', Function.update_self]
    rw [hphase] at hhandler
    exact hhandler
  | publishes _ _ hphase' hended =>
    rw [hphase', Function.update_self]
    rcases hended with rfl | rfl
    · trivial
    · trivial

/-- **The line after a step of the handler.** -/
theorem sound_handler {input : Input} {env : HandlerSupply} {out : Option Bytes} {r' : Receiver}
    {up : List Bytes} (h : Sound P es c (x.receiver.connections c) l)
    (he : e.call = .handler c input env) (hbefore : e.before = x) (hafter : e.after.receiver = r')
    (htake : input.take l.up = some up)
    (hstep : x.receiver.step P config c input env = (out, r')) :
    Sound P (es ++ [e]) c (r'.connections c) ⟨l.connector, up, l.down ++ out.toList⟩ := by
  refine ⟨h.snapshot, fun raw hraw => ?_, fun raw hraw => ?_, ?_, h.call.append e⟩
  · exact (h.up raw (Input.mem_of_take htake raw hraw)).append e
  · rcases List.mem_append.mp hraw with hraw | hraw
    · exact (h.down raw hraw).append e
    · rw [Option.mem_toList] at hraw
      obtain rfl : out = some raw := hraw
      have hdown := downFrame_of_wrote h he hbefore hafter htake (wrote_step hstep)
      exact hdown
  · have hhandler := handlerOf_step config env h htake
    rw [hstep] at hhandler
    exact hhandler.append e

/-- A handler leaves the phases of the others alone. -/
theorem connections_of_ne {r r' : Receiver} {input : Input} {env : HandlerSupply}
    {out : Option Bytes} (hstep : r.step P config c input env = (out, r')) {c' : ℕ} (hne : c' ≠ c) :
    r'.connections c' = r.connections c' := by
  have hhandled := Receiver.handled_step P config r c input env
  rw [hstep] at hhandled
  dsimp only at hhandled
  cases hhandled with
  | waits => rfl
  | ends hphase' => rw [hphase', Function.update_of_ne hne]
  | challenges => rw [Receiver.move_connections, Function.update_of_ne hne]
  | opens _ _ hphase' => rw [hphase', Function.update_of_ne hne]
  | publishes _ _ hphase' => rw [hphase', Function.update_of_ne hne]

/-! ### Every line of a run -/

variable (P) in
/-- **Every line of an exchange is sound.** -/
def AllSound (es : List ExchangeEvent) (x : Exchange) : Prop :=
  ∀ c l, x.lines c = some l → Sound P es c (x.receiver.connections c) l

/-- **A step keeps every line sound.** -/
theorem allSound_step (h : AllSound P es e.before) (hnormal : e.call.Normal)
    (hstep : e.before.Moved P config e.call e.result e.after) : AllSound P (es ++ [e]) e.after := by
  intro c' l' hl'
  generalize hcall : e.call = a at hstep hnormal
  generalize hresult : e.result = out at hstep
  generalize hafter : e.after = x' at hstep hl' ⊢
  -- a step moves one connection; on the others the sent lines stay sound
  cases hstep with
  | still => exact (h c' l' hl').append e
  | @attempts c relayId snapshot hnone hphase =>
    rw [setLine_lines] at hl'
    rw [setLine_receiver]
    by_cases hc : c' = c
    · subst hc
      rw [Function.update_self] at hl'
      obtain rfl := Option.some.inj hl'
      rw [hphase]
      exact ⟨hnormal, fun _ hraw => (List.not_mem_nil hraw).elim,
        fun _ hraw => (List.not_mem_nil hraw).elim, trivial, trivial⟩
    · rw [Function.update_of_ne hc] at hl'
      exact (h c' l' hl').append e
  | @agent c input env l down out connector hline htake hstep =>
    rw [setLine_lines] at hl'
    rw [setLine_receiver]
    by_cases hc : c' = c
    · subst hc
      rw [Function.update_self] at hl'
      obtain rfl := Option.some.inj hl'
      exact sound_agent (h c' l hline) hcall hresult htake hstep
    · rw [Function.update_of_ne hc] at hl'
      exact (h c' l' hl').append e
  | @stranger c input env out r' hnone hstep =>
    have hc : c' ≠ c := by
      rintro rfl
      rw [hnone] at hl'
      cases hl'
    rw [connections_of_ne hstep hc]
    exact (h c' l' hl').append e
  | @handler c input env l up out r' hline htake hstep =>
    rw [setLine_lines] at hl'
    rw [setLine_receiver]
    by_cases hc : c' = c
    · subst hc
      rw [Function.update_self] at hl'
      obtain rfl := Option.some.inj hl'
      exact sound_handler (h c' l hline) hcall rfl (by rw [hafter]; rfl) htake hstep
    · rw [Function.update_of_ne hc] at hl'
      rw [connections_of_ne hstep hc]
      exact (h c' l' hl').append e

/-- **Every line of every run is sound.** -/
theorem allSound_of_run (hrun : ExchangeRun P config es x) : AllSound P es x :=
  hrun.invariant (I := AllSound P) (fun _ _ hnone => by cases hnone) fun _ x a _ ih hnormal =>
    allSound_step (e := ⟨x, a, _, _⟩) ih hnormal (moved_step P config x a)

/-! ### The law -/

/-- What a publication that goes through has put in memory and in the file. -/
theorem publication_of_ok {r r' : Registry} {call : PublishCall}
    (h : publishStep P r call = (.ok (), r')) :
    call.deviceId ∈ r.deviceIds ∧ r' = (r.withRecord P call).saved := by
  by_cases hid : call.deviceId ∈ r.deviceIds
  · refine ⟨hid, ?_⟩
    rcases publishStep_cases (P := P) hid with ⟨-, -, -, exn, hraise, -⟩ | ⟨-, hok⟩
    · rw [h] at hraise
      cases hraise
    · rw [hok] at h
      exact (Prod.mk.inj h).2.symm
  · rw [publish_refused hid] at h
    cases h

variable (P config) in
/-- **The agent's side of a session is safe against any peer**, and with the program's own
receiver at the other end it delivers.

Whatever lines arrive, and however the connection breaks, what a call writes is a
beginning of three frames: the hello, the authentication for a challenge it may answer,
and the telemetry of that session. If it returns, all three are written, and then an
acknowledgement of the session has been read.

In an exchange with a receiver, if a call has returned, the handler of its connection has
published what the filter makes of its snapshot, for the device it greeted for: it is the
record of that device from then on, until the next publication for it, in memory and in
the file. -/
theorem send_snapshot_safe :
    (∀ relayId snapshot es k, ConnectorRun P ⟨relayId, snapshot, .connecting⟩ es k →
      ∃ challenge n, Spoken P relayId snapshot challenge n es ∧
        ∀ result, k.phase = .returned result → n = 3 ∧ result = sendResult relayId challenge ∧
          ∃ pre e post, es = pre ++ e :: post ∧ Spoken P relayId snapshot challenge 3 pre ∧
            ReadsAcknowledgement challenge e) ∧
    ∀ es x, ExchangeRun P config es x → ∀ c l result, x.lines c = some l →
      l.connector.phase = .returned result →
        ∃ d y, Greeted P es c d ∧ sanitizeSnapshot P l.connector.snapshot = .ok y ∧
          ∃ e ∈ es, ∃ raw env challenge, e.call = .handler c (.line raw) env ∧
            e.before.receiver.connections c = .opened d challenge ∧
            e.after.receiver.registry =
              (e.before.receiver.registry.withRecord P (env.publication d y)).saved := by
  constructor
  · intro relayId snapshot es k hrun
    obtain ⟨-, -, hdialogue⟩ := dialogue_of_run hrun
    by_cases hreturned : ∃ result, k.phase = .returned result
    · obtain ⟨result, hphase⟩ := hreturned
      rw [hphase] at hdialogue
      obtain ⟨challenge, hspoken, rfl, hack⟩ := hdialogue
      refine ⟨challenge, 3, hspoken, fun result' hresult' => ?_⟩
      rw [hphase] at hresult'
      obtain rfl := ConnectorPhase.returned.inj hresult'
      exact ⟨rfl, rfl, hack⟩
    · obtain ⟨challenge, n, hspoken⟩ := hdialogue.spoken
      exact ⟨challenge, n, hspoken, fun result hphase => absurd ⟨result, hphase⟩ hreturned⟩
  · intro es x hrun c l result hl hphase
    -- an acknowledgement was written after a publication that returned
    have hsound := (allSound_of_run hrun c l hl).call
    rw [hphase] at hsound
    obtain ⟨d, y, hgreeted, hy, e, he, raw, env, challenge, hcall, hopen, hpublish⟩ := hsound
    exact ⟨d, y, hgreeted, hy, e, he, raw, env, challenge, hcall, hopen,
      (publication_of_ok hpublish).2⟩

end Delivery

end PrinterHmi
