import PrinterHmi.Protocol.Schemas
import PrinterHmi.Receiver.Delivery
import PrinterHmi.Receiver.Meeting

/-!
# The session keeps to its schema

Every frame of an exchange is a message of `relay-session-v1`: what an agent writes is one of the
three messages of agents, what a handler writes one of the three of relays
(`written_conforms`), for any number of agents and strangers and in any order of their steps. What
carries the induction is what each phase knows (`Phase.Known`, `ConnectorPhase.Known`): the
challenge it waits with is one of its session.

An agent that talks to anybody at all keeps to the schema as far as its peer does
(`written_conforms_iff`): the only part of a frame it has not made itself is the challenge it
answers.
-/

namespace PrinterHmi

open Schema

section Documents

variable {P : Platform} (F : Formats P)

/-! ### The documents -/

theorem schemaPattern_b64encode (b : Bytes) :
    schemaPattern ((4 * b.length + 2) / 3) (b64encode b) = true := by
  have hlen : (Base64.encode b).length = (4 * b.length + 2) / 3 := Base64.length_encode b
  have hall : (Base64.encode b).all (· ∈ Base64.alphabet) = true :=
    List.all_eq_true.mpr fun c hc => decide_eq_true (Base64.encode_mem hc)
  rw [schemaPattern, b64encode, String.toList_ofList, matchesClass, hlen, hall]
  simp

theorem schemaPattern_key (key : Bytes32) : schemaPattern 43 (b64encode key.1) = true := by
  have hpattern := schemaPattern_b64encode key.1
  rwa [key.2] at hpattern

theorem schemaPattern_signature (signature : Signature) :
    schemaPattern 86 (b64encode signature.1) = true := by
  have hpattern := schemaPattern_b64encode signature.1
  rwa [signature.2] at hpattern

/-- The identifier and the key of an identity that checks out have the forms of the schemas. -/
theorem forms_of_checkIdentity {i : Identity} {key : Bytes32} (h : checkIdentity P i = .ok key) :
    deviceIdPattern i.deviceId = true ∧ schemaPattern 43 i.publicKey = true := by
  obtain ⟨hpublic, hid⟩ := checkIdentity_eq_ok h
  rw [hid, hpublic]
  exact ⟨deviceIdPattern_deviceId P _, schemaPattern_key _⟩

theorem real?_protocolVersion : protocolVersion.real? = some 1 := by
  simp [protocolVersion, Json.real?]

theorem conforms_agentHello {deviceId : String} (h : deviceIdPattern deviceId = true) :
    RelaySessionV1.hello.conforms F.check (agentHello deviceId) = true :=
  RelaySessionV1.conforms_hello.mpr ⟨rfl, real?_protocolVersion, rfl, deviceId, rfl, h⟩

theorem conforms_sessionChallenge {deviceId relayId : String} (lifetime : ℤ) (sessionId : Uuid)
    (nonce : Bytes32) (now : Time) (hdevice : deviceIdPattern deviceId = true)
    (hrelay : relayIdPattern relayId = true) :
    RelaySessionV1.challenge.conforms F.check
      (sessionChallenge P deviceId relayId lifetime sessionId nonce now) = true := by
  exact RelaySessionV1.conforms_challenge.mpr ⟨rfl, real?_protocolVersion, rfl,
    ⟨_, rfl, F.uuid sessionId⟩, ⟨_, rfl, hrelay⟩, ⟨_, rfl, schemaPattern_key nonce⟩,
    ⟨_, rfl, hdevice⟩, ⟨_, rfl, F.dateTime _⟩, ⟨_, rfl, F.dateTime _⟩⟩

/-- **An authentication conforms as its challenge does.** -/
theorem conforms_sessionAuth_iff {i : Identity} {key : Bytes32} {challenge : Json}
    (hchecked : checkIdentity P i = .ok key) (now : Time) (signature : Signature) :
    RelaySessionV1.authentication.conforms F.check (withSignature (sessionAuth challenge
        (.str i.deviceId) (.str i.publicKey) (.str (P.timestamp now))) signature) = true ↔
      RelaySessionV1.challenge.conforms F.check challenge = true := by
  obtain ⟨hdevice, hkey⟩ := forms_of_checkIdentity hchecked
  rw [RelaySessionV1.conforms_authentication]
  constructor
  · rintro ⟨-, -, -, hchallenge, -⟩
    exact hchallenge
  · intro hchallenge
    exact ⟨rfl, real?_protocolVersion, rfl, hchallenge, ⟨_, rfl, hdevice⟩, ⟨_, rfl, hkey⟩,
      ⟨_, rfl, F.dateTime now⟩, ⟨_, rfl, schemaPattern_signature signature⟩⟩

theorem conforms_sessionReady {challenge : Json} {relayId : String}
    (h : ∃ u : Uuid, challenge.field "session_id" = .str u.1)
    (hrelay : relayIdPattern relayId = true) (now : Time) :
    RelaySessionV1.ready.conforms F.check (sessionReady P challenge relayId now) = true := by
  obtain ⟨u, hu⟩ := h
  exact RelaySessionV1.conforms_ready.mpr ⟨rfl, real?_protocolVersion, rfl, ⟨_, hu, F.uuid u⟩,
    ⟨_, hu, F.uuid u⟩, ⟨_, rfl, hrelay⟩, ⟨_, rfl, F.dateTime now⟩⟩

/-- The first message of a session. -/
theorem conforms_sequence_one : sequenceSchema.conforms F.check (.int 1) = true :=
  conforms_sequence.mpr ⟨rfl, fun x hx => by
    obtain rfl := Option.some.inj hx
    norm_num⟩

theorem conforms_agentTelemetry {challenge snapshot : Json}
    (h : ∃ u : Uuid, challenge.field "session_id" = .str u.1) (hsnapshot : snapshot.isObj = true) :
    RelaySessionV1.telemetry.conforms F.check (agentTelemetry challenge snapshot) = true := by
  obtain ⟨u, hu⟩ := h
  exact RelaySessionV1.conforms_telemetry.mpr ⟨rfl, real?_protocolVersion, rfl,
    ⟨_, hu, F.uuid u⟩, conforms_sequence_one F, hsnapshot⟩

theorem conforms_telemetryAck {challenge : Json}
    (h : ∃ u : Uuid, challenge.field "session_id" = .str u.1) :
    RelaySessionV1.acknowledgement.conforms F.check (telemetryAck challenge) = true := by
  obtain ⟨u, hu⟩ := h
  exact RelaySessionV1.conforms_acknowledgement.mpr ⟨rfl, real?_protocolVersion, rfl,
    ⟨_, hu, F.uuid u⟩, conforms_sequence_one F⟩

end Documents

/-! ### What is written -/

section Writing

variable {P : Platform} (F : Formats P)

/-- What is known of a challenge that a session goes on with. -/
structure SessionOf (challenge : Json) : Prop where
  ordered : challenge.ordered = true
  session : ∃ u : Uuid, challenge.field "session_id" = .str u.1

/-- What a call knows of its challenge. -/
def ConnectorPhase.Known : ConnectorPhase → Prop
  | .authenticated challenge => SessionOf challenge
  | .told challenge => SessionOf challenge
  | _ => True

/-- What a handler knows of its challenge, having made it for a device it has enrolled. -/
def Phase.Known (relayId : String) : Phase → Prop
  | .challenged _ _ challenge => SessionOf challenge ∧ relayIdPattern relayId = true
  | .opened _ challenge => SessionOf challenge
  | _ => True

/-- A line is one of some messages. -/
def IsMessage (messages : List (String × Schema)) (raw : Bytes) : Prop :=
  ∃ d, readFrame raw = .ok d ∧ ∃ a ∈ messages, a.2.conforms F.check d = true

/-- **What an agent may write**: a message it has made itself, or the authentication for a
challenge it has read, which conforms as that does. -/
inductive AgentWrites (input : ConnectorInput) (payload : Bytes) : Prop
  | own {a d} (hread : readFrame payload = .ok d) (ha : a ∈ RelaySessionV1.ofAgent)
      (hconforms : a.2.conforms F.check d = true) (hnone : d.get? "challenge" = none)
  | answer {raw challenge d} (hinput : input = .line raw) (hraw : readFrame raw = .ok challenge)
      (htype : challenge.field "type" = .str "relay.session-challenge")
      (hread : readFrame payload = .ok d) (htype' : d.field "type" = .str "agent.session-auth")
      (hchallenge : d.get? "challenge" = some challenge)
      (hconforms : RelaySessionV1.authentication.conforms F.check d = true ↔
        RelaySessionV1.challenge.conforms F.check challenge = true)

section Connector

variable {k : Connector} {input : ConnectorInput} {env : ConnectorSupply} {payload : Bytes}

/-- A challenge that is answered names a session. -/
theorem sessionOf_of_answer {raw : Bytes} {challenge : Json}
    (h : answerChallenge P k.relayId env raw = .ok (challenge, payload)) : SessionOf challenge := by
  obtain ⟨_, c, _, hread, -, hc, -⟩ := answerChallenge_eq_ok h
  obtain ⟨-, -, -, hsession, huuid, -⟩ := validateSessionChallenge_eq_ok.mp hc
  exact ⟨(readFrame_ordered hread).1, ⟨c.sessionId, huuid⟩, hsession⟩

/-- **What a step of a call writes.** -/
theorem agentWrites_of_stepped {phase : ConnectorPhase} (hsnapshot : k.snapshot.ordered = true)
    (hknown : k.phase.Known) (hstep : k.Stepped P input env (some payload) phase) :
    AgentWrites F input payload := by
  cases hstep with
  | greets hphase hwrite =>
    obtain ⟨i, hi, hhello⟩ := writeHello_eq_ok hwrite
    obtain ⟨i', key, hpublic, hchecked⟩ := identity_eq_ok hi
    have hid : i.deviceId = i'.deviceId := Json.str.inj (congrArg (·.field "device_id") hpublic)
    have hdevice : deviceIdPattern i.deviceId = true := hid ▸ (forms_of_checkIdentity hchecked).1
    exact .own (readFrame_writeFrame (ordered_agentHello _) rfl hhello) (List.mem_cons_self ..)
      (conforms_agentHello F hdevice) rfl
  | @answers raw _ challenge _ hphase hanswer =>
    obtain ⟨i, c, signature, hread, hi, hc, hwrite⟩ := answerChallenge_eq_ok hanswer
    obtain ⟨i', key, hpublic, hchecked⟩ := identity_eq_ok hi
    obtain ⟨-, -, htype, -⟩ := validateSessionChallenge_eq_ok.mp hc
    have hid : i.deviceId = i'.deviceId := Json.str.inj (congrArg (·.field "device_id") hpublic)
    have hkey : i.publicKey = i'.publicKey := Json.str.inj (congrArg (·.field "public_key") hpublic)
    rw [hid, hkey] at hwrite
    have hauth : (sessionAuth challenge (.str i'.deviceId) (.str i'.publicKey)
        (.str (P.timestamp env.now))).ordered = true :=
      sessionAuth_ordered (readFrame_ordered hread).1 rfl rfl rfl
    have hordered := ordered_withSignature hauth signature
    exact .answer rfl hread htype (readFrame_writeFrame hordered rfl hwrite) rfl rfl
      (conforms_sessionAuth_iff F hchecked env.now signature)
  | @tells _ _ challenge _ hphase hconfirm =>
    rw [hphase] at hknown
    obtain ⟨ready, y, -, hy, hwrite⟩ := confirm_eq_ok.mp hconfirm
    have hordered := ordered_agentTelemetry hknown.ordered (ordered_sanitizeSnapshot hsnapshot hy)
    have hobj : y.isObj = true := by
      obtain ⟨-, -, _, -, -, -, rfl⟩ := sanitizeSnapshot_eq_ok.mp hy
      rfl
    exact .own (readFrame_writeFrame hordered rfl hwrite)
      (List.mem_cons_of_mem _ (List.mem_cons_of_mem _ List.mem_cons_self))
      (conforms_agentTelemetry F hknown.session hobj) rfl

/-- A call goes on knowing its challenge. -/
theorem known_of_stepped {out : Option Bytes} {phase : ConnectorPhase} (hknown : k.phase.Known)
    (hstep : k.Stepped P input env out phase) : phase.Known := by
  cases hstep with
  | waits => exact hknown
  | answers hphase hanswer => exact sessionOf_of_answer hanswer
  | tells hphase =>
    rw [hphase] at hknown
    exact hknown
  | _ => trivial

end Connector

section Handler

variable {config : ReceiverConfig} {r : Receiver} {c : ℕ} {input : Input} {env : HandlerSupply}

/-- The challenge a handler makes. -/
theorem known_of_readHello {raw : Bytes} {id enrolledKey : String} {challenge : Json}
    (h : readHello P config env raw = .ok (id, enrolledKey, challenge)) :
    SessionOf challenge ∧ relayIdPattern config.relayId = true := by
  obtain rfl := challenge_of_readHello h
  obtain ⟨-, -, hch⟩ := readHello_eq_ok.mp h
  simp only [createSessionChallenge, Except.bind_eq_ok, require_eq_ok, exists_const] at hch
  exact ⟨⟨ordered_sessionChallenge _ _ _ _ _ _, env.sessionId, rfl⟩, hch.2.1⟩

/-- It conforms, the device being the one that is enrolled. -/
theorem conforms_of_readHello {raw : Bytes} {id enrolledKey : String} {challenge : Json}
    (h : readHello P config env raw = .ok (id, enrolledKey, challenge)) :
    RelaySessionV1.challenge.conforms F.check challenge = true := by
  obtain ⟨-, hrelay⟩ := known_of_readHello h
  obtain rfl := challenge_of_readHello h
  obtain ⟨⟨hello, -, hid⟩, -, -⟩ := readHello_eq_ok.mp h
  obtain ⟨-, -, -, -, hdevice⟩ := validateAgentHello_eq_ok.mp hid
  exact conforms_sessionChallenge F _ _ _ _ hdevice hrelay

/-- **What a step of a handler writes** is a message of relays. -/
theorem isMessage_of_wrote {payload : Bytes} {r' : Receiver}
    (hknown : (r.connections c).Known config.relayId)
    (hwrote : r.Wrote P config c env input payload r') :
    IsMessage F RelaySessionV1.ofRelay payload := by
  cases hwrote with
  | challenge hphase hread hwrite =>
    have hconforms := conforms_of_readHello F hread
    obtain rfl := challenge_of_readHello hread
    exact ⟨_, readFrame_writeFrame (ordered_sessionChallenge _ _ _ _ _ _) rfl hwrite, _,
      List.mem_cons_self, hconforms⟩
  | ready hphase hwrite =>
    rw [hphase] at hknown
    exact ⟨_, readFrame_writeFrame (ordered_sessionReady hknown.1.ordered _ _) rfl hwrite, _,
      List.mem_cons_of_mem _ List.mem_cons_self,
      conforms_sessionReady F hknown.1.session hknown.2 env.accepted⟩
  | ack hphase hread hpublish hwrite =>
    rw [hphase] at hknown
    exact ⟨_, readFrame_writeFrame (ordered_telemetryAck hknown.ordered) rfl hwrite, _,
      List.mem_cons_of_mem _ (List.mem_cons_of_mem _ List.mem_cons_self),
      conforms_telemetryAck F hknown.session⟩

/-- **Every handler goes on knowing its challenge.** -/
theorem known_of_step {out : Option Bytes} {r' : Receiver}
    (hknown : ∀ c, (r.connections c).Known config.relayId)
    (hstep : r.step P config c input env = (out, r')) (c' : ℕ) :
    (r'.connections c').Known config.relayId := by
  by_cases hc : c' = c
  · subst hc
    have hphase := hknown c'
    have hhandled := Receiver.handled_step P config r c' input env
    rw [hstep] at hhandled
    dsimp only at hhandled
    cases hhandled with
    | waits => exact hphase
    | ends hphase' =>
      rw [hphase', Function.update_self]
      trivial
    | challenges hhello hread =>
      rw [Receiver.move_connections, Function.update_self]
      exact known_of_readHello hread
    | opens hchallenged hread hphase' =>
      rw [hphase', Function.update_self]
      rw [hchallenged] at hphase
      exact hphase.1
    | publishes _ _ hphase' hended =>
      rw [hphase', Function.update_self]
      rcases hended with rfl | rfl
      · trivial
      · trivial
  · rw [connections_of_ne hstep hc]
    exact hknown c'

end Handler

/-! ### Over a run -/

/-- **What is known all over an exchange.** -/
structure Exchange.Known (config : ReceiverConfig) (x : Exchange) : Prop where
  handler : ∀ c, (x.receiver.connections c).Known config.relayId
  snapshot : ∀ c l, x.lines c = some l → l.connector.snapshot.ordered = true
  call : ∀ c l, x.lines c = some l → l.connector.phase.Known
  down : ∀ c l, x.lines c = some l → ∀ raw ∈ l.down, IsMessage F RelaySessionV1.ofRelay raw

variable {config : ReceiverConfig} {x : Exchange}

/-- A line that reads as a challenge is one of the schema, if it was written by a relay. -/
theorem conforms_challenge_of_isMessage {raw : Bytes} {challenge : Json}
    (h : IsMessage F RelaySessionV1.ofRelay raw) (hread : readFrame raw = .ok challenge)
    (htype : challenge.field "type" = .str "relay.session-challenge") :
    RelaySessionV1.challenge.conforms F.check challenge = true := by
  obtain ⟨d, hd, a, ha, hconforms⟩ := h
  obtain rfl := Except.ok.inj (hread.symm.trans hd)
  have hsub : ∀ b ∈ RelaySessionV1.ofRelay, b ∈ RelaySessionV1.alternatives := by
    simp [RelaySessionV1.ofRelay, RelaySessionV1.alternatives]
  have hmem : ("relay.session-challenge", RelaySessionV1.challenge) ∈ RelaySessionV1.alternatives := by
    simp [RelaySessionV1.alternatives]
  exact (RelaySessionV1.conforms_schema_of_type hmem htype).mp
    (RelaySessionV1.conforms_schema.mpr ⟨a, hsub a ha, hconforms⟩)

/-- What an agent writes whose peer keeps to the schema is a message of agents. -/
theorem isMessage_of_agentWrites {input : ConnectorInput} {payload : Bytes}
    (h : AgentWrites F input payload)
    (hpeer : ∀ raw challenge, input = .line raw → readFrame raw = .ok challenge →
      IsMessage F RelaySessionV1.ofRelay raw) :
    IsMessage F RelaySessionV1.ofAgent payload := by
  cases h with
  | own hread ha hconforms => exact ⟨_, hread, _, ha, hconforms⟩
  | answer hinput hraw htype hread htype' hchallenge hconforms =>
    have hanswered := conforms_challenge_of_isMessage F (hpeer _ _ hinput hraw) hraw htype
    exact ⟨_, hread, _, List.mem_cons_of_mem _ List.mem_cons_self, hconforms.mpr hanswered⟩

/-- The messages of the one who makes a step. -/
def ExchangeAction.messages : ExchangeAction → List (String × Schema)
  | .attempt .. => []
  | .agent .. => RelaySessionV1.ofAgent
  | .handler .. => RelaySessionV1.ofRelay

/-- **What a step of an exchange writes.** -/
theorem isMessage_of_moved {a : ExchangeAction} {payload : Bytes} {x' : Exchange}
    (hknown : x.Known F config) (hstep : x.Moved P config a (some payload) x') :
    IsMessage F a.messages payload := by
  cases hstep with
  | @agent c input env l down _ connector hline htake hstep =>
    obtain ⟨hstepped, -, -⟩ := stepped_step (P := P) (k := l.connector) input env
    rw [hstep] at hstepped
    have hwrites := agentWrites_of_stepped F (hknown.snapshot c l hline) (hknown.call c l hline)
      hstepped
    refine isMessage_of_agentWrites F hwrites fun raw challenge hinput hraw => ?_
    subst hinput
    rcases (mem_of_arrive htake).1 with hmem | rfl
    · exact hknown.down c l hline raw hmem
    · exact absurd hraw (readFrame_nil _)
  | @stranger c input env _ r' hnone hstep =>
    exact isMessage_of_wrote F (hknown.handler c) (wrote_step hstep)
  | @handler c input env l up _ r' hline htake hstep =>
    exact isMessage_of_wrote F (hknown.handler c) (wrote_step hstep)

/-- **A step of an exchange keeps what is known.** -/
theorem Exchange.Known.moved {a : ExchangeAction} {out : Option Bytes} {x' : Exchange}
    (hknown : x.Known F config) (hnormal : a.Normal) (hstep : x.Moved P config a out x') :
    x'.Known F config := by
  have hmessage : ∀ payload, out = some payload → IsMessage F a.messages payload := by
    rintro payload rfl
    exact isMessage_of_moved F hknown hstep
  -- a property of every line is one of the line that is set, and of the others
  have hset {q : Line → Prop} {y : Exchange} {c : ℕ} {l : Line} (hlines : y.lines = x.lines)
      (hothers : ∀ c l, x.lines c = some l → q l) (hl : q l) (c' : ℕ) (l' : Line)
      (h : (y.setLine c l).lines c' = some l') : q l' := by
    rw [setLine_lines, hlines] at h
    by_cases hc : c' = c
    · subst hc
      rw [Function.update_self] at h
      obtain rfl := Option.some.inj h
      exact hl
    · rw [Function.update_of_ne hc] at h
      exact hothers c' l' h
  cases hstep with
  | still => exact hknown
  | attempts hnone hphase =>
    exact ⟨hknown.handler, hset rfl hknown.snapshot hnormal, hset rfl hknown.call trivial,
      hset rfl hknown.down fun _ hraw => (List.not_mem_nil hraw).elim⟩
  | @agent c input env l down _ connector hline htake hstep =>
    obtain ⟨hstepped, -, hsnapshot⟩ := stepped_step (P := P) (k := l.connector) input env
    rw [hstep] at hstepped hsnapshot
    have hsnapshot' : connector.snapshot.ordered = true := by
      rw [show connector.snapshot = l.connector.snapshot from hsnapshot]
      exact hknown.snapshot c l hline
    exact ⟨hknown.handler, hset rfl hknown.snapshot hsnapshot',
      hset rfl hknown.call (known_of_stepped (hknown.call c l hline) hstepped),
      hset rfl hknown.down fun raw hraw =>
        hknown.down c l hline raw (ConnectorInput.mem_of_take htake raw hraw)⟩
  | @stranger c input env _ r' hnone hstep =>
    exact ⟨known_of_step hknown.handler hstep, hknown.snapshot, hknown.call, hknown.down⟩
  | @handler c input env l up _ r' hline htake hstep =>
    refine ⟨known_of_step hknown.handler hstep, hset rfl hknown.snapshot (hknown.snapshot c l hline),
      hset rfl hknown.call (hknown.call c l hline), hset rfl hknown.down fun raw hraw => ?_⟩
    rcases List.mem_append.mp hraw with hraw | hraw
    · exact hknown.down c l hline raw hraw
    · rw [Option.mem_toList] at hraw
      exact hmessage raw hraw

/-- **What is known all over every run.** -/
theorem known_of_run {es : List ExchangeEvent} (hrun : ExchangeRun P config es x) :
    x.Known F config := by
  refine hrun.invariant (I := fun _ x => x.Known F config) ?_ fun _ x a _ ih hnormal =>
    ih.moved F hnormal (moved_step P config x a)
  have hnone (c : ℕ) (l : Line) : (Exchange.start config).lines c ≠ some l := by
    intro h
    cases h
  exact ⟨fun _ => trivial, fun c l h => absurd h (hnone c l), fun c l h => absurd h (hnone c l),
    fun c l h => absurd h (hnone c l)⟩

/-- **Every frame of an exchange keeps to the schema of the session.** It reads back as an object
that conforms to exactly one of the messages: one of the agents' if an agent has written it, and
one of the relays' if a handler has. -/
theorem written_conforms (F : Formats P) (es : List ExchangeEvent) (x : Exchange)
    (hrun : ExchangeRun P config es x) (e : ExchangeEvent) (he : e ∈ es) (payload : Bytes)
    (hresult : e.result = some payload) :
    ∃ d, readFrame payload = .ok d ∧ RelaySessionV1.schema.conforms F.check d = true ∧
      ∃ a ∈ e.call.messages, a.2.conforms F.check d = true := by
  obtain ⟨pre, post, rfl⟩ := List.append_of_mem he
  obtain ⟨hbefore, -, hstep⟩ := hrun.split
  have hmoved := moved_step P config e.before e.call
  rw [hstep, hresult] at hmoved
  obtain ⟨d, hread, a, ha, hconforms⟩ := isMessage_of_moved F (known_of_run F hbefore) hmoved
  have hmem : a ∈ RelaySessionV1.alternatives := by
    revert ha
    cases e.call <;>
      simp only [ExchangeAction.messages, RelaySessionV1.ofAgent, RelaySessionV1.ofRelay,
        RelaySessionV1.alternatives, List.mem_cons, List.not_mem_nil, or_false] <;>
      grind
  exact ⟨d, hread, RelaySessionV1.conforms_schema.mpr ⟨a, hmem, hconforms⟩, a, ha, hconforms⟩

/-- What is known of a call, over any run of it. -/
theorem known_of_connectorRun {relayId : String} {snapshot : Json} {es : List ConnectorEvent}
    {k : Connector} (hsnapshot : snapshot.ordered = true)
    (hrun : ConnectorRun P ⟨relayId, snapshot, .connecting⟩ es k) :
    k.snapshot.ordered = true ∧ k.phase.Known := by
  refine hrun.invariant_state (I := fun k => k.snapshot.ordered = true ∧ k.phase.Known)
    ⟨hsnapshot, trivial⟩ fun k a hk => ?_
  obtain ⟨hstepped, -, hsame⟩ := stepped_step (P := P) (k := k) a.input a.env
  exact ⟨hsame ▸ hk.1, known_of_stepped hk.2 hstepped⟩

/-- **An agent keeps to the schema as far as its peer does.** Whoever is at the other end, and
whatever arrives, every frame of a call reads back as an object that conforms to the schema exactly
if the challenge in it does, should it have one. -/
theorem written_conforms_iff (F : Formats P) (relayId : String) (snapshot : Json)
    (es : List ConnectorEvent) (k : Connector) (hsnapshot : snapshot.ordered = true)
    (hrun : ConnectorRun P ⟨relayId, snapshot, .connecting⟩ es k) (e : ConnectorEvent) (he : e ∈ es)
    (payload : Bytes) (hresult : e.result = some payload) :
    ∃ d, readFrame payload = .ok d ∧ (RelaySessionV1.schema.conforms F.check d = true ↔
      ∀ challenge, d.get? "challenge" = some challenge →
        RelaySessionV1.challenge.conforms F.check challenge = true) := by
  obtain ⟨pre, post, rfl⟩ := List.append_of_mem he
  obtain ⟨hbefore, -, hstep⟩ := hrun.split
  obtain ⟨hordered, hknown⟩ := known_of_connectorRun hsnapshot hbefore
  obtain ⟨hstepped, -, -⟩ := stepped_step (P := P) (k := e.before) e.call.input e.call.env
  rw [show e.before.step P e.call.input e.call.env = (e.result, e.after) from hstep, hresult] at hstepped
  cases agentWrites_of_stepped F hordered hknown hstepped with
  | @own a d hread ha hconforms hnone =>
    have hsub : ∀ b ∈ RelaySessionV1.ofAgent, b ∈ RelaySessionV1.alternatives := by
      simp [RelaySessionV1.ofAgent, RelaySessionV1.alternatives]
    refine ⟨d, hread, iff_of_true (RelaySessionV1.conforms_schema.mpr ⟨a, hsub a ha, hconforms⟩) ?_⟩
    intro challenge hchallenge
    rw [hnone] at hchallenge
    cases hchallenge
  | @answer raw challenge d hinput hraw htype hread htype' hchallenge hconforms =>
    have hmem : ("agent.session-auth", RelaySessionV1.authentication) ∈
        RelaySessionV1.alternatives := by
      simp [RelaySessionV1.alternatives]
    refine ⟨d, hread, ?_⟩
    rw [RelaySessionV1.conforms_schema_of_type hmem htype', hconforms, hchallenge]
    constructor
    · rintro h _ ⟨⟩
      exact h
    · intro h
      exact h challenge rfl

end Writing

/-! ### A sample -/

section Meeting

variable {P : Platform} {config : ReceiverConfig} {m : Meeting} (h : m.Agreed P config)
include h

/-- A call begins with the hello. -/
theorem Meeting.Agreed.reaches_hello (c : ℕ) : ∃ es e x, ExchangeRun P config (es ++ [e]) x ∧
    e.result = some (frame (agentHello m.identity.deviceId)) := by
  have hattempt : (Exchange.start config).step P config (.attempt c config.relayId m.snapshot) =
      (none, (Exchange.start config).setLine c (m.line config .connecting [] [])) := rfl
  have hgreets := h.step_greets (c := c)
    (x := (Exchange.start config).setLine c (m.line config .connecting [] []))
    (Function.update_self ..)
  have hfirst : ExchangeRun P config [⟨_, .attempt c config.relayId m.snapshot, _, _⟩] _ :=
    Run.start.next_eq h.normal hattempt
  exact ⟨_, _, _, hfirst.next_eq (show (ExchangeAction.agent c .connected m.agent).Normal from
    trivial) hgreets, rfl⟩

/-- The call answers the challenge. -/
theorem Meeting.Agreed.reaches_answer : ∃ es e k,
    ConnectorRun P ⟨config.relayId, m.snapshot, .connecting⟩ (es ++ [e]) k ∧
    e.result = some (frame (m.authentication P config)) := by
  have hgreets : (⟨config.relayId, m.snapshot, .connecting⟩ : Connector).step P .connected m.agent =
      (some (frame (agentHello m.identity.deviceId)), ⟨config.relayId, m.snapshot, .greeted⟩) := by
    unfold Connector.step
    dsimp only
    rw [h.writes_hello]
  have hanswers : (⟨config.relayId, m.snapshot, .greeted⟩ : Connector).step P
      (.line (frame (m.challenge P config))) m.agent = (some (frame (m.authentication P config)),
        ⟨config.relayId, m.snapshot, .authenticated (m.challenge P config)⟩) := by
    unfold Connector.step
    dsimp only
    rw [h.answers]
  have hfirst : ConnectorRun P ⟨config.relayId, m.snapshot, .connecting⟩ [⟨_, ⟨_, _⟩, _, _⟩] _ :=
    Run.start.next_eq trivial hgreets
  have hrun := hfirst.next_eq (c := ⟨.line (frame (m.challenge P config)), m.agent⟩) trivial hanswers
  exact ⟨_, _, _, hrun, rfl⟩

end Meeting

open Sample in
/-- The hello of the sample session conforms. -/
theorem written_conforms_sample : ∃ e : ExchangeEvent,
    e.result = some (frame (agentHello agentIdentity.deviceId)) ∧
    ∃ d, readFrame (frame (agentHello agentIdentity.deviceId)) = .ok d ∧
      RelaySessionV1.schema.conforms (Formats.ofReaders platform).check d = true ∧
      ∃ a ∈ e.call.messages, a.2.conforms (Formats.ofReaders platform).check d = true := by
  obtain ⟨es, e, x, hrun, hresult⟩ := agreed_sample.reaches_hello 0
  exact ⟨e, hresult, written_conforms (Formats.ofReaders platform) _ x hrun e (by simp) _ hresult⟩

open Sample in
/-- The authentication of the sample session conforms as its challenge does. -/
theorem written_conforms_iff_sample : ∃ d,
    readFrame (frame (meeting.authentication platform receiverConfig)) = .ok d ∧
      (RelaySessionV1.schema.conforms (Formats.ofReaders platform).check d = true ↔
        ∀ challenge, d.get? "challenge" = some challenge →
          RelaySessionV1.challenge.conforms (Formats.ofReaders platform).check challenge = true) := by
  obtain ⟨es, e, k, hrun, hresult⟩ := agreed_sample.reaches_answer
  exact written_conforms_iff (Formats.ofReaders platform) "relay-1" snapshot _ k (by decide) hrun e
    (by simp) _ hresult

end PrinterHmi
