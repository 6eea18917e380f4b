import PrinterHmi.Lib.Simulation
import PrinterHmi.Lib.Tokens
import PrinterHmi.Receiver.Dialogue

/-!
# The simulated relay

Against a simulator the agent's side of a session is tried out without a receiver. A simulator is for
one device, keeps no registry and no keys, and keeps the telemetry envelopes it has received as they
are. What it does keep is the identifiers it has issued, so that no two of its sessions have the same
one, whatever is drawn.

In a run of a simulator, with any connections and in any order of their steps, the envelopes are of
sessions of their own, each authenticated on its connection before (`simulator_received`). And a
simulator stands in for a receiver that has the same name and knows the device only: on the same
inputs it writes whatever the receiver writes, and receives whatever the receiver acknowledges
(`receiver_simulated`), as long as nothing in a snapshot looks to it like a private field.
-/

namespace PrinterHmi

/-! ### The text it looks at -/

mutual

/-- `json.dumps(document, sort_keys=True)`: a blank after every comma and colon. -/
def spaced : Json → List Char
  | .arr [] => ['[', ']']
  | .arr (x :: xs) => '[' :: (spaced x ++ spacedItems xs)
  | .obj [] => ['{', '}']
  | .obj ((k, v) :: fs) => '{' :: (Json.encodeString k ++ ':' :: ' ' :: (spaced v ++ spacedFields fs))
  | d => d.encode

/-- The items after the first, and the closing bracket. -/
def spacedItems : List Json → List Char
  | [] => [']']
  | x :: xs => ',' :: ' ' :: (spaced x ++ spacedItems xs)

/-- The fields after the first, and the closing brace. -/
def spacedFields : List (String × Json) → List Char
  | [] => ['}']
  | (k, v) :: fs => ',' :: ' ' :: (Json.encodeString k ++ ':' :: ' ' :: (spaced v ++ spacedFields fs))

end

/-- The texts that a simulator does not want to see. -/
def privateTexts : List (List Char) := ["socket_path".toList, "\"filename\"".toList]

/-- A snapshot looks as if it had private fields. -/
def LooksPrivate (snapshot : Json) : Prop := ∃ t ∈ privateTexts, t <:+: spaced snapshot

instance : DecidablePred LooksPrivate := fun snapshot =>
  inferInstanceAs (Decidable (∃ t ∈ privateTexts, t <:+: spaced snapshot))

/-! ### One step -/

/-- `RelaySimulator`, as it is created. -/
structure RelaySimulator where
  deviceId : String
  relayId : String

namespace RelaySimulator

/-- Where a handler of the simulator waits. -/
inductive Phase : Type where
  | hello
  | challenged (challenge : Json)
  | opened (challenge : Json)
  | acknowledging
  | closed

/-- What a simulator keeps. -/
structure State where
  /-- The telemetry envelopes, in the order of their arrival. -/
  received : List Json
  errors : List Exn
  /-- `_issued_sessions`. -/
  issued : List String
  connections : ℕ → Phase

namespace State

/-- A simulator before any connection. -/
def start : State := ⟨[], [], [], fun _ => .hello⟩

/-- The handler of a connection waits in another phase. -/
def move (s : State) (c : ℕ) (phase : Phase) : State :=
  { s with connections := Function.update s.connections c phase }

@[simp] theorem move_connections (s : State) (c : ℕ) (phase : Phase) :
    (s.move c phase).connections = Function.update s.connections c phase := rfl

theorem move_self (s : State) (c : ℕ) (phase : Phase) : (s.move c phase).connections c = phase := by
  rw [move_connections, Function.update_self]

/-- The handler of a connection raises: the error is kept, and it ends. -/
def fail (s : State) (c : ℕ) (e : Exn) : State :=
  { s with errors := s.errors ++ [e] }.move c .closed

/-- The handler of a connection writes a frame and waits. -/
def answer (s : State) (c : ℕ) (phase : Phase) (document : Json) : Option Bytes × State :=
  match writeFrame document with
  | .ok payload => (some payload, s.move c phase)
  | .error e => (none, s.fail c e)

end State

section Step

variable (P : Platform) (sim : RelaySimulator)

/-- From the hello: the challenge, unless its session has been issued already. -/
def readHello (issued : List String) (env : HandlerSupply) (raw : Bytes) : Except Exn Json := do
  let hello ← readFrame raw
  let id ← validateAgentHello hello
  require (id = sim.deviceId) (transportError "agent hello identity is not enrolled")
  let challenge ← createSessionChallenge P sim.deviceId sim.relayId sessionLifetime env.sessionId
    env.nonce env.now
  require (env.sessionId.1 ∉ issued) (transportError "relay generated a duplicate session")
  pure challenge

/-- The checks of the authentication. -/
def readAuthentication (challenge : Json) (env : HandlerSupply) (raw : Bytes) : Except Exn Unit := do
  let authentication ← readFrame raw
  let _ ← verifySessionAuth P authentication challenge env.now
  pure ()

/-- From the telemetry: the envelope to keep. -/
def readTelemetry (challenge : Json) (raw : Bytes) : Except Exn Json := do
  let envelope ← readFrame raw
  require (envelope.hasFields telemetryFields ∧
      envelope.fieldEq "protocol_version" protocolVersion ∧
      envelope.fieldEq "type" (.str "agent.telemetry") ∧
      envelope.fieldEq "session_id" (challenge.field "session_id") ∧
      envelope.fieldEq "sequence" (.int 1))
    (transportError "invalid telemetry envelope")
  require (¬LooksPrivate (envelope.field "snapshot"))
    (transportError "private local fields reached relay")
  pure envelope

/-- The handler of a connection goes on with the line it waited for. -/
def receive (s : State) (c : ℕ) (raw : Bytes) (env : HandlerSupply) : Option Bytes × State :=
  match s.connections c with
  | .hello =>
    match sim.readHello P s.issued env raw with
    | .ok challenge =>
      { s with issued := env.sessionId.1 :: s.issued }.answer c (.challenged challenge) challenge
    | .error e => (none, s.fail c e)
  | .challenged challenge =>
    match readAuthentication P challenge env raw with
    | .ok _ => s.answer c (.opened challenge) (sessionReady P challenge sim.relayId env.accepted)
    | .error e => (none, s.fail c e)
  | .opened challenge =>
    match readTelemetry challenge raw with
    | .ok envelope =>
      { s with received := s.received ++ [envelope] }.answer c .acknowledging
        (telemetryAck challenge)
    | .error e => (none, s.fail c e)
  | .acknowledging | .closed => (none, s)

/-- What happens at a connection. -/
structure Action where
  connection : ℕ
  input : Input
  env : HandlerSupply

/-- **One step of `_handle_client`**: the bytes it writes, and the simulator after it. -/
def step (s : State) (a : Action) : Option Bytes × State :=
  match a.input, s.connections a.connection with
  | _, .closed => (none, s)
  | .line raw, _ => sim.receive P s a.connection raw a.env
  | .drained, .acknowledging => (none, s.move a.connection .closed)
  | .drained, _ => (none, s)
  | .broken, _ => (none, s.fail a.connection (osError "connection"))

end Step

/-! ### What passes, and what a step does -/

/-- **What a step of a handler can do.** -/
inductive Handled (P : Platform) (sim : RelaySimulator) (s : State) (a : Action) :
    Option Bytes → State → Prop
  /-- It waits on. -/
  | waits : Handled P sim s a none s
  /-- It ends, having drawn an identifier perhaps. -/
  | ends {s' : State}
      (hphase' : s'.connections = Function.update s.connections a.connection .closed)
      (hreceived : s'.received = s.received)
      (hissued : s'.issued = s.issued ∨ s'.issued = a.env.sessionId.1 :: s.issued) :
      Handled P sim s a none s'
  /-- It answers a hello with a challenge. -/
  | challenges {raw challenge payload} (hinput : a.input = .line raw)
      (hphase : s.connections a.connection = .hello)
      (hread : sim.readHello P s.issued a.env raw = .ok challenge) :
      Handled P sim s a (some payload)
        ({ s with issued := a.env.sessionId.1 :: s.issued }.move a.connection
          (.challenged challenge))
  /-- It opens a session for an authentication. -/
  | opens {raw challenge payload} (hinput : a.input = .line raw)
      (hphase : s.connections a.connection = .challenged challenge)
      (hread : readAuthentication P challenge a.env raw = .ok ()) :
      Handled P sim s a (some payload) (s.move a.connection (.opened challenge))
  /-- It receives telemetry. -/
  | receives {raw challenge envelope out phase} {s' : State} (hinput : a.input = .line raw)
      (hphase : s.connections a.connection = .opened challenge)
      (hread : readTelemetry challenge raw = .ok envelope)
      (hphase' : s'.connections = Function.update s.connections a.connection phase)
      (hended : phase = .acknowledging ∨ phase = .closed)
      (hreceived : s'.received = s.received ++ [envelope]) (hissued : s'.issued = s.issued) :
      Handled P sim s a out s'

section Steps

variable {P : Platform} {sim : RelaySimulator} {s s' : State} {a : Action} {env : HandlerSupply}
  {raw payload : Bytes} {challenge : Json}

theorem readHello_eq_ok {issued : List String} :
    sim.readHello P issued env raw = .ok challenge ↔
      (∃ hello, readFrame raw = .ok hello ∧ validateAgentHello hello = .ok sim.deviceId) ∧
        createSessionChallenge P sim.deviceId sim.relayId sessionLifetime env.sessionId env.nonce
          env.now = .ok challenge ∧ env.sessionId.1 ∉ issued := by
  simp only [readHello, Except.bind_eq_ok, require_eq_ok, exists_const]
  constructor
  · rintro ⟨hello, hread, id, hid, rfl, challenge', hch, hfresh, hr⟩
    obtain rfl := Except.ok.inj hr
    exact ⟨⟨hello, hread, hid⟩, hch, hfresh⟩
  · rintro ⟨⟨hello, hread, hid⟩, hch, hfresh⟩
    exact ⟨hello, hread, _, hid, rfl, challenge, hch, hfresh, rfl⟩

theorem readAuthentication_eq_ok {u : Unit} : readAuthentication P challenge env raw = .ok u ↔
    ∃ authentication, readFrame raw = .ok authentication ∧
      ∃ r, verifySessionAuth P authentication challenge env.now = .ok r := by
  simp only [readAuthentication, Except.bind_eq_ok]
  exact exists_congr fun _ => and_congr_right fun _ => exists_congr fun _ => and_iff_left rfl

theorem readTelemetry_eq_ok {envelope : Json} : readTelemetry challenge raw = .ok envelope ↔
    readFrame raw = .ok envelope ∧ envelope.hasFields telemetryFields = true ∧
      envelope.fieldEq "protocol_version" protocolVersion = true ∧
      envelope.field "type" = .str "agent.telemetry" ∧
      envelope.fieldEq "session_id" (challenge.field "session_id") = true ∧
      envelope.fieldEq "sequence" (.int 1) = true ∧ ¬LooksPrivate (envelope.field "snapshot") := by
  simp only [readTelemetry, Except.bind_eq_ok, require_eq_ok, exists_const, Json.fieldEq_str_iff,
    and_assoc]
  constructor
  · rintro ⟨envelope', hread, hfields, hversion, htype, hsession, hsequence, hprivate, hr⟩
    obtain rfl := Except.ok.inj hr
    exact ⟨hread, hfields, hversion, htype, hsession, hsequence, hprivate⟩
  · rintro ⟨hread, hfields, hversion, htype, hsession, hsequence, hprivate⟩
    exact ⟨envelope, hread, hfields, hversion, htype, hsession, hsequence, hprivate, rfl⟩

theorem answer_cases (s : State) (c : ℕ) (phase : Phase) (document : Json) :
    (∃ payload, writeFrame document = .ok payload ∧
      s.answer c phase document = (some payload, s.move c phase)) ∨
      ∃ e, s.answer c phase document = (none, s.fail c e) := by
  rw [State.answer]
  cases h : writeFrame document with
  | ok payload => exact .inl ⟨payload, rfl, rfl⟩
  | error e => exact .inr ⟨e, rfl⟩

theorem handled_fail (e : Exn) : Handled P sim s a none (s.fail a.connection e) :=
  .ends rfl rfl (.inl rfl)

theorem handled_receive (hinput : a.input = .line raw) :
    Handled P sim s a (sim.receive P s a.connection raw a.env).1
      (sim.receive P s a.connection raw a.env).2 := by
  rw [receive]
  cases hphase : s.connections a.connection with
  | hello =>
    dsimp only
    cases hread : sim.readHello P s.issued a.env raw with
    | error e => exact handled_fail e
    | ok challenge =>
      dsimp only
      rcases answer_cases { s with issued := a.env.sessionId.1 :: s.issued } a.connection
        (.challenged challenge) challenge with ⟨payload, -, hanswer⟩ | ⟨e, hanswer⟩
      · rw [hanswer]
        exact .challenges hinput hphase hread
      · rw [hanswer]
        exact .ends rfl rfl (.inr rfl)
  | challenged challenge =>
    dsimp only
    cases hread : readAuthentication P challenge a.env raw with
    | error e => exact handled_fail e
    | ok u =>
      dsimp only
      rcases answer_cases s a.connection (.opened challenge)
        (sessionReady P challenge sim.relayId a.env.accepted) with
        ⟨payload, -, hanswer⟩ | ⟨e, hanswer⟩
      · rw [hanswer]
        exact .opens hinput hphase hread
      · rw [hanswer]
        exact handled_fail e
  | opened challenge =>
    dsimp only
    cases hread : readTelemetry challenge raw with
    | error e => exact handled_fail e
    | ok envelope =>
      dsimp only
      rcases answer_cases { s with received := s.received ++ [envelope] } a.connection
        .acknowledging (telemetryAck challenge) with ⟨payload, -, hanswer⟩ | ⟨e, hanswer⟩
      · rw [hanswer]
        exact .receives hinput hphase hread rfl (.inl rfl) rfl rfl
      · rw [hanswer]
        exact .receives hinput hphase hread rfl (.inr rfl) rfl rfl
  | acknowledging => exact .waits
  | closed => exact .waits

variable (P sim s a) in
/-- **Every step of a handler is one of these.** -/
theorem handled_step : Handled P sim s a (sim.step P s a).1 (sim.step P s a).2 := by
  unfold step
  split
  case h_1 => exact .waits
  case h_2 raw hinput _ => exact handled_receive hinput
  case h_3 => exact .ends rfl rfl (.inl rfl)
  case h_4 => exact .waits
  case h_5 => exact handled_fail _

end Steps

/-! ### What it has received -/

/-- A step of a simulator, in the course of a run. -/
abbrev SimulatorEvent := Event State Action (Option Bytes)

/-- The session a handler has open. -/
def Phase.session? : Phase → Option Json
  | .challenged challenge | .opened challenge => some (challenge.field "session_id")
  | _ => none

/-- The session each handler has open. -/
def State.held (s : State) (c : ℕ) : Option Json := (s.connections c).session?

/-- The sessions of the telemetry. -/
def State.handed (s : State) : List Json := s.received.map fun envelope => envelope.field "session_id"

/-- The session has been issued. -/
def State.Issued (s : State) (session : Json) : Prop := ∃ id ∈ s.issued, session = .str id

section Sessions

variable {P : Platform} {sim : RelaySimulator} {s s' : State} {a : Action}

/-- The sessions of a simulator one of whose handlers has moved. -/
theorem held_update {c : ℕ} {phase : Phase}
    (h : s'.connections = Function.update s.connections c phase) :
    s'.held = Function.update s.held c phase.session? := by
  funext c'
  rw [State.held, h]
  exact congrFun (Function.comp_update Phase.session? s.connections c phase) c'

/-- **A step keeps the sessions apart.** -/
theorem kept_step (h : Tokens.Kept s.held s.handed s.Issued) {out : Option Bytes}
    (hstep : sim.step P s a = (out, s')) : Tokens.Kept s'.held s'.handed s'.Issued := by
  have hhandled := handled_step P sim s a
  rw [hstep] at hhandled
  dsimp only at hhandled
  cases hhandled with
  | waits => exact h
  | ends hphase' hreceived hissued =>
    rw [held_update hphase', State.handed, hreceived]
    refine (h.drop a.connection).issue fun x hx => ?_
    obtain ⟨id, hid, rfl⟩ := hx
    rcases hissued with heq | heq
    · exact ⟨id, heq ▸ hid, rfl⟩
    · exact ⟨id, heq ▸ List.mem_cons_of_mem _ hid, rfl⟩
  | @challenges raw challenge payload hinput hphase hread =>
    obtain ⟨-, hch, hfresh⟩ := readHello_eq_ok.mp hread
    simp only [createSessionChallenge, Except.bind_eq_ok, require_eq_ok, exists_const] at hch
    obtain rfl := Except.ok.inj hch.2.2.2
    rw [held_update rfl]
    refine h.take (x := .str a.env.sessionId.1) ?_ ?_ ?_
    · rintro ⟨id, hid, heq⟩
      exact hfresh (Json.str.inj heq ▸ hid)
    · rintro _ ⟨id, hid, rfl⟩
      exact ⟨id, List.mem_cons_of_mem _ hid, rfl⟩
    · exact ⟨a.env.sessionId.1, List.mem_cons_self, rfl⟩
  | @opens raw challenge payload hinput hphase hread =>
    have hsame : (s.move a.connection (.opened challenge)).held = s.held := by
      rw [held_update rfl]
      exact Function.update_eq_self_iff.mpr (by rw [State.held, hphase]; rfl)
    rw [hsame]
    exact h
  | @receives raw challenge envelope _ phase _ hinput hphase hread hphase' hended hreceived hissued =>
    have hhold : s.held a.connection = some (challenge.field "session_id") := by
      rw [State.held, hphase]
      rfl
    obtain ⟨-, -, -, -, hsession, -⟩ := readTelemetry_eq_ok.mp hread
    obtain ⟨id, -, hid⟩ := h.issued_of_hold hhold
    rw [hid, Json.fieldEq_str_iff] at hsession
    have hnone : phase.session? = none := by rcases hended with rfl | rfl <;> rfl
    rw [held_update hphase', hnone, State.handed, hreceived, List.map_append, List.map_singleton,
      hsession, ← hid]
    refine (h.hand hhold).issue fun x hx => ?_
    rw [State.Issued, hissued]
    exact hx

variable (P sim) in
/-- **A challenge is issued** for the hello of the device. -/
def Issues (e : SimulatorEvent) (c : ℕ) (challenge : Json) : Prop :=
  e.call.connection = c ∧ (∃ raw hello, e.call.input = .line raw ∧ readFrame raw = .ok hello ∧
      validateAgentHello hello = .ok sim.deviceId) ∧
    challenge = sessionChallenge P sim.deviceId sim.relayId sessionLifetime e.call.env.sessionId
      e.call.env.nonce e.call.env.now

/-- A document arrives on a connection. -/
def Receives (e : SimulatorEvent) (c : ℕ) (document : Json) : Prop :=
  e.call.connection = c ∧ ∃ raw, e.call.input = .line raw ∧ readFrame raw = .ok document

variable (P sim) in
/-- **A session was authenticated**: on this connection a challenge was issued for the device, and
then an authentication over it was verified. -/
inductive Authenticated (es : List SimulatorEvent) (c : ℕ) (challenge : Json) : Prop
  | mk {opening verifying : SimulatorEvent} {auth verified : Json}
      (horder : [opening, verifying].Sublist es) (hissued : Issues P sim opening c challenge)
      (hreceived : Receives verifying c auth)
      (hverified : verifySessionAuth P auth challenge verifying.call.env.now = .ok verified)

theorem Authenticated.mono {es es' : List SimulatorEvent} (hsub : es.Sublist es') {c : ℕ}
    {challenge : Json} (h : Authenticated P sim es c challenge) :
    Authenticated P sim es' c challenge := by
  obtain ⟨horder, hissued, hreceived, hverified⟩ := h
  exact .mk (horder.trans hsub) hissued hreceived hverified

variable (P sim) in
/-- **An envelope is delivered**: it is received on a connection where its session was authenticated
before. -/
inductive Delivered (es : List SimulatorEvent) (envelope : Json) : Prop
  | mk {pre post : List SimulatorEvent} {e : SimulatorEvent} {c : ℕ} {challenge : Json}
      (hsplit : es = pre ++ e :: post) (hauth : Authenticated P sim pre c challenge)
      (hsession : envelope.fieldEq "session_id" (challenge.field "session_id") = true)
      (hreceived : Receives e c envelope)

theorem Delivered.append {es : List SimulatorEvent} {envelope : Json}
    (h : Delivered P sim es envelope) (es' : List SimulatorEvent) :
    Delivered P sim (es ++ es') envelope := by
  obtain ⟨hsplit, hauth, hsession, hreceived⟩ := h
  exact .mk (by rw [hsplit, List.append_assoc, List.cons_append]) hauth hsession hreceived

variable (P sim) in
/-- **What a handler that waits in a phase has behind it.** -/
def Backed (es : List SimulatorEvent) (c : ℕ) : Phase → Prop
  | .challenged challenge => ∃ e ∈ es, Issues P sim e c challenge
  | .opened challenge => Authenticated P sim es c challenge
  | _ => True

theorem Backed.mono {es es' : List SimulatorEvent} (hsub : es.Sublist es') {c : ℕ} {phase : Phase}
    (h : Backed P sim es c phase) : Backed P sim es' c phase := by
  cases phase with
  | challenged challenge =>
    obtain ⟨e, he, hissued⟩ := h
    exact ⟨e, hsub.subset he, hissued⟩
  | opened challenge => exact Authenticated.mono hsub h
  | _ => trivial

variable (P sim) in
/-- **What the history of a simulator says of it.** -/
structure Sound (es : List SimulatorEvent) (s : State) : Prop where
  backed : ∀ c, Backed P sim es c (s.connections c)
  kept : Tokens.Kept s.held s.handed s.Issued
  delivered : ∀ envelope ∈ s.received, Delivered P sim es envelope

/-- **A step keeps to the history.** -/
theorem sound_step {es : List SimulatorEvent} {e : SimulatorEvent}
    (h : Sound P sim es e.before) (hstep : sim.step P e.before e.call = (e.result, e.after)) :
    Sound P sim (es ++ [e]) e.after := by
  have hsub := List.sublist_append_left es [e]
  have hhandled := handled_step P sim e.before e.call
  rw [hstep] at hhandled
  dsimp only at hhandled
  have hbacked := h.backed e.call.connection
  -- a step sets the phase of its own connection only
  have hupdate {phase : Phase}
      (hphase : e.after.connections = Function.update e.before.connections e.call.connection phase)
      (hlast : Backed P sim (es ++ [e]) e.call.connection phase) :
      ∀ c, Backed P sim (es ++ [e]) c (e.after.connections c) := by
    intro c
    rw [hphase]
    by_cases hc : c = e.call.connection
    · subst hc
      rwa [Function.update_self]
    · rw [Function.update_of_ne hc]
      exact (h.backed c).mono hsub
  have hreceived (heq : e.after.received = e.before.received) :
      ∀ envelope ∈ e.after.received, Delivered P sim (es ++ [e]) envelope := by
    intro envelope henvelope
    exact (h.delivered envelope (heq ▸ henvelope)).append [e]
  have hkept := kept_step h.kept hstep
  generalize e.result = out at hhandled
  generalize e.after = s' at hhandled hupdate hreceived hkept ⊢
  cases hhandled with
  | waits => exact ⟨fun c => (h.backed c).mono hsub, hkept, hreceived rfl⟩
  | ends hphase' heq => exact ⟨hupdate hphase' trivial, hkept, hreceived heq⟩
  | @challenges raw challenge payload hinput hphase hread =>
    obtain ⟨⟨hello, hframe, hid⟩, hch, -⟩ := readHello_eq_ok.mp hread
    simp only [createSessionChallenge, Except.bind_eq_ok, require_eq_ok, exists_const] at hch
    obtain rfl := Except.ok.inj hch.2.2.2
    exact ⟨hupdate rfl ⟨e, by simp, rfl, ⟨raw, hello, hinput, hframe, hid⟩, rfl⟩, hkept,
      hreceived rfl⟩
  | @opens raw challenge payload hinput hphase hread =>
    obtain ⟨auth, hframe, verified, hverified⟩ := readAuthentication_eq_ok.mp hread
    rw [hphase] at hbacked
    obtain ⟨opening, hopening, hissued⟩ := hbacked
    have horder : [opening, e].Sublist (es ++ [e]) :=
      (List.singleton_sublist.mpr hopening).append (List.Sublist.refl [e])
    exact ⟨hupdate rfl (.mk horder hissued ⟨rfl, raw, hinput, hframe⟩ hverified), hkept,
      hreceived rfl⟩
  | @receives raw challenge envelope _ phase _ hinput hphase hread hphase' hended heq =>
    obtain ⟨hframe, -, -, -, hsession, -⟩ := readTelemetry_eq_ok.mp hread
    rw [hphase] at hbacked
    refine ⟨hupdate hphase' (by rcases hended with rfl | rfl <;> trivial), hkept, ?_⟩
    intro envelope' henvelope'
    rw [heq] at henvelope'
    rcases List.mem_append.mp henvelope' with hold | hnew
    · exact (h.delivered envelope' hold).append [e]
    · obtain rfl := List.mem_singleton.mp hnew
      exact .mk rfl hbacked hsession ⟨rfl, raw, hinput, hframe⟩

/-- **What a simulator has received**: envelopes of sessions of their own, whatever identifiers are
drawn, each of which arrived on a connection where a challenge had been issued for the device
before, and an authentication over that challenge verified. -/
theorem simulator_received {allowed : List SimulatorEvent → Action → Prop}
    {es : List SimulatorEvent} (hrun : Run (sim.step P) allowed .start es s) :
    (s.received.map fun envelope => envelope.field "session_id").Nodup ∧
      ∀ envelope ∈ s.received, Delivered P sim es envelope := by
  have hsound : Sound P sim es s :=
    hrun.invariant (I := Sound P sim)
      ⟨fun _ => trivial, .start, fun _ h => absurd h List.not_mem_nil⟩ fun _ s c _ ih _ =>
        sound_step (e := ⟨s, c, _, _⟩) ih rfl
  exact ⟨hsound.kept.nodup, hsound.delivered⟩

end Sessions

/-! ### In place of a receiver -/

section Standing

variable {P : Platform} {sim : RelaySimulator} {config : ReceiverConfig} {s : State} {a : Action}
  {raw payload : Bytes} {challenge : Json}

/-- A hello that passes is answered with a challenge. -/
theorem step_hello (hinput : a.input = .line raw) (hphase : s.connections a.connection = .hello)
    (hread : sim.readHello P s.issued a.env raw = .ok challenge)
    (hwrite : writeFrame challenge = .ok payload) :
    sim.step P s a = (some payload,
      { s with issued := a.env.sessionId.1 :: s.issued }.move a.connection (.challenged challenge)) := by
  unfold step receive
  rw [hinput, hphase]
  dsimp only
  rw [hread]
  dsimp only
  rw [State.answer, hwrite]

/-- An authentication that passes is confirmed. -/
theorem step_challenged (hinput : a.input = .line raw)
    (hphase : s.connections a.connection = .challenged challenge)
    (hread : readAuthentication P challenge a.env raw = .ok ())
    (hwrite : writeFrame (sessionReady P challenge sim.relayId a.env.accepted) = .ok payload) :
    sim.step P s a = (some payload, s.move a.connection (.opened challenge)) := by
  unfold step receive
  rw [hinput, hphase]
  dsimp only
  rw [hread]
  dsimp only
  rw [State.answer, hwrite]

/-- Telemetry that passes is acknowledged. -/
theorem step_opened {envelope : Json} (hinput : a.input = .line raw)
    (hphase : s.connections a.connection = .opened challenge)
    (hread : readTelemetry challenge raw = .ok envelope)
    (hwrite : writeFrame (telemetryAck challenge) = .ok payload) :
    sim.step P s a = (some payload,
      { s with received := s.received ++ [envelope] }.move a.connection .acknowledging) := by
  unfold step receive
  rw [hinput, hphase]
  dsimp only
  rw [hread]
  dsimp only
  rw [State.answer, hwrite]

variable (P sim s a) in
/-- What a step leaves as it was, and what it adds to. -/
theorem step_frame :
    (∀ c ≠ a.connection, (sim.step P s a).2.connections c = s.connections c) ∧
      s.received ⊆ (sim.step P s a).2.received ∧
      ∀ id ∈ (sim.step P s a).2.issued, id = a.env.sessionId.1 ∨ id ∈ s.issued := by
  have hhandled := handled_step P sim s a
  generalize (sim.step P s a).1 = out at hhandled
  generalize (sim.step P s a).2 = s' at hhandled ⊢
  cases hhandled with
  | waits => exact ⟨fun _ _ => rfl, List.Subset.refl _, fun _ h => .inr h⟩
  | ends hphase' hreceived hissued =>
    refine ⟨fun c hc => by rw [hphase', Function.update_of_ne hc], hreceived ▸ List.Subset.refl _,
      fun id hid => ?_⟩
    rcases hissued with heq | heq
    · exact .inr (heq ▸ hid)
    · exact List.mem_cons.mp (heq ▸ hid)
  | challenges =>
    exact ⟨fun c hc => Function.update_of_ne hc _ _, List.Subset.refl _,
      fun _ h => List.mem_cons.mp h⟩
  | opens =>
    exact ⟨fun c hc => Function.update_of_ne hc _ _, List.Subset.refl _, fun _ h => .inr h⟩
  | receives _ _ _ hphase' _ hreceived hissued =>
    refine ⟨fun c hc => by rw [hphase', Function.update_of_ne hc], ?_, fun _ h => .inr (hissued ▸ h)⟩
    rw [hreceived]
    exact List.subset_append_left _ _

/-- A step of a receiver that is alone. -/
def receiverStep (P : Platform) (config : ReceiverConfig) (r : Receiver) (a : Action) :
    Option Bytes × Receiver :=
  r.step P config a.connection a.input a.env

/-- The handler of a simulator is where the one of a receiver is, unless that one has ended. -/
inductive Stands : PrinterHmi.Phase → Phase → Prop
  | hello : Stands .hello .hello
  | challenged {id enrolledKey : String} {challenge : Json} :
      Stands (.challenged id enrolledKey challenge) (.challenged challenge)
  | opened {id : String} {challenge : Json} : Stands (.opened id challenge) (.opened challenge)
  | acknowledging {id : String} : Stands (.acknowledging id) .acknowledging
  | closed {phase : Phase} : Stands .closed phase

/-- The event acknowledges this telemetry. -/
def Acknowledges (e : Event Receiver Action (Option Bytes)) (envelope : Json) : Prop :=
  ∃ raw d challenge, e.call.input = .line raw ∧ readFrame raw = .ok envelope ∧
    e.before.connections e.call.connection = .opened d challenge ∧ e.result.isSome = true

/-- **A simulator follows a receiver**, with this history. -/
structure Follows (h : List (Event Receiver Action (Option Bytes))) (r : Receiver) (s : State) :
    Prop where
  phases : ∀ c, Stands (r.connections c) (s.connections c)
  issued : ∀ id ∈ s.issued, ∃ e ∈ h, e.call.env.sessionId.1 = id
  received : ∀ e ∈ h, ∀ envelope, Acknowledges e envelope → envelope ∈ s.received

/-- The identifier is drawn afresh, and no snapshot looks private. -/
def Tried (h : List (Event Receiver Action (Option Bytes))) (a : Action) : Prop :=
  (∀ e ∈ h, e.call.env.sessionId ≠ a.env.sessionId) ∧
    ∀ raw envelope, a.input = .line raw → readFrame raw = .ok envelope →
      ¬LooksPrivate (envelope.field "snapshot")

/-- A handler that has nothing to do with an input has nothing to do in the simulator. -/
theorem step_idle {phase : PrinterHmi.Phase} (hstands : Stands phase (s.connections a.connection))
    (hidle : phase.Idle a.input) : sim.step P s a = (none, s) := by
  unfold step receive
  generalize s.connections a.connection = p at hstands
  generalize a.input = input at hidle
  cases hstands with
  | closed => exact hidle.elim
  | acknowledging =>
    cases input with
    | line raw => rfl
    | _ => exact hidle.elim
  | _ =>
    cases input with
    | drained => rfl
    | _ => exact hidle.elim

/-- A frame that a handler of a receiver writes, the one of a simulator writes. -/
theorem step_of_answered {r r' : Receiver} (hrelay : config.relayId = sim.relayId)
    (honly : ∀ d enrolledKey, config.devices.get? d = some enrolledKey → d = sim.deviceId)
    (hstands : Stands (r.connections a.connection) (s.connections a.connection))
    (hfresh : a.env.sessionId.1 ∉ s.issued)
    (hplain : ∀ raw envelope, a.input = .line raw → readFrame raw = .ok envelope →
      ¬LooksPrivate (envelope.field "snapshot"))
    (hanswered : r.Answered P config a.connection a.env a.input payload r') :
    ∃ s', sim.step P s a = (some payload, s') ∧
      Stands (r'.connections a.connection) (s'.connections a.connection) ∧
      ∀ raw envelope d challenge, a.input = .line raw → readFrame raw = .ok envelope →
        r.connections a.connection = .opened d challenge → envelope ∈ s'.received := by
  generalize hinput : a.input = input at hanswered
  generalize hs : s.connections a.connection = p at hstands
  cases hanswered with
  | @challenge raw id enrolledKey challenge _ hphase hread hwrite =>
    rw [hphase] at hstands
    cases hstands
    obtain ⟨⟨hello, hframe, hid⟩, hkey, hch⟩ := PrinterHmi.readHello_eq_ok.mp hread
    obtain rfl := honly id enrolledKey hkey
    rw [hrelay] at hch
    refine ⟨_, step_hello hinput hs (readHello_eq_ok.mpr ⟨⟨hello, hframe, hid⟩, hch, hfresh⟩) hwrite,
      ?_, fun _ _ _ _ _ _ hopened => ?_⟩
    · rw [Receiver.move_connections, Function.update_self, State.move_connections,
        Function.update_self]
      exact .challenged
    · rw [hphase] at hopened
      cases hopened
  | @ready raw id enrolledKey challenge _ hphase hread hwrite =>
    rw [hphase] at hstands
    cases hstands
    obtain ⟨auth, hframe, -, r, hverified⟩ := PrinterHmi.readAuthentication_eq_ok.mp hread
    rw [hrelay] at hwrite
    refine ⟨_, step_challenged hinput hs (readAuthentication_eq_ok.mpr ⟨auth, hframe, r, hverified⟩)
      hwrite, ?_, fun _ _ _ _ _ _ hopened => ?_⟩
    · rw [Receiver.move_connections, Function.update_self, State.move_connections,
        Function.update_self]
      exact .opened
    · rw [hphase] at hopened
      cases hopened
  | @ack raw id challenge snapshot _ registry hphase hread hpublish hwrite =>
    rw [hphase] at hstands
    cases hstands
    obtain ⟨envelope, hframe, hfields, hversion, htype, hsession, hsequence, -⟩ :=
      PrinterHmi.readTelemetry_eq_ok.mp hread
    refine ⟨_, step_opened hinput hs (readTelemetry_eq_ok.mpr ⟨hframe, hfields, hversion, htype,
      hsession, hsequence, hplain raw envelope hinput hframe⟩) hwrite, ?_, ?_⟩
    · rw [Receiver.move_connections, Function.update_self, State.move_connections,
        Function.update_self]
      exact .acknowledging
    · intro raw' envelope' d challenge' hinput' hframe' hopened
      obtain rfl := Input.line.inj hinput'
      obtain rfl := Except.ok.inj (hframe.symm.trans hframe')
      exact List.mem_append_right _ (List.mem_singleton.mpr rfl)

/-- **What a handler of a receiver writes, one of a simulator writes**, and they go on to the same
point. -/
theorem stands_step {r : Receiver} (hrelay : config.relayId = sim.relayId)
    (honly : ∀ d enrolledKey, config.devices.get? d = some enrolledKey → d = sim.deviceId)
    (hstands : Stands (r.connections a.connection) (s.connections a.connection))
    (hfresh : a.env.sessionId.1 ∉ s.issued)
    (hplain : ∀ raw envelope, a.input = .line raw → readFrame raw = .ok envelope →
      ¬LooksPrivate (envelope.field "snapshot")) :
    Stands ((receiverStep P config r a).2.connections a.connection)
        ((sim.step P s a).2.connections a.connection) ∧
      ∀ payload, (receiverStep P config r a).1 = some payload → (sim.step P s a).1 = some payload ∧
        ∀ raw envelope d challenge, a.input = .line raw → readFrame raw = .ok envelope →
          r.connections a.connection = .opened d challenge →
            envelope ∈ (sim.step P s a).2.received := by
  have hstep := answersOrNot_step P config r a.connection a.input a.env
  rw [show r.step P config a.connection a.input a.env = receiverStep P config r a from rfl] at hstep
  generalize receiverStep P config r a = result at hstep ⊢
  obtain ⟨out, r'⟩ := result
  rcases hstep with ⟨payload, hout, hanswered⟩ | ⟨hout, hclosed | ⟨hsame, hidle⟩⟩
  · dsimp only at hout hanswered ⊢
    subst hout
    obtain ⟨s', hsim, hstands', hreceived⟩ :=
      step_of_answered hrelay honly hstands hfresh hplain hanswered
    rw [hsim]
    refine ⟨hstands', fun payload' hpayload => ?_⟩
    obtain rfl := Option.some.inj hpayload
    exact ⟨rfl, hreceived⟩
  · dsimp only at hout hclosed ⊢
    subst hout
    rw [hclosed]
    exact ⟨.closed, fun _ h => by cases h⟩
  · dsimp only at hout hsame ⊢
    subst hout hsame
    rw [step_idle hstands hidle]
    exact ⟨hstands, fun _ h => by cases h⟩

/-- **A simulator goes on following.** -/
theorem follows_step {h : List (Event Receiver Action (Option Bytes))} {r : Receiver}
    (hrelay : config.relayId = sim.relayId)
    (honly : ∀ d enrolledKey, config.devices.get? d = some enrolledKey → d = sim.deviceId)
    (hfollows : Follows h r s) (htried : Tried h a) :
    (∀ payload, (receiverStep P config r a).1 = some payload → (sim.step P s a).1 = some payload) ∧
      Follows (h ++ [⟨r, a, (receiverStep P config r a).1, (receiverStep P config r a).2⟩])
        (receiverStep P config r a).2 (sim.step P s a).2 := by
  have hfresh : a.env.sessionId.1 ∉ s.issued := by
    intro hissued
    obtain ⟨e, he, hdrawn⟩ := hfollows.issued _ hissued
    exact htried.1 e he (Subtype.ext hdrawn)
  obtain ⟨hstands, hwrites⟩ := stands_step (P := P) (s := s) (a := a) hrelay honly
    (hfollows.phases a.connection) hfresh htried.2
  obtain ⟨hothers, hreceived, hissued⟩ := step_frame P sim s a
  refine ⟨fun payload hpayload => (hwrites payload hpayload).1, fun c => ?_, fun id hid => ?_, ?_⟩
  · by_cases hc : c = a.connection
    · subst hc
      exact hstands
    · rw [hothers c hc, connections_of_ne (show r.step P config a.connection a.input a.env =
        ((receiverStep P config r a).1, (receiverStep P config r a).2) from rfl) hc]
      exact hfollows.phases c
  · rcases hissued id hid with rfl | hold
    · exact ⟨_, List.mem_append_right _ (List.mem_singleton.mpr rfl), rfl⟩
    · obtain ⟨e, he, hdrawn⟩ := hfollows.issued id hold
      exact ⟨e, List.mem_append_left _ he, hdrawn⟩
  · intro e he envelope hacknowledges
    rcases List.mem_append.mp he with he | he
    · exact hreceived (hfollows.received e he envelope hacknowledges)
    · obtain rfl := List.mem_singleton.mp he
      obtain ⟨raw, d, challenge, hinput, hframe, hopened, hresult⟩ := hacknowledges
      obtain ⟨payload, hpayload⟩ := Option.isSome_iff_exists.mp hresult
      exact (hwrites payload hpayload).2 raw envelope d challenge hinput hframe hopened

/-- **A simulator stands in for a receiver.** Take a receiver that knows the simulator's device only
and has its name, and any run of it: any connections, any input, any order of their steps, any file
step failing. On the same inputs the simulator writes whatever the receiver writes, its handlers are
where the receiver's are, unless those have ended, and it has received all telemetry that the
receiver has acknowledged – if identifiers are drawn afresh and no snapshot that arrives looks
private. -/
theorem receiver_simulated {h : List (Event Receiver Action (Option Bytes))} {r : Receiver}
    (hrelay : config.relayId = sim.relayId)
    (honly : ∀ d enrolledKey, config.devices.get? d = some enrolledKey → d = sim.deviceId)
    (hrun : Run (receiverStep P config) Tried (.start config) h r) :
    ∃ h' s, Run (sim.step P) (fun _ _ => True) .start h' s ∧
      List.Forall₂ (fun e e' => e'.call = e.call ∧
        ∀ payload, e.result = some payload → e'.result = some payload) h h' ∧
      (∀ c, Stands (r.connections c) (s.connections c)) ∧
      ∀ e ∈ h, ∀ envelope, Acknowledges e envelope → envelope ∈ s.received := by
  have hstart : Follows [] (Receiver.start config) .start :=
    ⟨fun _ => .hello, fun _ hid => absurd hid List.not_mem_nil, fun _ he => absurd he List.not_mem_nil⟩
  have hfollowed : ∃ h' s, Run (sim.step P) (fun _ _ => True) .start h' s ∧
      List.Forall₂ (fun e e' => e'.call = e.call ∧
        ∀ payload, e.result = some payload → e'.result = some payload) h h' ∧ Follows h r s :=
    hrun.followed (I := Follows) (Q := fun out out' => ∀ payload, out = some payload →
      out' = some payload) hstart fun _ _ _ _ hfollows htried =>
        follows_step hrelay honly hfollows htried
  obtain ⟨h', s, hrun', hmatch, hfollows⟩ := hfollowed
  exact ⟨h', s, hrun', hmatch, hfollows.phases, hfollows.received⟩

end Standing

/-! ### A sample -/

section Sample

open Sample

/-- A simulator for the sample device. -/
def trial : RelaySimulator := ⟨device, "relay-1"⟩

/-- The frame of a document arrives at it, or at the sample receiver. -/
def trying (d : Json) (drawn : Uuid) (now : Time) : Action :=
  ⟨0, .line (canonical d ++ [newline]), { handlerSupply sessionNonce now with sessionId := drawn }⟩

/-- The sample session. -/
def greeting : Action := trying (agentHello device) sessionId (moment 3)

/-- The agent authenticates. -/
def authenticating : Action := trying authentication pairingId (moment 4)

/-- The agent sends its snapshot. -/
def sending : Action := trying telemetry pairingId' (moment 4)

/-- Nothing in the sample session looks private. -/
theorem plain_sample {a : Action} (ha : a ∈ [greeting, authenticating, sending]) (raw : Bytes)
    (envelope : Json) (hinput : a.input = .line raw) (hframe : readFrame raw = .ok envelope) :
    ¬LooksPrivate (envelope.field "snapshot") := by
  simp only [List.mem_cons, List.not_mem_nil, or_false] at ha
  rcases ha with rfl | rfl | rfl
  · obtain rfl := Input.line.inj hinput
    obtain rfl := Except.ok.inj (readFrame_hello.symm.trans hframe)
    decide +kernel
  · obtain rfl := Input.line.inj hinput
    obtain rfl := Except.ok.inj (readFrame_authentication.symm.trans hframe)
    decide +kernel
  · obtain rfl := Input.line.inj hinput
    obtain rfl := Except.ok.inj (readFrame_telemetry.symm.trans hframe)
    decide +kernel

/-- The simulator goes through the sample session. -/
theorem reaches_received : ∃ es s, Run (trial.step platform) (fun _ _ => True) .start es s ∧
    s.received = [telemetry] := by
  obtain ⟨hgreeted, -, hch⟩ := PrinterHmi.readHello_eq_ok.mp readHello_sample
  obtain ⟨auth, hauth, -, hverified⟩ :=
    PrinterHmi.readAuthentication_eq_ok.mp readAuthentication_sample
  obtain ⟨envelope, htold, hfields, hversion, htype, hsession, hsequence, -⟩ :=
    PrinterHmi.readTelemetry_eq_ok.mp readTelemetry_sample
  obtain rfl := Except.ok.inj (readFrame_telemetry.symm.trans htold)
  have hplain := plain_sample (a := sending) (by simp) _ _ rfl readFrame_telemetry
  have hread : readTelemetry session (canonical telemetry ++ [newline]) = .ok telemetry :=
    readTelemetry_eq_ok.mpr ⟨readFrame_telemetry, hfields, hversion, htype, hsession, hsequence,
      hplain⟩
  have hfirst : ∃ out s, trial.step platform .start greeting = (out, s) ∧
      s.connections 0 = .challenged session ∧ s.received = [] :=
    ⟨_, _, step_hello rfl rfl (readHello_eq_ok.mpr ⟨hgreeted, hch, List.not_mem_nil⟩)
      (writeFrame_of_lengthBound (by decide)), State.move_self _ 0 _, rfl⟩
  obtain ⟨_, s₁, hstep₁, hphase₁, hreceived₁⟩ := hfirst
  have hsecond : ∃ out s, trial.step platform s₁ authenticating = (out, s) ∧
      s.connections 0 = .opened session ∧ s.received = [] :=
    ⟨_, _, step_challenged rfl hphase₁ (readAuthentication_eq_ok.mpr ⟨auth, hauth, hverified⟩)
      (writeFrame_of_lengthBound (by decide)), State.move_self _ 0 _, hreceived₁⟩
  obtain ⟨_, s₂, hstep₂, hphase₂, hreceived₂⟩ := hsecond
  have hthird : trial.step platform s₂ sending = _ :=
    step_opened rfl hphase₂ hread (writeFrame_of_lengthBound (by decide))
  refine ⟨_, _, ((Run.start.next_eq trivial hstep₁).next_eq trivial hstep₂).next_eq trivial hthird, ?_⟩
  change s₂.received ++ [telemetry] = [telemetry]
  rw [hreceived₂]
  rfl

/-- The sample envelope is of a session that was authenticated. -/
theorem simulator_received_sample : ∃ es s, Run (trial.step platform) (fun _ _ => True) .start es s ∧
    s.received = [telemetry] ∧ Delivered platform trial es telemetry := by
  obtain ⟨es, s, hrun, hreceived⟩ := reaches_received
  obtain ⟨-, hdelivered⟩ := simulator_received hrun
  exact ⟨es, s, hrun, hreceived, hdelivered telemetry (by simp [hreceived])⟩

/-- The sample session is tried. -/
theorem tried_sample {h : List (Event Receiver Action (Option Bytes))} {a : Action}
    (ha : a ∈ [greeting, authenticating, sending])
    (hdrawn : ∀ a' ∈ h.map Event.call, a'.env.sessionId ≠ a.env.sessionId) : Tried h a :=
  ⟨fun e he => hdrawn e.call (List.mem_map_of_mem he), plain_sample ha⟩

/-- A simulator writes what the sample receiver writes in the sample session. -/
theorem receiver_simulated_sample : ∃ h r,
    Run (receiverStep platform receiverConfig) Tried (.start receiverConfig) h r ∧
      h.map Event.call = [greeting, authenticating, sending] ∧ (∀ e ∈ h, e.result.isSome = true) ∧
      ∃ h' s, Run (trial.step platform) (fun _ _ => True) .start h' s ∧
        List.Forall₂ (fun e e' => e'.call = e.call ∧
          ∀ payload, e.result = some payload → e'.result = some payload) h h' := by
  obtain ⟨r₁, hstep₁, hphase₁, hids₁⟩ : ∃ r₁,
      receiverStep platform receiverConfig (.start receiverConfig) greeting =
        (some (canonical session ++ [newline]), r₁) ∧
      r₁.connections 0 = .challenged device (b64encode agentPublic.1) session ∧
      r₁.registry.deviceIds = [device] := by
    refine ⟨_, Receiver.step_hello rfl readHello_sample (writeFrame_of_lengthBound (by decide)), ?_,
      rfl⟩
    rw [Receiver.move_connections]
    exact Function.update_self 0 _ _
  obtain ⟨auth, hauth, hkey, hverified⟩ :=
    PrinterHmi.readAuthentication_eq_ok.mp readAuthentication_sample
  obtain ⟨r₂, hstep₂, hphase₂, hids₂⟩ : ∃ r₂,
      receiverStep platform receiverConfig r₁ authenticating =
        (some (canonical ready ++ [newline]), r₂) ∧
      r₂.connections 0 = .opened device session ∧ r₂.registry.deviceIds = [device] := by
    refine ⟨_, Receiver.step_challenged hphase₁
      (PrinterHmi.readAuthentication_eq_ok.mpr ⟨auth, hauth, hkey, hverified⟩)
      (writeFrame_of_lengthBound (by decide)), ?_, hids₁⟩
    rw [Receiver.move_connections]
    exact Function.update_self 0 _ _
  have hpublish : (Registry.publish platform device 1 snapshot (moment 4)).run (fun _ => false)
      r₂.registry = _ := (FileProg.run_no_fault _ _).trans (exec_publish (by simp [hids₂]) 1 snapshot
        (moment 4))
  obtain ⟨r₃, hstep₃⟩ : ∃ r₃, receiverStep platform receiverConfig r₂ sending =
      (some (canonical (telemetryAck session) ++ [newline]), r₃) :=
    ⟨_, Receiver.step_opened hphase₂ readTelemetry_sample hpublish
      (writeFrame_of_lengthBound (by decide))⟩
  have hdrawn₁ : ∀ a ∈ [greeting], a.env.sessionId ≠ authenticating.env.sessionId := by decide
  have hdrawn₂ : ∀ a ∈ [greeting, authenticating], a.env.sessionId ≠ sending.env.sessionId := by
    decide
  have hrun := ((Run.start.next_eq (tried_sample (by simp) (by simp)) hstep₁).next_eq
    (tried_sample (by simp) hdrawn₁) hstep₂).next_eq (tried_sample (by simp) hdrawn₂) hstep₃
  have hrelay : receiverConfig.relayId = trial.relayId := rfl
  have honly : ∀ d enrolledKey, receiverConfig.devices.get? d = some enrolledKey →
      d = trial.deviceId := by
    intro d enrolledKey hget
    by_contra hne
    change d ≠ device at hne
    rw [receiverConfig, Dict.get?_insert, if_neg (Ne.symm hne), Dict.get?_empty] at hget
    cases hget
  obtain ⟨h', s, hrun', hmatch, -⟩ := receiver_simulated hrelay honly hrun
  exact ⟨_, _, hrun, rfl, by simp, h', s, hrun', hmatch⟩

end Sample

end RelaySimulator

end PrinterHmi
