import PrinterHmi.Receiver.Durability
import PrinterHmi.Receiver.Handler
import PrinterHmi.Transport.Connector

/-!
# Agents and a receiver

Here both ends of a connection are the program's own. An agent's call of
`send_snapshot` is tied to a connection of the receiver by two queues of lines
(`Line`): what either side writes arrives at the other, unchanged and in order, when
that one gets to it, which may be never. Any number of such calls go on at once, next to
connections with strangers at the other end, who send what they like (`Exchange.step`).

`line_of_run` is what a run establishes of every line: what is under way on it, in
either direction, was written by the side it comes from. A call that returns has
therefore been acknowledged by the handler of its connection, which had published the
filtered snapshot before it wrote the acknowledgement (`published_of_returned`).
-/

namespace PrinterHmi

/-! ### Lines and their two ends -/

/-- An agent's call, and what has been written on its connection and not yet read. -/
structure Line where
  connector : Connector
  /-- On the way to the receiver. -/
  up : List Bytes
  /-- On the way to the agent. -/
  down : List Bytes

/-- **A receiver and the agents' calls**, by connection. A connection without a call has
a stranger at its other end. -/
structure Exchange where
  receiver : Receiver
  lines : ℕ → Option Line

/-- What happens in an exchange. -/
inductive ExchangeAction : Type where
  /-- An agent calls `send_snapshot` on a new connection. -/
  | attempt (c : ℕ) (relayId : String) (snapshot : Json)
  /-- The call on a connection goes on. -/
  | agent (c : ℕ) (input : ConnectorInput) (env : ConnectorSupply)
  /-- The handler of a connection goes on. -/
  | handler (c : ℕ) (input : Input) (env : HandlerSupply)

/-- What is left to read once a line has been: the first that is under way, or at the end
of the stream the empty one. -/
def arrive (raw : Bytes) : List Bytes → Option (List Bytes)
  | [] => if raw = [] then some [] else none
  | first :: rest => if raw = first then some rest else none

/-- What the call leaves to read. -/
def ConnectorInput.take (pending : List Bytes) : ConnectorInput → Option (List Bytes)
  | .line raw => arrive raw pending
  | _ => some pending

/-- What the handler leaves to read. -/
def Input.take (pending : List Bytes) : Input → Option (List Bytes)
  | .line raw => arrive raw pending
  | _ => some pending

/-- The exchange before any call. -/
def Exchange.start (config : ReceiverConfig) : Exchange := ⟨.start config, fun _ => none⟩

/-- A connection has this line. -/
def Exchange.setLine (x : Exchange) (c : ℕ) (l : Line) : Exchange :=
  { x with lines := Function.update x.lines c (some l) }

section Step

variable (P : Platform) (config : ReceiverConfig)

/-- **One step of an exchange**: the bytes that are written, and the exchange after it. -/
def Exchange.step (x : Exchange) : ExchangeAction → Option Bytes × Exchange
  | .attempt c relayId snapshot =>
    match x.lines c, x.receiver.connections c with
    | none, .hello => (none, x.setLine c ⟨⟨relayId, snapshot, .connecting⟩, [], []⟩)
    | _, _ => (none, x)
  | .agent c input env =>
    match x.lines c with
    | none => (none, x)
    | some l =>
      match input.take l.down with
      | none => (none, x)
      | some down =>
        let (out, connector) := l.connector.step P input env
        (out, x.setLine c ⟨connector, l.up ++ out.toList, down⟩)
  | .handler c input env =>
    match x.lines c with
    | none =>
      let (out, receiver) := x.receiver.step P config c input env
      (out, { x with receiver := receiver })
    | some l =>
      match input.take l.up with
      | none => (none, x)
      | some up =>
        let (out, receiver) := x.receiver.step P config c input env
        (out, { x with receiver := receiver }.setLine c ⟨l.connector, up, l.down ++ out.toList⟩)

/-- A step of an exchange, in the course of a run. -/
abbrev ExchangeEvent := Event Exchange ExchangeAction (Option Bytes)

/-- The snapshot of a call is a document in normal form, as every dictionary is. -/
def ExchangeAction.Normal : ExchangeAction → Prop
  | .attempt _ _ snapshot => snapshot.ordered = true
  | _ => True

/-- **Runs of an exchange**, in any order of its steps. -/
abbrev ExchangeRun :=
  Run (Exchange.step P config) (fun _ a => a.Normal) (Exchange.start config)

/-- **What a step of an exchange can do.** -/
inductive Exchange.Moved (x : Exchange) : ExchangeAction → Option Bytes → Exchange → Prop
  /-- Nothing, if there is no such step. -/
  | still {a} : Moved x a none x
  /-- A call begins. -/
  | attempts {c relayId snapshot} (hnone : x.lines c = none)
      (hphase : x.receiver.connections c = .hello) :
      Moved x (.attempt c relayId snapshot) none
        (x.setLine c ⟨⟨relayId, snapshot, .connecting⟩, [], []⟩)
  /-- A call goes on. -/
  | agent {c input env l down out connector} (hline : x.lines c = some l)
      (htake : input.take l.down = some down)
      (hstep : l.connector.step P input env = (out, connector)) :
      Moved x (.agent c input env) out (x.setLine c ⟨connector, l.up ++ out.toList, down⟩)
  /-- A handler goes on that has a stranger at its other end. -/
  | stranger {c input env out receiver} (hnone : x.lines c = none)
      (hstep : x.receiver.step P config c input env = (out, receiver)) :
      Moved x (.handler c input env) out { x with receiver := receiver }
  /-- A handler goes on that has a call at its other end. -/
  | handler {c input env l up out receiver} (hline : x.lines c = some l)
      (htake : input.take l.up = some up)
      (hstep : x.receiver.step P config c input env = (out, receiver)) :
      Moved x (.handler c input env) out
        ({ x with receiver := receiver }.setLine c ⟨l.connector, up, l.down ++ out.toList⟩)

variable {P config} {x : Exchange} {c : ℕ}

variable (P config) in
/-- **Every step of an exchange is one of these.** -/
theorem moved_step (x : Exchange) (a : ExchangeAction) :
    x.Moved P config a (x.step P config a).1 (x.step P config a).2 := by
  cases a with
  | attempt c relayId snapshot =>
    unfold Exchange.step
    dsimp only
    split
    · next hnone hphase => exact .attempts hnone hphase
    · exact .still
  | agent c input env =>
    unfold Exchange.step
    dsimp only
    split
    · exact .still
    · next l hline =>
      split
      · exact .still
      · next down htake => exact .agent hline htake rfl
  | handler c input env =>
    unfold Exchange.step
    dsimp only
    split
    · next hnone => exact .stranger hnone rfl
    · next l hline =>
      split
      · exact .still
      · next up htake => exact .handler hline htake rfl

@[simp] theorem setLine_receiver (l : Line) : (x.setLine c l).receiver = x.receiver := rfl

@[simp] theorem setLine_lines (l : Line) :
    (x.setLine c l).lines = Function.update x.lines c (some l) := rfl

theorem mem_of_arrive {raw : Bytes} {pending rest : List Bytes}
    (h : arrive raw pending = some rest) : (raw ∈ pending ∨ raw = []) ∧ ∀ b ∈ rest, b ∈ pending := by
  cases pending with
  | nil =>
    rw [arrive] at h
    split_ifs at h with hraw
    obtain rfl := Option.some.inj h
    exact ⟨.inr hraw, fun b hb => hb⟩
  | cons first pending =>
    rw [arrive] at h
    split_ifs at h with hraw
    obtain rfl := Option.some.inj h
    exact ⟨.inl (by simp [hraw]), fun b hb => List.mem_cons_of_mem _ hb⟩

/-- A line that is not empty is the next of those on the way. -/
theorem head?_of_arrive {raw : Bytes} {pending rest : List Bytes}
    (h : arrive raw pending = some rest) (hraw : raw ≠ []) : pending.head? = some raw := by
  cases pending with
  | nil =>
    rw [arrive] at h
    split_ifs at h with hempty
    exact absurd hempty hraw
  | cons first rest' =>
    rw [arrive] at h
    split_ifs at h with hfirst
    rw [hfirst]
    rfl

theorem ConnectorInput.mem_of_take {input : ConnectorInput} {pending rest : List Bytes}
    (h : input.take pending = some rest) : ∀ b ∈ rest, b ∈ pending := by
  cases input with
  | line raw => exact (mem_of_arrive h).2
  | _ =>
    obtain rfl := Option.some.inj h
    exact fun b hb => hb

theorem Input.mem_of_take {input : Input} {pending rest : List Bytes}
    (h : input.take pending = some rest) : ∀ b ∈ rest, b ∈ pending := by
  cases input with
  | line raw => exact (mem_of_arrive h).2
  | _ =>
    obtain rfl := Option.some.inj h
    exact fun b hb => hb

end Step

/-! ### What a handler writes -/

section Writing

variable {P : Platform} {config : ReceiverConfig} {r : Receiver} {c : ℕ}

/-- The publication a handler makes. -/
def HandlerSupply.publication (env : HandlerSupply) (deviceId : String) (snapshot : Json) :
    PublishCall :=
  ⟨deviceId, 1, snapshot, env.published, env.faults⟩

variable (P config r c) in
/-- **What a step of a handler that writes has done.** -/
inductive Receiver.Wrote (env : HandlerSupply) : Input → Bytes → Receiver → Prop
  /-- It has answered a hello. -/
  | challenge {raw id enrolledKey challenge payload r'} (hphase : r.connections c = .hello)
      (hread : readHello P config env raw = .ok (id, enrolledKey, challenge))
      (hwrite : writeFrame challenge = .ok payload) : Wrote env (.line raw) payload r'
  /-- It has confirmed a session. -/
  | ready {raw id enrolledKey challenge payload r'}
      (hphase : r.connections c = .challenged id enrolledKey challenge)
      (hwrite : writeFrame (sessionReady P challenge config.relayId env.accepted) = .ok payload) :
      Wrote env (.line raw) payload r'
  /-- It has published a snapshot. -/
  | ack {raw id challenge snapshot payload} {r' : Receiver}
      (hphase : r.connections c = .opened id challenge)
      (hread : readTelemetry P challenge raw = .ok snapshot)
      (hpublish : publishStep P r.registry (env.publication id snapshot) = (.ok (), r'.registry))
      (hwrite : writeFrame (telemetryAck challenge) = .ok payload) :
      Wrote env (.line raw) payload r'

/-- What is written was to be answered. -/
theorem writeFrame_of_answer {phase : Phase} {document : Json} {payload : Bytes} {r' : Receiver}
    (h : r.answer c phase document = (some payload, r')) :
    writeFrame document = .ok payload ∧ r' = r.move c phase := by
  rcases Receiver.answer_cases r c phase document with ⟨payload', hwrite, hanswer⟩ | hanswer
  · rw [hanswer] at h
    obtain ⟨hpayload, hr⟩ := Prod.mk.inj h
    obtain rfl := Option.some.inj hpayload
    exact ⟨hwrite, hr.symm⟩
  · rw [hanswer] at h
    cases h

/-- **A step of a handler that writes is one of these.** -/
theorem wrote_step {input : Input} {env : HandlerSupply} {payload : Bytes} {r' : Receiver}
    (h : r.step P config c input env = (some payload, r')) :
    r.Wrote P config c env input payload r' := by
  -- only a line is answered, and only in the phases that wait for one
  cases input with
  | drained =>
    unfold Receiver.step at h
    cases hphase : r.connections c <;> (rw [hphase] at h; cases h)
  | broken =>
    unfold Receiver.step at h
    cases hphase : r.connections c <;> (rw [hphase] at h; cases h)
  | line raw =>
    unfold Receiver.step Receiver.receive at h
    cases hphase : r.connections c with
    | hello =>
      rw [hphase] at h
      dsimp only at h
      cases hread : readHello P config env raw with
      | error e =>
        rw [hread] at h
        cases h
      | ok v =>
        rw [hread] at h
        exact .challenge hphase hread (writeFrame_of_answer h).1
    | challenged id enrolledKey challenge =>
      rw [hphase] at h
      dsimp only at h
      cases hread : readAuthentication P enrolledKey challenge env raw with
      | error e =>
        rw [hread] at h
        cases h
      | ok u =>
        rw [hread] at h
        exact .ready hphase (writeFrame_of_answer h).1
    | opened id challenge =>
      rw [hphase] at h
      dsimp only at h
      cases hread : readTelemetry P challenge raw with
      | error e =>
        rw [hread] at h
        cases h
      | ok snapshot =>
        rw [hread] at h
        dsimp only at h
        rcases hrun : (Registry.publish P id 1 snapshot env.published).run env.faults r.registry with
          ⟨e | ⟨⟩, registry⟩
        · rw [hrun] at h
          cases h
        · rw [hrun] at h
          obtain ⟨hwrite, rfl⟩ := writeFrame_of_answer h
          exact .ack hphase hread hrun hwrite
    | acknowledging id =>
      rw [hphase] at h
      cases h
    | closed =>
      rw [hphase] at h
      cases h

end Writing

end PrinterHmi
