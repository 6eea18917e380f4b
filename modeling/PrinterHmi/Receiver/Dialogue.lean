import PrinterHmi.Lib.Script
import PrinterHmi.Receiver.Delivery
import PrinterHmi.Receiver.Publication

/-!
# What a handler says

A handler writes three frames at most: the challenge of a session, the confirmation of that session,
and the acknowledgement of its telemetry, in this order (`handlerScript`). Each of them says what the
handler has just done: it has been greeted by a device that is enrolled, it has verified the
authentication of that device over that challenge, it has published the snapshot of that session and
its state file is written. `handle_agent_safe` is this for every connection of every receiver, in a
run of any number of them, whoever is at the other end; and no connection publishes twice.

This is the counterpart of what an agent writes; between them there is no assumption on the peer.
-/

namespace PrinterHmi

/-! ### One step of one handler -/

section Steps

variable {P : Platform} {config : ReceiverConfig} {r r' : Receiver} {c : ℕ} {input : Input}
  {env : HandlerSupply}

variable (P config r c env) in
/-- **What a step of a handler that writes has done, and where the handler is then.** -/
inductive Receiver.Answered : Input → Bytes → Receiver → Prop
  /-- It has answered a hello. -/
  | challenge {raw id enrolledKey challenge payload} (hphase : r.connections c = .hello)
      (hread : readHello P config env raw = .ok (id, enrolledKey, challenge))
      (hwrite : writeFrame challenge = .ok payload) :
      Answered (.line raw) payload (r.move c (.challenged id enrolledKey challenge))
  /-- It has confirmed a session. -/
  | ready {raw id enrolledKey challenge payload}
      (hphase : r.connections c = .challenged id enrolledKey challenge)
      (hread : readAuthentication P enrolledKey challenge env raw = .ok ())
      (hwrite : writeFrame (sessionReady P challenge config.relayId env.accepted) = .ok payload) :
      Answered (.line raw) payload
        ({ r with registry := r.registry.sessionOpened id }.move c (.opened id challenge))
  /-- It has published a snapshot. -/
  | ack {raw id challenge snapshot payload} {registry : Registry}
      (hphase : r.connections c = .opened id challenge)
      (hread : readTelemetry P challenge raw = .ok snapshot)
      (hpublish : publishStep P r.registry (env.publication id snapshot) = (.ok (), registry))
      (hwrite : writeFrame (telemetryAck challenge) = .ok payload) :
      Answered (.line raw) payload ({ r with registry := registry }.move c (.acknowledging id))

/-- The handler has nothing to do with this input. -/
def Phase.Idle : Phase → Input → Prop
  | .hello, .drained | .challenged _ _ _, .drained | .opened _ _, .drained => True
  | .acknowledging _, .line _ => True
  | _, _ => False

/-- A handler that fails is closed. -/
theorem fail_closed (r : Receiver) (c : ℕ) : (r.fail c).connections c = .closed := by
  rw [Receiver.fail, Receiver.finish_connections, Function.update_self]

variable (P config r c input env) in
/-- **A step writes as it should, or it writes nothing**: then the handler has ended, or it was not
its turn. -/
def Receiver.AnswersOrNot (step : Option Bytes × Receiver) : Prop :=
  (∃ payload, step.1 = some payload ∧ r.Answered P config c env input payload step.2) ∨
    (step.1 = none ∧
      (step.2.connections c = .closed ∨ (step.2 = r ∧ (r.connections c).Idle input)))

theorem answersOrNot_fail (r' : Receiver) :
    r.AnswersOrNot P config c input env (none, r'.fail c) :=
  .inr ⟨rfl, .inl (fail_closed r' c)⟩

/-- An answer is written, or the handler ends. -/
theorem answersOrNot_answer {phase : Phase} {document : Json}
    (h : ∀ payload, writeFrame document = .ok payload →
      r.Answered P config c env input payload (r'.move c phase)) :
    r.AnswersOrNot P config c input env (r'.answer c phase document) := by
  rcases Receiver.answer_cases r' c phase document with ⟨payload, hwrite, hanswer⟩ | hanswer
  · rw [hanswer]
    exact .inl ⟨payload, rfl, h payload hwrite⟩
  · rw [hanswer]
    exact answersOrNot_fail _

theorem answersOrNot_receive (raw : Bytes) :
    r.AnswersOrNot P config c (.line raw) env (r.receive P config c raw env) := by
  rw [Receiver.receive]
  cases hphase : r.connections c with
  | hello =>
    dsimp only
    cases hread : readHello P config env raw with
    | error e => exact answersOrNot_fail r
    | ok v => exact answersOrNot_answer fun payload hwrite => .challenge hphase hread hwrite
  | challenged id enrolledKey challenge =>
    dsimp only
    cases hread : readAuthentication P enrolledKey challenge env raw with
    | error e => exact answersOrNot_fail r
    | ok u => exact answersOrNot_answer fun payload hwrite => .ready hphase hread hwrite
  | opened id challenge =>
    dsimp only
    cases hread : readTelemetry P challenge raw with
    | error e => exact answersOrNot_fail r
    | ok snapshot =>
      dsimp only
      rcases hpublish : (Registry.publish P id 1 snapshot env.published).run env.faults r.registry
        with ⟨e | ⟨⟩, registry⟩
      · exact answersOrNot_fail _
      · exact answersOrNot_answer fun payload hwrite => .ack hphase hread hpublish hwrite
  | acknowledging id => exact .inr ⟨rfl, .inr ⟨rfl, by rw [hphase]; trivial⟩⟩
  | closed => exact .inr ⟨rfl, .inl hphase⟩

variable (P config r c input env) in
theorem answersOrNot_step :
    r.AnswersOrNot P config c input env (r.step P config c input env) := by
  unfold Receiver.step
  split
  case h_1 hphase => exact .inr ⟨rfl, .inl hphase⟩
  case h_2 raw _ => exact answersOrNot_receive raw
  case h_3 id hphase =>
    refine .inr ⟨rfl, .inl ?_⟩
    rw [Receiver.finish_connections, Function.update_self]
  case h_4 hclosed hacknowledging =>
    refine .inr ⟨rfl, .inr ⟨rfl, ?_⟩⟩
    cases hphase : r.connections c with
    | acknowledging id => exact absurd hphase (hacknowledging id)
    | closed => exact absurd hphase hclosed
    | _ => trivial
  case h_5 => exact answersOrNot_fail r

end Steps

variable {ι : Type} [DecidableEq ι]

section Script

variable (P : Platform) (config : ι → ReceiverConfig)

/-- The handler of a connection writes. -/
def handlerWrites (i : ι) (c : ℕ) (e : ReceiverEvent ι) : Bool :=
  decide (e.call.receiver = i ∧ e.call.connection = c) && e.result.isSome

/-- **The event writes a challenge** for a device that is enrolled and has greeted. -/
structure WritesChallenge (i : ι) (d enrolled : String) (challenge : Json) (e : ReceiverEvent ι) :
    Prop where
  greeted : ∃ raw hello, e.call.input = .line raw ∧ readFrame raw = .ok hello ∧
    validateAgentHello hello = .ok d
  enrolled : (config i).devices.get? d = some enrolled
  made : challenge = sessionChallenge P d (config i).relayId sessionLifetime e.call.env.sessionId
    e.call.env.nonce e.call.env.now
  written : ∃ payload, writeFrame challenge = .ok payload ∧ e.result = some payload

/-- **The event confirms a session**: its challenge has been answered under the enrolled key. -/
structure WritesReady (i : ι) (enrolled : String) (challenge : Json) (e : ReceiverEvent ι) :
    Prop where
  authenticated : ∃ raw auth r, e.call.input = .line raw ∧ readFrame raw = .ok auth ∧
    auth.field "device_public_key" = .str enrolled ∧
    verifySessionAuth P auth challenge e.call.env.now = .ok r
  written : ∃ payload, writeFrame (sessionReady P challenge (config i).relayId
    e.call.env.accepted) = .ok payload ∧ e.result = some payload

/-- **The event acknowledges telemetry** of a session: its snapshot is published. -/
structure WritesAck (i : ι) (d : String) (challenge : Json) (e : ReceiverEvent ι) : Prop where
  published : ∃ raw snapshot, e.call.input = .line raw ∧
    readTelemetry P challenge raw = .ok snapshot ∧
    publishStep P (e.before i).registry (e.call.env.publication d snapshot) =
      (.ok (), (e.after i).registry)
  written : ∃ payload, writeFrame (telemetryAck challenge) = .ok payload ∧ e.result = some payload

/-- **The script of a handler**, for a device under its enrolled key and a session. -/
def handlerScript (i : ι) (d enrolled : String) (challenge : Json) : List (ReceiverEvent ι → Prop) :=
  [WritesChallenge P config i d enrolled challenge, WritesReady P config i enrolled challenge,
    WritesAck P i d challenge]

/-- The first `n` lines of the script have been said on a connection. -/
abbrev Said (i : ι) (c : ℕ) (d enrolled : String) (challenge : Json) (n : ℕ)
    (es : List (ReceiverEvent ι)) : Prop :=
  Script.Spoken (handlerWrites i c) (handlerScript P config i d enrolled challenge) n es

/-- **What a handler has said**, by what it waits for. -/
def HandlerDialogue (i : ι) (c : ℕ) (es : List (ReceiverEvent ι)) : Phase → Prop
  | .hello => ∀ d enrolled challenge, Said P config i c d enrolled challenge 0 es
  | .challenged d enrolled challenge => Said P config i c d enrolled challenge 1 es
  | .opened d challenge => ∃ enrolled, Said P config i c d enrolled challenge 2 es
  | .acknowledging d => ∃ enrolled challenge, Said P config i c d enrolled challenge 3 es
  | .closed => ∃ d enrolled challenge n, Said P config i c d enrolled challenge n es

variable {P config} {i : ι} {c : ℕ} {es : List (ReceiverEvent ι)} {e : ReceiverEvent ι}
  {phase : Phase}

/-- Whatever the handler waits for, it has said a beginning of the script. -/
theorem HandlerDialogue.said (h : HandlerDialogue P config i c es phase) :
    ∃ d enrolled challenge n, Said P config i c d enrolled challenge n es := by
  cases phase with
  | hello => exact ⟨"", "", .null, 0, h "" "" .null⟩
  | challenged d enrolled challenge => exact ⟨d, enrolled, challenge, 1, h⟩
  | opened d challenge =>
    obtain ⟨enrolled, h⟩ := h
    exact ⟨d, enrolled, challenge, 2, h⟩
  | acknowledging d =>
    obtain ⟨enrolled, challenge, h⟩ := h
    exact ⟨d, enrolled, challenge, 3, h⟩
  | closed => exact h

/-- An event in which this handler says nothing. -/
theorem HandlerDialogue.silent (h : HandlerDialogue P config i c es phase)
    (he : handlerWrites i c e = false) : HandlerDialogue P config i c (es ++ [e]) phase := by
  cases phase with
  | hello => exact fun d enrolled challenge => (h d enrolled challenge).silent he
  | challenged d enrolled challenge => exact Script.Spoken.silent h he
  | opened d challenge => exact h.imp fun _ h => h.silent he
  | acknowledging d =>
    obtain ⟨enrolled, challenge, h⟩ := h
    exact ⟨enrolled, challenge, h.silent he⟩
  | closed =>
    obtain ⟨d, enrolled, challenge, n, h⟩ := h
    exact ⟨d, enrolled, challenge, n, h.silent he⟩

/-- **A step of a handler goes on with its script.** -/
theorem handlerDialogue_handled (hi : e.call.receiver = i) (hc : e.call.connection = c)
    (he : (e.before i).step P (config i) c e.call.input e.call.env = (e.result, e.after i))
    (h : HandlerDialogue P config i c es ((e.before i).connections c)) :
    HandlerDialogue P config i c (es ++ [e]) ((e.after i).connections c) := by
  have hstep := answersOrNot_step P (config i) (e.before i) c e.call.input e.call.env
  rw [he] at hstep
  have hwrites : handlerWrites i c e = e.result.isSome := by
    rw [handlerWrites, decide_eq_true ⟨hi, hc⟩, Bool.true_and]
  rcases hstep with ⟨payload, hresult, hanswered⟩ | ⟨hresult, hended⟩
  · dsimp only at hresult hanswered
    have hspeaks : handlerWrites i c e = true := by rw [hwrites, hresult]; rfl
    generalize hinput : e.call.input = input at hanswered
    generalize hafter : e.after i = r' at hanswered ⊢
    -- the frame is the next line of the script
    cases hanswered with
    | @challenge raw id enrolled challenge payload hphase hread hwrite =>
      rw [hphase] at h
      rw [Receiver.move_connections, Function.update_self]
      obtain ⟨⟨hello, hframe, hid⟩, hkey, hch⟩ := readHello_eq_ok.mp hread
      simp only [createSessionChallenge, Except.bind_eq_ok, require_eq_ok, exists_const] at hch
      obtain rfl := Except.ok.inj hch.2.2.2
      exact Script.Spoken.says (h id enrolled _) hspeaks rfl
        ⟨⟨raw, hello, hinput, hframe, hid⟩, hkey, rfl, payload, hwrite, hresult⟩
    | @ready raw id enrolled challenge payload hphase hread hwrite =>
      rw [hphase] at h
      rw [Receiver.move_connections, Function.update_self]
      obtain ⟨auth, hframe, hkey, r, hverified⟩ := readAuthentication_eq_ok.mp hread
      exact ⟨enrolled, Script.Spoken.says h hspeaks rfl
        ⟨⟨raw, auth, r, hinput, hframe, hkey, hverified⟩, payload, hwrite, hresult⟩⟩
    | @ack raw id challenge snapshot payload registry hphase hread hpublish hwrite =>
      rw [hphase] at h
      rw [Receiver.move_connections, Function.update_self]
      obtain ⟨enrolled, hsaid⟩ := h
      have hpublished : publishStep P (e.before i).registry (e.call.env.publication id snapshot) =
          (.ok (), (e.after i).registry) := by rw [hafter]; exact hpublish
      exact ⟨enrolled, challenge, hsaid.says hspeaks rfl
        ⟨⟨raw, snapshot, hinput, hread, hpublished⟩, payload, hwrite, hresult⟩⟩
  · dsimp only at hresult hended
    have hsilent := h.silent (e := e) (by rw [hwrites, hresult]; rfl)
    rcases hended with hclosed | ⟨hsame, -⟩
    · rw [hclosed]
      obtain ⟨d, enrolled, challenge, n, hsaid⟩ := hsilent.said
      exact ⟨d, enrolled, challenge, n, hsaid⟩
    · rw [hsame]
      exact hsilent

/-- A step of the receivers, seen by the one it is a step of, and by the others. -/
theorem step_of_receiversStep
    (he : receiversStep P config e.before e.call = (e.result, e.after)) :
    (e.before e.call.receiver).step P (config e.call.receiver) e.call.connection e.call.input
        e.call.env = (e.result, e.after e.call.receiver) ∧
      ∀ j ≠ e.call.receiver, e.after j = e.before j := by
  rcases hstep : (e.before e.call.receiver).step P (config e.call.receiver) e.call.connection
    e.call.input e.call.env with ⟨out, r⟩
  rw [receiversStep_of_step hstep] at he
  obtain ⟨rfl, hafter⟩ := Prod.mk.inj he
  rw [← hafter, Function.update_self]
  exact ⟨rfl, fun j hj => Function.update_of_ne hj _ _⟩

/-- A step sets the phase of its own connection only. -/
theorem connections_elsewhere (he : receiversStep P config e.before e.call = (e.result, e.after))
    (helsewhere : ¬(e.call.receiver = i ∧ e.call.connection = c)) :
    (e.after i).connections c = (e.before i).connections c := by
  obtain ⟨hstep, hothers⟩ := step_of_receiversStep he
  by_cases hi : i = e.call.receiver
  · subst hi
    exact connections_of_ne hstep fun hc => helsewhere ⟨rfl, hc.symm⟩
  · rw [hothers i hi]

/-- **A step of the receivers goes on with the script of every connection.** -/
theorem handlerDialogue_step (he : receiversStep P config e.before e.call = (e.result, e.after))
    (h : HandlerDialogue P config i c es ((e.before i).connections c)) :
    HandlerDialogue P config i c (es ++ [e]) ((e.after i).connections c) := by
  by_cases hhere : e.call.receiver = i ∧ e.call.connection = c
  · obtain ⟨rfl, rfl⟩ := hhere
    exact handlerDialogue_handled rfl rfl (step_of_receiversStep he).1 h
  · rw [connections_elsewhere he hhere]
    exact h.silent (by rw [handlerWrites, decide_eq_false hhere, Bool.false_and])

/-! ### Publishing once -/

/-- The handler of a connection changes a record. -/
def ChangesRecord (i : ι) (c : ℕ) (e : ReceiverEvent ι) : Prop :=
  e.call.receiver = i ∧ e.call.connection = c ∧
    ∃ d, (e.after i).registry.records.get? d ≠ (e.before i).registry.records.get? d

/-- The handler has telemetry to wait for, now or later. -/
def Phase.Unpublished : Phase → Prop
  | .acknowledging _ | .closed => False
  | _ => True

/-- **What a connection has published**: nothing while it has telemetry to wait for, and nothing
twice. -/
structure PublishedOnce (i : ι) (c : ℕ) (es : List (ReceiverEvent ι)) (phase : Phase) : Prop where
  once : es.Pairwise fun e e' => ¬(ChangesRecord i c e ∧ ChangesRecord i c e')
  none : phase.Unpublished → ∀ e ∈ es, ¬ChangesRecord i c e

omit [DecidableEq ι] in
/-- A handler that has still telemetry to wait for had it before, and has changed no record. -/
theorem unpublished_of_step {r r' : Receiver} {c : ℕ} {input : Input} {env : HandlerSupply}
    {out : Option Bytes} (hstep : r.step P (config i) c input env = (out, r'))
    (h : (r'.connections c).Unpublished) :
    (r.connections c).Unpublished ∧ r'.registry.records = r.registry.records := by
  have hhandled := Receiver.handled_step P (config i) r c input env
  rw [hstep] at hhandled
  dsimp only at hhandled
  cases hhandled with
  | waits => exact ⟨h, rfl⟩
  | ends hphase' =>
    rw [hphase', Function.update_self] at h
    exact h.elim
  | challenges hphase =>
    rw [hphase]
    exact ⟨trivial, rfl⟩
  | opens hphase _ _ _ hrecords =>
    rw [hphase]
    exact ⟨trivial, hrecords⟩
  | publishes _ _ hphase' hended =>
    rw [hphase', Function.update_self] at h
    rcases hended with rfl | rfl
    · exact h.elim
    · exact h.elim

/-- **A step keeps to one publication.** -/
theorem publishedOnce_step (he : receiversStep P config e.before e.call = (e.result, e.after))
    (h : PublishedOnce i c es ((e.before i).connections c)) :
    PublishedOnce i c (es ++ [e]) ((e.after i).connections c) := by
  constructor
  · refine List.pairwise_append.mpr ⟨h.once, List.pairwise_singleton _ _, ?_⟩
    rintro e₀ he₀ _ (_ | ⟨_, ⟨⟩⟩) ⟨hold, rfl, rfl, d, hchange⟩
    -- telemetry has changed the record, and the handler has waited for it
    obtain ⟨-, -, challenge, -, -, hphase, -⟩ := changed_record he hchange
    exact h.none (by rw [hphase]; trivial) e₀ he₀ hold
  · intro hunpublished e' he'
    by_cases hhere : e.call.receiver = i ∧ e.call.connection = c
    · obtain ⟨rfl, rfl⟩ := hhere
      obtain ⟨hbefore, hrecords⟩ := unpublished_of_step (step_of_receiversStep he).1 hunpublished
      rcases List.mem_append.mp he' with he' | he'
      · exact h.none hbefore e' he'
      · obtain rfl := List.mem_singleton.mp he'
        rintro ⟨-, -, d, hchange⟩
        exact hchange (by rw [hrecords])
    · rw [connections_elsewhere he hhere] at hunpublished
      rcases List.mem_append.mp he' with he' | he'
      · exact h.none hunpublished e' he'
      · obtain rfl := List.mem_singleton.mp he'
        rintro ⟨hi, hc, -⟩
        exact hhere ⟨hi, hc⟩

/-- **A session is safe on the receiver's side too.** Whatever arrives at its connections, and in
whatever order their handlers go on, a handler writes a beginning of its script and nothing else:
the challenge for an enrolled device that has greeted, the confirmation once that device has
authenticated over this challenge under its enrolled key, and the acknowledgement once the snapshot
of this session is published and the state file is written. A handler changes the records once at
most, and only when it has confirmed its session and not acknowledged yet. -/
theorem handle_agent_safe {allowed : List (ReceiverEvent ι) → ReceiverAction ι → Prop}
    {s : ι → Receiver} (hrun : Run (receiversStep P config) allowed (receiversStart config) es s)
    (i : ι) (c : ℕ) :
    (∃ d enrolled challenge n, Said P config i c d enrolled challenge n es) ∧
      (es.Pairwise fun e e' => ¬(ChangesRecord i c e ∧ ChangesRecord i c e')) ∧
      ∀ pre e post, es = pre ++ e :: post → ChangesRecord i c e →
        ∃ d enrolled challenge, Said P config i c d enrolled challenge 2 pre := by
  have hdialogue : ∀ {es s}, Run (receiversStep P config) allowed (receiversStart config) es s →
      HandlerDialogue P config i c es ((s i).connections c) := fun hrun =>
    hrun.invariant (I := fun es s => HandlerDialogue P config i c es ((s i).connections c))
      (fun _ _ _ => Script.spoken_nil) fun _ _ _ _ ih _ => handlerDialogue_step rfl ih
  have honce : PublishedOnce i c es ((s i).connections c) :=
    hrun.invariant (I := fun es s => PublishedOnce i c es ((s i).connections c))
      ⟨List.Pairwise.nil, fun _ _ he => absurd he List.not_mem_nil⟩ fun _ _ _ _ ih _ =>
        publishedOnce_step rfl ih
  refine ⟨(hdialogue hrun).said, honce.once, ?_⟩
  rintro pre e post rfl ⟨rfl, rfl, d, hchange⟩
  obtain ⟨hbefore, -, hstep⟩ := hrun.split
  obtain ⟨-, -, challenge, -, -, hphase, -⟩ := changed_record hstep hchange
  have hsaid := hdialogue hbefore
  rw [hphase] at hsaid
  obtain ⟨enrolled, hsaid⟩ := hsaid
  exact ⟨d, enrolled, challenge, hsaid⟩

end Script

open Sample in
/-- The sample session goes through to the acknowledgement, which is the only event that changes a
record, and two lines have been said before it. -/
theorem handle_agent_safe_sample : ∃ pre e s, SampleRun (pre ++ [e]) s ∧
    (pre ++ [e]).map Event.call = opening ++ [telling] ∧
    e.result = some (canonical (telemetryAck session) ++ [newline]) ∧ ChangesRecord () 0 e ∧
    (∃ d enrolled challenge n,
      Said platform (fun _ => receiverConfig) () 0 d enrolled challenge n (pre ++ [e])) ∧
    ((pre ++ [e]).Pairwise fun e e' => ¬(ChangesRecord () 0 e ∧ ChangesRecord () 0 e')) ∧
    ∃ d enrolled challenge,
      Said platform (fun _ => receiverConfig) () 0 d enrolled challenge 2 pre := by
  obtain ⟨pre, e, hrun, hcalls, hcall, hresult, hdevice, -⟩ := reaches_published
  have hchange : ChangesRecord () 0 e := ⟨rfl, by rw [hcall]; rfl, device, hdevice⟩
  obtain ⟨hsaid, honce, htwo⟩ := handle_agent_safe hrun () 0
  refine ⟨pre, e, _, hrun, ?_, hresult, hchange, hsaid, honce, htwo pre e [] rfl hchange⟩
  rw [List.map_append, hcalls, List.map_singleton, hcall]

end PrinterHmi
