import PrinterHmi.Receiver.Meeting

/-!
# The worker and what its relay keeps

A worker sends a snapshot in every cycle: it fetches one, newer than the last, and makes
up to three attempts to send it, each a call of `send_snapshot` on a new connection
(`Worker.step`). An attempt that is abandoned leaves what it has written on its
connection, and the handler there takes it up whenever it gets to it.

Every session has sequence number one and `publish` overwrites what is there, so the
order in which handlers take up telemetry is all that orders the snapshots. The record
of a device never goes back to an earlier cycle exactly in the runs in which the
telemetry of the device is taken up in the order of the cycles (`never_back_iff`).
-/

namespace PrinterHmi

/-! ### The worker -/

/-- How many attempts `run_once` makes. -/
def workerAttempts : ℕ := 3

/-- Where a worker is. -/
inductive WorkerPhase : Type where
  /-- Between two cycles. -/
  | resting
  /-- In a cycle, so many attempts being made. -/
  | retrying (made : ℕ)
  /-- In a cycle, the last of so many attempts being under way on a connection. -/
  | sending (made c : ℕ)
  /-- Ended by an exception that nothing handles. -/
  | stopped

/-- **What a worker fetches**, cycle by cycle. -/
structure Feed where
  snapshot : ℕ → Json
  /-- Documents are in normal form. -/
  normal : ∀ n, (snapshot n).ordered = true
  /-- Each is newer than those before. -/
  newer : ∀ m n, (snapshot m).field "generated_at" = (snapshot n).field "generated_at" → m = n

/-- **A worker and its relay**: the exchange of its calls, where it is, and how many
cycles and connections it has begun. -/
structure Worker where
  exchange : Exchange
  phase : WorkerPhase
  cycle : ℕ
  connections : ℕ

/-- What happens to a worker and its relay. -/
inductive WorkerAction : Type where
  /-- `run_once` begins, and fetches a snapshot. -/
  | fetch
  /-- The next attempt begins. -/
  | connect
  /-- The attempt goes on. -/
  | agent (input : ConnectorInput) (env : ConnectorSupply)
  /-- The handler of a connection goes on. -/
  | handler (c : ℕ) (input : Input) (env : HandlerSupply)

/-- The worker before its first cycle. -/
def Worker.start (config : ReceiverConfig) : Worker := ⟨.start config, .resting, 0, 0⟩

/-- What an attempt that has come to a phase is to the worker: `send_with_retries` goes on
after an error of the transport while there are attempts left, `run` after any that
`run_once` expects. -/
def WorkerPhase.after (made c : ℕ) : ConnectorPhase → WorkerPhase
  | .returned _ => .resting
  | .raised e =>
    if e.cls = .relayTransportError then
      if made < workerAttempts then .retrying made else .resting
    else if e.cls = .osError ∨ e.cls = .valueError then .resting
    else .stopped
  | _ => .sending made c

section Step

variable (P : Platform) (config : ReceiverConfig) (relayId : String) (feed : Feed)

/-- **One step of a worker and its relay.** -/
def Worker.step (w : Worker) : WorkerAction → Unit × Worker
  | .fetch =>
    match w.phase with
    | .resting => ((), { w with phase := .retrying 0, cycle := w.cycle + 1 })
    | _ => ((), w)
  | .connect =>
    match w.phase with
    | .retrying made => ((), { w with
        exchange := (w.exchange.step P config
          (.attempt w.connections relayId (feed.snapshot w.cycle))).2
        phase := .sending (made + 1) w.connections
        connections := w.connections + 1 })
    | _ => ((), w)
  | .agent input env =>
    match w.phase with
    | .sending made c =>
      let exchange := (w.exchange.step P config (.agent c input env)).2
      ((), { w with
        exchange := exchange
        phase := ((exchange.lines c).map fun l =>
          WorkerPhase.after made c l.connector.phase).getD w.phase })
    | _ => ((), w)
  | .handler c input env =>
    match w.exchange.lines c with
    | some _ => ((), { w with exchange := (w.exchange.step P config (.handler c input env)).2 })
    | none => ((), w)

/-- A step of a worker and its relay, in the course of a run. -/
abbrev WorkerEvent := Event Worker WorkerAction Unit

/-- **Runs of a worker and its relay**, in any order of their steps. -/
abbrev WorkerRun :=
  Run (Worker.step P config relayId feed) (fun _ _ => True) (Worker.start config)

end Step

/-! ### What is claimed -/

section Claim

variable (P : Platform) (feed : Feed)

/-- The record of a device holds the snapshot of a cycle. -/
def Worker.Holds (w : Worker) (d : String) (n : ℕ) : Prop :=
  ∃ record, w.exchange.receiver.registry.records.get? d = some record ∧
    sanitizeSnapshot P (feed.snapshot n) = .ok record.snapshot

/-- **The record of a device never goes back** to the snapshot of an earlier cycle. -/
def NeverBack (d : String) (es : List WorkerEvent) : Prop :=
  ∀ e e', [e, e'].Sublist es → ∀ n n', e.after.Holds P feed d n → e'.after.Holds P feed d n' →
    n ≤ n'

/-- **A handler takes up telemetry of a cycle**: in a session of an enrolled device, on the
connection of an attempt of that cycle, the line that comes next is telemetry that passes
the handler's checks. -/
def TakesUp (d : String) (n : ℕ) (e : WorkerEvent) : Prop :=
  ∃ c raw env l challenge y, e.call = .handler c (.line raw) env ∧
    e.before.exchange.lines c = some l ∧ l.up.head? = some raw ∧
    l.connector.snapshot = feed.snapshot n ∧
    e.before.exchange.receiver.connections c = .opened d challenge ∧
    d ∈ e.before.exchange.receiver.registry.deviceIds ∧ readTelemetry P challenge raw = .ok y

/-- The telemetry of a device is taken up in the order of the cycles. -/
def InCycleOrder (d : String) (es : List WorkerEvent) : Prop :=
  ∀ e e', [e, e'].Sublist es → ∀ n n', TakesUp P feed d n e → TakesUp P feed d n' e' → n ≤ n'

end Claim

section Steps

variable {P : Platform} {config : ReceiverConfig} {relayId : String} {feed : Feed}
  {es : List WorkerEvent} {w : Worker} {e : WorkerEvent} {d : String} {n : ℕ}

variable (P config relayId feed) in
/-- **What a step of a worker can do** to its exchange. -/
inductive Worker.Works (w : Worker) : WorkerAction → Worker → Prop
  /-- Nothing. -/
  | idles {a w'} (hexchange : w'.exchange = w.exchange) : Works w a w'
  /-- A call begins, for the snapshot of a cycle. -/
  | attempts {c n w'} (hexchange : w'.exchange =
      (w.exchange.step P config (.attempt c relayId (feed.snapshot n))).2) : Works w .connect w'
  /-- The call goes on. -/
  | calls {c input env w'}
      (hexchange : w'.exchange = (w.exchange.step P config (.agent c input env)).2) :
      Works w (.agent input env) w'
  /-- The handler of a call goes on. -/
  | handles {c input env l w'} (hline : w.exchange.lines c = some l)
      (hexchange : w'.exchange = (w.exchange.step P config (.handler c input env)).2) :
      Works w (.handler c input env) w'

variable (P config relayId feed w) in
/-- **Every step of a worker is one of these.** -/
theorem works_step (a : WorkerAction) :
    w.Works P config relayId feed a (w.step P config relayId feed a).2 := by
  cases a with
  | fetch =>
    unfold Worker.step
    dsimp only
    split
    · exact .idles rfl
    · exact .idles rfl
  | connect =>
    unfold Worker.step
    dsimp only
    split
    · exact .attempts rfl
    · exact .idles rfl
  | agent input env =>
    unfold Worker.step
    dsimp only
    split
    · exact .calls rfl
    · exact .idles rfl
  | handler c input env =>
    unfold Worker.step
    dsimp only
    split
    · next l hline => exact .handles hline rfl
    · exact .idles rfl

/-- What is true of every snapshot that is given to a call stays true of every call's. -/
theorem snapshot_of_step {x : Exchange} {I : Json → Prop} {a : ExchangeAction}
    (h : ∀ c l, x.lines c = some l → I l.connector.snapshot)
    (hgiven : ∀ c id snapshot, a = .attempt c id snapshot → I snapshot) :
    ∀ c l, (x.step P config a).2.lines c = some l → I l.connector.snapshot := by
  intro c' l' hl'
  have hmoved := moved_step P config x a
  generalize (x.step P config a).1 = out at hmoved
  generalize (x.step P config a).2 = x' at hmoved hl'
  -- a step sets one line at most, and not the snapshot of a call that is there
  have hset {x' : Exchange} {c : ℕ} {l : Line} (hlines : x'.lines = x.lines)
      (hl : I l.connector.snapshot) (hl' : (x'.setLine c l).lines c' = some l') :
      I l'.connector.snapshot := by
    rw [setLine_lines] at hl'
    by_cases hc : c' = c
    · subst hc
      rw [Function.update_self] at hl'
      obtain rfl := Option.some.inj hl'
      exact hl
    · rw [Function.update_of_ne hc, hlines] at hl'
      exact h c' l' hl'
  cases hmoved with
  | still => exact h c' l' hl'
  | attempts => exact hset rfl (hgiven _ _ _ rfl) hl'
  | @agent c input env l down out connector hline htake hstep =>
    obtain ⟨-, -, hsnapshot⟩ := stepped_step (P := P) (k := l.connector) input env
    rw [hstep] at hsnapshot
    refine hset rfl ?_ hl'
    rw [hsnapshot]
    exact h c l hline
  | stranger => exact h c' l' hl'
  | @handler c input env l up out receiver hline htake hstep =>
    have hl : I l.connector.snapshot := h c l hline
    exact hset rfl (by exact hl) hl'

/-- The exchange of a worker's run has a run of its own, and every call in it sends the
snapshot of a cycle. -/
theorem exchangeRun_of_worker (hrun : WorkerRun P config relayId feed es w) :
    (∃ xs, ExchangeRun P config xs w.exchange) ∧
      ∀ c l, w.exchange.lines c = some l → ∃ n, l.connector.snapshot = feed.snapshot n := by
  refine hrun.invariant_state (I := fun w => (∃ xs, ExchangeRun P config xs w.exchange) ∧
    ∀ c l, w.exchange.lines c = some l → ∃ n, l.connector.snapshot = feed.snapshot n)
    ⟨⟨[], .start⟩, nofun⟩ ?_
  rintro w a ⟨⟨xs, hxs⟩, hfed⟩
  have hworks := works_step P config relayId feed w a
  generalize (w.step P config relayId feed a).2 = w' at hworks ⊢
  -- what the worker does to the exchange is a step of it or nothing
  cases hworks with
  | idles hexchange =>
    rw [hexchange]
    exact ⟨⟨xs, hxs⟩, hfed⟩
  | attempts hexchange =>
    rw [hexchange]
    refine ⟨⟨_, hxs.next (feed.normal _)⟩, snapshot_of_step (I := fun s => ∃ n, s = feed.snapshot n)
      hfed ?_⟩
    rintro c id snapshot ⟨⟩
    exact ⟨_, rfl⟩
  | calls hexchange =>
    rw [hexchange]
    exact ⟨⟨_, hxs.next trivial⟩, snapshot_of_step (I := fun s => ∃ n, s = feed.snapshot n) hfed
      nofun⟩
  | handles hline hexchange =>
    rw [hexchange]
    exact ⟨⟨_, hxs.next trivial⟩, snapshot_of_step (I := fun s => ∃ n, s = feed.snapshot n) hfed
      nofun⟩

/-! ### What changes a record -/

/-- A document that is filtered keeps its time. -/
theorem generatedAt_of_sanitized {x y : Json} (h : sanitizeSnapshot P x = .ok y) :
    y.field "generated_at" = x.field "generated_at" := by
  obtain ⟨-, -, sources, -, -, -, rfl⟩ := sanitizeSnapshot_eq_ok.mp h
  rfl

/-- A record holds the snapshot of one cycle. -/
theorem holds_unique {n n' : ℕ} (h : w.Holds P feed d n) (h' : w.Holds P feed d n') : n = n' := by
  obtain ⟨record, hrecord, hn⟩ := h
  obtain ⟨record', hrecord', hn'⟩ := h'
  obtain rfl := Option.some.inj (hrecord.symm.trans hrecord')
  exact feed.newer n n' ((generatedAt_of_sanitized hn).symm.trans (generatedAt_of_sanitized hn'))

/-- The records are what they were, or telemetry is taken up and its snapshot is there. -/
theorem record_of_handler {r r' : Receiver} {c : ℕ} {input : Input} {env : HandlerSupply}
    {out : Option Bytes} (hstep : r.step P config c input env = (out, r')) (d : String) :
    r'.registry.records.get? d = r.registry.records.get? d ∨
      ∃ raw challenge y, input = .line raw ∧ r.connections c = .opened d challenge ∧
        d ∈ r.registry.deviceIds ∧ readTelemetry P challenge raw = .ok y ∧
        r'.registry.records.get? d = some (newRecord P d 1 y env.published) := by
  have hhandled := Receiver.handled_step P config r c input env
  rw [hstep] at hhandled
  dsimp only at hhandled
  cases hhandled with
  | waits => exact .inl rfl
  | ends _ _ hrecords => exact .inl (by rw [hrecords])
  | challenges => exact .inl rfl
  | opens _ _ _ _ hrecords => exact .inl (by rw [hrecords])
  | @publishes raw env id challenge snapshot out phase r' hphase hread hphase' hended hids hrecords =>
    split_ifs at hrecords with hid
    · rw [hrecords, Dict.get?_insert]
      by_cases hd : id = d
      · subst hd
        rw [if_pos rfl]
        exact .inr ⟨raw, challenge, snapshot, rfl, hphase, hid, hread, rfl⟩
      · rw [if_neg hd]
        exact .inl rfl
    · exact .inl (by rw [hrecords])

/-- **Telemetry that is taken up is in the record**, whichever file steps fail. -/
theorem record_of_telemetry {r : Receiver} {c : ℕ} {raw : Bytes} {env : HandlerSupply}
    {challenge y : Json} (hphase : r.connections c = .opened d challenge)
    (hid : d ∈ r.registry.deviceIds) (hread : readTelemetry P challenge raw = .ok y) :
    (r.step P config c (.line raw) env).2.registry.records.get? d =
      some (newRecord P d 1 y env.published) := by
  obtain ⟨-, -, hrecords⟩ := (publish_spec (P := P) d 1 y env.published r.registry).run env.faults
  rw [if_pos hid] at hrecords
  have hget : (r.registry.records.insert d (newRecord P d 1 y env.published)).get? d =
      some (newRecord P d 1 y env.published) := by rw [Dict.get?_insert, if_pos rfl]
  rw [← hrecords] at hget
  unfold Receiver.step Receiver.receive
  rw [hphase]
  dsimp only
  rw [hread]
  dsimp only
  rcases hrun : (Registry.publish P d 1 y env.published).run env.faults r.registry with
    ⟨_ | _, registry⟩
  · rw [hrun] at hget
    rw [← hget]
    exact congrArg (·.get? d) Receiver.finish_records
  · rw [hrun] at hget
    dsimp only
    rcases Receiver.answer_cases { r with registry := registry } c (.acknowledging d)
      (telemetryAck challenge) with ⟨payload, -, hanswer⟩ | hanswer
    · rw [hanswer]
      exact hget
    · rw [hanswer]
      rw [← hget]
      exact congrArg (·.get? d) Receiver.finish_records

/-- The receiver moves with its handlers only. -/
theorem receiver_of_step {x : Exchange} {a : ExchangeAction}
    (ha : ∀ c input env, a ≠ .handler c input env) :
    (x.step P config a).2.receiver = x.receiver := by
  have hmoved := moved_step P config x a
  generalize (x.step P config a).1 = out at hmoved
  generalize (x.step P config a).2 = x' at hmoved ⊢
  cases hmoved with
  | still => rfl
  | attempts => rfl
  | agent => rfl
  | stranger => exact absurd rfl (ha _ _ _)
  | handler => exact absurd rfl (ha _ _ _)

/-- **What changes a record, in a run**: telemetry of some cycle, taken up. -/
theorem record_of_event (hrun : WorkerRun P config relayId feed es w) (a : WorkerAction)
    (d : String) {w' : Worker} (hw' : (w.step P config relayId feed a).2 = w') :
    w'.exchange.receiver.registry.records.get? d = w.exchange.receiver.registry.records.get? d ∨
      ∃ n, TakesUp P feed d n ⟨w, a, (), w'⟩ ∧ w'.Holds P feed d n := by
  obtain ⟨⟨xs, hxs⟩, hfed⟩ := exchangeRun_of_worker hrun
  have hworks := works_step P config relayId feed w a
  rw [hw'] at hworks
  -- only a handler reaches the receiver, and only with telemetry it changes a record
  cases hworks with
  | idles hexchange => exact .inl (by rw [hexchange])
  | attempts hexchange => exact .inl (by rw [hexchange, receiver_of_step fun _ _ _ hc => by cases hc])
  | calls hexchange => exact .inl (by rw [hexchange, receiver_of_step fun _ _ _ hc => by cases hc])
  | @handles c input env l w' hline hexchange =>
    have hsound := allSound_of_run hxs c l hline
    obtain ⟨n, hn⟩ := hfed c l hline
    have hmoved := moved_step P config w.exchange (.handler c input env)
    rw [← hexchange] at hmoved
    generalize (w.exchange.step P config (.handler c input env)).1 = out at hmoved
    generalize hx' : w'.exchange = x' at hmoved
    cases hmoved with
    | still => exact .inl rfl
    | stranger hnone =>
      rw [hnone] at hline
      cases hline
    | @handler _ _ _ l' up out receiver hline' htake hstep =>
      obtain rfl := Option.some.inj (hline.symm.trans hline')
      rcases record_of_handler hstep d with hsame | ⟨raw, challenge, y, rfl, hopen, hid, hread, hset⟩
      · exact .inl hsame
      · obtain ⟨envelope, hframe, -⟩ := readTelemetry_eq_ok.mp hread
        have hy := sanitizeSnapshot_of_readTelemetry (upFrame_of_take hsound htake hframe) hread
        have hhead : l.up.head? = some raw :=
          head?_of_arrive htake fun hnil => readFrame_nil _ (hnil ▸ hframe)
        refine .inr ⟨n, ⟨c, raw, env, l, challenge, y, rfl, hline, hhead, hn, hopen, hid, hread⟩,
          newRecord P d 1 y env.published, ?_, hn ▸ hy⟩
        rw [hx']
        exact hset

/-- The step of a handler of a call. -/
theorem worker_handler {c : ℕ} {input : Input} {env : HandlerSupply} {l : Line}
    (hline : w.exchange.lines c = some l) : w.step P config relayId feed (.handler c input env) =
      ((), { w with exchange := (w.exchange.step P config (.handler c input env)).2 }) := by
  unfold Worker.step
  dsimp only
  rw [hline]

/-- **Telemetry that is taken up shows**: the record holds the snapshot of its cycle. -/
theorem holds_of_takesUp {a : WorkerAction} (hrun : WorkerRun P config relayId feed es w)
    (he : TakesUp P feed d n ⟨w, a, (), (w.step P config relayId feed a).2⟩) :
    (w.step P config relayId feed a).2.Holds P feed d n := by
  obtain ⟨c, raw, env, l, challenge, y, rfl, hline, hhead, hn, hopen, hid, hread⟩ := he
  obtain ⟨⟨xs, hxs⟩, -⟩ := exchangeRun_of_worker hrun
  obtain ⟨rest, hup⟩ : ∃ rest, l.up = raw :: rest := by
    cases hup : l.up with
    | nil =>
      rw [hup] at hhead
      cases hhead
    | cons first rest =>
      rw [hup] at hhead
      obtain rfl := Option.some.inj hhead
      exact ⟨rest, rfl⟩
  have htake : (Input.line raw).take l.up = some rest := by
    rw [hup, Input.take, arrive, if_pos rfl]
  obtain ⟨envelope, hframe, -⟩ := readTelemetry_eq_ok.mp hread
  have hy := sanitizeSnapshot_of_readTelemetry
    (upFrame_of_take (allSound_of_run hxs c l hline) htake hframe) hread
  have hset : (w.exchange.receiver.step P config c (.line raw) env).2.registry.records.get? d =
      some (newRecord P d 1 y env.published) := record_of_telemetry hopen hid hread
  refine ⟨newRecord P d 1 y env.published, ?_, hn ▸ hy⟩
  rw [worker_handler hline, step_handler hline htake rfl]
  exact hset

/-! ### The law -/

/-- The run up to an event, and with it. -/
theorem run_upTo (hrun : WorkerRun P config relayId feed es w) (he : e ∈ es) :
    ∃ pre post, es = pre ++ e :: post ∧ WorkerRun P config relayId feed pre e.before ∧
      (e.before.step P config relayId feed e.call).2 = e.after ∧
      WorkerRun P config relayId feed (pre ++ [e]) e.after := by
  obtain ⟨pre, post, rfl⟩ := List.append_of_mem he
  obtain ⟨hpre, -, hstep⟩ := hrun.split
  exact ⟨pre, post, rfl, hpre, congrArg Prod.snd hstep, hpre.next_eq trivial hstep⟩

/-- **What a record holds has been taken up.** -/
theorem takesUp_of_holds (hrun : WorkerRun P config relayId feed es w) :
    ∀ n, w.Holds P feed d n → ∃ e ∈ es, TakesUp P feed d n e := by
  refine hrun.invariant (I := fun es w => ∀ n, w.Holds P feed d n → ∃ e ∈ es, TakesUp P feed d n e)
    ?_ ?_
  · rintro n ⟨record, hrecord, -⟩
    cases hrecord
  · intro es w a hrun ih _ n hn
    rcases record_of_event hrun a d rfl with hsame | ⟨n', htakes, hholds⟩
    · obtain ⟨record, hrecord, hy⟩ := hn
      obtain ⟨e, he, htakes⟩ := ih n ⟨record, hsame ▸ hrecord, hy⟩
      exact ⟨e, List.mem_append_left _ he, htakes⟩
    · obtain rfl := holds_unique hn hholds
      exact ⟨_, List.mem_append_right _ (List.mem_singleton_self _), htakes⟩

/-- If telemetry is taken up in order, what a record holds now is not older than what it
held after any event. -/
theorem le_of_holds (hrun : WorkerRun P config relayId feed es w)
    (horder : InCycleOrder P feed d es) :
    ∀ e ∈ es, ∀ n n', e.after.Holds P feed d n → w.Holds P feed d n' → n ≤ n' := by
  refine hrun.invariant (I := fun es w => InCycleOrder P feed d es → ∀ e ∈ es, ∀ n n',
    e.after.Holds P feed d n → w.Holds P feed d n' → n ≤ n')
    (fun _ _ he => (List.not_mem_nil he).elim) ?_ horder
  intro es w a hrun ih _ horder e he n n' hn hn'
  rcases List.mem_append.mp he with he | he
  · rcases record_of_event hrun a d rfl with hsame | ⟨m, htakes, hholds⟩
    · -- the record is what it was before the last event
      obtain ⟨record, hrecord, hy⟩ := hn'
      refine ih (fun e e' hsub => horder e e' (hsub.trans (List.sublist_append_left _ _))) e he n n'
        hn ⟨record, hsame ▸ hrecord, hy⟩
    · -- the last event takes up what it holds now, and an earlier one what it held then
      obtain rfl := holds_unique hn' hholds
      obtain ⟨pre, post, rfl, -, -, hupto⟩ := run_upTo hrun he
      obtain ⟨e₀, he₀, htakes₀⟩ := takesUp_of_holds hupto n hn
      have hmem : e₀ ∈ pre ++ e :: post :=
        List.append_cons pre e post ▸ List.mem_append_left _ he₀
      exact horder e₀ _ ((List.singleton_sublist.mpr hmem).append (List.Sublist.refl [_])) n n'
        htakes₀ htakes
  · obtain rfl := List.mem_singleton.mp he
    exact le_of_eq (holds_unique hn hn')

/-- **When the relay's record never goes back**: in a run of a worker and its relay, the
record of a device never holds the snapshot of an earlier cycle after that of a later one
iff the telemetry of the device is taken up in the order of the cycles. -/
theorem never_back_iff (hrun : WorkerRun P config relayId feed es w) (d : String) :
    NeverBack P feed d es ↔ InCycleOrder P feed d es := by
  constructor
  · intro hnever e e' hsub n n' htakes htakes'
    have hshows (e : WorkerEvent) (he : e ∈ es) (n : ℕ) (htakes : TakesUp P feed d n e) :
        e.after.Holds P feed d n := by
      obtain ⟨pre, post, -, hpre, hstep, -⟩ := run_upTo hrun he
      rw [← hstep]
      refine holds_of_takesUp hpre ?_
      rw [hstep]
      exact htakes
    exact hnever e e' hsub n n' (hshows e (hsub.subset (by simp)) n htakes)
      (hshows e' (hsub.subset (by simp)) n' htakes')
  · intro horder e e' hsub n n' hn hn'
    obtain ⟨l, l', rfl, hl, hl'⟩ := List.cons_sublist_iff.mp hsub
    obtain ⟨pre, post, rfl⟩ := List.append_of_mem (List.singleton_sublist.mp hl')
    rw [← List.append_assoc] at hrun
    obtain ⟨hpre, -, hstep⟩ := hrun.split
    have hupto : WorkerRun P config relayId feed (l ++ pre ++ [e']) e'.after :=
      hpre.next_eq trivial hstep
    refine le_of_holds hupto (fun e e' hsub => horder e e' (hsub.trans ?_)) e (by simp [hl]) n n'
      hn hn'
    simp

/-! ### Taking the steps -/

/-- The steps of a session until its telemetry is on the way, as the worker takes them. -/
def Meeting.working (P : Platform) (config : ReceiverConfig) (m : Meeting) (c : ℕ) :
    List WorkerAction :=
  [.agent .connected m.agent,
    .handler c (.line (frame (agentHello m.identity.deviceId))) m.handler,
    .agent (.line (frame (m.challenge P config))) m.agent,
    .handler c (.line (frame (m.authentication P config))) m.handler,
    .agent (.line (frame (m.ready P config))) m.agent]

variable {x x' : Exchange} {made c k : ℕ} {out : Option Bytes}

/-- A step of the attempt that is under way, where its outcome is known. -/
theorem worker_agent {input : ConnectorInput} {env : ConnectorSupply} {l : Line}
    (hstep : x.step P config (.agent c input env) = (out, x')) (hline : x'.lines c = some l) :
    Worker.step P config relayId feed ⟨x, .sending made c, n, k⟩ (.agent input env) =
      ((), ⟨x', .after made c l.connector.phase, n, k⟩) := by
  unfold Worker.step
  dsimp only
  rw [hstep]
  dsimp only
  rw [hline]
  rfl

/-- A step of the handler of a call, where its outcome is known. -/
theorem worker_handles {phase : WorkerPhase} {input : Input} {env : HandlerSupply} {l : Line}
    (hline : x.lines c = some l) (hstep : x.step P config (.handler c input env) = (out, x')) :
    Worker.step P config relayId feed ⟨x, phase, n, k⟩ (.handler c input env) =
      ((), ⟨x', phase, n, k⟩) := by
  rw [worker_handler hline, hstep]

/-- The next attempt begins on a new connection. -/
theorem worker_connect (hnone : x.lines k = none) (hphase : x.receiver.connections k = .hello) :
    Worker.step P config relayId feed ⟨x, .retrying made, n, k⟩ .connect =
      ((), ⟨x.setLine k ⟨⟨relayId, feed.snapshot n, .connecting⟩, [], []⟩, .sending (made + 1) k, n,
        k + 1⟩) := by
  unfold Worker.step
  dsimp only
  unfold Exchange.step
  dsimp only
  rw [hnone, hphase]

/-- **The opening of a session goes through**, for the worker. -/
theorem final_working {m : Meeting} (h : m.Agreed P config)
    (hline : x.lines c = some (m.line config .connecting [] []))
    (hphase : x.receiver.connections c = .hello) :
    final (Worker.step P config relayId feed) ⟨x, .sending made c, n, k⟩ (m.working P config c) =
      ⟨m.opened P config x c, .sending made c, n, k⟩ := by
  have hphase' (l : Line) : (x.setLine c l).receiver.connections c = .hello := hphase
  refine (final_cons (worker_agent (h.step_greets hline) (Function.update_self ..)) _).trans ?_
  refine (final_cons (worker_handles (Function.update_self ..)
    (h.step_challenges (Function.update_self ..) (hphase' _))) _).trans ?_
  refine (final_cons (worker_agent (h.step_answers (Function.update_self ..))
    (Function.update_self ..)) _).trans ?_
  refine (final_cons (worker_handles (Function.update_self ..)
    (h.step_opens (Function.update_self ..) (Function.update_self ..))) _).trans ?_
  refine (final_cons (worker_agent (h.step_tells (Function.update_self ..))
    (Function.update_self ..)) _).trans ?_
  simp only [final, Meeting.opened, Meeting.line, WorkerPhase.after, Exchange.setLine,
    Receiver.move, Function.update_idem]

end Steps

/-! ### A sample -/

namespace Sample

/-- What the sample worker fetches in a cycle. -/
def cycleSnapshot (n : ℕ) : Json :=
  snapshotDocument (.str (platform.timestamp (moment n)))
    [("printer-1", .obj [("connected", .bool true)])]

/-- The snapshots of the sample worker, a second apart. -/
def feed : Feed where
  snapshot := cycleSnapshot
  normal n := by
    have hnames : ["generated_at", "instances", "schema_version"].Pairwise (· < ·) := by decide
    have hinstances : (Json.obj [("printer-1", .obj [("connected", .bool true)])]).ordered = true := by
      decide
    refine Json.ordered_obj.mpr ⟨hnames, fun e he => ?_⟩
    simp only [List.mem_cons, List.not_mem_nil, or_false] at he
    rcases he with rfl | rfl | rfl
    · rfl
    · exact hinstances
    · rfl
  newer m n h := by
    have htime := platform.timestamp_injective (Json.str.inj h)
    simpa [moment, seconds] using htime

/-- A fetched snapshot is filtered already, if its time is not too long. -/
theorem sanitizeSnapshot_cycle {n : ℕ} (h : (cycleSnapshot n).lengthBound < 1000) :
    sanitizeSnapshot platform (cycleSnapshot n) = .ok (cycleSnapshot n) := by
  have hinstance : sanitizeInstance platform (.obj [("connected", .bool true)]) =
      .obj [("connected", .bool true)] := by decide
  refine sanitizeSnapshot_eq_ok.mpr ⟨rfl, rfl, _, rfl, by simp [Json.isObj], ?_, ?_⟩
  · have hlen := (cycleSnapshot n).length_encode_le
    rw [length_canonical, maxFrameBytes]
    omega
  · rw [List.map_singleton, hinstance]
    rfl

/-- The session of the first cycle. Its handler comes late to the telemetry. -/
def firstMeeting : Meeting :=
  meetingOf (moment 4) { handlerSupply sessionNonce (moment 3) with published := moment 25 }
    (cycleSnapshot 1)

/-- The session of the second cycle. -/
def secondMeeting : Meeting :=
  meetingOf (moment 24) { handlerSupply (repeated 88) (moment 23) with sessionId := challengeId }
    (cycleSnapshot 2)

theorem agreed_first : firstMeeting.Agreed platform receiverConfig :=
  agreed_meetingOf (by decide) (by decide) (feed.normal 1)
    (sanitizeSnapshot_cycle (by decide)) rfl (by decide)

theorem agreed_second : secondMeeting.Agreed platform receiverConfig :=
  agreed_meetingOf (by decide) (by decide) (feed.normal 2)
    (sanitizeSnapshot_cycle (by decide)) rfl (by decide)

/-- The worker's steps when nothing arrives. -/
def idle : ConnectorSupply := connectorSupply (moment 14)

/-- A first cycle whose attempt is abandoned once its telemetry is written, its two other
attempts finding no connection; then a second cycle, until its telemetry is written. -/
def abandoning : List WorkerAction :=
  [.fetch, .connect] ++ (firstMeeting.working platform receiverConfig 0 ++
    ([.agent .timedOut idle, .connect, .agent .failed idle, .connect, .agent .failed idle, .fetch,
      .connect] ++ secondMeeting.working platform receiverConfig 3))

/-- An attempt is abandoned. -/
theorem worker_drops {x : Exchange} {made c n k : ℕ} {relayId : String} {snapshot : Json}
    {phase : ConnectorPhase} {up : List Bytes} {input : ConnectorInput} {message : String}
    (hline : x.lines c = some ⟨⟨relayId, snapshot, phase⟩, up, []⟩)
    (htake : input.take [] = some [])
    (hraise : Connector.step platform ⟨relayId, snapshot, phase⟩ input idle =
      Connector.raise ⟨relayId, snapshot, phase⟩ (transportError message)) :
    Worker.step platform receiverConfig "relay-1" feed ⟨x, .sending made c, n, k⟩
        (.agent input idle) =
      ((), ⟨x.setLine c ⟨⟨relayId, snapshot, .raised (transportError message)⟩, up, []⟩,
        if made < workerAttempts then .retrying made else .resting, n, k⟩) := by
  refine (worker_agent (step_agent hline htake hraise) (Function.update_self ..)).trans ?_
  rw [Option.toList_none, List.append_nil]
  rfl

/-- A call that has failed, and what of it is still under way. -/
def dropped (n : ℕ) (message : String) (up : List Bytes) : Line :=
  ⟨⟨"relay-1", cycleSnapshot n, .raised (transportError message)⟩, up, []⟩

/-- The telemetry of the first cycle is on the way, and its attempt is abandoned. -/
def afterTimeout : Exchange :=
  (firstMeeting.opened platform receiverConfig ((Exchange.start receiverConfig).setLine 0
    (firstMeeting.line receiverConfig .connecting [] [])) 0).setLine 0
      (dropped 1 "relay frame timed out" [frame (firstMeeting.telemetry platform receiverConfig)])

/-- An attempt finds no connection. -/
def unreached (x : Exchange) (c : ℕ) : Exchange :=
  (x.setLine c ⟨⟨"relay-1", cycleSnapshot 1, .connecting⟩, [], []⟩).setLine c
    (dropped 1 "secure relay connection failed" [])

/-- The telemetry of both cycles is on the way. -/
def bothOnTheWay : Exchange :=
  secondMeeting.opened platform receiverConfig ((unreached (unreached afterTimeout 1) 2).setLine 3
    (secondMeeting.line receiverConfig .connecting [] [])) 3

/-- An attempt that finds no connection. -/
theorem final_unreached {x : Exchange} {made k : ℕ} (hnone : x.lines k = none)
    (hphase : x.receiver.connections k = .hello) (as : List WorkerAction) :
    final (Worker.step platform receiverConfig "relay-1" feed) ⟨x, .retrying made, 1, k⟩
        (.connect :: .agent .failed idle :: as) =
      final (Worker.step platform receiverConfig "relay-1" feed)
        ⟨unreached x k, if made + 1 < workerAttempts then .retrying (made + 1) else .resting, 1,
          k + 1⟩ as := by
  refine (final_cons (worker_connect hnone hphase) _).trans ?_
  exact final_cons (worker_drops (Function.update_self ..) rfl rfl) _

theorem final_abandoning : final (Worker.step platform receiverConfig "relay-1" feed)
    (Worker.start receiverConfig) abandoning = ⟨bothOnTheWay, .sending 1 3, 2, 4⟩ := by
  rw [abandoning, final_append, final_append, final_append]
  have hbegins : final (Worker.step platform receiverConfig "relay-1" feed)
      (Worker.start receiverConfig) [.fetch, .connect] = ⟨(Exchange.start receiverConfig).setLine 0
        (firstMeeting.line receiverConfig .connecting [] []), .sending 1 0, 1, 1⟩ := rfl
  rw [hbegins, final_working agreed_first rfl rfl]
  have hdrops : final (Worker.step platform receiverConfig "relay-1" feed)
      ⟨firstMeeting.opened platform receiverConfig ((Exchange.start receiverConfig).setLine 0
        (firstMeeting.line receiverConfig .connecting [] [])) 0, .sending 1 0, 1, 1⟩
      [.agent .timedOut idle, .connect, .agent .failed idle, .connect, .agent .failed idle, .fetch,
        .connect] = ⟨(unreached (unreached afterTimeout 1) 2).setLine 3
          (secondMeeting.line receiverConfig .connecting [] []), .sending 1 3, 2, 4⟩ := by
    have htimeout : Worker.step platform receiverConfig "relay-1" feed
        ⟨firstMeeting.opened platform receiverConfig ((Exchange.start receiverConfig).setLine 0
          (firstMeeting.line receiverConfig .connecting [] [])) 0, .sending 1 0, 1, 1⟩
        (.agent .timedOut idle) = ((), ⟨afterTimeout, .retrying 1, 1, 1⟩) :=
      worker_drops rfl rfl rfl
    rw [final_cons htimeout, final_unreached rfl rfl, if_pos (by decide), final_unreached rfl rfl,
      if_neg (by decide)]
    rfl
  rw [hdrops, final_working agreed_second rfl rfl]
  rfl

/-- A handler publishes the telemetry of a cycle. -/
theorem holds_published {m : Meeting} {x : Exchange} {c n n' k : ℕ} {phase : WorkerPhase}
    {connector : Connector} (hm : m.Agreed platform receiverConfig)
    (hfiltered : sanitizeSnapshot platform (feed.snapshot n) = .ok m.filtered)
    (hline : x.lines c = some ⟨connector, [frame (m.telemetry platform receiverConfig)], []⟩)
    (hphase : x.receiver.connections c =
      .opened m.identity.deviceId (m.challenge platform receiverConfig))
    (hid : m.identity.deviceId ∈ x.receiver.registry.deviceIds) :
    ∃ w, Worker.step platform receiverConfig "relay-1" feed ⟨x, phase, n', k⟩
        (.handler c (.line (frame (m.telemetry platform receiverConfig))) m.handler) = ((), w) ∧
      w.Holds platform feed m.identity.deviceId n ∧ w.phase = phase ∧ w.cycle = n' ∧
      w.connections = k ∧ (∀ c', c' ≠ c → w.exchange.lines c' = x.lines c' ∧
        w.exchange.receiver.connections c' = x.receiver.connections c') ∧
      w.exchange.receiver.registry.deviceIds = x.receiver.registry.deviceIds := by
  refine ⟨_, worker_handles hline (hm.step_publishes hline hphase hid),
    ⟨newRecord platform m.identity.deviceId 1 m.filtered m.handler.published, ?_, hfiltered⟩, rfl,
    rfl, rfl, fun c' hc' => ⟨Function.update_of_ne hc' .., Function.update_of_ne hc' ..⟩, rfl⟩
  change ((x.receiver.registry.withRecord platform
    (m.handler.publication m.identity.deviceId m.filtered)).saved).records.get? _ = _
  rw [saved_records, withRecord_records, Dict.get?_insert]
  exact if_pos rfl

/-- **The late telemetry of an abandoned attempt** takes the record back. -/
theorem goes_back_late : ∃ es w, WorkerRun platform receiverConfig "relay-1" feed es w ∧
    ¬ NeverBack platform feed agentIdentity.deviceId es := by
  have hrun : WorkerRun platform receiverConfig "relay-1" feed
      ([] ++ eventsOf (Worker.step platform receiverConfig "relay-1" feed)
        (Worker.start receiverConfig) abandoning) _ :=
    Run.start.of_calls (admits_of_forall (fun _ _ => trivial) _ _ _)
  rw [final_abandoning] at hrun
  have hid : agentIdentity.deviceId ∈ bothOnTheWay.receiver.registry.deviceIds := by decide
  -- the handler of the fourth connection gets to its telemetry first
  obtain ⟨⟨x, _, _, _⟩, hfirst, hnew, rfl, rfl, rfl, hother, hids⟩ :=
    holds_published (c := 3) agreed_second (sanitizeSnapshot_cycle (by decide)) rfl rfl hid
  obtain ⟨hline, hphase⟩ := hother 0 (by decide)
  obtain ⟨w, hsecond, hold, -⟩ := holds_published (c := 0) (x := x) agreed_first
    (sanitizeSnapshot_cycle (by decide)) hline hphase (hids ▸ hid)
  refine ⟨_, w, (hrun.next_eq trivial hfirst).next_eq trivial hsecond, fun hnever => ?_⟩
  rw [List.append_assoc] at hnever
  exact absurd (hnever _ _ (List.sublist_append_right _ _) 2 1 hnew hold) (by decide)

end Sample

open Sample in
/-- **The record goes back**: the handler of the connection that the first cycle gave up
publishes its snapshot after that of the second cycle. -/
theorem goes_back : ¬ ∀ (relayId : String) (feed : Feed) (es : List WorkerEvent) (w : Worker)
    (d : String), WorkerRun platform receiverConfig relayId feed es w →
      NeverBack platform feed d es := by
  intro hnever
  obtain ⟨es, w, hrun, hback⟩ := goes_back_late
  exact hback (hnever _ _ es w _ hrun)

open Sample in
/-- In the sample run the telemetry is not taken up in the order of the cycles. -/
theorem never_back_iff_sample : ∃ es w, WorkerRun platform receiverConfig "relay-1" feed es w ∧
    ¬ InCycleOrder platform feed agentIdentity.deviceId es := by
  obtain ⟨es, w, hrun, hback⟩ := goes_back_late
  exact ⟨es, w, hrun, fun horder => hback ((never_back_iff hrun _).mpr horder)⟩

end PrinterHmi
