import PrinterHmi.Receiver.Publication

/-!
# What is sent and what is stored

The agent filters a snapshot before it sends it, the receiver filters what it is sent
and compares. The two agree: whatever the filter makes of a snapshot fits the frame, is
read back as it was, passes the comparison and is what the receiver stores
(`telemetry_agreed`).

They agree on the holes of the filter as well. It copies the time of the snapshot as it
stands, whatever that is, and the instances under their own names; what is private in
there is sent and stored. Nothing else is (`privateFree_iff`).
-/

namespace PrinterHmi

variable {ι : Type} [DecidableEq ι] {P : Platform}

/-! ### Accepting telemetry -/

/-- **The receiver's checks accept what the agent sends**, and what they let through is
what the filter made. -/
theorem readTelemetry_sendTelemetry {x y : Json} (hx : x.ordered = true)
    (h : sanitizeSnapshot P x = .ok y) (sessionId : Uuid) :
    ∃ payload, sendTelemetry P sessionId.1 x = .ok payload ∧
      readFrame payload = .ok (telemetryEnvelope sessionId.1 y) ∧
      ∀ challenge : Json, challenge.field "session_id" = .str sessionId.1 →
        readTelemetry P challenge payload = .ok y := by
  have hwrite := writeFrame_telemetryEnvelope h (length_uuid sessionId)
  have hread := readFrame_writeFrame
    (ordered_telemetryEnvelope (ordered_sanitizeSnapshot hx h)) rfl hwrite
  refine ⟨_, (Except.ok_bind_eq h _).trans hwrite, hread, fun challenge hid => ?_⟩
  have hnames : (telemetryEnvelope sessionId.1 y).hasFields telemetryFields = true := by
    simp [Json.hasFields, Json.isObj, Json.names, telemetryEnvelope, telemetryFields]
  refine readTelemetry_eq_ok.mpr ⟨_, hread, hnames, rfl, rfl, ?_, rfl,
    sanitizeSnapshot_sanitized h, Json.pyEq_refl y⟩
  rw [hid]
  exact Json.pyEq_refl _

/-- The acknowledgement of a session fits its frame. -/
theorem writeFrame_telemetryAck {challenge : Json} {sessionId : Uuid}
    (hid : challenge.field "session_id" = .str sessionId.1) :
    ∃ payload, writeFrame (telemetryAck challenge) = .ok payload := by
  refine ⟨_, writeFrame_of_lengthBound ?_⟩
  have hnames : Json.stringBound "protocol_version" + Json.stringBound "sequence" +
      Json.stringBound "session_id" + Json.stringBound "type" +
      Json.stringBound "relay.telemetry-ack" ≤ 1000 := by decide
  have hint : (Json.intText 1).length = 1 := rfl
  simp only [telemetryAck, hid, protocolVersion, Json.lengthBound, Json.lengthBoundFields, hint,
    maxFrameBytes]
  have hvalue : Json.stringBound sessionId.1 = 434 := by rw [Json.stringBound, length_uuid]
  omega

/-- **Telemetry that passes is stored**, whichever file steps fail, and acknowledged if
none does. -/
theorem step_telemetry (config : ReceiverConfig) {r : Receiver} {c : ℕ} {d : String}
    {challenge y : Json} {raw : Bytes} (env : HandlerSupply) {sessionId : Uuid}
    (hphase : r.connections c = .opened d challenge) (hd : d ∈ r.registry.deviceIds)
    (hid : challenge.field "session_id" = .str sessionId.1)
    (hread : readTelemetry P challenge raw = .ok y) :
    (r.step P config c (.line raw) env).2.registry.records =
        r.registry.records.insert d (newRecord P d 1 y env.published) ∧
      (env.faults = (fun _ => false) → ∃ ack, writeFrame (telemetryAck challenge) = .ok ack ∧
        (r.step P config c (.line raw) env).1 = some ack) := by
  obtain ⟨ack, hack⟩ := writeFrame_telemetryAck hid
  -- the record is put in memory before a file step can fail; without a failure it is acknowledged
  constructor
  · obtain ⟨-, -, hrecords⟩ :=
      (publish_spec (P := P) d 1 y env.published r.registry).run env.faults
    rw [if_pos hd] at hrecords
    rw [← hrecords]
    unfold Receiver.step Receiver.receive
    rw [hphase]
    dsimp only
    rw [hread]
    dsimp only
    rcases (Registry.publish P d 1 y env.published).run env.faults r.registry with
      ⟨_ | _, registry⟩
    · exact Receiver.finish_records
    · dsimp only
      rw [Receiver.answer, hack]
      rfl
  · intro hfaults
    have hrun := (FileProg.run_no_fault _ r.registry).trans
      (exec_publish (P := P) hd 1 y env.published)
    rw [← hfaults] at hrun
    exact ⟨ack, hack, by rw [Receiver.step_opened hphase hread hrun hack]⟩

variable {config : ι → ReceiverConfig} {es : List (ReceiverEvent ι)} {s : ι → Receiver}
  {allowed : List (ReceiverEvent ι) → ReceiverAction ι → Prop}

/-- No step changes which devices a registry is for. -/
theorem deviceIds_step {e : ReceiverEvent ι}
    (he : receiversStep P config e.before e.call = (e.result, e.after)) (i : ι) :
    (e.after i).registry.deviceIds = (e.before i).registry.deviceIds := by
  obtain ⟨hhandled, hframe⟩ := handled_of_step he
  by_cases hi : i = e.call.receiver
  swap
  · rw [hframe i hi]
  subst hi
  generalize e.after e.call.receiver = r' at hhandled ⊢
  generalize e.result = out at hhandled
  generalize e.call.input = input at hhandled
  cases hhandled with
  | waits => rfl
  | ends _ hids => exact hids
  | challenges => rfl
  | opens _ _ _ hids => exact hids
  | publishes _ _ _ _ hids => exact hids

/-- The registries of a run are for the devices that are enrolled. -/
theorem deviceIds_of_run (hrun : Run (receiversStep P config) allowed (receiversStart config) es s) :
    ∀ i, (s i).registry.deviceIds = (config i).devices.entries.map Prod.fst :=
  hrun.invariant (I := fun _ s => ∀ i, (s i).registry.deviceIds =
    (config i).devices.entries.map Prod.fst) (fun _ => rfl)
    fun _ s a _ ih _ i => (deviceIds_step (e := ⟨s, a, (receiversStep P config s a).1,
      (receiversStep P config s a).2⟩) rfl i).trans (ih i)

/-- An open session belongs to an enrolled device, and has the identifier of its
challenge. -/
theorem session_of_opened (hrun : Run (receiversStep P config) allowed (receiversStart config) es s)
    {i : ι} {c : ℕ} {d : String} {challenge : Json}
    (hopen : (s i).connections c = .opened d challenge) :
    d ∈ (s i).registry.deviceIds ∧
      ∃ sessionId : Uuid, challenge.field "session_id" = .str sessionId.1 := by
  have hbacked := backed hrun i c
  rw [hopen] at hbacked
  obtain ⟨auth, -, hissued, -, henrolled, -⟩ := hbacked
  rw [deviceIds_of_run hrun]
  exact ⟨List.mem_map_of_mem (Dict.mem_entries_iff.mpr henrolled), _, hissued.fields.2.1⟩

variable (config) in
/-- **Sender and receiver agree on telemetry**: what the filter makes of a snapshot it
makes of that again; the envelope around it fits the frame and is read back; the checks
of the receiver accept it; and on an open session of any run it is what is stored. -/
theorem telemetry_agreed {x y : Json} (hx : x.ordered = true) (h : sanitizeSnapshot P x = .ok y) :
    sanitizeSnapshot P y = .ok y ∧
    (∀ sessionId : Uuid, ∃ payload, sendTelemetry P sessionId.1 x = .ok payload ∧
      readFrame payload = .ok (telemetryEnvelope sessionId.1 y) ∧
      ∀ challenge : Json, challenge.field "session_id" = .str sessionId.1 →
        readTelemetry P challenge payload = .ok y) ∧
    ∀ (es : List (ReceiverEvent ι)) (s : ι → Receiver) (i : ι) (c : ℕ) (d : String)
      (challenge : Json) (env : HandlerSupply),
      Run (receiversStep P config) (fun _ _ => True) (receiversStart config) es s →
      (s i).connections c = .opened d challenge →
      ∃ (sessionId : Uuid) (payload : Bytes), challenge.field "session_id" = .str sessionId.1 ∧
        sendTelemetry P sessionId.1 x = .ok payload ∧
        ((receiversStep P config s ⟨i, c, .line payload, env⟩).2 i).registry.records =
          (s i).registry.records.insert d (newRecord P d 1 y env.published) ∧
        (env.faults = (fun _ => false) → ∃ ack, writeFrame (telemetryAck challenge) = .ok ack ∧
          (receiversStep P config s ⟨i, c, .line payload, env⟩).1 = some ack) := by
  refine ⟨sanitizeSnapshot_sanitized h, readTelemetry_sendTelemetry hx h, ?_⟩
  intro es s i c d challenge env hrun hopen
  obtain ⟨hd, sessionId, hid⟩ := session_of_opened hrun hopen
  obtain ⟨payload, hsend, -, hread⟩ := readTelemetry_sendTelemetry hx h sessionId
  obtain ⟨hrecords, hack⟩ := step_telemetry (config i) env hopen hd hid (hread challenge hid)
  refine ⟨sessionId, payload, hid, hsend, ?_, hack⟩
  rw [← hrecords, receiversStep_of_step rfl]
  exact congrArg (fun r : Receiver => r.registry.records) (Function.update_self i _ s)

/-! ### What is private in what is stored -/

/-- **What is stored was sent**: filtered, from telemetry the run received. -/
theorem stored_of_run (hrun : Run (receiversStep P config) allowed (receiversStart config) es s) :
    ∀ i d record, (s i).registry.records.get? d = some record →
      ∃ e ∈ es, ∃ c telemetry, Received e i c telemetry ∧
        sanitizeSnapshot P (telemetry.field "snapshot") = .ok record.snapshot := by
  refine hrun.invariant (I := fun es s => ∀ i d record,
    (s i).registry.records.get? d = some record → ∃ e ∈ es, ∃ c telemetry, Received e i c telemetry ∧
      sanitizeSnapshot P (telemetry.field "snapshot") = .ok record.snapshot)
    (fun _ _ _ h => by cases h) ?_
  intro es s a _ ih _ i d record hrecord
  by_cases hchange : ((receiversStep P config s a).2 i).registry.records.get? d =
      (s i).registry.records.get? d
  · obtain ⟨e, he, h⟩ := ih i d record (hchange ▸ hrecord)
    exact ⟨e, List.mem_append_left _ he, h⟩
  · obtain ⟨-, -, challenge, telemetry, record', -, hreceived, -, hsanitized, -, hrecords⟩ :=
      changed_record (e := ⟨s, a, (receiversStep P config s a).1,
        (receiversStep P config s a).2⟩) rfl hchange
    dsimp only at hrecords
    rw [hrecords, Dict.get?_insert, if_pos rfl] at hrecord
    obtain rfl := Option.some.inj hrecord
    exact ⟨_, List.mem_append_right _ (List.mem_singleton.mpr rfl), _, telemetry, hreceived,
      hsanitized⟩

variable (P config) in
/-- **What is private in a filtered snapshot**, and so in a stored one, is what the
filter copied: no private key at any depth exactly when there is none below the time of
the snapshot and no instance is named by one. -/
theorem privateFree_iff :
    (∀ d y, sanitizeSnapshot P d = .ok y → (PrivateFree P y ↔ CopiedPublic P d)) ∧
    ∀ (es : List (ReceiverEvent ι)) (s : ι → Receiver),
      Run (receiversStep P config) (fun _ _ => True) (receiversStart config) es s →
      (∀ e ∈ es, ∀ i c telemetry, Received e i c telemetry →
        CopiedPublic P (telemetry.field "snapshot")) →
      ∀ i d record, (s i).registry.records.get? d = some record →
        PrivateFree P record.snapshot := by
  refine ⟨fun d y h => privateFree_sanitizeSnapshot_iff h, ?_⟩
  intro es s hrun hpublic i d record hrecord
  obtain ⟨e, he, c, telemetry, hreceived, hsanitized⟩ := stored_of_run hrun i d record hrecord
  exact (privateFree_sanitizeSnapshot_iff hsanitized).mpr (hpublic e he i c telemetry hreceived)

namespace Sample

/-- A sample snapshot that is sent on the open session is stored. -/
theorem stores {x y : Json} (hx : x.ordered = true) (h : sanitizeSnapshot platform x = .ok y) :
    ∃ es s record, SampleRun es s ∧ (s ()).registry.records.get? device = some record ∧
      record.snapshot = y := by
  obtain ⟨es, s, hrun, hcalls, hopen, -, hids⟩ := reaches_opened
  obtain ⟨payload, -, -, hread⟩ := readTelemetry_sendTelemetry hx h sessionId
  obtain ⟨hrecords, -⟩ := step_telemetry receiverConfig (handlerSupply (repeated 87) (moment 4))
    hopen (by simp [hids]) rfl (hread session rfl)
  rcases hstep : (s ()).step platform receiverConfig 0 (.line payload)
    (handlerSupply (repeated 87) (moment 4)) with ⟨out, r'⟩
  rw [hstep] at hrecords
  have hnonce : ∀ a ∈ opening, a.env.nonce ≠ telling.env.nonce := by decide
  refine ⟨_, _, newRecord platform device 1 y (moment 4), hrun.next_step
    (a := ⟨(), 0, .line payload, handlerSupply (repeated 87) (moment 4)⟩) (by rwa [hcalls])
      hstep, ?_, rfl⟩
  rw [Function.update_self, hrecords, Dict.get?_insert, if_pos rfl]
  rfl

/-- A snapshot whose time is an object with a private key, and whose instance is named
by one. -/
def leaking : Json :=
  snapshotDocument (.obj [("hostname", .str "workshop")])
    [("host", .obj [("connected", .bool true)])]

theorem sanitizeSnapshot_leaking : sanitizeSnapshot platform leaking = .ok leaking := by
  refine sanitizeSnapshot_eq_ok.mpr ⟨rfl, rfl, _, rfl, by simp [Json.isObj], ?_, by decide⟩
  rw [length_canonical]
  exact leaking.length_encode_le.trans (by decide)

end Sample

open Sample in
/-- **Private keys leave the host and are stored**: the filter accepts a snapshot and
leaves them in it, and a receiver stores it. -/
theorem private_stored : ∃ d, sanitizeSnapshot platform d = .ok d ∧ ¬PrivateFree platform d ∧
    ∃ es s record, SampleRun es s ∧ (s ()).registry.records.get? device = some record ∧
      record.snapshot = d :=
  ⟨leaking, sanitizeSnapshot_leaking, by rw [PrivateFree]; decide,
    stores (by decide) sanitizeSnapshot_leaking⟩

open Sample in
/-- Nothing private is sent in the sample session, nor stored. -/
theorem privateFree_iff_sample :
    (PrivateFree platform snapshot ↔ CopiedPublic platform snapshot) ∧
    ∃ es s record, SampleRun es s ∧ es.map Event.call = opening ++ [telling] ∧
      (s ()).registry.records.get? device = some record ∧ record.snapshot = snapshot ∧
      PrivateFree platform record.snapshot := by
  obtain ⟨hfilter, hruns⟩ := privateFree_iff platform fun _ : Unit => receiverConfig
  obtain ⟨pre, e, hrun, hcalls, hcall, -, -, hafter⟩ := reaches_published
  have hcalls' : (pre ++ [e]).map Event.call = opening ++ [telling] := by
    rw [List.map_append, hcalls, List.map_singleton, hcall]
  have hpublic : ∀ e' ∈ pre ++ [e], ∀ i c document, Received e' i c document →
      CopiedPublic platform (document.field "snapshot") := by
    intro e' he' i c document hreceived
    have hdocument := received_sample (hcalls' ▸ List.mem_map_of_mem he') hreceived
    simp only [List.mem_cons, List.not_mem_nil, or_false] at hdocument
    rcases hdocument with rfl | rfl | rfl
    all_goals
      rw [CopiedPublic, PrivateFree]
      decide
  exact ⟨hfilter snapshot snapshot sanitizeSnapshot_sample, _, _, _, hrun, hcalls', hafter, rfl,
    hruns _ _ (hrun.mono fun _ _ _ => trivial) hpublic () device _ hafter⟩

open Sample in
/-- The sample snapshot is sent and stored as it is. -/
theorem telemetry_agreed_sample : sanitizeSnapshot platform snapshot = .ok snapshot ∧
    (∃ payload, sendTelemetry platform sessionId.1 snapshot = .ok payload ∧
      readTelemetry platform session payload = .ok snapshot) ∧
    ∃ es s, SampleRun es s ∧ (s ()).connections 0 = .opened device session ∧
      ∃ payload, ((receiversStep platform (fun _ => receiverConfig) s
          ⟨(), 0, .line payload, handlerSupply (repeated 87) (moment 4)⟩).2 ()).registry.records =
        (s ()).registry.records.insert device (newRecord platform device 1 snapshot (moment 4)) := by
  obtain ⟨hagain, hsend, hstored⟩ := telemetry_agreed (fun _ : Unit => receiverConfig)
    (by decide) sanitizeSnapshot_sample
  obtain ⟨payload, hpayload, -, hread⟩ := hsend sessionId
  obtain ⟨es, s, hrun, -, hopen, -, -⟩ := reaches_opened
  obtain ⟨-, payload', -, -, hrecords, -⟩ := hstored es s () 0 device session
    (handlerSupply (repeated 87) (moment 4)) (hrun.mono fun _ _ _ => trivial) hopen
  exact ⟨hagain, ⟨payload, hpayload, hread session rfl⟩, es, s, hrun, hopen, payload', hrecords⟩

end PrinterHmi
