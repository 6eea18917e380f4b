import PrinterHmi.Lib.FileProg
import PrinterHmi.Transport.Connector
import PrinterHmi.Transport.Retry

/-!
# The worker's loop

`RelayWorker.run` goes through its cycles without end. A cycle asks the local interface for a
snapshot, sends it in up to three attempts, counts the cycle as a success or as a failure and
writes the counts into a state file. Two handlers, the one of `run_once` that counts and the one
of `run` that goes on, name the same four classes of exceptions. What is of no class they name
ends the loop and is counted nowhere: an answer of the local interface that is no object, and
an error of the enrollment store. So the loop survives exactly if no cycle meets such an
exception (`worker_survives_iff`). A state file that cannot be written does not matter.

A cycle takes from outside what the local interface answers, how each attempt ends, the time
and the faults of the state file. The sends that an answer leads to are those of
`send_with_retries`, with the loop that is in `sendWithRetries`.
-/

namespace PrinterHmi

/-! ### The local interface -/

/-- `api_request`, given how the exchange up to the parsed answer ended. -/
def apiRequest (answer : Except Exn Json) : Except Exn Json := do
  let response ← answer
  require (response.isObj) ⟨.runtimeError, "local API response is not an object"⟩
  pure response

/-- `RelayWorker.fetch_snapshot`. -/
def fetchSnapshot (answer : Except Exn Json) : Except Exn Json := do
  let response ← apiRequest answer
  require ((response.field "ok").truthy ∧ (response.field "result").isObj)
    ⟨.relayTransportError, "local agent snapshot is unavailable"⟩
  pure (response.field "result")

/-! ### The worker -/

/-- A worker: the relay of its configuration, its counts, and the document in its state file. -/
structure RelayWorker where
  relayId : String
  successCount : ℕ
  failureCount : ℕ
  stateFile : Option Json

/-- A worker that has made no cycle. -/
def RelayWorker.new (relayId : String) (stateFile : Option Json) : RelayWorker :=
  ⟨relayId, 0, 0, stateFile⟩

/-- What one cycle takes from outside. -/
structure CycleSupply where
  /-- How the exchange with the local interface ends. -/
  answer : Except Exn Json
  /-- How an attempt to send a snapshot ends: with the challenge of a session in which the
  telemetry was acknowledged, or with an exception. -/
  attempt : Json → ℕ → Except Exn Json
  /-- The time. -/
  now : Time
  /-- Which file steps fail. -/
  faults : ℕ → Bool

/-- What `run_once` and `run` expect: `OSError` (a timeout is one), `ValueError` and
`RelayTransportError`. -/
def Expected (e : Exn) : Prop :=
  e.cls = .osError ∨ e.cls = .valueError ∨ e.cls = .relayTransportError

instance (e : Exn) : Decidable (Expected e) :=
  inferInstanceAs (Decidable (_ ∨ _ ∨ _))

namespace RelayWorker

variable (P : Platform)

/-- The document `write_state` writes. -/
def stateDocument (w : RelayWorker) (now : Time) (status : String) (result : Option Json) :
    Json :=
  .obj [("failure_count", .int w.failureCount), ("generated_at", .str (P.timestamp now)),
    ("last_sequence", match result with
      | some r => if r.truthy then r.field "sequence" else .null
      | none => .null),
    ("relay_id", .str w.relayId), ("schema_version", schemaVersion), ("status", .str status),
    ("success_count", .int w.successCount)]

/-- The file steps of `write_state`. -/
def writeState (document : Json) : FileProg (Option Json) Exn Unit := do
  FileProg.fileStep (osError "mkdir") id
  FileProg.fileStep (osError "chmod") id
  FileProg.fileStep (osError "open") id
  FileProg.tryFinally
    (do
      FileProg.fileStep (osError "write") id
      FileProg.fileStep (osError "fsync") id
      FileProg.fileStep (osError "replace") fun _ => some document
      FileProg.fileStep (osError "chmod") id)
    (FileProg.fileStep (osError "unlink") id)

/-- What `run_once` ends with, once the cycle is counted: the state is written, and if that
raises, this is what goes out. -/
def recorded (w : RelayWorker) (c : CycleSupply) (status : String) (result : Option Json)
    (outcome : Except Exn Json) : Except Exn Json × RelayWorker :=
  match (writeState (w.stateDocument P c.now status result)).run c.faults w.stateFile with
  | (.ok (), file) => (outcome, { w with stateFile := file })
  | (.error e, file) => (.error e, { w with stateFile := file })

/-- What `run_once` tries: a snapshot, and up to three sends of it. -/
def exchange (w : RelayWorker) (c : CycleSupply) : Except Exn Json := do
  let snapshot ← fetchSnapshot c.answer
  (sendWithRetries 3 fun i => (c.attempt snapshot i).map (sendResult w.relayId)).2

/-- `RelayWorker.run_once`. -/
def runOnce (w : RelayWorker) (c : CycleSupply) : Except Exn Json × RelayWorker :=
  match w.exchange c with
  | .ok result =>
    { w with successCount := w.successCount + 1 }.recorded P c "connected" (some result)
      (.ok result)
  | .error e =>
    if Expected e then
      { w with failureCount := w.failureCount + 1 }.recorded P c "unavailable" none (.error e)
    else (.error e, w)

/-- The loop of `run` between two cycles. -/
inductive Loop : Type where
  | running (w : RelayWorker)
  | ended (e : Exn) (w : RelayWorker)

/-- One cycle of the loop of `run`. -/
def cycle (w : RelayWorker) (c : CycleSupply) : Loop :=
  match w.runOnce P c with
  | (.ok _, w') => .running w'
  | (.error e, w') => if Expected e then .running w' else .ended e w'

/-- The loop of `run` after so many cycles. -/
def loop (w : RelayWorker) (cycles : ℕ → CycleSupply) : ℕ → Loop
  | 0 => .running w
  | n + 1 =>
    match loop w cycles n with
    | .running w' => w'.cycle P (cycles n)
    | .ended e w' => .ended e w'

/-- `RelayWorker.run`: what a call has come to after so many cycles, if it begins. -/
def run (w : RelayWorker) (interval : ℚ) (cycles : ℕ → CycleSupply) (n : ℕ) :
    Except Exn Loop := do
  require (¬(interval < 1 / 2 ∨ 300 < interval))
    ⟨.valueError, "interval must be between 0.5 and 300 seconds"⟩
  pure (w.loop P cycles n)

end RelayWorker

/-! ### What is claimed -/

/-- One of the two counts has gone up by one, and the other has not changed. -/
def CountedOnce (w w' : RelayWorker) : Prop :=
  (w'.successCount = w.successCount + 1 ∧ w'.failureCount = w.failureCount) ∨
    (w'.successCount = w.successCount ∧ w'.failureCount = w.failureCount + 1)

/-- **The worker survives and counts every cycle**: after each number of cycles the loop is
running, its counts have that sum, and the next cycle is counted once. -/
def SurvivesAndCounts (P : Platform) (relayId : String) (stateFile : Option Json)
    (interval : ℚ) (cycles : ℕ → CycleSupply) : Prop :=
  ∀ n, ∃ w w', (RelayWorker.new relayId stateFile).run P interval cycles n = .ok (.running w) ∧
    (RelayWorker.new relayId stateFile).run P interval cycles (n + 1) = .ok (.running w') ∧
    w.successCount + w.failureCount = n ∧ CountedOnce w w'

/-- **No cycle meets what nothing handles.** The exchange with the local interface fails only as
expected, and its answer is an object. If this holds a snapshot, no send of it that is made – one
after sends that are all retried – fails in a way that is not expected. -/
def Handled (c : CycleSupply) : Prop :=
  (∀ e, c.answer = .error e → Expected e) ∧
    ∀ response, c.answer = .ok response → response.isObj ∧
      ((response.field "ok").truthy ∧ (response.field "result").isObj →
        ∀ k < 3, (∀ i < k, Retried (c.attempt (response.field "result") i)) →
          ∀ e, c.attempt (response.field "result") k = .error e → Expected e)

/-! ### What a cycle raises -/

theorem expected_osError (step : String) : Expected (osError step) := .inl rfl

/-- Writing the state raises nothing but errors of the file. -/
theorem raises_writeState (document : Json) :
    (RelayWorker.writeState document).Raises Expected := by
  have hstep : ∀ (step : String) (f : Option Json → Option Json),
      (FileProg.fileStep (osError step) f).Raises Expected :=
    fun step => FileProg.raises_fileStep (expected_osError step)
  refine .bind (hstep _ _) fun _ => .bind (hstep _ _) fun _ => .bind (hstep _ _) fun _ =>
    .tryFinally ?_ (hstep _ _)
  exact .bind (hstep _ _) fun _ => .bind (hstep _ _) fun _ => .bind (hstep _ _) fun _ =>
    hstep _ _

section Sends

variable {α β : Type}

theorem map_eq_error_iff {f : α → β} {x : Except Exn α} {e : Exn} :
    x.map f = .error e ↔ x = .error e := by
  cases x with
  | ok a => exact iff_of_false (fun h => nomatch h) fun h => nomatch h
  | error e' =>
    constructor <;> intro h
    · exact congrArg _ (Except.error.inj h)
    · exact congrArg _ (Except.error.inj h)

theorem retried_map {f : α → β} {x : Except Exn α} : Retried (x.map f) ↔ Retried x :=
  exists_congr fun _ => and_congr_left fun _ => map_eq_error_iff

/-- **What `send_with_retries` raises is expected** exactly if every failure of a send it makes
is. -/
theorem expected_sendWithRetries_iff {n : ℕ} (hn : n ≤ 1024) (send : ℕ → Except Exn α) :
    (∀ e, (sendWithRetries (n + 1) send).2 = .error e → Expected e) ↔
      ∀ k < n + 1, (∀ i < k, Retried (send i)) → ∀ e, send k = .error e → Expected e := by
  rcases sendWithRetries_spec hn send with ⟨k, hk, hfails, hlast, hrun⟩ | ⟨hfails, hrun⟩ <;>
    rw [hrun]
  · refine ⟨fun h k' hk' hfails' e he => ?_, fun h => h k hk hfails⟩
    rcases lt_trichotomy k' k with hlt | rfl | hgt
    · obtain ⟨e', he', hclass⟩ := hfails k' hlt
      exact Except.error.inj (he.symm.trans he') ▸ .inr (.inr hclass)
    · exact h e he
    · exact (hlast (hfails' k hgt)).elim
  · refine iff_of_true (fun e he => Except.error.inj he ▸ .inr (.inr rfl)) ?_
    intro k hk _ e he
    obtain ⟨e', he', hclass⟩ := hfails k hk
    exact Except.error.inj (he.symm.trans he') ▸ .inr (.inr hclass)

end Sends

/-- What becomes of an answer of the local interface. -/
theorem fetchSnapshot_ok (response : Json) : fetchSnapshot (.ok response) =
    if response.isObj then
      if (response.field "ok").truthy ∧ (response.field "result").isObj then
        .ok (response.field "result")
      else .error ⟨.relayTransportError, "local agent snapshot is unavailable"⟩
    else .error ⟨.runtimeError, "local API response is not an object"⟩ := by
  rw [fetchSnapshot, apiRequest, Except.ok_bind_eq rfl]
  by_cases hobj : response.isObj
  · rw [require_pos hobj, if_pos hobj, Except.ok_bind_eq rfl]
    change (do
      require _ _
      pure _) = _
    by_cases hsnapshot : (response.field "ok").truthy ∧ (response.field "result").isObj
    · rw [require_pos hsnapshot, if_pos hsnapshot]
      rfl
    · rw [require_neg hsnapshot, if_neg hsnapshot]
      rfl
  · rw [require_neg hobj, if_neg hobj]
    rfl

namespace RelayWorker

variable (P : Platform)

/-- **What a cycle raises is expected** exactly if the cycle is handled. -/
theorem expected_exchange_iff (w : RelayWorker) (c : CycleSupply) :
    (∀ e, w.exchange c = .error e → Expected e) ↔ Handled c := by
  rw [exchange, Handled]
  cases c.answer with
  | error e => exact ⟨fun h => ⟨h, fun _ hc => nomatch hc⟩, fun h => h.1⟩
  | ok response =>
    rw [fetchSnapshot_ok]
    by_cases hobj : response.isObj
    swap
    · -- an exception of a class that is not named
      rw [if_neg hobj]
      refine iff_of_false (fun h => ?_) fun h => hobj (h.2 response rfl).1
      exact absurd (h _ rfl) (by decide)
    rw [if_pos hobj]
    by_cases hsnapshot : (response.field "ok").truthy ∧ (response.field "result").isObj
    · rw [if_pos hsnapshot, Except.ok_bind_eq rfl]
      refine (expected_sendWithRetries_iff (n := 2) (by decide) _).trans ?_
      simp only [retried_map, map_eq_error_iff]
      constructor
      · intro h
        refine ⟨fun _ hc => (nomatch hc), fun _ hresponse => ?_⟩
        obtain rfl := Except.ok.inj hresponse
        exact ⟨hobj, fun _ => h⟩
      · intro h
        exact (h.2 response rfl).2 hsnapshot
    · rw [if_neg hsnapshot]
      -- without a snapshot `fetch_snapshot` raises an error of the transport
      refine iff_of_true (fun e he => Except.error.inj he ▸ by decide) ?_
      refine ⟨fun _ hc => (nomatch hc), fun _ hresponse => ?_⟩
      obtain rfl := Except.ok.inj hresponse
      exact ⟨hobj, fun hc => (hsnapshot hc).elim⟩

/-- Recording leaves the counts, and ends as before or with an error of the file. -/
theorem recorded_cases (w : RelayWorker) (c : CycleSupply) (status : String)
    (result : Option Json) (outcome : Except Exn Json) :
    ∃ outcome' file, w.recorded P c status result outcome =
        (outcome', { w with stateFile := file }) ∧
      (outcome' = outcome ∨ ∃ e, outcome' = .error e ∧ Expected e) := by
  rw [recorded]
  rcases hrun : (writeState (w.stateDocument P c.now status result)).run c.faults w.stateFile
    with ⟨_ | _, file⟩
  · exact ⟨_, file, rfl, .inr ⟨_, rfl, (raises_writeState _).run hrun⟩⟩
  · exact ⟨outcome, file, rfl, .inl rfl⟩

/-- **A handled cycle** is counted, and the loop goes on. -/
theorem cycle_of_handled (w : RelayWorker) {c : CycleSupply} (h : Handled c) :
    ∃ w', w.cycle P c = .running w' ∧ CountedOnce w w' := by
  rw [cycle, runOnce]
  have hexpected := (expected_exchange_iff w c).mpr h
  cases hexchange : w.exchange c with
  | ok result =>
    obtain ⟨outcome, file, hrecorded, houtcome⟩ := recorded_cases P
      { w with successCount := w.successCount + 1 } c "connected" (some result) (.ok result)
    simp only [hrecorded]
    rcases houtcome with rfl | ⟨e, rfl, he⟩
    · exact ⟨_, rfl, .inl ⟨rfl, rfl⟩⟩
    · exact ⟨_, if_pos he, .inl ⟨rfl, rfl⟩⟩
  | error e =>
    have he := hexpected e hexchange
    obtain ⟨outcome, file, hrecorded, houtcome⟩ := recorded_cases P
      { w with failureCount := w.failureCount + 1 } c "unavailable" none (.error e)
    simp only [if_pos he, hrecorded]
    rcases houtcome with rfl | ⟨e', rfl, he'⟩
    · exact ⟨_, if_pos he, .inr ⟨rfl, rfl⟩⟩
    · exact ⟨_, if_pos he', .inr ⟨rfl, rfl⟩⟩

/-- **Any other cycle** ends the loop and is not counted. -/
theorem cycle_of_not_handled (w : RelayWorker) {c : CycleSupply} (h : ¬Handled c) :
    ∃ e, w.cycle P c = .ended e w ∧ ¬Expected e := by
  rw [← expected_exchange_iff w c] at h
  push Not at h
  obtain ⟨e, hexchange, he⟩ := h
  refine ⟨e, ?_, he⟩
  simp only [cycle, runOnce, hexchange, if_neg he]

/-! ### The loop -/

/-- The loop after one cycle more. -/
theorem loop_succ {w w' : RelayWorker} {cycles : ℕ → CycleSupply} {n : ℕ}
    (h : w.loop P cycles n = .running w') : w.loop P cycles (n + 1) = w'.cycle P (cycles n) := by
  rw [loop, h]

/-- **The loop after so many cycles**, all of them handled: it is running, and has counted
each. -/
theorem loop_of_handled (w : RelayWorker) {cycles : ℕ → CycleSupply} (n : ℕ)
    (h : ∀ i < n, Handled (cycles i)) : ∃ w', w.loop P cycles n = .running w' ∧
      w'.successCount + w'.failureCount = w.successCount + w.failureCount + n := by
  induction n with
  | zero => exact ⟨w, rfl, rfl⟩
  | succ n ih =>
    obtain ⟨w', hrunning, hcount⟩ := ih fun i hi => h i (Nat.lt_succ_of_lt hi)
    obtain ⟨w'', hcycle, hcounted⟩ := cycle_of_handled P w' (h n (Nat.lt_succ_self n))
    refine ⟨w'', (loop_succ P hrunning).trans hcycle, ?_⟩
    rcases hcounted with ⟨hs, hf⟩ | ⟨hs, hf⟩ <;> omega

end RelayWorker

/-- A run that has begun goes through the loop. -/
theorem RelayWorker.run_eq_ok {P : Platform} {w : RelayWorker} {interval : ℚ}
    {cycles : ℕ → CycleSupply} {n : ℕ} {l : RelayWorker.Loop}
    (h : w.run P interval cycles n = .ok l) : w.loop P cycles n = l := by
  obtain ⟨-, -, h⟩ := Except.bind_eq_ok.mp h
  exact Except.ok.inj h

/-- A worker that survives meets no cycle that is not handled. -/
theorem handled_of_survives {P : Platform} {relayId : String} {stateFile : Option Json}
    {interval : ℚ} {cycles : ℕ → CycleSupply}
    (h : SurvivesAndCounts P relayId stateFile interval cycles) (n : ℕ) : Handled (cycles n) := by
  obtain ⟨w, w', hrunning, hnext, -⟩ := h n
  by_contra hc
  obtain ⟨e, hended, -⟩ := RelayWorker.cycle_of_not_handled P w hc
  have hloop := RelayWorker.loop_succ P (RelayWorker.run_eq_ok hrunning)
  rw [hended, RelayWorker.run_eq_ok hnext] at hloop
  cases hloop

/-- **The worker survives and counts every cycle exactly if each is handled**: an answer of the
local interface that is no object, or a failure of the enrollment store in a send, ends the loop
and is counted neither as a success nor as a failure. -/
theorem worker_survives_iff (P : Platform) (relayId : String) (stateFile : Option Json)
    {interval : ℚ} (hinterval : 1 / 2 ≤ interval ∧ interval ≤ 300) (cycles : ℕ → CycleSupply) :
    SurvivesAndCounts P relayId stateFile interval cycles ↔ ∀ n, Handled (cycles n) := by
  refine ⟨handled_of_survives, fun h n => ?_⟩
  have hrun : ∀ n, (RelayWorker.new relayId stateFile).run P interval cycles n =
      .ok ((RelayWorker.new relayId stateFile).loop P cycles n) := fun n => by
    rw [RelayWorker.run, require_pos (not_or.mpr ⟨hinterval.1.not_gt, hinterval.2.not_gt⟩)]
    rfl
  obtain ⟨w, hrunning, hcount⟩ :=
    RelayWorker.loop_of_handled P (RelayWorker.new relayId stateFile) n fun i _ => h i
  obtain ⟨w', hcycle, hcounted⟩ := RelayWorker.cycle_of_handled P w (h n)
  refine ⟨w, w', ?_, ?_, hcount.trans (Nat.zero_add n), hcounted⟩
  · rw [hrun, hrunning]
  · rw [hrun, RelayWorker.loop_succ P hrunning, hcycle]

/-- A snapshot is there in every cycle; the first send of each breaks, the second is
acknowledged, and the state file cannot be written. -/
theorem worker_survives_iff_sample :
    let snapshot : Json := .obj [("ok", .bool true), ("result", .obj [])]
    let cycles : ℕ → CycleSupply := fun _ =>
      { answer := .ok snapshot
        attempt := fun _ i =>
          if i = 0 then .error ⟨.relayTransportError, "secure relay connection failed"⟩
          else .ok (.obj [])
        now := 0
        faults := fun _ => true }
    SurvivesAndCounts Sample.platform "relay-1" none 2 cycles := by
  intro snapshot cycles
  refine (worker_survives_iff Sample.platform "relay-1" none (by norm_num) cycles).mpr fun n => ?_
  refine ⟨fun e he => (nomatch he), fun response hresponse => ?_⟩
  obtain rfl := Except.ok.inj hresponse
  refine ⟨rfl, fun _ k hk _ e he => ?_⟩
  by_cases h : k = 0
  · exact Except.error.inj ((if_pos h).symm.trans he) ▸ .inr (.inr rfl)
  · exact absurd ((if_neg h).symm.trans he) fun hc => nomatch hc

/-- The local interface answers with a list, which ends the loop in its first cycle. -/
theorem worker_not_surviving :
    ¬ ∀ cycles : ℕ → CycleSupply,
      SurvivesAndCounts Sample.platform "relay-1" none 2 cycles := by
  intro h
  have hhandled := handled_of_survives
    (h fun _ => ⟨.ok (.arr []), fun _ _ => .ok (.obj []), 0, fun _ => false⟩) 0
  exact absurd (hhandled.2 _ rfl).1 (by decide)

/-- An attempt for which the store has no identity raises the error of the store. -/
theorem attempt_raises {P : Platform} {k : Connector} {env : ConnectorSupply} {e : Exn}
    (hphase : k.phase = .connecting) (hidentity : env.identity P = .error e)
    (he : e.cls = .enrollmentError) :
    (k.step P .connected env).2.phase = .raised e ∧ ¬Expected e := by
  have hhello : writeHello P env = .error e := by
    rw [writeHello, createAgentHello, hidentity]
    rfl
  constructor
  · simp only [Connector.step, hphase, hhello, Connector.raise, connectionFailure, he]
    rfl
  · rw [Expected, he]
    decide

end PrinterHmi
