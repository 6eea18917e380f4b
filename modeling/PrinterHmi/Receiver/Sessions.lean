import Mathlib.Data.Set.Card
import PrinterHmi.Receiver.Publication

/-!
# The count of open sessions

The registry counts the sessions of a device up when a handler opens one and down when the
handler ends, in two places of the code that are tied together by a flag. Between them the
handler may end at any of its waits. The count is right all the same, for every interleaving
of any number of handlers (`sessions_accounted`): it is the number of handlers that have
opened a session of the device and not closed it yet.

So the lower bound of the count is never what keeps it from falling below zero, and the count
is zero whenever no handler is under way.
-/

namespace PrinterHmi

/-! ### Who holds what

A family of indices, each of which holds at most one thing. -/

section Holders

variable {ι α : Type} [DecidableEq ι] {f : ι → Option α} {i : ι} {a : α} {v : Option α}

/-- The indices that hold a thing. -/
def holders (f : ι → Option α) (a : α) : Set ι := {i | f i = some a}

/-- An index that holds the same as before changes nothing. -/
theorem holders_update_of_eq (h : v = f i) (a : α) :
    holders (Function.update f i v) a = holders f a := by
  rw [h, Function.update_eq_self]

theorem holders_update_of_ne (hold : f i ≠ some a) (hnew : v ≠ some a) :
    holders (Function.update f i v) a = holders f a := by
  ext j
  simp only [holders, Set.mem_ofPred_eq, Function.update_apply]
  by_cases hj : j = i
  · subst hj
    rw [if_pos rfl]
    exact iff_of_false hnew hold
  · rw [if_neg hj]

/-- An index that takes hold of a thing. -/
theorem holders_update_insert (hnew : v = some a) :
    holders (Function.update f i v) a = insert i (holders f a) := by
  ext j
  simp only [holders, Set.mem_ofPred_eq, Set.mem_insert_iff, Function.update_apply]
  by_cases hj : j = i
  · subst hj
    rw [if_pos rfl]
    exact iff_of_true hnew (.inl rfl)
  · rw [if_neg hj]
    exact (or_iff_right hj).symm

/-- An index that lets go of a thing. -/
theorem holders_update_diff (hnew : v ≠ some a) :
    holders (Function.update f i v) a = holders f a \ {i} := by
  ext j
  simp only [holders, Set.mem_ofPred_eq, Set.mem_sdiff, Set.mem_singleton_iff, Function.update_apply]
  by_cases hj : j = i
  · subst hj
    rw [if_pos rfl]
    exact iff_of_false hnew fun hc => hc.2 rfl
  · rw [if_neg hj]
    exact (and_iff_left hj).symm

end Holders

/-! ### Sessions -/

/-- The device whose session a handler has opened and not closed yet. -/
def Phase.session? : Phase → Option String
  | .opened id _ | .acknowledging id => some id
  | _ => none

/-- `active_sessions` of a device. -/
def Registry.active (r : Registry) (id : String) : ℤ := (r.activeSessions.get? id).getD 0

theorem active_sessionOpened (r : Registry) (id other : String) :
    (r.sessionOpened id).active other = if id = other then r.active other + 1 else r.active other := by
  rw [Registry.active, Registry.sessionOpened, Dict.get?_insert]
  by_cases h : id = other
  · subst h
    rw [if_pos rfl, if_pos rfl]
    rfl
  · rw [if_neg h, if_neg h]
    rfl

theorem active_sessionClosed (r : Registry) (id other : String) :
    (r.sessionClosed id).active other =
      if id = other then max 0 (r.active other - 1) else r.active other := by
  rw [Registry.active, Registry.sessionClosed, Dict.get?_insert]
  by_cases h : id = other
  · subst h
    rw [if_pos rfl, if_pos rfl]
    rfl
  · rw [if_neg h, if_neg h]
    rfl

namespace Receiver

/-- The session each handler has open. -/
def held (r : Receiver) (c : ℕ) : Option String := (r.connections c).session?

/-- The handlers with an open session of a device. -/
def openSessions (r : Receiver) (id : String) : Set ℕ := holders r.held id

/-- **The sessions are accounted for**: of each device as many are counted as handlers have
opened and not closed. -/
structure Balanced (r : Receiver) : Prop where
  finite (id : String) : (r.openSessions id).Finite
  count (id : String) : r.registry.active id = (r.openSessions id).ncard

section Balance

variable {r : Receiver} {c : ℕ} {phase : Phase} {id : String}

/-- The sessions of a receiver one of whose handlers has moved. -/
theorem held_move (r : Receiver) (c : ℕ) (phase : Phase) :
    (r.move c phase).held = Function.update r.held c phase.session? :=
  Function.comp_update Phase.session? r.connections c phase

/-- Only the counts and the connections matter. -/
theorem Balanced.congr {r' : Receiver} (hr : r.Balanced) (hconnections : r'.connections = r.connections)
    (hactive : r'.registry.activeSessions = r.registry.activeSessions) : r'.Balanced := by
  have hheld : r'.held = r.held := by
    funext c
    rw [held, hconnections, held]
  have hopen (id : String) : r'.openSessions id = r.openSessions id :=
    congrArg (holders · id) hheld
  refine ⟨fun id => hopen id ▸ hr.finite id, fun id => ?_⟩
  rw [hopen, ← hr.count id, Registry.active, hactive, Registry.active]

/-- A handler that moves on within its session, or without one. -/
theorem Balanced.move (hr : r.Balanced) (hsame : phase.session? = r.held c) :
    (r.move c phase).Balanced := by
  have hopen (id : String) : (r.move c phase).openSessions id = r.openSessions id := by
    rw [openSessions, held_move, holders_update_of_eq hsame]
    rfl
  refine ⟨fun id => hopen id ▸ hr.finite id, fun id => ?_⟩
  rw [hopen]
  exact hr.count id

/-- **A handler that opens a session** is counted. -/
theorem Balanced.opened (hr : r.Balanced) (hnone : r.held c = none)
    (hsome : phase.session? = some id) :
    ({ r with registry := r.registry.sessionOpened id }.move c phase).Balanced := by
  have hupdate (other : String) :
      ({ r with registry := r.registry.sessionOpened id }.move c phase).openSessions other =
        holders (Function.update r.held c phase.session?) other :=
    congrArg (holders · other) (held_move _ c phase)
  -- the connection held no session, and holds one of this device now
  have hold (other : String) : r.held c ≠ some other := by
    rw [hnone]
    exact nofun
  have hnew {other : String} (h : id ≠ other) : phase.session? ≠ some other := by
    rw [hsome]
    exact fun hc => h (Option.some.inj hc)
  refine ⟨fun other => ?_, fun other => ?_⟩
  · rw [hupdate]
    by_cases h : id = other
    · subst h
      rw [holders_update_insert hsome]
      exact (hr.finite id).insert c
    · rw [holders_update_of_ne (hold other) (hnew h)]
      exact hr.finite other
  · rw [hupdate, move_registry, active_sessionOpened]
    by_cases h : id = other
    · subst h
      have hmem : c ∉ r.openSessions id := hold id
      rw [if_pos rfl, holders_update_insert hsome, hr.count id]
      exact_mod_cast (Set.ncard_insert_of_notMem hmem (hr.finite id)).symm
    · rw [if_neg h, holders_update_of_ne (hold other) (hnew h)]
      exact hr.count other

/-- **A handler that closes its session** is not counted any more; until then it was, so that
the count does not reach its lower bound too early. -/
theorem Balanced.closed (hr : r.Balanced) (hsome : r.held c = some id)
    (hnone : phase.session? = none) :
    ({ r with registry := r.registry.sessionClosed id }.move c phase).Balanced := by
  have hupdate (other : String) :
      ({ r with registry := r.registry.sessionClosed id }.move c phase).openSessions other =
        holders (Function.update r.held c phase.session?) other :=
    congrArg (holders · other) (held_move _ c phase)
  have hnew (other : String) : phase.session? ≠ some other := by
    rw [hnone]
    exact nofun
  refine ⟨fun other => ?_, fun other => ?_⟩
  · rw [hupdate, holders_update_diff (hnew other)]
    exact (hr.finite other).sdiff
  · rw [hupdate, move_registry, active_sessionClosed]
    by_cases h : id = other
    · subst h
      have hmem : c ∈ r.openSessions id := hsome
      -- the count was at least one, so the bound at zero does nothing
      have hpred := Set.ncard_sdiff_singleton_add_one hmem (hr.finite id)
      rw [if_pos rfl, holders_update_diff (hnew id), hr.count id, ← hpred]
      push_cast
      rw [add_sub_cancel_right]
      exact max_eq_right (Int.natCast_nonneg _)
    · have hold : r.held c ≠ some other := by
        rw [hsome]
        exact fun hc => h (Option.some.inj hc)
      rw [if_neg h, holders_update_of_ne hold (hnew other)]
      exact hr.count other

/-- A handler that ends closes its session, if it has one. -/
theorem Balanced.finish (hr : r.Balanced) : (r.finish c).Balanced := by
  rw [Receiver.finish]
  cases hphase : r.connections c with
  | opened id challenge => exact hr.closed (congrArg Phase.session? hphase) rfl
  | acknowledging id => exact hr.closed (congrArg Phase.session? hphase) rfl
  | hello => exact hr.move (congrArg Phase.session? hphase).symm
  | challenged => exact hr.move (congrArg Phase.session? hphase).symm
  | closed => exact hr.move (congrArg Phase.session? hphase).symm

/-- A handler that raises ends. -/
theorem Balanced.fail (hr : r.Balanced) : (r.fail c).Balanced :=
  Balanced.finish (r := { r with errors := r.errors + 1 }) (hr.congr rfl rfl)

/-- A handler that writes a frame waits for it, or ends if the frame is too long. -/
theorem Balanced.answer {document : Json} (hr : (r.move c phase).Balanced) :
    (r.answer c phase document).2.Balanced := by
  rcases answer_cases r c phase document with ⟨payload, -, hanswer⟩ | hanswer
  · rw [hanswer]
    exact hr
  · rw [hanswer]
    exact hr.fail

end Balance

section Step

variable {P : Platform} {config : ReceiverConfig} {r : Receiver} {c : ℕ}

/-- A line that has arrived keeps the balance. -/
theorem Balanced.receive (hr : r.Balanced) (raw : Bytes) (env : HandlerSupply) :
    (r.receive P config c raw env).2.Balanced := by
  rw [Receiver.receive]
  cases hphase : r.connections c with
  | hello =>
    dsimp only
    split
    · refine (hr.move ?_).answer
      exact (congrArg Phase.session? hphase).symm
    · exact hr.fail
  | challenged id enrolledKey challenge =>
    dsimp only
    split
    · exact (hr.opened (congrArg Phase.session? hphase) rfl).answer
    · exact hr.fail
  | opened id challenge =>
    dsimp only
    cases readTelemetry P challenge raw with
    | error e => exact hr.fail
    | ok snapshot =>
      dsimp only
      -- a publication leaves the counts, whether it raises or not
      obtain ⟨-, hactive, -⟩ :=
        (publish_spec (P := P) id 1 snapshot env.published r.registry).run env.faults
      rcases hrun : (Registry.publish P id 1 snapshot env.published).run env.faults r.registry with
        ⟨_ | _, registry⟩
      · rw [hrun] at hactive
        exact Balanced.fail (r := { r with registry := registry }) (hr.congr rfl hactive)
      · rw [hrun] at hactive
        refine Balanced.answer (r := { r with registry := registry }) ?_
        exact Balanced.move (r := { r with registry := registry }) (hr.congr rfl hactive)
          (congrArg Phase.session? hphase).symm
  | acknowledging id => exact hr
  | closed => exact hr

/-- **Every step of a handler keeps the balance**, wherever the handler waits and whatever
ends its wait. -/
theorem Balanced.step (hr : r.Balanced) (input : Input) (env : HandlerSupply) :
    (r.step P config c input env).2.Balanced := by
  unfold Receiver.step
  split
  · exact hr
  · exact hr.receive _ _
  · exact hr.finish
  · exact hr
  · exact hr.fail

/-- A receiver without connections has no sessions. -/
theorem balanced_start (config : ReceiverConfig) : (Receiver.start config).Balanced := by
  have hnone (id : String) : (Receiver.start config).openSessions id = ∅ := by
    refine Set.eq_empty_iff_forall_notMem.mpr fun c hc => ?_
    cases (show none = some id from hc)
  refine ⟨fun id => ?_, fun id => ?_⟩
  · rw [hnone]
    exact Set.finite_empty
  · rw [hnone, Set.ncard_empty]
    rfl

end Step

end Receiver

/-! ### All interleavings -/

section Runs

variable {ι : Type} [DecidableEq ι] {P : Platform} {config : ι → ReceiverConfig}
  {es : List (ReceiverEvent ι)} {s : ι → Receiver}

theorem balanced_of_run (hrun : Run (receiversStep P config) (fun _ _ => True)
    (receiversStart config) es s) (i : ι) : (s i).Balanced := by
  refine hrun.invariant_state (I := fun s => ∀ i, (s i).Balanced)
    (fun i => Receiver.balanced_start (config i)) (fun s a hs i => ?_) i
  change (Function.update s a.receiver _ i).Balanced
  by_cases hi : i = a.receiver
  · subst hi
    rw [Function.update_self]
    exact (hs a.receiver).step a.input a.env
  · rw [Function.update_of_ne hi]
    exact hs i

/-- **Session accounting is exact.** In every state any number of handlers reach, however
their steps interleave and wherever they fail, `active_sessions` of a device is the number of
handlers that have opened a session of it and not closed it: it is never negative, and it is
zero when every handler has ended or not been heard yet. -/
theorem sessions_accounted (hrun : Run (receiversStep P config) (fun _ _ => True)
    (receiversStart config) es s) (i : ι) (id : String) :
    ((s i).openSessions id).Finite ∧
      (s i).registry.active id = ((s i).openSessions id).ncard ∧ 0 ≤ (s i).registry.active id ∧
      ((∀ c, (s i).connections c = .hello ∨ (s i).connections c = .closed) →
        (s i).registry.active id = 0) := by
  have hbalanced := balanced_of_run hrun i
  refine ⟨hbalanced.finite id, hbalanced.count id, ?_, fun hended => ?_⟩
  · rw [hbalanced.count id]
    exact Int.natCast_nonneg _
  · have hnone : (s i).openSessions id = ∅ := by
      refine Set.eq_empty_iff_forall_notMem.mpr fun c hc => ?_
      have hsome : ((s i).connections c).session? = some id := hc
      rcases hended c with h | h
      · rw [h] at hsome
        cases hsome
      · rw [h] at hsome
        cases hsome
    rw [hbalanced.count id, hnone, Set.ncard_empty]
    rfl

end Runs

open Sample in
/-- The session of the sample device is counted while it is open. -/
theorem sessions_accounted_sample : ∃ es s, Run (receiversStep platform fun _ => receiverConfig)
    (fun _ _ => True) (receiversStart fun _ => receiverConfig) es s ∧
    es.map Event.call = opening ∧ 0 < (s ()).registry.active device := by
  obtain ⟨es, s, hrun, hcalls, hopened, -⟩ := reaches_opened
  have hrun' : Run (receiversStep platform fun _ => receiverConfig) (fun _ _ => True)
      (receiversStart fun _ => receiverConfig) es s := hrun.mono fun _ _ _ => trivial
  obtain ⟨hfinite, hcount, -⟩ := sessions_accounted hrun' () device
  have hmem : 0 ∈ (s ()).openSessions device := congrArg Phase.session? hopened
  refine ⟨es, s, hrun', hcalls, ?_⟩
  rw [hcount]
  exact_mod_cast (Set.ncard_pos hfinite).mpr ⟨0, hmem⟩

end PrinterHmi
