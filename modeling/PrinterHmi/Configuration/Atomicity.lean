import PrinterHmi.Configuration.Acceptance

/-!
# What a call that raises can have changed

Every document is replaced in one step, so a call never leaves half of one. But three of
the four operations that change something write two documents, or have file steps after the
replacement, and what has been replaced stays when a later step fails. A call that raises
leaves the enrollment state alone, which is always the last to be written; the request or
the configuration is as before, or is the one the call writes when nothing fails, and then
the first file step to fail is one after its replacement (`raised_commits`). Without a
failing file step a call that raises has changed nothing.
-/

namespace PrinterHmi

open FileProg

/-- The file step that replaces the first document of a call: the request, the receiver
configuration. -/
def ManagerAction.replacement : ManagerAction → ℕ
  | createEnrollmentRequest _ _ => 10
  | addReceipt _ => 16
  | setEnabled _ _ => 15
  | removeDevice _ _ => 15
  | status => 0

/-- The call with no file step failing. -/
def ManagerCall.undisturbed (call : ManagerCall) : ManagerCall :=
  { call with faults := fun _ => false }

namespace Manager

section Atomicity

variable {P : Platform} {resolve : String → String} {d d' : Directory} {s : RelayState}
  {c : ReceiverDocument} {env : ManagerSupply} {action : ManagerAction} {l : List Directory}
  {r : Except Exn Json}

/-- **The states of a course**: the directory is as before, or the first document has been
replaced, in a call that returns when nothing fails. -/
theorem stage_of_outcome (hout : Outcome P resolve d s c env action l r d') {k : ℕ} {t : Directory}
    (ht : l[k]? = some t) :
    t = d ∨ action.replacement < k ∧ r.isOk = true ∧ t = { d' with state := d.state } := by
  have hsplit {n m : ℕ} {t' : Directory} (h : (List.replicate n d ++ List.replicate m t')[k]? = some t) :
      t = d ∨ n ≤ k ∧ t = t' := by
    rcases getElem?_replicate_append.mp h with ⟨-, rfl⟩ | ⟨hle, hlast⟩
    · exact .inl rfl
    · exact .inr ⟨hle, List.eq_of_mem_replicate (List.mem_of_getElem? hlast)⟩
  cases hout with
  | refused hl => exact .inl (hl t (List.mem_of_getElem? ht))
  | reported hl => exact .inl (hl t (List.mem_of_getElem? ht))
  | reenrolled => exact .inl (List.eq_of_mem_replicate (List.mem_of_getElem? ht))
  | requested => exact (hsplit ht).imp_right fun ⟨hle, heq⟩ => ⟨hle, rfl, heq⟩
  | enrolled => exact (hsplit ht).imp_right fun ⟨hle, heq⟩ => ⟨hle, rfl, heq⟩
  | switched => exact (hsplit ht).imp_right fun ⟨hle, heq⟩ => ⟨hle, rfl, heq⟩
  | removed => exact (hsplit ht).imp_right fun ⟨hle, heq⟩ => ⟨hle, rfl, heq⟩

/-- **What a call that raises leaves**, in every state a manager reaches, whichever file
steps fail: the directory is as before, or the first document is the one the call writes
when nothing fails, and the file step that failed comes after its replacement. -/
theorem raised_commits {env : Founding} {relayName peerName port : Json} {d₀ : Directory}
    {events : List ManagerEvent} (hinit : Initialized P resolve env relayName peerName port d₀)
    (hrun : ManagerRun P resolve d₀ events d) {call : ManagerCall} {e : Exn}
    (hraised : (managerStep P resolve d call).1 = .error e) :
    (managerStep P resolve d call).2 = d ∨
      ∃ k reply full, managerStep P resolve d call.undisturbed = (.ok reply, full) ∧
        call.action.replacement < k ∧ call.faults k = true ∧ (∀ j < k, call.faults j = false) ∧
        (managerStep P resolve d call).2 = { full with state := d.state } := by
  obtain ⟨relayId, peerId, listenPort, -, -, -, hstart⟩ := founded_of_initialized hinit
  obtain ⟨s, c, hfounded⟩ := founded_of_run ⟨_, _, hstart⟩ hrun
  obtain ⟨l, r, full, hcourse, hout⟩ := exists_course hfounded.loads call.env call.action
  have hfull : managerStep P resolve d call.undisturbed = (r, full) :=
    managerStep_of_course (fun _ => rfl) rfl hcourse
  -- the call stops at the first file step that fails, or goes through
  rcases hcourse.run_cases (strict_program call.env call.action) call.faults with
    ⟨k, e', hstage, ⟨hfault, hbefore⟩, -⟩ | ⟨-, hstep⟩
  · rcases stage_of_outcome hout hstage with hsame | ⟨hlater, hok, hfirst⟩
    · exact .inl hsame
    · obtain ⟨reply, rfl⟩ : ∃ reply, r = .ok reply := by
        cases r with
        | ok reply => exact ⟨reply, rfl⟩
        | error _ => cases hok
      exact .inr ⟨k, reply, full, hfull, hlater, hfault.resolve_right nofun,
        fun j hj => (hbefore j hj).1, hfirst⟩
  · have hsame : managerStep P resolve d call = (r, full) := hstep
    rw [hsame] at hraised ⊢
    dsimp only at hraised
    subst hraised
    exact .inl hout.eq_of_error

end Atomicity

end Manager

namespace Sample

open Manager

/-- The relay makes a request, and the temporary file of its state cannot be written. -/
def interrupted : ManagerCall := { requesting with faults := fun k => k == 14 }

/-- The call raises, and the request has been written. -/
theorem exec_interrupted : ∃ e challenge, managerStep platform relayPath relayDirectory interrupted =
    (.error e, relayDirectory.withOutput "/srv/request.json"
      (requestOf platform founding "printerhmi-relay" ⟨pairingId.1, agentIdentity.deviceId,
        agentIdentity.publicKey, displayCode code⟩ challenge)) := by
  have hderived := derived_of_checkIdentity checkIdentity_agentIdentity
  have hlive : relaySupply.checked < moment 0 + seconds 600 := by decide
  have hoffer : readOffer platform relaySupply.checked offerDocument = .ok ⟨pairingId.1,
      agentIdentity.deviceId, agentIdentity.publicKey, displayCode code⟩ :=
    readOffer_pairingOffer hderived hlive
  obtain ⟨challenge, -, hbuild⟩ := founded_relayDirectory.buildRequest relaySupply hoffer
  have hcourse := course_createEnrollmentRequest founded_relayDirectory.loads
    (readJson_pairingOffer _ _ _ _) hoffer hbuild rfl rfl "/srv/request.json"
  have hstop : FirstStop interrupted.faults none 14 :=
    ⟨.inl rfl, fun j hj => ⟨beq_eq_false_iff_ne.mpr hj.ne, nofun⟩⟩
  obtain ⟨e, he⟩ := hcourse.run_of_firstStop
    (strict_createEnrollmentRequest platform relayPath _ _ _) hstop rfl
  exact ⟨e, challenge, he⟩

/-- The request it has written was not there. -/
theorem outputs_interrupted :
    (managerStep platform relayPath relayDirectory interrupted).2.outputs ≠ relayDirectory.outputs := by
  obtain ⟨e, challenge, hstep⟩ := exec_interrupted
  rw [hstep]
  intro hsame
  have hwritten := get?_outputs_withOutput relayDirectory "/srv/request.json" (requestOf platform
    founding "printerhmi-relay" ⟨pairingId.1, agentIdentity.deviceId, agentIdentity.publicKey,
      displayCode code⟩ challenge)
  dsimp only at hsame
  rw [hsame] at hwritten
  cases hwritten

end Sample

open Sample in
/-- **A call that raises can have changed something**: the request of the sample call is
there, and its challenge is not pending. -/
theorem Manager.request_without_challenge :
    Initialized platform relayPath founding (.str "relay-1") (.str "printerhmi-relay") (.int 8443)
        relayDirectory ∧
      ∃ e, (managerStep platform relayPath relayDirectory interrupted).1 = .error e ∧
        (managerStep platform relayPath relayDirectory interrupted).2.outputs ≠
          relayDirectory.outputs ∧
        (managerStep platform relayPath relayDirectory interrupted).2.state =
          relayDirectory.state := by
  obtain ⟨e, challenge, hstep⟩ := exec_interrupted
  refine ⟨initialized_relayDirectory, e, ?_, outputs_interrupted, ?_⟩
  · rw [hstep]
  · rw [hstep]
    rfl

open Sample in
/-- The interrupted call has left the request it writes when nothing fails. -/
theorem Manager.raised_commits_sample :
    ∃ reply full, managerStep platform relayPath relayDirectory interrupted.undisturbed =
      (.ok reply, full) ∧
      (managerStep platform relayPath relayDirectory interrupted).2 =
        { full with state := relayDirectory.state } := by
  obtain ⟨e, challenge, hstep⟩ := exec_interrupted
  have hraised : (managerStep platform relayPath relayDirectory interrupted).1 = .error e := by
    rw [hstep]
  rcases Manager.raised_commits initialized_relayDirectory Run.start hraised with
    hsame | ⟨k, reply, full, hfull, -, -, -, hleft⟩
  · exact absurd (congrArg Directory.outputs hsame) outputs_interrupted
  · exact ⟨reply, full, hfull, hleft⟩

end PrinterHmi
