import Mathlib.Logic.Relation
import PrinterHmi.Configuration.Acceptance

/-!
# Importing a receipt again

`add_receipt` commits two documents one after the other: the allowlist, with the device, and
then the pending set, without the challenge. A call that is interrupted leaves the directory as
it was, or with the allowlist replaced and the challenge still pending. In both a repetition is
accepted: from the second it goes through the branch for a device that is enrolled already,
finds the entry it would have made, and takes the challenge out.

So a receipt that would be imported can be imported by repetition, whatever file steps of the
earlier calls fail and wherever their process stops, and what it comes to is what one
uninterrupted call leaves (`receipt_recoverable`). The step that is the induction is on the
states of the course of one call (`Founded.exec_of_stage`): from each of them the same call ends
in the same directory.
-/

namespace PrinterHmi

open FileProg

namespace Manager

section Recovery

variable {P : Platform} {resolve : String → String} {env : Founding} {relayId peerId : String}
  {listenPort : ℤ} {d t full : Directory} {s : RelayState} {c : ReceiverDocument}
  {file : Option Bytes} {reply : Json}

/-- **An interrupted call**: a file step of it fails, or the process ends before one, and this is
what it leaves. -/
def Interrupted (p : ManagerProg Json) (d t : Directory) : Prop :=
  ∃ o ending k, FirstStop o ending k ∧ k < (p.stages d).length ∧ t = p.leftBy o ending d

/-- What an interrupted call leaves is a state of its course. -/
theorem stage_of_interrupted {p : ManagerProg Json} (hp : p.Strict) (h : Interrupted p d t) :
    ∃ k : ℕ, (p.stages d)[k]? = some t := by
  obtain ⟨o, ending, k, hstop, hk, rfl⟩ := h
  have hstage : (p.stages d)[k]? = some (p.stages d)[k] := List.getElem?_eq_getElem hk
  exact ⟨k, hstage.trans (congrArg some (hp.leftBy_of_firstStop hstop hstage).symm)⟩

/-- A call that is not interrupted goes through. -/
theorem interrupted_or_leftBy {p : ManagerProg Json} (hp : p.Strict) (d : Directory)
    (o : ℕ → Bool) (ending : Option ℕ) :
    Interrupted p d (p.leftBy o ending d) ∨ p.leftBy o ending d = (p.exec d).2 := by
  rcases hp.leftBy_cases d o ending with ⟨k, hk, hstop⟩ | ⟨-, hexec⟩
  · exact .inl ⟨o, ending, k, hstop, (List.getElem?_eq_some_iff.mp hk).1, rfl⟩
  · exact .inr hexec

/-- A new device is found in the configuration it has been put into. -/
theorem findDevice_withDevice {device : EnrolledDevice} {paths : Paths}
    (hvalid : (withDevice c device).Valid P paths) :
    findDevice (withDevice c device) device.deviceId = some device := by
  have hmem : device ∈ (withDevice c device).devices := mem_withDevice.mpr (.inr rfl)
  exact findDevice_of_mem hmem fun other hother hid =>
    List.inj_on_of_nodup_map hvalid.nodup hother hmem hid

/-- **From each state of its course a call ends in the same directory**, if it returns. -/
theorem Founded.exec_of_stage (h : Founded P resolve env relayId peerId listenPort d s c)
    (supply : ManagerSupply) (hok : (addReceipt P resolve file).exec d = (.ok reply, full)) {k : ℕ}
    (ht : ((addReceipt P resolve file).stages d)[k]? = some t) :
    (∃ s c, Founded P resolve env relayId peerId listenPort t s c) ∧
      ∃ reply', (addReceipt P resolve file).exec t = (.ok reply', full) := by
  obtain ⟨l, r, d', hcourse, hout⟩ := addReceipt_course h.loads supply file
  have hkept := h.outcome hout
  have hend := hcourse.exec.symm.trans hok
  rw [hcourse.stages] at ht
  refine ⟨hkept t (List.mem_cons_of_mem _ (List.mem_of_getElem? ht)), ?_⟩
  cases hout with
  | refused => cases congrArg Prod.fst hend
  | reenrolled =>
    obtain rfl := List.eq_of_mem_replicate (List.mem_of_getElem? ht)
    exact ⟨reply, hok⟩
  | enrolled hfile hmatch hnew hvalid =>
    obtain rfl := (Prod.mk.inj hend).2
    rcases getElem?_replicate_append.mp ht with ⟨-, rfl⟩ | ⟨-, hlast⟩
    · exact ⟨reply, hok⟩
    · -- the device is enrolled, and its challenge still pending
      obtain rfl := List.eq_of_mem_replicate (List.mem_of_getElem? hlast)
      have hloads := h.loads.withConfig hvalid rfl
      exact ⟨_, (course_addReceipt hloads hfile hmatch
        (course_enrollDevice_found hloads (findDevice_withDevice hvalid) _)).exec⟩

/-- **Interrupted calls come to nothing else**: however many there are, the directory is founded,
and the call ends as it would have at first. -/
theorem Founded.exec_of_interrupted (h : Founded P resolve env relayId peerId listenPort d s c)
    (supply : ManagerSupply) (hok : (addReceipt P resolve file).exec d = (.ok reply, full))
    (ht : Relation.ReflTransGen (Interrupted (addReceipt P resolve file)) d t) :
    (∃ s c, Founded P resolve env relayId peerId listenPort t s c) ∧
      ∃ reply', (addReceipt P resolve file).exec t = (.ok reply', full) := by
  induction ht with
  | refl => exact ⟨⟨s, c, h⟩, reply, hok⟩
  | tail _ hstep ih =>
    obtain ⟨⟨s, c, hfounded⟩, reply, hok⟩ := ih
    obtain ⟨k, hk⟩ := stage_of_interrupted (strict_addReceipt P resolve file) hstep
    exact hfounded.exec_of_stage supply hok hk

/-- A call of `add_receipt` in which no file step fails. -/
theorem managerStep_addReceipt {call : ManagerCall} (haction : call.action = .addReceipt file)
    (hcall : call.Faultless) (d : Directory) :
    managerStep P resolve d call = (addReceipt P resolve file).exec d := by
  rw [managerStep, haction, show call.faults = fun _ => false from funext hcall, run_no_fault]
  rfl

/-- **Importing a receipt is recoverable by repetition.** In every directory a relay can come to
have, if a call on a receipt would succeed and leave `full`, then after any number of interrupted
calls on it – file steps failing, or the process ending, at any point – a call whose file steps go
through succeeds and leaves `full`. And a call that is not interrupted has left it. -/
theorem receipt_recoverable {relayName peerName port : Json} {d₀ : Directory}
    {events : List ManagerEvent} (hinit : Initialized P resolve env relayName peerName port d₀)
    (hrun : ManagerRun P resolve d₀ events d) {call : ManagerCall}
    (haction : call.action = .addReceipt file) (hcall : call.Faultless)
    (hok : managerStep P resolve d call = (.ok reply, full)) :
    (∀ t, Relation.ReflTransGen (Interrupted (addReceipt P resolve file)) d t →
      ∃ reply', managerStep P resolve t call = (.ok reply', full)) ∧
    ∀ o ending, Interrupted (addReceipt P resolve file) d
        ((addReceipt P resolve file).leftBy o ending d) ∨
      (addReceipt P resolve file).leftBy o ending d = full := by
  obtain ⟨relayId, peerId, listenPort, -, -, -, hstart⟩ := founded_of_initialized hinit
  obtain ⟨s, c, hfounded⟩ := founded_of_run ⟨_, _, hstart⟩ hrun
  rw [managerStep_addReceipt haction hcall] at hok
  refine ⟨fun t ht => ?_, fun o ending => ?_⟩
  · rw [managerStep_addReceipt haction hcall]
    exact (hfounded.exec_of_interrupted call.env hok ht).2
  · have hend : ((addReceipt P resolve file).exec d).2 = full := congrArg Prod.snd hok
    rw [← hend]
    exact interrupted_or_leftBy (strict_addReceipt P resolve file) d o ending

end Recovery

end Manager

open Sample in
/-- The sample receipt, in a call whose process ends after the allowlist has been replaced, and
again. -/
theorem Manager.receipt_recoverable_sample : ∃ d t r full,
    Manager.Interrupted (Manager.addReceipt platform relayPath (some (canonical agentReceipt))) d t ∧
      d.devices = [] ∧ t.devices ≠ [] ∧
      managerStep platform relayPath t importing = (.ok r, full) ∧
      agentIdentity.device ∈ full.devices := by
  have hderived := derived_of_checkIdentity checkIdentity_agentIdentity
  have hlive : relaySupply.checked < moment 0 + seconds 600 := by decide
  obtain ⟨challenge, -, hrequest, hfounded⟩ := founded_relayDirectory.requests requesting
    (fun _ => rfl) rfl (readJson_pairingOffer _ _ _ _)
    (readOffer_pairingOffer hderived hlive) rfl rfl
  have hempty : ∀ other ∈ (foundingConfig "relay-1" 8443).devices,
      other.deviceId = agentIdentity.device.deviceId → other = agentIdentity.device :=
    fun other hother => (List.not_mem_nil hother).elim
  obtain ⟨⟨r, himport⟩, c', hfounded', hmem⟩ := hfounded.imports importing
    (fun _ => rfl) rfl (readJson_enrollmentReceipt _ _) receiptFor_agentReceipt
    ((Dict.get?_insert ..).trans (if_pos rfl)) ⟨rfl, rfl⟩ hderived hempty (by decide)
  have hrun : ManagerRun platform relayPath relayDirectory _
      (managerStep platform relayPath relayDirectory requesting).2 := Run.start.next trivial
  rw [hrequest] at hrun
  have hcall : importing.Faultless := fun _ => rfl
  have hrecoverable := (Manager.receipt_recoverable initialized_relayDirectory hrun rfl hcall
    himport).1
  -- the process ends in front of the file steps of the pending set
  obtain ⟨l, r', d', hcourse, hout⟩ :=
    addReceipt_course hfounded.loads relaySupply (some (canonical agentReceipt))
  have hstop : FirstStop (fun _ => false) (some 20) 20 :=
    ⟨.inr rfl, fun j hj => ⟨rfl, fun hc => hj.ne' (Option.some.inj hc)⟩⟩
  have hends := (managerStep_addReceipt rfl hcall _).symm.trans himport
  cases hout with
  | refused => cases congrArg Prod.fst (hcourse.exec.symm.trans hends)
  | reenrolled _ _ hfound => cases hfound
  | @enrolled _ _ _ added _ _ _ hvalid =>
    have hstage := congrArg (fun l : List Directory => l[20]?) hcourse.stages
    have hleft := (strict_addReceipt platform relayPath _).leftBy_of_firstStop hstop hstage
    have hinterrupted : Manager.Interrupted (Manager.addReceipt platform relayPath
        (some (canonical agentReceipt))) _ _ :=
      ⟨_, _, 20, hstop, (List.getElem?_eq_some_iff.mp hstage).1, hleft.symm⟩
    obtain ⟨r, hr⟩ := hrecoverable _ (.single hinterrupted)
    refine ⟨_, _, r, _, hinterrupted, rfl, ?_, hr, ?_⟩
    · exact List.ne_nil_of_mem (mem_withDevice.mpr (.inr rfl) : added ∈ _)
    · rw [Directory.devices, hfounded'.loads.config]
      exact hmem

end PrinterHmi
