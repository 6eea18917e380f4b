import PrinterHmi.Configuration.Acceptance

/-!
# How a device comes to be in the allowlist

The allowlist of a relay is the list of devices in its receiver configuration. A device
gets there in one way only, by a receipt that answers a challenge, and the two documents
together see to it: the challenges that may still be answered are in the one, the devices
in the other, and importing a receipt writes both.

The invariant (`Recorded`) ties the pending challenges to the history of the run: each was
issued by an earlier call, for the device it names, and no receipt over it has been
imported. It rests on the identifiers of challenges being fresh, since a challenge drawn
once more after it was answered would be pending again. That each challenge justifies one
addition at most follows: what has been imported is not pending.

Nothing is assumed of the signature scheme or of the digest. A receipt that is imported
verifies under the key it names, which is the key of the device it adds.
-/

namespace PrinterHmi

/-- The identifier a call draws for a challenge. -/
def ManagerCall.drawn? (call : ManagerCall) : Option String :=
  match call.action with
  | .createEnrollmentRequest _ _ => some call.env.challengeId.1
  | _ => none

/-- **The identifiers of challenges are fresh**: a call draws none that has been drawn. -/
def FreshChallenge (h : List ManagerEvent) (call : ManagerCall) : Prop :=
  ∀ e ∈ h, ∀ id, e.call.drawn? = some id → call.drawn? ≠ some id

namespace ManagerEvent

/-- **The call issued the challenge `id` for a device**: the device is that of the offer, and
the challenge is in the request that was written. -/
structure Issues (P : Platform) (id : String) (device : EnrolledDevice) (e : ManagerEvent) :
    Prop where
  drawn : e.call.drawn? = some id
  made : ∃ offerFile output offer request,
    e.call.action = .createEnrollmentRequest offerFile output ∧ e.result.isOk = true ∧
    readJson P offerFile "pairing offer" = .ok offer ∧
    offer.field "device_id" = .str device.deviceId ∧
    offer.field "device_public_key" = .str device.publicKey ∧
    e.after.outputs.get? output = some request ∧
    (request.field "challenge").field "challenge_id" = .str id ∧
    (request.field "challenge").field "audience" = .str device.deviceId

/-- **The call imported a receipt** over the challenge `id`. -/
structure Imports (P : Platform) (id : String) (receipt : Json) (e : ManagerEvent) : Prop where
  file : ∃ receiptFile, e.call.action = .addReceipt receiptFile ∧
    readJson P receiptFile "enrollment receipt" = .ok receipt
  challenge : receipt.field "challenge_id" = .str id
  returned : e.result.isOk = true

/-- The call added a device to the allowlist. -/
def Adds (device : EnrolledDevice) (e : ManagerEvent) : Prop :=
  device ∉ e.before.devices ∧ device ∈ e.after.devices

end ManagerEvent

namespace Manager

section Allowlist

variable (P : Platform) (resolve : String → String)

/-- Runs of a manager without failing file steps, whose challenges have fresh identifiers. -/
abbrev FreshRun := Run (managerStep P resolve) fun h call => call.Faultless ∧ FreshChallenge h call

/-- **What a history says of the pending challenges**, in an enrollment state. -/
structure Recorded (h : List ManagerEvent) (s : RelayState) : Prop where
  issued : ∀ id pending, s.pendingChallenges.get? id = some pending →
    ∃ e ∈ h, e.Issues P id ⟨pending.deviceId, pending.devicePublicKey⟩
  unanswered : ∀ id pending, s.pendingChallenges.get? id = some pending →
    ∀ e ∈ h, ∀ receipt, ¬e.Imports P id receipt
  answered : ∀ e ∈ h, ∀ id receipt, e.Imports P id receipt → ∃ e' ∈ h, e'.call.drawn? = some id

/-- **What the run of a manager keeps**: a founded directory, whose pending challenges the
history accounts for, as it does for the devices. -/
structure Accounted (env : Founding) (relayId peerId : String) (listenPort : ℤ)
    (h : List ManagerEvent) (d : Directory) (s : RelayState) (c : ReceiverDocument) : Prop where
  founded : Founded P resolve env relayId peerId listenPort d s c
  recorded : Recorded P h s
  added : ∀ device ∈ c.devices, ∃ e ∈ h, e.Adds device

variable {P resolve} {env : Founding} {relayId peerId : String} {listenPort : ℤ}
  {h : List ManagerEvent} {d d' : Directory} {s : RelayState} {c : ReceiverDocument}
  {call : ManagerCall} {l : List Directory} {r : Except Exn Json}

/-! ### One call -/

/-- What is imported was pending, and is not any more. -/
theorem imports_of_outcome (hout : Outcome P resolve d s c call.env call.action l r d') {id : String}
    {receipt : Json} (himports : ManagerEvent.Imports P id receipt ⟨d, call, r, d'⟩) :
    ∃ device, matchReceipt P s receipt = .ok (id, device) ∧
      d'.state = some (withoutPending s id) := by
  obtain ⟨⟨file, haction, hfile⟩, hid, hok⟩ := himports
  dsimp only at haction
  -- the file that was read is the one the receipt is in
  have hread {receipt' : Json} {challengeId : String} {device : EnrolledDevice}
      (hfile' : readJson P file "enrollment receipt" = .ok receipt')
      (hmatch : matchReceipt P s receipt' = .ok (challengeId, device)) :
      receipt' = receipt ∧ challengeId = id := by
    obtain rfl := Except.ok.inj (hfile'.symm.trans hfile)
    exact ⟨rfl, Json.field_str_inj (matchReceipt_eq_ok.mp hmatch).1.challenge hid⟩
  rw [haction] at hout
  cases hout with
  | refused => cases hok
  | enrolled hfile' hmatch =>
    obtain ⟨rfl, rfl⟩ := hread hfile' hmatch
    exact ⟨_, hmatch, rfl⟩
  | reenrolled hfile' hmatch =>
    obtain ⟨rfl, rfl⟩ := hread hfile' hmatch
    exact ⟨_, hmatch, rfl⟩

/-- **What is added is the device of a receipt.** -/
theorem adds_of_outcome (hloads : d.Loads P resolve s c)
    (hout : Outcome P resolve d s c call.env call.action l r d') {device : EnrolledDevice}
    (hadds : ManagerEvent.Adds device ⟨d, call, r, d'⟩) :
    ∃ id receipt, ManagerEvent.Imports P id receipt ⟨d, call, r, d'⟩ ∧
      matchReceipt P s receipt = .ok (id, device) := by
  have hdevices : d.devices = c.devices := by rw [Directory.devices, hloads.config]
  obtain ⟨hbefore, hafter⟩ := hadds
  dsimp only at hbefore hafter
  generalize hact : call.action = action at hout
  cases hout with
  | refused => exact absurd hafter hbefore
  | reported => exact absurd hafter hbefore
  | requested => exact absurd hafter hbefore
  | reenrolled => exact absurd hafter hbefore
  | switched =>
    rw [hdevices] at hbefore
    exact absurd hafter hbefore
  | removed =>
    rw [hdevices] at hbefore
    exact absurd (List.mem_of_mem_filter hafter) hbefore
  | @enrolled file receipt challengeId new hfile hmatch =>
    rw [hdevices] at hbefore
    rcases mem_withDevice.mp hafter with hold | rfl
    · exact absurd hold hbefore
    · exact ⟨challengeId, receipt, ⟨⟨file, hact, hfile⟩,
        (matchReceipt_eq_ok.mp hmatch).1.challenge, rfl⟩, hmatch⟩

/-- What is in a request that was built. -/
theorem buildRequest_fields {supply : ManagerSupply} {offer : RelayOffer} {challenge request : Json}
    (h : buildRequest P supply s offer = .ok (challenge, request)) :
    request.field "challenge" = challenge ∧
      challenge.field "challenge_id" = .str supply.challengeId.1 ∧
      challenge.field "audience" = .str offer.deviceId := by
  simp only [buildRequest, createRelayChallenge, Except.bind_eq_ok, require_eq_ok,
    exists_const] at h
  obtain ⟨document, ⟨-, -, -, hdocument⟩, _, -, _, -, hrequest⟩ := h
  obtain ⟨rfl, rfl⟩ := Prod.mk.inj (Except.ok.inj hrequest)
  obtain rfl := Except.ok.inj hdocument
  exact ⟨rfl, rfl, rfl⟩

variable (P) in
/-- **What a call can do to the pending challenges.** -/
inductive PendingChange (s s' : RelayState) (e : ManagerEvent) : Prop
  | same (hpending : s'.pendingChallenges = s.pendingChallenges)
  | imported {id : String} {receipt : Json} (himports : e.Imports P id receipt)
      (hpending : s'.pendingChallenges = s.pendingChallenges.erase id)
  | issued {id : String} {pending : PendingChallenge}
      (hissues : e.Issues P id ⟨pending.deviceId, pending.devicePublicKey⟩)
      (hpending : s'.pendingChallenges = s.pendingChallenges.insert id pending)

/-- No call does more than that. -/
theorem pendingChange_of_outcome (hloads : d.Loads P resolve s c)
    (hout : Outcome P resolve d s c call.env call.action l r d') {s' : RelayState}
    (hstate : d'.state = some s') : PendingChange P s s' ⟨d, call, r, d'⟩ := by
  have hsame (h : d'.state = d.state) : PendingChange P s s' ⟨d, call, r, d'⟩ := by
    obtain rfl := Option.some.inj (hstate.symm.trans (h.trans hloads.state))
    exact .same rfl
  generalize hact : call.action = action at hout
  cases hout with
  | refused => exact hsame rfl
  | reported => exact hsame rfl
  | switched => exact hsame rfl
  | removed => exact hsame rfl
  | enrolled hfile hmatch =>
    obtain rfl := Option.some.inj (hstate.symm.trans rfl)
    exact .imported ⟨⟨_, hact, hfile⟩, (matchReceipt_eq_ok.mp hmatch).1.challenge, rfl⟩ rfl
  | reenrolled hfile hmatch =>
    obtain rfl := Option.some.inj (hstate.symm.trans rfl)
    exact .imported ⟨⟨_, hact, hfile⟩, (matchReceipt_eq_ok.mp hmatch).1.challenge, rfl⟩ rfl
  | @requested file output document challenge request offer hfile hoffer hbuild =>
    obtain rfl := Option.some.inj (hstate.symm.trans rfl)
    obtain ⟨hrequest, hchallenge, haudience⟩ := buildRequest_fields hbuild
    obtain ⟨-, -, hdevice, hkey⟩ := derived_of_readOffer hoffer
    refine .issued ⟨by rw [ManagerCall.drawn?, hact], file, output, document, request, hact, rfl,
      hfile, hdevice, hkey, get?_outputs_withOutput d output request, ?_, ?_⟩ rfl
    · rw [hrequest, hchallenge]
    · rw [hrequest, haudience]

/-- **What is pending was pending before, or has just been issued.** -/
theorem PendingChange.pending {s' : RelayState} {e : ManagerEvent} (hchange : PendingChange P s s' e)
    {id : String} {pending : PendingChallenge}
    (hpending : s'.pendingChallenges.get? id = some pending) :
    s.pendingChallenges.get? id = some pending ∨
      e.Issues P id ⟨pending.deviceId, pending.devicePublicKey⟩ := by
  cases hchange with
  | same heq => exact .inl (heq ▸ hpending)
  | imported himports heq =>
    rw [heq, Dict.get?_erase] at hpending
    split_ifs at hpending
    exact .inl hpending
  | issued hissues heq =>
    rw [heq, Dict.get?_insert] at hpending
    split_ifs at hpending with hid
    · obtain rfl := Option.some.inj hpending
      exact .inr (hid ▸ hissues)
    · exact .inl hpending

/-- **What is not drawn and not imported is pending as before.** -/
theorem PendingChange.kept {s' : RelayState} {e : ManagerEvent} (hchange : PendingChange P s s' e)
    {id : String} (hdrawn : e.call.drawn? ≠ some id) (himports : ∀ receipt, ¬e.Imports P id receipt) :
    s'.pendingChallenges.get? id = s.pendingChallenges.get? id := by
  cases hchange with
  | same heq => rw [heq]
  | imported himported heq =>
    rw [heq, Dict.get?_erase, if_neg]
    rintro rfl
    exact himports _ himported
  | issued hissues heq =>
    rw [heq, Dict.get?_insert, if_neg]
    rintro rfl
    exact hdrawn hissues.drawn

/-- **One call keeps the record**, if what it draws is fresh. -/
theorem Recorded.outcome (hrec : Recorded P h s) (hloads : d.Loads P resolve s c)
    (hout : Outcome P resolve d s c call.env call.action l r d') {s' : RelayState}
    (hstate : d'.state = some s') (hfresh : FreshChallenge h call) :
    Recorded P (h ++ [⟨d, call, r, d'⟩]) s' where
  issued id pending hpending := by
    have hchange := pendingChange_of_outcome hloads hout hstate
    rcases hchange.pending hpending with hold | hissues
    · obtain ⟨e, he, hissues⟩ := hrec.issued id pending hold
      exact ⟨e, List.mem_append_left _ he, hissues⟩
    · exact ⟨_, List.mem_append_right _ (List.mem_singleton_self _), hissues⟩
  unanswered id pending hpending e he receipt himports := by
    have hchange := pendingChange_of_outcome hloads hout hstate
    rcases List.mem_append.mp he with he | he
    · rcases hchange.pending hpending with hold | hissues
      · exact hrec.unanswered id pending hold e he receipt himports
      · -- a challenge that was answered has been drawn, and is not drawn again
        obtain ⟨e', he', hdrawn⟩ := hrec.answered e he id receipt himports
        exact hfresh e' he' id hdrawn hissues.drawn
    · obtain rfl := List.mem_singleton.mp he
      -- this call answered it, and so took it out
      obtain ⟨-, -, hgone⟩ := imports_of_outcome hout himports
      obtain rfl := Option.some.inj (hstate.symm.trans hgone)
      rw [withoutPending, Dict.get?_erase, if_pos rfl] at hpending
      cases hpending
  answered e he id receipt himports := by
    rcases List.mem_append.mp he with he | he
    · obtain ⟨e', he', hdrawn⟩ := hrec.answered e he id receipt himports
      exact ⟨e', List.mem_append_left _ he', hdrawn⟩
    · obtain rfl := List.mem_singleton.mp he
      obtain ⟨device, hmatch, -⟩ := imports_of_outcome hout himports
      obtain ⟨-, pending, hpending, -⟩ := matchReceipt_eq_ok.mp hmatch
      obtain ⟨e', he', hissues⟩ := hrec.issued id pending hpending
      exact ⟨e', List.mem_append_left _ he', hissues.drawn⟩

/-! ### Runs -/

/-- **Every run of a manager is accounted for.** -/
theorem accounted_of_run {d₀ : Directory}
    (hstart : Founded P resolve env relayId peerId listenPort d₀ (foundingState P env relayId peerId)
      (foundingConfig relayId listenPort)) (hrun : FreshRun P resolve d₀ h d) :
    ∃ s c, Accounted P resolve env relayId peerId listenPort h d s c := by
  refine hrun.invariant (I := fun h d => ∃ s c,
    Accounted P resolve env relayId peerId listenPort h d s c) ?_ ?_
  · refine ⟨_, _, hstart, ⟨fun id pending hpending => ?_, fun id pending hpending => ?_,
      fun e he => (List.not_mem_nil he).elim⟩, fun device hdevice => (List.not_mem_nil hdevice).elim⟩
    · cases hpending
    · cases hpending
  · rintro h d call - ⟨s, c, hfounded, hrec, hadded⟩ ⟨hcall, hfresh⟩
    obtain ⟨l, r, d', hout, hstep⟩ := managerStep_of_faultless hfounded.loads hcall
    obtain ⟨s', c', hfounded'⟩ := hfounded.outcome hout d' List.mem_cons_self
    have hdevices : d.devices = c.devices := by rw [Directory.devices, hfounded.loads.config]
    have hdevices' : d'.devices = c'.devices := by rw [Directory.devices, hfounded'.loads.config]
    rw [hstep]
    refine ⟨s', c', hfounded', hrec.outcome hfounded.loads hout hfounded'.loads.state hfresh,
      fun device hdevice => ?_⟩
    by_cases hold : device ∈ c.devices
    · obtain ⟨e, he, hadds⟩ := hadded device hold
      exact ⟨e, List.mem_append_left _ he, hadds⟩
    · refine ⟨_, List.mem_append_right _ (List.mem_singleton_self _), ?_, ?_⟩
      · rw [hdevices]
        exact hold
      · rw [hdevices']
        exact hdevice

/-- **The allowlist is authentic**, in every run from an initialization, whatever the offers
and the receipts: a device is there because a call added it; a call that adds a device has
imported a receipt signed with the key of that device, over the names and the key of this
relay and over a challenge that an earlier call issued for that device and key; and a
challenge is answered by one import at most. -/
theorem allowlist_authentic {relayName peerName port : Json} {d₀ : Directory}
    (hinit : Initialized P resolve env relayName peerName port d₀)
    (hrun : FreshRun P resolve d₀ h d) :
    ∃ relayId peerId, relayName = .str relayId ∧ peerName = .str peerId ∧
      (∀ device ∈ d.devices, ∃ e ∈ h, e.Adds device) ∧
      (∀ pre e post device, h = pre ++ e :: post → e.Adds device → ∃ id receipt,
        e.Imports P id receipt ∧
        ReceiptFor P relayId peerId (b64encode (P.publicKey env.key).1) id device receipt ∧
        ∃ e' ∈ pre, e'.Issues P id device) ∧
      h.Pairwise fun e e' => ∀ id receipt receipt', e.Imports P id receipt → ¬e'.Imports P id receipt' := by
  obtain ⟨relayId, peerId, listenPort, rfl, rfl, rfl, hstart⟩ := founded_of_initialized hinit
  refine ⟨relayId, peerId, rfl, rfl, fun device hdevice => ?_, ?_, ?_⟩
  · obtain ⟨s, c, hfounded, -, hadded⟩ := accounted_of_run hstart hrun
    rw [Directory.devices, hfounded.loads.config] at hdevice
    exact hadded device hdevice
  · rintro pre e post device rfl hadds
    -- the call of the event, from the directory the events before it lead to
    obtain ⟨hpre, ⟨hcall, -⟩, hstep⟩ := hrun.split
    obtain ⟨s, c, hfounded, hrec, -⟩ := accounted_of_run hstart hpre
    obtain ⟨l, r, d', hout, hstep'⟩ := managerStep_of_faultless hfounded.loads hcall
    obtain ⟨rfl, rfl⟩ := Prod.mk.inj (hstep'.symm.trans hstep)
    obtain ⟨id, receipt, himports, hmatch⟩ := adds_of_outcome hfounded.loads hout hadds
    obtain ⟨hreceipt, ⟨deviceId, publicKey, expires⟩, hpending, hdevice, hkey⟩ :=
      matchReceipt_eq_ok.mp hmatch
    obtain ⟨e', he', hissues⟩ := hrec.issued id _ hpending
    rw [hfounded.relayId, hfounded.peerId, hfounded.peerPublicKey] at hreceipt
    dsimp only at hdevice hkey hissues
    rw [hdevice, hkey] at hissues
    exact ⟨id, receipt, himports, hreceipt, e', he', hissues⟩
  · -- an answered challenge is pending no more when the second receipt comes
    refine List.pairwise_iff_forall_sublist.mpr fun {e e'} hsub id receipt receipt' himports hagain => ?_
    obtain ⟨pre, post, rfl, he⟩ := exists_of_sublist hsub
    obtain ⟨hpre, ⟨hcall, -⟩, hstep⟩ := hrun.split
    obtain ⟨s, c, hfounded, hrec, -⟩ := accounted_of_run hstart hpre
    obtain ⟨l, r, d', hout, hstep'⟩ := managerStep_of_faultless hfounded.loads hcall
    obtain ⟨rfl, rfl⟩ := Prod.mk.inj (hstep'.symm.trans hstep)
    obtain ⟨device, hmatch, -⟩ := imports_of_outcome hout hagain
    obtain ⟨-, pending, hpending, -⟩ := matchReceipt_eq_ok.mp hmatch
    exact hrec.unanswered id pending hpending e he receipt himports

end Allowlist

end Manager

open Sample in
/-- In the sample enrollment a device is added, by the call that imports its receipt. -/
theorem Manager.allowlist_authentic_sample : ∃ (h : List ManagerEvent) (d : Directory),
    FreshRun platform relayPath relayDirectory h d ∧ agentIdentity.device ∈ d.devices ∧
      ∃ e ∈ h, e.Adds agentIdentity.device := by
  obtain ⟨r, d₁, r', d₂, hrequest, himport, hmem, -⟩ := enrollment_relayDirectory
  have hfaults : ∀ call ∈ [requesting, importing], call.Faultless := by
    simp [requesting, importing, ManagerCall.Faultless]
  have hrun : FreshRun platform relayPath relayDirectory _ d₂ :=
    (Run.start.next_eq ⟨hfaults requesting (by simp), fun e he => (List.not_mem_nil he).elim⟩
      hrequest).next_eq ⟨hfaults importing (by simp), fun _ _ _ _ => nofun⟩ himport
  obtain ⟨-, -, -, -, hadded, -⟩ := Manager.allowlist_authentic initialized_relayDirectory hrun
  exact ⟨_, d₂, hrun, hmem, hadded _ hmem⟩

end PrinterHmi
