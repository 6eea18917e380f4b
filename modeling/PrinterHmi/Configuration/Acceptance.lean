import PrinterHmi.Configuration.WellFormed
import PrinterHmi.Transport.Authenticity

/-!
# The manager's half of an enrollment

A relay makes a request of an offer, and later imports the receipt that answers it. Here
is what these two calls do when nothing is in their way: a founded directory turns any
offer it can read into a request (`Founded.requests`), whose challenge it has pending
afterwards, and it imports any receipt for a pending challenge (`Founded.imports`), unless
there is no room for the device or its identifier is taken. Then the receiver can be
enabled (`Founded.enables`).

None of this is about honest agents. An offer need only be one `readOffer` accepts, and a
receipt one that is signed with the key it names (`receiptFor_signed`); how an agent comes
to write such documents is left to the module that puts the two halves together.
-/

namespace PrinterHmi

open FileProg

/-- The devices in the allowlist. -/
def Directory.devices (d : Directory) : List EnrolledDevice :=
  match d.config with
  | some config => config.devices
  | none => []

/-- No file step of the call fails. -/
def ManagerCall.Faultless (call : ManagerCall) : Prop := ∀ k, call.faults k = false

namespace Manager

section Steps

variable {P : Platform} {resolve : String → String} {env : Founding} {relayId peerId : String}
  {listenPort : ℤ} {d : Directory} {s : RelayState} {c : ReceiverDocument}

/-! ### Calls whose file steps go through -/

/-- A call takes its course if no file step fails. -/
theorem managerStep_of_course {call : ManagerCall} {action : ManagerAction} {l : List Directory}
    {r : Except Exn Json} {d' : Directory} (hcall : call.Faultless) (haction : call.action = action)
    (hcourse : (action.program P resolve call.env).Course d l r d') :
    managerStep P resolve d call = (r, d') := by
  have hfaults : call.faults = fun _ => false := funext hcall
  rw [managerStep, haction, hfaults, run_no_fault]
  exact hcourse.exec

/-- A call whose file steps go through ends in one of its outcomes. -/
theorem managerStep_of_faultless (h : d.Loads P resolve s c) {call : ManagerCall}
    (hcall : call.Faultless) :
    ∃ l r d', Outcome P resolve d s c call.env call.action l r d' ∧
      managerStep P resolve d call = (r, d') := by
  obtain ⟨l, r, d', hcourse, hout⟩ := exists_course h call.env call.action
  exact ⟨l, r, d', hout, managerStep_of_course hcall rfl hcourse⟩

/-! ### Requests -/

/-- An identifier that has the form of one is an audience. -/
theorem audience_of_deviceIdPattern {id : String} (h : deviceIdPattern id = true) :
    id.toList.take 4 = deviceIdPrefix ∧ id.length = 30 := by
  rw [deviceIdPattern, Bool.and_eq_true, beq_iff_eq, matchesClass, Bool.and_eq_true,
    Bool.and_eq_true, decide_eq_true_eq, decide_eq_true_eq, List.length_drop] at h
  obtain ⟨htake, ⟨hleast, hmost⟩, -⟩ := h
  refine ⟨htake, ?_⟩
  rw [← String.length_toList]
  omega

/-- A challenge is made for every device and every relay. -/
theorem exists_createRelayChallenge {deviceId relayId : String}
    (hdevice : deviceIdPattern deviceId = true) (hrelay : relayIdPattern relayId = true)
    (id : Uuid) (nonce : Bytes32) (now : Time) : ∃ challenge,
      createRelayChallenge P deviceId relayId challengeTtl id nonce now = .ok challenge := by
  have httl : 1 ≤ challengeTtl ∧ seconds challengeTtl ≤ maxChallengeLifetime := by decide
  rw [createRelayChallenge, require_pos (audience_of_deviceIdPattern hdevice), require_pos hrelay,
    require_pos httl]
  exact ⟨_, rfl⟩

/-- The request a relay makes of an offer, around a challenge. -/
def requestOf (P : Platform) (env : Founding) (peerId : String) (offer : RelayOffer)
    (challenge : Json) : Json :=
  enrollmentRequest challenge (.str offer.code) offer.pairingId peerId
    (b64encode (P.publicKey env.key).1)
    (P.sign env.key (peerProofPayload challenge offer.pairingId peerId offer.deviceId))

/-- **A founded relay makes a request of every offer it reads.** -/
theorem Founded.buildRequest (h : Founded P resolve env relayId peerId listenPort d s c)
    (supply : ManagerSupply) {now : Time} {document : Json} {offer : RelayOffer}
    (hoffer : readOffer P now document = .ok offer) : ∃ challenge,
      createRelayChallenge P offer.deviceId relayId challengeTtl supply.challengeId supply.nonce
        supply.made = .ok challenge ∧
      buildRequest P supply s offer = .ok (challenge, requestOf P env peerId offer challenge) := by
  obtain ⟨-, ⟨-, key, -, hid⟩, -, -⟩ := derived_of_readOffer hoffer
  have hdevice : deviceIdPattern offer.deviceId = true := by
    rw [show offer.deviceId = deviceId P key.1 from hid]
    exact deviceIdPattern_deviceId P key.1
  have hrelay : relayIdPattern relayId = true := h.relayId ▸ (checkRelayState_json.mp h.loads.stateOk).1
  obtain ⟨challenge, hchallenge⟩ := exists_createRelayChallenge (P := P) hdevice hrelay
    supply.challengeId supply.nonce supply.made
  refine ⟨challenge, hchallenge, ?_⟩
  simp only [Manager.buildRequest, Except.bind_eq_ok, keyBytes_eq_ok, h.relayId, h.peerId,
    h.peerPublicKey, h.peerPrivateKey]
  exact ⟨challenge, hchallenge, env.key.1, b64decodeText_b64encode _ _, env.key, rfl, rfl⟩

/-- **A request is written and its challenge is pending**, if the path is free. -/
theorem Founded.requests (h : Founded P resolve env relayId peerId listenPort d s c)
    (call : ManagerCall) {offerFile : Option Bytes} {output : String} {document : Json}
    {offer : RelayOffer} (hcall : call.Faultless)
    (haction : call.action = .createEnrollmentRequest offerFile output)
    (hfile : readJson P offerFile "pairing offer" = .ok document)
    (hoffer : readOffer P call.env.checked document = .ok offer)
    (hparent : call.env.parentExists = true) (hfree : call.env.occupied = false) :
    ∃ challenge, createRelayChallenge P offer.deviceId relayId challengeTtl call.env.challengeId
        call.env.nonce call.env.made = .ok challenge ∧
      managerStep P resolve d call = (.ok (requestReply call.env output offer challenge),
        (d.withOutput output (requestOf P env peerId offer challenge)).withState
          (withPending s call.env offer challenge)) ∧
      Founded P resolve env relayId peerId listenPort
        ((d.withOutput output (requestOf P env peerId offer challenge)).withState
          (withPending s call.env offer challenge)) (withPending s call.env offer challenge) c := by
  obtain ⟨challenge, hchallenge, hbuild⟩ := h.buildRequest call.env hoffer
  have hcourse := course_createEnrollmentRequest h.loads hfile hoffer hbuild hparent hfree output
  refine ⟨challenge, hchallenge, managerStep_of_course hcall haction hcourse, ?_⟩
  exact h.change ((h.loads.withOutput _ _).withState
    (checkRelayState_pending h.loads.stateOk _) rfl) ⟨rfl, rfl, rfl, rfl⟩ ⟨rfl, rfl⟩ h.sorted

/-! ### Receipts -/

/-- **A receipt that is signed with the key it names** is one for its device. -/
theorem receiptFor_signed {device : EnrolledDevice} {key : Bytes32} {e : Exn}
    (hkey : b64decodeText e device.publicKey = .ok (P.publicKey key).1)
    (hid : device.deviceId = PrinterHmi.deviceId P (P.publicKey key).1)
    (challengeId relayId pairingId peerId peerPublicKey enrolledAt : String) :
    ReceiptFor P relayId peerId peerPublicKey challengeId device
      (withSignature (enrollmentReceipt challengeId relayId pairingId device.deviceId
          device.publicKey peerId peerPublicKey enrolledAt)
        (P.sign key (enrollmentReceiptDomain ++ canonical (enrollmentReceipt challengeId relayId
          pairingId device.deviceId device.publicKey peerId peerPublicKey enrolledAt)))) where
  form := ⟨rfl, rfl, rfl⟩
  relay := rfl
  peer := rfl
  peerKey := rfl
  challenge := rfl
  deviceId := rfl
  deviceKey := rfl
  signed := ⟨P.publicKey key, _, b64decodeText_eq_ok hkey, hid, b64decode_str_b64encode _ _,
    P.verify_sign _ _⟩

/-- The receipt an agent signs is one for the device of its identity. -/
theorem receiptFor_signedReceipt {i : Identity} {k : Bytes32} (hk : checkIdentity P i = .ok k)
    (env : Supply) (challenge : RelayChallenge) (a : Attempt) :
    ReceiptFor P challenge.relayId a.peerId (b64encode a.key.1) challenge.challengeId i.device
      (signedReceipt P env i k challenge a) := by
  obtain ⟨hpublic, hid⟩ := checkIdentity_eq_ok hk
  have hkey : b64decodeText invalidEncoded i.device.publicKey = .ok (P.publicKey k).1 := by
    rw [Identity.device, hpublic]
    exact b64decodeText_b64encode _ _
  exact receiptFor_signed hkey hid _ _ _ _ _ _

/-! ### Imports -/

/-- The configuration with one more device loads, if there is room for it and its identifier
is not taken. -/
theorem valid_withDevice {paths : Paths} {device : EnrolledDevice} (h : c.Valid P paths)
    (hderived : device.Derived P) (hnew : ∀ other ∈ c.devices, other.deviceId ≠ device.deviceId)
    (hcount : c.devices.length < 10000) : (withDevice c device).Valid P paths := by
  have hperm : (withDevice c device).devices.Perm (c.devices ++ [device]) :=
    List.perm_insertionSort _ _
  obtain ⟨enabled, henabled, -⟩ := h.enabled
  refine ⟨⟨enabled, henabled, fun _ hnil => ?_⟩, h.relayId, h.listenHost, h.listenPort,
    h.staleAfter, ?_, fun other hother => ?_, ?_, h.apiSocket, h.stateFile, h.certFile, h.keyFile⟩
  · have hmem : device ∈ (withDevice c device).devices := mem_withDevice.mpr (.inr rfl)
    rw [hnil] at hmem
    exact (List.not_mem_nil hmem).elim
  · rw [hperm.length_eq, List.length_append, List.length_singleton]
    exact hcount
  · rcases mem_withDevice.mp hother with hother | rfl
    · exact h.derived other hother
    · exact hderived
  · rw [(hperm.map EnrolledDevice.deviceId).nodup_iff, List.map_append, List.map_singleton]
    refine h.nodup.append (List.nodup_singleton _) ?_
    rw [List.disjoint_singleton]
    intro hmem
    obtain ⟨other, hother, hid⟩ := List.mem_map.mp hmem
    exact hnew other hother hid

/-- A device of the list is what is found under its identifier. -/
theorem findDevice_of_mem {device : EnrolledDevice} (hmem : device ∈ c.devices)
    (hsame : ∀ other ∈ c.devices, other.deviceId = device.deviceId → other = device) :
    findDevice c device.deviceId = some device := by
  cases hfind : findDevice c device.deviceId with
  | none => exact absurd rfl (findDevice_eq_none.mp hfind device hmem)
  | some other =>
    have hid : other.deviceId = device.deviceId := by simpa using List.find?_some hfind
    rw [hsame other (mem_of_findDevice hfind) hid]

/-- The directory after a device has been imported over a challenge. -/
def imported (d : Directory) (s : RelayState) (c : ReceiverDocument) (challengeId : String)
    (device : EnrolledDevice) : Directory :=
  if device ∈ c.devices then d.withState (withoutPending s challengeId)
  else (d.withConfig (withDevice c device)).withState (withoutPending s challengeId)

/-- A receipt for a founded relay and a pending challenge is accepted. -/
theorem Founded.matches (h : Founded P resolve env relayId peerId listenPort d s c) {receipt : Json}
    {challengeId : String} {device : EnrolledDevice} {pending : PendingChallenge}
    (hreceipt : ReceiptFor P relayId peerId (b64encode (P.publicKey env.key).1) challengeId device
      receipt)
    (hpending : s.pendingChallenges.get? challengeId = some pending)
    (hanswer : pending.deviceId = device.deviceId ∧ pending.devicePublicKey = device.publicKey) :
    matchReceipt P s receipt = .ok (challengeId, device) := by
  refine matchReceipt_eq_ok.mpr ⟨?_, pending, hpending, hanswer⟩
  rw [h.relayId, h.peerId, h.peerPublicKey]
  exact hreceipt

/-- **A receipt for a pending challenge is imported**, if there is room for the device and its
identifier is not that of another. -/
theorem Founded.imports (h : Founded P resolve env relayId peerId listenPort d s c)
    (call : ManagerCall) {receiptFile : Option Bytes} {receipt : Json} {challengeId : String}
    {device : EnrolledDevice} {pending : PendingChallenge} (hcall : call.Faultless)
    (haction : call.action = .addReceipt receiptFile)
    (hfile : readJson P receiptFile "enrollment receipt" = .ok receipt)
    (hreceipt : ReceiptFor P relayId peerId (b64encode (P.publicKey env.key).1) challengeId device
      receipt)
    (hpending : s.pendingChallenges.get? challengeId = some pending)
    (hanswer : pending.deviceId = device.deviceId ∧ pending.devicePublicKey = device.publicKey)
    (hderived : device.Derived P)
    (hsame : ∀ other ∈ c.devices, other.deviceId = device.deviceId → other = device)
    (hcount : c.devices.length < 10000) :
    (∃ r, managerStep P resolve d call = (.ok r, imported d s c challengeId device)) ∧
      ∃ c', Founded P resolve env relayId peerId listenPort (imported d s c challengeId device)
        (withoutPending s challengeId) c' ∧ device ∈ c'.devices := by
  have hmatch := h.matches hreceipt hpending hanswer
  have hstate := checkRelayState_pending h.loads.stateOk (s.pendingChallenges.erase challengeId)
  -- an enrolled device only loses its challenge; a new one is saved first
  by_cases hmem : device ∈ c.devices
  · rw [imported, if_pos hmem]
    have hcourse := course_addReceipt h.loads hfile hmatch
      (course_enrollDevice_found h.loads (findDevice_of_mem hmem hsame) challengeId)
    refine ⟨⟨_, managerStep_of_course hcall haction hcourse⟩, c, ?_, hmem⟩
    exact h.change (h.loads.withState hstate rfl) ⟨rfl, rfl, rfl, rfl⟩ ⟨rfl, rfl⟩ h.sorted
  · have hnew : ∀ other ∈ c.devices, other.deviceId ≠ device.deviceId := fun other hother hid =>
      hmem (hsame other hother hid ▸ hother)
    have hvalid := valid_withDevice h.loads.valid hderived hnew hcount
    rw [imported, if_neg hmem]
    have hcourse := course_addReceipt h.loads hfile hmatch
      (course_enrollDevice_new h.loads (findDevice_eq_none.mpr hnew) hvalid challengeId)
    refine ⟨⟨_, managerStep_of_course hcall haction hcourse⟩, withDevice c device, ?_,
      mem_withDevice.mpr (.inr rfl)⟩
    exact h.change ((h.loads.withConfig hvalid rfl).withState hstate rfl) ⟨rfl, rfl, rfl, rfl⟩
      ⟨rfl, rfl⟩ (sorted_withDevice hvalid)

/-- A receipt is refused if it answers no pending challenge, or another device has the
identifier. -/
theorem Founded.refuses (h : Founded P resolve env relayId peerId listenPort d s c)
    (call : ManagerCall) {receiptFile : Option Bytes} {receipt : Json} (hcall : call.Faultless)
    (haction : call.action = .addReceipt receiptFile)
    (hfile : readJson P receiptFile "enrollment receipt" = .ok receipt)
    (htaken : ∀ challengeId device, matchReceipt P s receipt = .ok (challengeId, device) →
      ∃ other ∈ c.devices, other.deviceId = device.deviceId ∧ other ≠ device) :
    ∃ e, managerStep P resolve d call = (.error e, d) := by
  obtain ⟨l, r, d', hout, hstep⟩ := managerStep_of_faultless h.loads hcall
  rw [haction] at hout
  cases hout with
  | refused => exact ⟨_, hstep⟩
  | enrolled hfile' hmatch hnew =>
    obtain rfl := Except.ok.inj (hfile'.symm.trans hfile)
    obtain ⟨other, hmem, hid, -⟩ := htaken _ _ hmatch
    exact absurd hid (findDevice_eq_none.mp hnew other hmem)
  | reenrolled hfile' hmatch hfound =>
    obtain rfl := Except.ok.inj (hfile'.symm.trans hfile)
    obtain ⟨other, hmem, hid, hne⟩ := htaken _ _ hmatch
    exact absurd (List.inj_on_of_nodup_map h.loads.valid.nodup hmem (mem_of_findDevice hfound) hid) hne

/-- **A receiver with a device can be enabled.** -/
theorem Founded.enables (h : Founded P resolve env relayId peerId listenPort d s c)
    (call : ManagerCall) (hcall : call.Faultless) (haction : call.action = .setEnabled (.bool true) true)
    (hdevices : c.devices ≠ []) :
    ∃ reply, managerStep P resolve d call =
        (.ok reply, d.withConfig { c with enabled := .bool true }) ∧
      Founded P resolve env relayId peerId listenPort (d.withConfig { c with enabled := .bool true }) s
        { c with enabled := .bool true } := by
  have hvalid : ReceiverDocument.Valid P (d.paths resolve) { c with enabled := .bool true } :=
    { h.loads.valid with enabled := ⟨true, rfl, fun _ => hdevices⟩ }
  have hcourse : (setEnabled P resolve (.bool true) true).Course d _ _ _ :=
    course_locked ((course_require (fun _ => rfl) _ d).bind ((course_loadConfig h.loads).bind
      ((course_require (fun _ => hdevices) _ d).bind (course_reconfigure h.loads hvalid rfl))))
  exact ⟨_, managerStep_of_course hcall haction hcourse,
    h.change (h.loads.withConfig hvalid rfl) ⟨rfl, rfl, rfl, rfl⟩ ⟨rfl, rfl⟩ h.sorted⟩

end Steps

end Manager

/-! ### A sample enrollment -/

namespace Sample

open Manager

theorem founded_relayDirectory : Founded platform relayPath founding "relay-1" "printerhmi-relay"
    8443 relayDirectory (foundingState platform founding "relay-1" "printerhmi-relay")
    (foundingConfig "relay-1" 8443) :=
  founded_foundingDirectory founding (by decide) (by decide) (by decide)

/-- The offer of the agent. -/
def offerDocument : Json := pairingOffer platform (supply (moment 0) pairingId) 600 agentIdentity

/-- The relay makes a request of the offer. -/
def requesting : ManagerCall :=
  ⟨.createEnrollmentRequest (some (canonical offerDocument)) "/srv/request.json", relaySupply,
    fun _ => false⟩

/-- The receipt of the agent. -/
def agentReceipt : Json :=
  signedReceipt platform (supply (moment 2) pairingId) agentIdentity agentKey firstChallenge
    (attempted pairingId "printerhmi-relay")

/-- The relay imports the receipt. -/
def importing : ManagerCall :=
  ⟨.addReceipt (some (canonical agentReceipt)), relaySupply, fun _ => false⟩

theorem checkIdentity_agentIdentity : checkIdentity platform agentIdentity = .ok agentKey :=
  checkIdentity_newIdentity _ _

/-- The receipt is for the agent's device, the sample relay and its challenge. -/
theorem receiptFor_agentReceipt : ReceiptFor platform "relay-1" "printerhmi-relay"
    (b64encode (platform.publicKey founding.key).1) challengeId.1 agentIdentity.device
    agentReceipt := by
  have hkey : platform.publicKey founding.key = relayPublic := by decide
  rw [hkey]
  exact receiptFor_signedReceipt checkIdentity_agentIdentity (supply (moment 2) pairingId)
    firstChallenge (attempted pairingId "printerhmi-relay")

/-- **The sample enrollment goes through.** -/
theorem enrollment_relayDirectory : ∃ r d₁ r' d₂,
    managerStep platform relayPath relayDirectory requesting = (.ok r, d₁) ∧
      managerStep platform relayPath d₁ importing = (.ok r', d₂) ∧
      agentIdentity.device ∈ d₂.devices ∧ ∃ s c, agentIdentity.device ∈ c.devices ∧
        Founded platform relayPath founding "relay-1" "printerhmi-relay" 8443 d₂ s c := by
  have hderived := derived_of_checkIdentity checkIdentity_agentIdentity
  have hlive : relaySupply.checked < moment 0 + seconds 600 := by decide
  obtain ⟨challenge, -, hrequest, hfounded⟩ := founded_relayDirectory.requests requesting
    (fun _ => rfl) rfl (readJson_pairingOffer _ _ _ _)
    (readOffer_pairingOffer hderived hlive) rfl rfl
  have hempty : ∀ other ∈ (foundingConfig "relay-1" 8443).devices,
      other.deviceId = agentIdentity.device.deviceId → other = agentIdentity.device :=
    fun other hother => (List.not_mem_nil hother).elim
  obtain ⟨⟨r', himport⟩, c', hfounded', hmem⟩ := hfounded.imports importing
    (fun _ => rfl) rfl (readJson_enrollmentReceipt _ _) receiptFor_agentReceipt
    ((Dict.get?_insert ..).trans (if_pos rfl)) ⟨rfl, rfl⟩ hderived hempty (by decide)
  refine ⟨_, _, r', _, hrequest, himport, ?_, _, c', hmem, hfounded'⟩
  rw [Directory.devices, hfounded'.loads.config]
  exact hmem

end Sample

open Sample in
/-- The sample directory is well formed when the agent has been enrolled and the receiver
enabled. -/
theorem Manager.documents_well_formed_sample : ∃ events d s c,
    ManagerRun platform relayPath relayDirectory events d ∧
      Manager.WellFormed platform relayPath founding (.str "relay-1") (.str "printerhmi-relay")
        (.int 8443) d s c ∧
      agentIdentity.device ∈ c.devices ∧ c.enabled = .bool true := by
  obtain ⟨r, d₁, r', d₂, hrequest, himport, -, s, c, hmem, hfounded⟩ := enrollment_relayDirectory
  obtain ⟨reply, henable, hfounded'⟩ :=
    hfounded.enables enabling (fun _ => rfl) rfl (List.ne_nil_of_mem hmem)
  have hrun : ManagerRun platform relayPath relayDirectory _
      (d₂.withConfig { c with enabled := .bool true }) :=
    ((Run.start.next_eq trivial hrequest).next_eq trivial himport).next_eq trivial henable
  obtain ⟨s', c', hformed⟩ := Manager.documents_well_formed initialized_relayDirectory hrun
  -- the configuration is the one that was written last
  obtain rfl := Option.some.inj (hfounded'.loads.config.symm.trans hformed.config)
  exact ⟨_, _, s', _, hrun, hformed, hmem, rfl⟩

end PrinterHmi
