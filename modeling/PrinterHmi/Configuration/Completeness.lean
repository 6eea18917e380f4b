import PrinterHmi.Configuration.Allowlist
import PrinterHmi.Configuration.Atomicity

/-!
# An honest enrollment goes through

An agent makes an offer, a relay makes a request of it, the agent answers with a receipt,
the relay imports the receipt, and its receiver loads the configuration. Each of the five
steps checks again what the others wrote, with patterns, decoders and clock windows of its
own. They fit: whatever the relay has been through, whatever the agent has been through,
the enrollment succeeds as long as the clocks are in the windows and nobody else has used
what it needs (`enrollment_complete`).

Two things can be used up between the steps. The challenge is answered once, so no receipt
over it may have been imported before; until then it stays pending, whatever the relay does
and whichever of its file steps fail (`pending_of_run`). And the identifier of the device
may be taken: a key has several texts, of which a relay enrolls the one it is offered, and
once a device is enrolled under another text of its key its own is refused
(`enrollment_refused`).
-/

namespace PrinterHmi

open FileProg

namespace Manager

section Completeness

variable {P : Platform} {resolve : String → String} {env : Founding} {relayId peerId : String}
  {listenPort : ℤ} {d d' : Directory} {s s' : RelayState} {c : ReceiverDocument}
  {call : ManagerCall} {l : List Directory} {r : Except Exn Json} {id : String}

/-! ### A challenge stays pending -/

/-- A call keeps what is pending, whichever of its file steps fail. -/
theorem kept_of_step (hloads : d.Loads P resolve s c)
    (hstate : (managerStep P resolve d call).2.state = some s') (hdrawn : call.drawn? ≠ some id)
    (himports : ∀ receipt, ¬ManagerEvent.Imports P id receipt
      ⟨d, call, (managerStep P resolve d call).1, (managerStep P resolve d call).2⟩) :
    s'.pendingChallenges.get? id = s.pendingChallenges.get? id := by
  obtain ⟨l, r, d', hout, ⟨k, e, hstage, -, -⟩ | ⟨-, hstep⟩⟩ := managerStep_cases hloads call
  · -- the enrollment state is the last document to be replaced
    have hsame : (managerStep P resolve d call).2.state = d.state := by
      rcases stage_of_outcome hout hstage with heq | ⟨-, -, heq⟩
      · rw [heq]
      · rw [heq]
    obtain rfl := Option.some.inj (hstate.symm.trans (hsame.trans hloads.state))
    rfl
  · rw [hstep] at hstate himports
    exact (pendingChange_of_outcome hloads hout hstate).kept hdrawn himports

/-- **A challenge stays pending**, over every run that neither draws it once more nor imports
a receipt over it. -/
theorem pending_of_run {later : List ManagerEvent} {pending : PendingChallenge}
    (hfounded : Founded P resolve env relayId peerId listenPort d s c)
    (hpending : s.pendingChallenges.get? id = some pending)
    (hrun : Run (managerStep P resolve) (fun _ call => call.drawn? ≠ some id) d later d')
    (hnone : ∀ e ∈ later, ∀ receipt, ¬ManagerEvent.Imports P id receipt e) :
    ∃ s c, Founded P resolve env relayId peerId listenPort d' s c ∧
      s.pendingChallenges.get? id = some pending := by
  induction hrun with
  | start => exact ⟨s, c, hfounded, hpending⟩
  | @next h t call hrun hdrawn ih =>
    obtain ⟨s, c, hfounded', hpending'⟩ := ih fun e he => hnone e (List.mem_append_left _ he)
    obtain ⟨s', c', hfounded''⟩ := hfounded'.step call
    refine ⟨s', c', hfounded'', ?_⟩
    rw [kept_of_step hfounded'.loads hfounded''.loads.state hdrawn
      (hnone _ (List.mem_append_right _ (List.mem_singleton_self _))), hpending']

/-! ### The agent's half -/

variable {h h₁ : Host} {made answer : Supply} {ttl : ℤ} {i : Identity} {k : Bytes32}

/-- The challenge of a relay, as an agent reads it. -/
def challengeOf (challenge : Json) (challengeId : Uuid) (relayId : String) (date : Time) :
    RelayChallenge :=
  ⟨challenge, challengeId.1, relayId, date, date + seconds challengeTtl⟩

/-- What the request of a relay tries, on an offer. -/
def attemptOf (P : Platform) (founding : Founding) (peerId : String) (made : Supply) : Attempt :=
  ⟨made.pairingId.1, some (String.ofList made.code.1), peerId, P.publicKey founding.key⟩

/-- **What an agent that returns an offer has done.** -/
theorem offered_of_createPairing {offer : Json}
    (hoffer : storeStep P h ⟨.createPairing ttl, made⟩ = (.ok (.document offer), h₁)) :
    ∃ i k, checkIdentity P i = .ok k ∧ h₁.identity = some i ∧ offer = pairingOffer P made ttl i ∧
      h₁.loaded = h.loaded.offer P made ttl := by
  have hout := storeStep_outcome (P := P) h ⟨.createPairing ttl, made⟩
  rw [hoffer] at hout
  cases hout with
  | created httl hid => exact ⟨_, _, hid.checked, hid.identity, rfl, rfl⟩

/-- **The agent answers the request a relay makes of its offer**, while the challenge is
fresh and the offer stands. -/
theorem completes_requestOf (founding : Founding) {challengeId : Uuid} {nonce : Bytes32}
    {date : Time} {challenge : Json} {s : StoreState} (hidentity : h₁.identity = some i)
    (hk : checkIdentity P i = .ok k) (hloaded : h₁.loaded = s.offer P made ttl)
    (hchallenge : createRelayChallenge P i.deviceId relayId challengeTtl challengeId nonce date =
      .ok challenge)
    (hskew : date - challengeClockSkew ≤ answer.now)
    (hwindow : answer.now < date + seconds challengeTtl) (hopen : answer.now < made.now + seconds ttl)
    (hunused : s.usedChallenges.get? challengeId.1 = none) (hpeer : peerIdPattern peerId = true)
    (hinactive : s.isActive peerId = false) :
    ∃ h₂, storeStep P h₁ ⟨.completeRelayEnrollment (requestOf P founding peerId
        ⟨made.pairingId.1, i.deviceId, i.publicKey, displayCode made.code⟩ challenge), answer⟩ =
      (.ok (.document (signedReceipt P answer i k (challengeOf challenge challengeId relayId date)
        (attemptOf P founding peerId made))), h₂) := by
  -- each check of `complete_relay_enrollment`, in its order
  have hread : readEnrollmentRequest P (requestOf P founding peerId
      ⟨made.pairingId.1, i.deviceId, i.publicKey, displayCode made.code⟩ challenge) =
      .ok ⟨attemptOf P founding peerId made, challenge, P.sign founding.key
        (peerProofPayload challenge made.pairingId.1 peerId i.deviceId)⟩ := by
    rw [requestOf, readEnrollmentRequest_enrollmentRequest made.pairingId.2 hpeer,
      normalizeCode_displayCode]
    rfl
  have hvalid : validateRelayChallenge P challenge i.deviceId answer.now =
      .ok (challengeOf challenge challengeId relayId date) :=
    validateRelayChallenge_createRelayChallenge hchallenge (sub_le_iff_le_add.mp hskew) hwindow
  have hproof := P.verify_sign founding.key
    (peerProofPayload challenge made.pairingId.1 peerId i.deviceId)
  have hunused' : (h₁.loaded.pruneUsedChallenges answer.now).usedChallenges.get? challengeId.1 =
      none := by
    have hbefore : (s.offer P made ttl).usedChallenges.get? challengeId.1 = none := hunused
    rw [hloaded, StoreState.pruneUsedChallenges, Dict.get?_filter, hbefore]
    rfl
  have hstands : h₁.loaded.pairings.get? made.pairingId.1 = some (newPairing P made ttl) := by
    rw [hloaded]
    exact (Dict.get?_insert ..).trans (if_pos rfl)
  have hinactive' : h₁.loaded.isActive peerId = false := by
    rw [hloaded]
    exact hinactive
  have hexec : (completeRelayEnrollment P answer (requestOf P founding peerId
      ⟨made.pairingId.1, i.deviceId, i.publicKey, displayCode made.code⟩ challenge)).exec h₁ = _ :=
    exec_completeRelayEnrollment (newPairing P made ttl) hread (.stored hidentity hk) hvalid hunused'
      hproof hstands hopen (newPairing_accepts _ _ _) hinactive'
  exact ⟨_, storeStep_document rfl hexec⟩

/-! ### The whole enrollment -/

/-- **An honest enrollment is complete.** A relay, in any state its manager reaches, and an
agent, in any state, of which the relay is not an active peer: an offer of the agent that is
given to the relay before it expires becomes a request, which the agent answers with a
receipt while the challenge is fresh and the offer stands. In every later state of the
manager in which no receipt over the challenge has been imported, there is room, and no
device has the agent's identifier under another text of its key, the receipt is accepted:
the agent's device is in the allowlist then, and the receiver loads it. -/
theorem enrollment_complete {port : Json} {d₀ : Directory} {events : List ManagerEvent}
    (hinit : Initialized P resolve env (.str relayId) (.str peerId) port d₀)
    (hrun : ManagerRun P resolve d₀ events d) {offer : Json}
    (hoffer : storeStep P h ⟨.createPairing ttl, made⟩ = (.ok (.document offer), h₁))
    (hinactive : h.loaded.isActive peerId = false) {offerFile : Option Bytes} {output : String}
    (hcall : call.Faultless) (haction : call.action = .createEnrollmentRequest offerFile output)
    (hfile : readJson P offerFile "pairing offer" = .ok offer)
    (hparent : call.env.parentExists = true) (hfree : call.env.occupied = false)
    (hlive : call.env.checked < made.now + seconds ttl)
    (hunused : h.loaded.usedChallenges.get? call.env.challengeId.1 = none)
    (hskew : call.env.made - challengeClockSkew ≤ answer.now)
    (hwindow : answer.now < call.env.made + seconds 300)
    (hopen : answer.now < made.now + seconds ttl) :
    ∃ i reply d₁ request receipt h₂, h₁.identity = some i ∧
      managerStep P resolve d call = (.ok reply, d₁) ∧ d₁.outputs.get? output = some request ∧
      storeStep P h₁ ⟨.completeRelayEnrollment request, answer⟩ = (.ok (.document receipt), h₂) ∧
      readJson P (some (canonical receipt)) "enrollment receipt" = .ok receipt ∧
      ∀ later d₂, Run (managerStep P resolve)
          (fun _ next => next.drawn? ≠ some call.env.challengeId.1) d₁ later d₂ →
        (∀ e ∈ later, ∀ other, ¬ManagerEvent.Imports P call.env.challengeId.1 other e) →
        d₂.devices.length < 10000 →
        (∀ other ∈ d₂.devices, other.deviceId = i.deviceId → other.publicKey = i.publicKey) →
        ∀ (importing : ManagerCall) receiptFile, importing.Faultless →
          importing.action = .addReceipt receiptFile →
          readJson P receiptFile "enrollment receipt" = .ok receipt →
          ∃ reply d₃ c parsed, managerStep P resolve d₂ importing = (.ok reply, d₃) ∧
            d₃.config = some c ∧ ⟨i.deviceId, i.publicKey⟩ ∈ c.devices ∧
            ReceiverConfig.load P (d₃.paths resolve) c.json = .ok parsed ∧
            parsed.devices.get? i.deviceId = some i.publicKey := by
  -- the relay makes a request of the offer
  obtain ⟨relay, peer, listenPort, hrelay, hpeer, -, hstart⟩ := founded_of_initialized hinit
  obtain rfl := Json.str.inj hrelay
  obtain rfl := Json.str.inj hpeer
  obtain ⟨s, c, hfounded⟩ := founded_of_run ⟨_, _, hstart⟩ hrun
  obtain ⟨i, k, hk, hidentity, rfl, hloaded⟩ := offered_of_createPairing hoffer
  have hderived := derived_of_checkIdentity hk
  obtain ⟨challenge, hchallenge, hrequest, hfounded'⟩ := hfounded.requests call hcall haction hfile
    (readOffer_pairingOffer hderived hlive) hparent hfree
  -- the agent answers it
  have hpeerId : peerIdPattern peerId = true :=
    hfounded.peerId ▸ (checkRelayState_json.mp hfounded.loads.stateOk).2.1
  obtain ⟨h₂, hcomplete⟩ := completes_requestOf env hidentity hk hloaded hchallenge
    hskew hwindow hopen hunused hpeerId hinactive
  refine ⟨i, _, _, _, _, h₂, hidentity, hrequest, get?_outputs_withOutput _ _ _, hcomplete,
    readJson_enrollmentReceipt _ _, ?_⟩
  -- and the relay imports the answer, when it comes to it
  intro later d₂ hlater hnone hcount htexts importing receiptFile himporting haction' hfile'
  obtain ⟨s₂, c₂, hfounded₂, hpending⟩ := pending_of_run hfounded'
    ((Dict.get?_insert ..).trans (if_pos rfl)) hlater hnone
  rw [Directory.devices, hfounded₂.loads.config] at hcount htexts
  have hsame : ∀ other ∈ c₂.devices, other.deviceId = i.device.deviceId → other = i.device := by
    rintro ⟨otherId, otherKey⟩ hother hid
    obtain rfl : otherId = i.deviceId := hid
    obtain rfl : otherKey = i.publicKey := htexts _ hother rfl
    rfl
  obtain ⟨⟨reply, himport⟩, c', hfounded₃, hmem⟩ := hfounded₂.imports importing himporting
    haction' hfile' (receiptFor_signedReceipt hk answer
      (challengeOf challenge call.env.challengeId relayId call.env.made)
      (attemptOf P env peerId made)) hpending ⟨rfl, rfl⟩ hderived hsame hcount
  obtain ⟨parsed, hparsed⟩ := hfounded₃.loads.valid.load
  exact ⟨reply, _, c', parsed, himport, hfounded₃.loads.config, hmem, load_eq_ok.mp hparsed,
    get?_of_load hparsed hmem⟩

end Completeness

end Manager

/-! ### Sample enrollments -/

namespace Sample

open Manager

/-- Another text of the agent's key: two bits of its last digit mean nothing. -/
def otherText : String := "0EqyMnQrtKs6E2i9RhXk5tAiSrcaAWuvhSCjMsl3hzd"

/-- The agent's identity, under the other text of its key. -/
def shown : Identity := { agentIdentity with publicKey := otherText }

theorem derived_shown : shown.device.Derived platform :=
  ⟨by decide, agentPublic, by decide, by decide⟩

/-- A receipt of the agent for the sample relay, on any challenge and offer, under either
text. -/
def otherReceipt (i : Identity) (challengeId pairingId : Uuid) : Json :=
  enrollmentReceipt challengeId.1 "relay-1" pairingId.1 i.deviceId i.publicKey "printerhmi-relay"
    (b64encode (platform.publicKey founding.key).1) "2023-11-14T22:13:22Z"

/-- The receipt, signed with the agent's key. -/
def otherSigned (i : Identity) (challengeId pairingId : Uuid) : Json :=
  withSignature (otherReceipt i challengeId pairingId) (platform.sign agentKey
    (enrollmentReceiptDomain ++ canonical (otherReceipt i challengeId pairingId)))

/-- The agent signs such a receipt, as it signs whatever it is asked to. -/
def signing (i : Identity) (challengeId pairingId : Uuid) : Invocation :=
  ⟨.sign (enrollmentReceiptDomain ++ canonical (otherReceipt i challengeId pairingId)),
    supply (moment 0) pairingId⟩

/-- The agent, once it has signed. -/
theorem exec_signing (i : Identity) (challengeId pairingId : Uuid) : ∃ h,
    storeStep platform .fresh (signing i challengeId pairingId) = (.ok (.signature
      (platform.sign agentKey (enrollmentReceiptDomain ++
        canonical (otherReceipt i challengeId pairingId)))), h) ∧ Standing h .empty :=
  ⟨_, storeStep_signature (exec_sign_identified (.generated rfl) _), rfl, rfl⟩

/-- The agent makes its offer after that. -/
theorem exec_offer {h : Host} (hs : Standing h .empty) : ∃ h₁,
    storeStep platform h offer = (.ok (.document offerDocument), h₁) ∧ Standing h₁ offeredState := by
  refine ⟨_, storeStep_document rfl (exec_createPairing (by decide) hs.identified), hs.identity, ?_⟩
  rw [hs.loaded]
  rfl

/-- The relay is given a receipt. -/
def answering (receipt : Json) : ManagerCall :=
  ⟨.addReceipt (some (canonical receipt)), relaySupply, fun _ => false⟩

/-- The directory of the sample relay, in the course of a run. -/
abbrev Kept (d : Directory) (s : RelayState) (c : ReceiverDocument) : Prop :=
  Founded platform relayPath founding "relay-1" "printerhmi-relay" 8443 d s c

/-- The relay makes a request of the agent's offer. -/
theorem requests_offerDocument {d : Directory} {s : RelayState} {c : ReceiverDocument}
    (hkept : Kept d s c) : ∃ reply d₁ challenge, createRelayChallenge platform agentIdentity.deviceId
        "relay-1" challengeTtl challengeId nonce (moment 1) = .ok challenge ∧
      managerStep platform relayPath d requesting = (.ok reply, d₁) ∧
      d₁.outputs.get? "/srv/request.json" = some (requestOf platform founding "printerhmi-relay"
        ⟨pairingId.1, agentIdentity.deviceId, agentIdentity.publicKey, displayCode code⟩ challenge) ∧
      ∃ s₁, Kept d₁ s₁ c ∧ ∃ expires, s₁.pendingChallenges.get? challengeId.1 =
        some ⟨agentIdentity.deviceId, agentIdentity.publicKey, expires⟩ := by
  have hlive : relaySupply.checked < moment 0 + seconds 600 := by decide
  obtain ⟨challenge, hchallenge, hrequest, hkept'⟩ := hkept.requests requesting
    (fun _ => rfl) rfl (readJson_pairingOffer _ _ _ _)
    (readOffer_pairingOffer (derived_of_checkIdentity checkIdentity_agentIdentity) hlive) rfl rfl
  exact ⟨_, _, challenge, hchallenge, hrequest, get?_outputs_withOutput _ _ _, _, hkept', _,
    (Dict.get?_insert ..).trans (if_pos rfl)⟩

/-- The receipt with which the agent answers it. -/
def honestReceipt (challenge : Json) : Json :=
  signedReceipt platform (supply (moment 2) pairingId) agentIdentity agentKey
    (challengeOf challenge challengeId "relay-1" (moment 1))
    (attemptOf platform founding "printerhmi-relay" (supply (moment 0) pairingId))

/-- **The agent answers it** a second later. -/
theorem answers_request {h₁ : Host} (hs : Standing h₁ offeredState) {challenge : Json}
    (hchallenge : createRelayChallenge platform agentIdentity.deviceId "relay-1" challengeTtl
      challengeId nonce (moment 1) = .ok challenge) : ∃ h₂,
    storeStep platform h₁ ⟨.completeRelayEnrollment (requestOf platform founding "printerhmi-relay"
      ⟨pairingId.1, agentIdentity.deviceId, agentIdentity.publicKey, displayCode code⟩ challenge),
        supply (moment 2) pairingId⟩ = (.ok (.document (honestReceipt challenge)), h₂) := by
  have hskew : moment 1 - challengeClockSkew ≤ (supply (moment 2) pairingId).now := by decide
  have hwindow : (supply (moment 2) pairingId).now < moment 1 + seconds challengeTtl := by decide
  have hopen : (supply (moment 2) pairingId).now < moment 0 + seconds 600 := by decide
  have hpeer : peerIdPattern "printerhmi-relay" = true := by decide
  obtain ⟨h₂, hcomplete⟩ := completes_requestOf founding hs.identity checkIdentity_agentIdentity
    hs.loaded hchallenge hskew hwindow hopen rfl hpeer rfl
  exact ⟨h₂, hcomplete⟩

/-- The relay imports another receipt of the agent, when its allowlist is empty. -/
theorem imports_otherSigned {d : Directory} {s : RelayState} {c : ReceiverDocument}
    (hkept : Kept d s c) {i : Identity} (hderived : i.device.Derived platform)
    (hkey : b64decodeText invalidEncoded i.device.publicKey = .ok (platform.publicKey agentKey).1)
    (hid : i.device.deviceId = deviceId platform (platform.publicKey agentKey).1) {id : Uuid}
    {expires : Json}
    (hpending : s.pendingChallenges.get? id.1 = some ⟨i.deviceId, i.publicKey, expires⟩)
    (hempty : c.devices = []) (pid : Uuid) : ∃ reply d' c',
      managerStep platform relayPath d (answering (otherSigned i id pid)) = (.ok reply, d') ∧
        Kept d' (withoutPending s id.1) c' ∧ c'.devices = [i.device] := by
  have hsame : ∀ other ∈ c.devices, other.deviceId = i.device.deviceId → other = i.device := by
    rw [hempty]
    exact fun other hother => (List.not_mem_nil hother).elim
  have hcount : c.devices.length < 10000 := by
    rw [hempty]
    decide
  obtain ⟨⟨reply, himport⟩, c', hkept', -⟩ := hkept.imports (answering (otherSigned i id pid))
    (fun _ => rfl) rfl (readJson_enrollmentReceipt _ _) (receiptFor_signed hkey hid _ _ _ _ _ _)
    hpending ⟨rfl, rfl⟩ hderived hsame hcount
  refine ⟨reply, _, c', himport, hkept', ?_⟩
  have hnew : i.device ∉ c.devices := hempty ▸ List.not_mem_nil
  have hconfig := hkept'.loads.config
  rw [imported, if_neg hnew] at hconfig
  obtain rfl := Option.some.inj hconfig
  rw [withDevice, hempty]
  rfl

/-- **The sample agent and the sample relay go through an honest enrollment, and it fails**:
some calls after the request, the relay refuses a receipt it has not imported. -/
def FailsAfter (later : List ManagerEvent) (d₂ : Directory) : Prop :=
  ∃ es h h₁ events d reply d₁ request receipt h₂ e,
    Run (storeStep platform) (fun _ _ => True) .fresh es h ∧
    h.loaded.isActive "printerhmi-relay" = false ∧
    storeStep platform h offer = (.ok (.document offerDocument), h₁) ∧
    ManagerRun platform relayPath relayDirectory events d ∧ d.devices.length < 10000 ∧
    managerStep platform relayPath d requesting = (.ok reply, d₁) ∧
    d₁.outputs.get? "/srv/request.json" = some request ∧
    storeStep platform h₁ ⟨.completeRelayEnrollment request, supply (moment 2) pairingId⟩ =
      (.ok (.document receipt), h₂) ∧
    ManagerRun platform relayPath d₁ later d₂ ∧
    (∀ e' ∈ later, ∀ id, ¬ManagerEvent.Imports platform id receipt e') ∧ d₂.devices.length < 10000 ∧
    managerStep platform relayPath d₂ (answering receipt) = (.error e, d₂)

/-- The devices of a kept directory, where there are few. -/
theorem length_devices_lt {d : Directory} {s : RelayState} {c : ReceiverDocument} (hkept : Kept d s c)
    {device : EnrolledDevice} (hdevices : c.devices = [device]) : d.devices.length < 10000 := by
  rw [Directory.devices, hkept.loads.config]
  dsimp only
  rw [hdevices]
  exact (by decide : 1 < 10000)

/-- **An enrollment fails if the device is enrolled under another text of its key.** -/
theorem fails_under_otherText : ∃ d, FailsAfter [] d := by
  obtain ⟨h, hsigning, hstanding⟩ := exec_signing shown sessionId pairingId
  obtain ⟨h₁, hoffer, hoffered⟩ := exec_offer hstanding
  have hinactive : h.loaded.isActive "printerhmi-relay" = false := by
    rw [hstanding.loaded]
    rfl
  -- the relay is shown the other text first
  have hlive : relaySupply.checked < moment 0 + seconds 600 := by decide
  obtain ⟨challenge, -, hshown, hkept⟩ := founded_relayDirectory.requests
    ⟨.createEnrollmentRequest (some (canonical (pairingOffer platform
      (supply (moment 0) pairingId) 600 shown))) "/srv/earlier.json",
      { relaySupply with challengeId := sessionId }, fun _ => false⟩
    (fun _ => rfl) rfl (readJson_pairingOffer _ _ _ _)
    (readOffer_pairingOffer derived_shown hlive) rfl rfl
  have hagent : platform.publicKey agentKey = agentPublic := by decide
  have hkey : b64decodeText invalidEncoded shown.device.publicKey =
      .ok (platform.publicKey agentKey).1 := by
    rw [hagent]
    decide
  obtain ⟨reply, d, c, himport, hkept', hdevices⟩ := imports_otherSigned hkept derived_shown hkey rfl
    ((Dict.get?_insert ..).trans (if_pos rfl)) rfl pairingId
  -- and then the agent's own
  obtain ⟨reply', d₁, challenge', hchallenge, hrequest, hwritten, s₁, hkept₁, expires, hpending⟩ :=
    requests_offerDocument hkept'
  obtain ⟨h₂, hcomplete⟩ := answers_request hoffered hchallenge
  have hne : shown.device ≠ agentIdentity.device := by decide
  have hmatch := hkept₁.matches (receiptFor_signedReceipt checkIdentity_agentIdentity
    (supply (moment 2) pairingId) (challengeOf challenge' challengeId "relay-1" (moment 1))
    (attemptOf platform founding "printerhmi-relay" (supply (moment 0) pairingId))) hpending ⟨rfl, rfl⟩
  obtain ⟨e, hrefused⟩ := hkept₁.refuses (answering (honestReceipt challenge')) (fun _ => rfl)
    rfl (readJson_enrollmentReceipt _ _)
    fun id device hother => by
      obtain ⟨-, rfl⟩ := Prod.mk.inj (Except.ok.inj (hother.symm.trans hmatch))
      exact ⟨shown.device, hdevices ▸ List.mem_singleton_self _, rfl, hne⟩
  exact ⟨d₁, _, h, h₁, _, d, reply', d₁, _, _, h₂, e, Run.start.next_eq trivial hsigning, hinactive,
    hoffer, (Run.start.next_eq trivial hshown).next_eq trivial himport,
    length_devices_lt hkept' hdevices, hrequest, hwritten, hcomplete, Run.start,
    fun e' he' => (List.not_mem_nil he').elim, length_devices_lt hkept₁ hdevices, hrefused⟩

/-- **An enrollment fails if another receipt over its challenge has been imported.** -/
theorem fails_after_otherReceipt : ∃ later d, FailsAfter later d ∧
    d.devices = [agentIdentity.device] := by
  obtain ⟨h, hsigning, hstanding⟩ := exec_signing agentIdentity challengeId pairingId'
  obtain ⟨h₁, hoffer, hoffered⟩ := exec_offer hstanding
  have hinactive : h.loaded.isActive "printerhmi-relay" = false := by
    rw [hstanding.loaded]
    rfl
  obtain ⟨reply, d₁, challenge, hchallenge, hrequest, hwritten, s₁, hkept₁, expires, hpending⟩ :=
    requests_offerDocument founded_relayDirectory
  obtain ⟨h₂, hcomplete⟩ := answers_request hoffered hchallenge
  -- the relay is given the other receipt, for another offer
  obtain ⟨reply', d₂, c₂, himport, hkept₂, hdevices⟩ := imports_otherSigned hkept₁
    (derived_of_checkIdentity checkIdentity_agentIdentity) (b64decodeText_b64encode _ _) rfl hpending
    rfl pairingId'
  have hother : honestReceipt challenge ≠ otherSigned agentIdentity challengeId pairingId' := by
    intro hc
    have hpair : pairingId.1 = pairingId'.1 :=
      Json.str.inj (congrArg (fun d => d.field "pairing_id") hc)
    exact absurd hpair (by decide)
  have hread : readJson platform (some (canonical (otherSigned agentIdentity challengeId pairingId')))
      "enrollment receipt" = .ok (otherSigned agentIdentity challengeId pairingId') :=
    readJson_enrollmentReceipt _ _
  obtain ⟨e, hrefused⟩ := hkept₂.refuses (answering (honestReceipt challenge)) (fun _ => rfl)
    rfl (readJson_enrollmentReceipt _ _)
    fun id device hmatch => by
      obtain ⟨hreceipt, pending, hget, -⟩ := matchReceipt_eq_ok.mp hmatch
      obtain rfl : challengeId.1 = id := Json.str.inj hreceipt.challenge
      rw [withoutPending, Dict.get?_erase, if_pos rfl] at hget
      cases hget
  refine ⟨_, d₂, ⟨_, h, h₁, _, relayDirectory, reply, d₁, _, _, h₂, e,
    Run.start.next_eq trivial hsigning, hinactive, hoffer, Run.start, by decide, hrequest, hwritten,
    hcomplete, Run.start.next_eq trivial himport, fun e' he' id himports => ?_,
    length_devices_lt hkept₂ hdevices, hrefused⟩, ?_⟩
  · obtain rfl := List.mem_singleton.mp he'
    obtain ⟨file, hfile, hread'⟩ := himports.file
    obtain rfl := ManagerAction.addReceipt.inj hfile
    exact hother (Except.ok.inj (hread'.symm.trans hread))
  · rw [Directory.devices, hkept₂.loads.config]
    exact hdevices

end Sample

open Sample in
/-- **An honest enrollment can fail**: the relay makes a request of the agent's offer, the agent
answers it in time, and the relay refuses the receipt, which it has never imported – because
it has enrolled the device under another text of its key, or because it has imported another
receipt over the same challenge. Both were signed by the agent. -/
theorem Manager.enrollment_refused :
    Initialized platform relayPath founding (.str "relay-1") (.str "printerhmi-relay") (.int 8443)
        relayDirectory ∧
      (∃ d, FailsAfter [] d) ∧
      ∃ later d, FailsAfter later d ∧ d.devices = [agentIdentity.device] :=
  ⟨initialized_relayDirectory, fails_under_otherText, fails_after_otherReceipt⟩

open Sample in
/-- The sample enrollment goes through, and the receiver knows the agent's key. -/
theorem Manager.enrollment_complete_sample : ∃ reply d₁ receipt reply' d₃ parsed,
    managerStep platform relayPath relayDirectory requesting = (.ok reply, d₁) ∧
      managerStep platform relayPath d₁ (answering receipt) = (.ok reply', d₃) ∧
      (∃ c, d₃.config = some c ∧
        ReceiverConfig.load platform (d₃.paths relayPath) c.json = .ok parsed) ∧
      parsed.devices.get? agentIdentity.deviceId = some agentIdentity.publicKey := by
  obtain ⟨h, -, hstanding⟩ := exec_signing agentIdentity challengeId pairingId'
  obtain ⟨h₁, hoffer, hoffered⟩ := exec_offer hstanding
  obtain ⟨reply, d₁, -, -, hrequest, -, s₁, hkept₁, -⟩ := requests_offerDocument founded_relayDirectory
  have hlive : relaySupply.checked < moment 0 + seconds 600 := by decide
  have hskew : relaySupply.made - challengeClockSkew ≤ (supply (moment 2) pairingId).now := by decide
  have hwindow : (supply (moment 2) pairingId).now < relaySupply.made + seconds 300 := by decide
  have hopen : (supply (moment 2) pairingId).now < moment 0 + seconds 600 := by decide
  have hinactive : h.loaded.isActive "printerhmi-relay" = false := by
    rw [hstanding.loaded]
    rfl
  have hunused : h.loaded.usedChallenges.get? challengeId.1 = none := by
    rw [hstanding.loaded]
    rfl
  have hempty : d₁.devices = [] := by
    rw [Directory.devices, hkept₁.loads.config]
    rfl
  have hrequesting : requesting.Faultless := fun _ => rfl
  obtain ⟨i, reply', d₁', request, receipt, h₂, hi, hrequest', -, -, hread, hlater⟩ :=
    Manager.enrollment_complete initialized_relayDirectory Run.start hoffer hinactive hrequesting rfl
      (readJson_pairingOffer _ _ _ _) rfl rfl hlive hunused hskew hwindow
      hopen
  obtain rfl := Option.some.inj (hi.symm.trans hoffered.identity)
  obtain ⟨-, rfl⟩ := Prod.mk.inj (hrequest'.symm.trans hrequest)
  obtain ⟨reply'', d₃, c, parsed, himport, hconfig, -, hload, hknown⟩ := hlater [] _ Run.start
    (fun e he => (List.not_mem_nil he).elim) (by rw [hempty]; decide)
    (fun other hother => (List.not_mem_nil (hempty ▸ hother)).elim) (answering receipt) _
    (fun _ => rfl) rfl hread
  exact ⟨reply, _, receipt, reply'', d₃, parsed, hrequest, himport, ⟨c, hconfig, hload⟩, hknown⟩

end PrinterHmi
