import PrinterHmi.Configuration.Completeness
import PrinterHmi.Lib.JsonIndent
import PrinterHmi.Transport.Interleaving

/-!
# An enrollment, call by call

To enroll an agent at a relay one carries three files between the two: the agent's offer, the relay's
request and the agent's receipt. `enroll` is that errand, as the integration check of the repository
runs it, with a manager on the one side and an enrollment store on the other. It succeeds whatever
both have been through, if the clocks are in the windows, the relay is not an active peer of the
agent, and the relay has room for a device and knows the agent under no other text of its key
(`enroll_returns`).
-/

namespace PrinterHmi

/-! ### The errand -/

/-- What the four calls of an enrollment take from outside. -/
structure EnrollSupply where
  /-- The agent makes its offer. -/
  offer : Supply
  /-- The relay makes a request of it. -/
  request : ManagerSupply
  /-- The agent answers with a receipt. -/
  receipt : Supply
  /-- The relay imports the receipt. -/
  imported : ManagerSupply

/-- **The clocks of an enrollment agree**: the offer stands until it is answered, and the challenge
is fresh then. -/
structure EnrollSupply.InTime (supply : EnrollSupply) : Prop where
  offered : supply.request.checked < supply.offer.now + seconds 300
  standing : supply.receipt.now < supply.offer.now + seconds 300
  early : supply.request.made - challengeClockSkew ≤ supply.receipt.now
  fresh : supply.receipt.now < supply.request.made + seconds Manager.challengeTtl

/-- Whatever is done with the directory of a relay and the store of an agent. -/
abbrev Errand := ExceptT Exn (StateM (Directory × Host))

/-- `_write_private_json`, what is in the file then. -/
def privateFile (document : Json) : Bytes := utf8 (String.ofList (document.indented 0 ++ ['\n']))

section Errand

variable (P : Platform) (resolve : String → String)

/-- A call of the store that answers with a document. -/
def onStore (call : Call) (env : Supply) : Errand Json := fun (d, h) =>
  match storeStep P h ⟨call, env⟩ with
  | (.ok (.document answer), h') => (.ok answer, d, h')
  | (.ok (.signature _), h') => (.error ⟨.typeError, "document expected"⟩, d, h')
  | (.error e, h') => (.error e, d, h')

/-- A call of the manager. -/
def onManager (action : ManagerAction) (env : ManagerSupply) : Errand Json := fun (d, h) =>
  let (r, d') := managerStep P resolve d ⟨action, env, fun _ => false⟩
  (r, d', h)

/-- The request that has been written is read. -/
def readOutput (output : String) : Errand Json := fun (d, h) =>
  (orRaise (d.outputs.get? output) (osError "open"), d, h)

/-- **`_enroll`**, with the path of the request. -/
def enroll (supply : EnrollSupply) (output : String) : Errand Json := do
  let offer ← onStore P (.createPairing 300) supply.offer
  let _ ← onManager P resolve (.createEnrollmentRequest (some (privateFile offer)) output)
    supply.request
  let request ← readOutput output
  let receipt ← onStore P (.completeRelayEnrollment request) supply.receipt
  let _ ← onManager P resolve (.addReceipt (some (privateFile receipt))) supply.imported
  pure (offer.field "device_id")

end Errand

/-! ### Its steps -/

section Steps

variable {P : Platform} {resolve : String → String} {d d' : Directory} {h h' : Host}

/-- What is done after a call that returns. -/
theorem Errand.run_bind {α β : Type} {x : Errand α} {f : α → Errand β} {a : α}
    {s s' : Directory × Host} (hx : x s = (.ok a, s')) : (x >>= f) s = f a s' := by
  change ExceptT.bindCont f (x s).1 (x s).2 = f a s'
  rw [hx]
  rfl

/-- A file that `_write_private_json` has written is read as the document. -/
theorem readJson_privateFile {document : Json} (hordered : document.ordered = true)
    (hrecord : IsRecord document) (label : String) :
    readJson P (some (privateFile document)) label = .ok document := by
  simp only [readJson, Except.bind_eq_ok, require_eq_ok, exists_const, orRaise_eq_ok]
  refine ⟨privateFile document, rfl, _, utf8?_utf8 _, document, ?_, hrecord.isObj, rfl⟩
  rw [String.toList_ofList, loadsJson_eq_ok]
  exact Json.decode_indented hordered (hrecord.fits P)

theorem onStore_ok {call : Call} {env : Supply} {answer : Json}
    (hstep : storeStep P h ⟨call, env⟩ = (.ok (.document answer), h')) :
    onStore P call env (d, h) = (.ok answer, d, h') := by
  simp only [onStore, hstep]

theorem onManager_ok {action : ManagerAction} {env : ManagerSupply} {reply : Json}
    (hstep : managerStep P resolve d ⟨action, env, fun _ => false⟩ = (.ok reply, d')) :
    onManager P resolve action env (d, h) = (.ok reply, d', h) := by
  simp only [onManager, hstep]

theorem readOutput_ok {output : String} {request : Json}
    (hget : d.outputs.get? output = some request) :
    readOutput output (d, h) = (.ok request, d, h) := by
  simp only [readOutput, hget]
  rfl

/-- An enrollment leaves the agent's identity alone. -/
theorem identity_of_complete {i : Identity} {request : Json} {env : Supply} {r : Except Exn Reply}
    (hi : h.identity = some i)
    (hstep : storeStep P h ⟨.completeRelayEnrollment request, env⟩ = (r, h')) :
    h'.identity = some i := by
  have hout := storeStep_outcome (P := P) h ⟨.completeRelayEnrollment request, env⟩
  rw [hstep] at hout
  rcases identity_of_outcome hout hi with ⟨hrotates, -⟩ | hkept
  · cases hrotates
  · exact hkept

end Steps

namespace Manager

section Enroll

variable {P : Platform} {resolve : String → String} {env : Founding} {relayId peerId : String}
  {listenPort : ℤ} {d : Directory} {s : RelayState} {c : ReceiverDocument} {h h₁ : Host}
  {i : Identity} {k : Bytes32} {supply : EnrollSupply} {output : String}

/-- The agent makes an offer. -/
theorem offers_of_identified {made : Supply} (hid : Identified P made.initial h i k h₁) :
    ∃ h₂, storeStep P h ⟨.createPairing 300, made⟩ =
        (.ok (.document (pairingOffer P made 300 i)), h₂) ∧
      h₂.identity = some i ∧ h₂.loaded = h.loaded.offer P made 300 := by
  have hoffer : storeStep P h ⟨.createPairing 300, made⟩ = (.ok (.document _), _) :=
    storeStep_document rfl (exec_createPairing (by decide) hid)
  obtain ⟨i', k', -, hidentity, -, hloaded⟩ := offered_of_createPairing hoffer
  obtain rfl : i = i' := Option.some.inj (hid.identity.symm.trans hidentity)
  exact ⟨_, hoffer, hidentity, hloaded⟩

/-- The offer, as the relay reads it. -/
def offerOf (made : Supply) (i : Identity) : RelayOffer :=
  ⟨made.pairingId.1, i.deviceId, i.publicKey, displayCode made.code⟩

/-- The relay makes a request of the offer. -/
theorem Founded.requests_offer (hfounded : Founded P resolve env relayId peerId listenPort d s c)
    (hchecked : checkIdentity P i = .ok k) (htime : supply.InTime)
    (hparent : supply.request.parentExists = true) (hfree : supply.request.occupied = false) :
    ∃ challenge reply d₁ s₁ pending, createRelayChallenge P i.deviceId relayId challengeTtl
        supply.request.challengeId supply.request.nonce supply.request.made = .ok challenge ∧
      managerStep P resolve d ⟨.createEnrollmentRequest
        (some (privateFile (pairingOffer P supply.offer 300 i))) output, supply.request,
          fun _ => false⟩ = (.ok reply, d₁) ∧
      d₁.outputs.get? output = some (requestOf P env peerId (offerOf supply.offer i) challenge) ∧
      Founded P resolve env relayId peerId listenPort d₁ s₁ c ∧
      s₁.pendingChallenges.get? supply.request.challengeId.1 = some pending ∧
      pending.deviceId = i.deviceId ∧ pending.devicePublicKey = i.publicKey := by
  obtain ⟨challenge, hchallenge, hrequest, hfounded₁⟩ := hfounded.requests
    ⟨.createEnrollmentRequest (some (privateFile (pairingOffer P supply.offer 300 i))) output,
      supply.request, fun _ => false⟩ (fun _ => rfl) rfl
    (readJson_privateFile (ordered_pairingOffer _ _ _) (isRecord_pairingOffer _ _ _) _)
    (readOffer_pairingOffer (derived_of_checkIdentity hchecked) htime.offered) hparent hfree
  exact ⟨challenge, _, _, _, _, hchallenge, hrequest, get?_outputs_withOutput _ _ _, hfounded₁,
    (Dict.get?_insert ..).trans (if_pos rfl), rfl, rfl⟩

variable (output) in
/-- **An enrollment goes through**: the device is in the allowlist then, beside those that were
there. -/
theorem enroll_returns (hfounded : Founded P resolve env relayId peerId listenPort d s c)
    (hid : Identified P supply.offer.initial h i k h₁) (hinactive : h.loaded.isActive peerId = false)
    (hunused : h.loaded.usedChallenges.get? supply.request.challengeId.1 = none)
    (htime : supply.InTime) (hparent : supply.request.parentExists = true)
    (hfree : supply.request.occupied = false) (hcount : c.devices.length < 10000)
    (htexts : ∀ other ∈ c.devices, other.deviceId = i.deviceId → other.publicKey = i.publicKey) :
    ∃ d' s' c' h', enroll P resolve supply output (d, h) = (.ok (.str i.deviceId), d', h') ∧
      Founded P resolve env relayId peerId listenPort d' s' c' ∧
      (c'.enabled = c.enabled ∧
        ∀ device, device ∈ c'.devices ↔ device ∈ c.devices ∨ device = i.device) ∧
      (∃ es, Run (managerStep P resolve) (fun _ call => call.Faultless) d es d') ∧
      h'.identity = some i := by
  obtain ⟨h₂, hoffer, hidentity, hloaded⟩ := offers_of_identified hid
  obtain ⟨challenge, reply, d₁, s₁, pending, hchallenge, hrequest, hget, hfounded₁, hpending,
    hanswer⟩ := hfounded.requests_offer hid.checked htime hparent hfree
  -- the agent answers it
  have hpeer : peerIdPattern peerId = true :=
    hfounded.peerId ▸ (checkRelayState_json.mp hfounded.loads.stateOk).2.1
  obtain ⟨receipt, h₃, hreceipt, hread, hfor⟩ : ∃ receipt h₃,
      storeStep P h₂ ⟨.completeRelayEnrollment
        (requestOf P env peerId (offerOf supply.offer i) challenge), supply.receipt⟩ =
          (.ok (.document receipt), h₃) ∧
      readJson P (some (privateFile receipt)) "enrollment receipt" = .ok receipt ∧
      ReceiptFor P relayId peerId (b64encode (P.publicKey env.key).1) supply.request.challengeId.1
        i.device receipt := by
    obtain ⟨h₃, hreceipt⟩ := completes_requestOf env hidentity hid.checked hloaded hchallenge
      htime.early htime.fresh htime.standing hunused hpeer hinactive
    exact ⟨_, h₃, hreceipt, readJson_privateFile
      (ordered_withSignature ordered_enrollmentReceipt _)
      (isRecord_enrollmentReceipt.withSignature _) _,
      receiptFor_signedReceipt hid.checked supply.receipt
        (challengeOf challenge supply.request.challengeId relayId supply.request.made)
        (attemptOf P env peerId supply.offer)⟩
  -- the relay imports the answer
  have hsame : ∀ other ∈ c.devices, other.deviceId = i.device.deviceId → other = i.device := by
    rintro ⟨otherId, otherKey⟩ hother hid
    obtain rfl : otherId = i.deviceId := hid
    obtain rfl : otherKey = i.publicKey := htexts _ hother rfl
    rfl
  obtain ⟨⟨reply', himport⟩, c', hfounded₂, hmem⟩ := hfounded₁.imports
    ⟨.addReceipt (some (privateFile receipt)), supply.imported, fun _ => false⟩ (fun _ => rfl) rfl
    hread hfor hpending hanswer (derived_of_checkIdentity hid.checked) hsame hcount
  refine ⟨_, _, c', h₃, ?_, hfounded₂, ?_, ⟨_, (Run.start.next_eq (fun _ => rfl) hrequest).next_eq
    (fun _ => rfl) himport⟩, identity_of_complete hidentity hreceipt⟩
  · rw [enroll, Errand.run_bind (onStore_ok hoffer), Errand.run_bind (onManager_ok hrequest),
      Errand.run_bind (readOutput_ok hget), Errand.run_bind (onStore_ok hreceipt),
      Errand.run_bind (onManager_ok himport)]
    rfl
  · have hconfig := hfounded₂.loads.config
    rw [imported] at hconfig
    split_ifs at hconfig with hold
    · obtain rfl := Option.some.inj (hfounded₁.loads.config.symm.trans hconfig)
      exact ⟨rfl, fun device => ⟨.inl, fun hdevice => hdevice.elim id fun heq => heq ▸ hmem⟩⟩
    · obtain rfl := Option.some.inj hconfig
      exact ⟨rfl, fun device => mem_withDevice⟩

end Enroll

end Manager

/-! ### A sample -/

namespace Sample

open Manager

/-- The calls of an enrollment of an agent whose identity is yet to be generated. -/
def errand (g : Generation) : EnrollSupply where
  offer := { supply (moment 0) pairingId with initial := g }
  request := relaySupply
  receipt := supply (moment 2) pairingId
  imported := relaySupply

theorem inTime_errand (g : Generation) : (errand g).InTime where
  offered := (by decide : moment 1 < moment 0 + seconds 300)
  standing := (by decide : moment 2 < moment 0 + seconds 300)
  early := (by decide : moment 1 - challengeClockSkew ≤ moment 2)
  fresh := (by decide : moment 2 < moment 1 + seconds challengeTtl)

/-- Where the sample request is written. -/
def requestPath : String := "/srv/request.json"

/-- An agent that starts from nothing is enrolled at the sample relay. -/
theorem enrolls_fresh {d : Directory} {s : RelayState} {c : ReceiverDocument} (hkept : Kept d s c)
    (g : Generation) (hcount : c.devices.length < 10000)
    (hother : ∀ other ∈ c.devices, other.deviceId ≠ (newIdentity platform g 1).deviceId) :
    ∃ d' s' c', Kept d' s' c' ∧ c'.enabled = c.enabled ∧
      (∀ device, device ∈ c'.devices ↔
        device ∈ c.devices ∨ device = (newIdentity platform g 1).device) ∧
      ∃ es, Run (managerStep platform relayPath) (fun _ call => call.Faultless) d es d' := by
  have hid : Identified platform (errand g).offer.initial .fresh (newIdentity platform g 1) _ _ :=
    .generated rfl
  obtain ⟨d', s', c', -, -, hkept', ⟨hsame, hmem⟩, hrun, -⟩ := enroll_returns requestPath hkept hid rfl
    rfl (inTime_errand g) rfl rfl hcount fun other hmem hid => absurd hid (hother other hmem)
  exact ⟨d', s', c', hkept', hsame, hmem, hrun⟩

end Sample

end PrinterHmi
