import PrinterHmi.Configuration.Completeness
import PrinterHmi.Configuration.WellFormed
import PrinterHmi.Protocol.Tolerance

/-!
# The documents of an enrollment keep to their schemas

An enrollment is an exchange of files: the offer a device makes, the request a relay makes of it,
and the receipt the device answers with. What a store answers with keeps to the schema of the
document (`store_documents_conform`), an answered challenge as far as the challenge does. What a
manager has put out keeps to the schema in every state of every run (`requests_conform`); the
identifiers of its challenges are drawn with a version, as `uuid4` draws them.
-/

namespace PrinterHmi

open Schema Stretch

/-! ### The store -/

section Store

variable {P : Platform} (F : Formats P)

/-- **What a call answers with keeps to its schema.** -/
def Call.Conforms : Call → Json → Prop
  | .createPairing _, d => EnrollmentV1.schema.conforms F.check d = true
  | .completeRelayEnrollment _, d => RelayEnrollmentV1.schema.conforms F.check d = true
  | .signRelayChallenge challenge, d => RelayChallengeV1.schema.conforms F.check d = true ↔
      RelayChallengeV1.schema.conforms F.check challenge = true
  | _, _ => True

theorem real?_schemaVersion : schemaVersion.real? = some 1 := by
  simp [schemaVersion, Json.real?]

theorem conforms_pairingOffer {i : Identity} {key : Bytes32} (h : checkIdentity P i = .ok key)
    (env : Supply) (ttl : ℤ) :
    EnrollmentV1.schema.conforms F.check (pairingOffer P env ttl i) = true := by
  obtain ⟨hdevice, hkey⟩ := forms_of_checkIdentity h
  exact EnrollmentV1.conforms_schema.mpr ⟨rfl, real?_schemaVersion, ⟨_, rfl, F.uuid env.pairingId⟩,
    ⟨_, rfl, hdevice⟩, ⟨_, rfl, hkey⟩, ⟨_, rfl, pairingCodePattern_displayCode env.code⟩,
    ⟨_, rfl, F.dateTime _⟩⟩

/-- A response conforms as its challenge does. -/
theorem conforms_response_iff {i : Identity} {key : Bytes32} (h : checkIdentity P i = .ok key)
    (challenge : Json) (now : Time) (signature : Signature) :
    RelayChallengeV1.response.conforms F.check (withSignature (challengeResponse challenge i.deviceId
        i.publicKey (P.timestamp now)) signature) = true ↔
      RelayChallengeV1.challenge.conforms F.check challenge = true := by
  obtain ⟨hdevice, hkey⟩ := forms_of_checkIdentity h
  rw [RelayChallengeV1.conforms_response]
  constructor
  · rintro ⟨-, -, -, hchallenge, -⟩
    exact hchallenge
  · intro hchallenge
    exact ⟨rfl, real?_schemaVersion, rfl, hchallenge, ⟨_, rfl, hdevice⟩, ⟨_, rfl, hkey⟩,
      ⟨_, rfl, F.dateTime now⟩, ⟨_, rfl, schemaPattern_signature signature⟩⟩

theorem conforms_receiptOf {i : Identity} {key : Bytes32} (h : checkIdentity P i = .ok key)
    {env : Supply} {document : Json} {request : EnrollmentRequest} {deviceId : String}
    {challenge : RelayChallenge} (hr : readEnrollmentRequest P document = .ok request)
    (hch : validateRelayChallenge P request.challenge deviceId env.now = .ok challenge)
    (signature : Signature) : RelayEnrollmentV1.receipt.conforms F.check
      (withSignature (receiptOf P env i challenge request.toAttempt) signature) = true := by
  obtain ⟨hdevice, hkey⟩ := forms_of_checkIdentity h
  obtain ⟨-, -, -, -, hpairing, -, hpeer, -⟩ := readEnrollmentRequest_eq_ok.mp hr
  obtain ⟨-, -, -, -, huuid, -, hrelay, -⟩ := validateRelayChallenge_eq_ok.mp hch
  exact RelayEnrollmentV1.conforms_receipt.mpr ⟨rfl, real?_schemaVersion, rfl,
    ⟨_, rfl, F.uuid ⟨_, huuid⟩⟩, ⟨_, rfl, hrelay⟩, ⟨_, rfl, F.uuid ⟨_, hpairing⟩⟩, ⟨_, rfl, hdevice⟩,
    ⟨_, rfl, hkey⟩, ⟨_, rfl, hpeer⟩, ⟨_, rfl, schemaPattern_key request.key⟩, ⟨_, rfl, F.dateTime _⟩,
    ⟨_, rfl, schemaPattern_signature signature⟩⟩

/-- **The documents of a store keep to their schemas**, whatever state the store is in and whatever
it is asked: an offer and a receipt outright, an answer exactly if the challenge does that it
answers. -/
theorem store_documents_conform (P : Platform) (F : Formats P) (h : Host) (c : Invocation) (d : Json)
    (hresult : (storeStep P h c).1 = .ok (.document d)) : c.call.Conforms F d := by
  have hout := storeStep_outcome (P := P) h c
  rw [hresult] at hout
  generalize (storeStep P h c).2 = h' at hout
  generalize c.call = call at hout
  cases hout with
  | created httl hid => exact conforms_pairingOffer F hid.checked c.env _
  | completed hr hid hch =>
    exact (RelayEnrollmentV1.conforms_schema_receipt rfl).mpr
      (conforms_receiptOf F hid.checked hr hch _)
  | @signedChallenge document challenge i k h₁ hid hch =>
    obtain ⟨-, -, htype, -, -, -, -, -, -, -, -, -, -, -, -, hdocument⟩ :=
      validateRelayChallenge_eq_ok.mp hch
    rw [Call.Conforms, RelayChallengeV1.conforms_schema_response rfl,
      RelayChallengeV1.conforms_schema_challenge htype, responseOf,
      conforms_response_iff F hid.checked, hdocument]
  | _ => trivial

end Store

open Sample in
/-- The offer of the sample agent conforms. -/
theorem store_documents_conform_sample : ∃ d,
    (storeStep platform .fresh offer).1 = .ok (.document d) ∧
      EnrollmentV1.schema.conforms (Formats.ofReaders platform).check d = true := by
  have hoffer : storeStep platform .fresh offer = (.ok (.document _), _) :=
    storeStep_document rfl (exec_createPairing (by decide) (.generated rfl))
  exact ⟨_, congrArg Prod.fst hoffer, store_documents_conform platform
    (Formats.ofReaders platform) .fresh offer _ (congrArg Prod.fst hoffer)⟩

/-! ### The manager -/

namespace Manager

section Requests

variable {P : Platform} {resolve : String → String} (F : Formats P)

/-- A challenge conforms that is made for a device. -/
theorem conforms_createRelayChallenge {deviceId relayId : String} {ttl : ℤ} {challengeId : Uuid}
    {nonce : Bytes32} {now : Time} {challenge : Json} (hdevice : deviceIdPattern deviceId = true)
    (hversion : Versioned challengeId.1)
    (h : createRelayChallenge P deviceId relayId ttl challengeId nonce now = .ok challenge) :
    RelayChallengeV1.challenge.conforms F.check challenge = true := by
  simp only [createRelayChallenge, Except.bind_eq_ok, require_eq_ok, exists_const] at h
  obtain ⟨-, hrelay, -, hmade⟩ := h
  obtain rfl := Except.ok.inj hmade
  have hid := (fullmatch_challengeId challengeId.2).mpr hversion
  exact RelayChallengeV1.conforms_challenge.mpr ⟨rfl, real?_schemaVersion, rfl, ⟨_, rfl, hid⟩,
    ⟨_, rfl, hrelay⟩, ⟨_, rfl, schemaPattern_key nonce⟩, ⟨_, rfl, hdevice⟩,
    ⟨_, rfl, F.dateTime now⟩, ⟨_, rfl, F.dateTime _⟩⟩

/-- **A request conforms** that is made of an offer, by a relay with a key of its own. -/
theorem conforms_buildRequest {env : ManagerSupply} {state : RelayState} {document : Json}
    {offer : RelayOffer} {challenge request : Json} {key : Bytes32}
    (hpeer : peerIdPattern state.peerId = true) (hkey : state.peerPublicKey = b64encode key.1)
    (hversion : Versioned env.challengeId.1)
    (hoffer : readOffer P env.checked document = .ok offer)
    (h : buildRequest P env state offer = .ok (challenge, request)) :
    RelayEnrollmentV1.request.conforms F.check request = true := by
  simp only [readOffer, Except.bind_eq_ok, require_eq_ok, exists_const, uuidText_eq_ok,
    patternText_eq_ok, and_assoc] at hoffer
  obtain ⟨-, -, pairingId, -, huuid, _, -, id, -, hdevice, publicKey, -, -, -, -, code, -, hcode, _,
    -, _, -, _, -, -, -, hoffer⟩ := hoffer
  obtain rfl := Except.ok.inj hoffer
  simp only [buildRequest, Except.bind_eq_ok] at h
  obtain ⟨made, hmade, _, -, _, -, hr⟩ := h
  obtain ⟨rfl, rfl⟩ := Prod.mk.inj (Except.ok.inj hr)
  have hkey' : schemaPattern 43 state.peerPublicKey = true := by
    rw [hkey]
    exact schemaPattern_key key
  exact RelayEnrollmentV1.conforms_request.mpr ⟨rfl, real?_schemaVersion, rfl,
    conforms_createRelayChallenge F hdevice hversion hmade, ⟨_, rfl, F.uuid ⟨_, huuid⟩⟩,
    ⟨_, rfl, fullmatch_requestCode hcode⟩, ⟨_, rfl, hpeer⟩, ⟨_, rfl, hkey'⟩,
    ⟨_, rfl, schemaPattern_signature _⟩⟩

/-- Every request that has been put out conforms. -/
def RequestsConform (d : Directory) : Prop :=
  ∀ output request, d.outputs.get? output = some request →
    RelayEnrollmentV1.request.conforms F.check request = true

/-- One more request that conforms. -/
theorem RequestsConform.withOutput {d : Directory} (h : RequestsConform F d) {request : Json}
    (hrequest : RelayEnrollmentV1.request.conforms F.check request = true) (output : String) :
    RequestsConform F (d.withOutput output request) := by
  intro output' request' hget
  rw [Directory.withOutput, Dict.get?_insert] at hget
  split_ifs at hget with heq
  · exact Option.some.inj hget ▸ hrequest
  · exact h output' request' hget

variable {relayName peerName port : Json} {founding : Founding}

/-- **One call puts out nothing that does not conform**, in any state of its course. -/
theorem RequestsConform.outcome {d d' : Directory} {s : RelayState} {c : ReceiverDocument}
    {supply : ManagerSupply} {action : ManagerAction} {l : List Directory} {r : Except Exn Json}
    (h : RequestsConform F d) (hpeer : peerIdPattern s.peerId = true) {key : Bytes32}
    (hkey : s.peerPublicKey = b64encode key.1) (hversion : Versioned supply.challengeId.1)
    (hout : Outcome P resolve d s c supply action l r d') :
    ∀ t ∈ d' :: l, RequestsConform F t := by
  cases hout with
  | refused hl => exact List.forall_mem_cons.mpr ⟨h, fun t ht => hl t ht ▸ h⟩
  | reported hl => exact List.forall_mem_cons.mpr ⟨h, fun t ht => hl t ht ▸ h⟩
  | requested hfile hoffer hbuild =>
    have hrequest := conforms_buildRequest F hpeer hkey hversion hoffer hbuild
    have hwritten := h.withOutput F hrequest
    exact forall_mem_course h (hwritten _) (hwritten _)
  | enrolled => exact forall_mem_course h h h
  | reenrolled =>
    exact List.forall_mem_cons.mpr ⟨h, fun t ht => List.eq_of_mem_replicate ht ▸ h⟩
  | switched => exact forall_mem_course h h h
  | removed => exact forall_mem_course h h h

/-- The identifier of a challenge has a version, as `uuid4` draws it. -/
def DrawsVersions (_ : List ManagerEvent) (call : ManagerCall) : Prop :=
  Versioned call.env.challengeId.1

/-- **Every request a manager has put out keeps to its schema**, in every state it reaches from an
initialization, whatever offers it is given, in any order of its calls, whether they return or
raise and whichever of their file steps fail. -/
theorem requests_conform (F : Formats P) {d₀ d : Directory} {events : List ManagerEvent}
    (hinit : Initialized P resolve founding relayName peerName port d₀)
    (hrun : Run (managerStep P resolve) DrawsVersions d₀ events d) (output : String)
    (request : Json) (hget : d.outputs.get? output = some request) :
    RelayEnrollmentV1.schema.conforms F.check request = true := by
  obtain ⟨relayId, peerId, listenPort, rfl, rfl, rfl, hstart⟩ := founded_of_initialized hinit
  -- an initialization puts out nothing
  have hempty : RequestsConform F d₀ := by
    obtain ⟨hrelay, hpeer, -⟩ := checkRelayState_json.mp hstart.loads.stateOk
    obtain ⟨r, hr⟩ := hinit
    have hexec : (initializeDirectory P resolve founding (.str relayId) (.str peerId)
        (.int listenPort)).exec .fresh = (.ok _, foundingDirectory P founding relayId peerId
          listenPort) :=
      exec_initializeDirectory founding hrelay hpeer hstart.loads.valid.listenPort
    obtain rfl := (Prod.mk.inj (hexec.symm.trans hr)).2
    intro output request hget
    cases hget
  have hall : RequestsConform F d := by
    refine hrun.invariant (I := fun _ d => RequestsConform F d) hempty ?_
    intro events d call hbefore hd hversion
    obtain ⟨s, c, hfounded⟩ := founded_of_run ⟨_, _, hstart⟩ hbefore
    obtain ⟨-, hpeer, -⟩ := checkRelayState_json.mp hfounded.loads.stateOk
    obtain ⟨l, r, d', hout, ⟨k, e, hstage, -, -⟩ | ⟨-, hstep⟩⟩ :=
      managerStep_cases hfounded.loads call
    · exact hd.outcome F hpeer hfounded.peerPublicKey hversion hout _
        (List.mem_cons_of_mem _ (List.mem_of_getElem? hstage))
    · rw [hstep]
      exact hd.outcome F hpeer hfounded.peerPublicKey hversion hout _ List.mem_cons_self
  obtain ⟨-, -, htype, -⟩ := RelayEnrollmentV1.conforms_request.mp (hall output request hget)
  exact (RelayEnrollmentV1.conforms_schema_request htype).mpr (hall output request hget)

end Requests

end Manager

open Sample in
/-- The request of the sample relay conforms. -/
theorem Manager.requests_conform_sample : ∃ reply d request,
    managerStep platform relayPath relayDirectory requesting = (.ok reply, d) ∧
      d.outputs.get? "/srv/request.json" = some request ∧
      RelayEnrollmentV1.schema.conforms (Formats.ofReaders platform).check request = true := by
  obtain ⟨reply, d, challenge, -, hrequest, hwritten, -⟩ :=
    requests_offerDocument founded_relayDirectory
  have hdrawn : Manager.DrawsVersions [] requesting :=
    (fullmatch_challengeId challengeId.2).mp (by decide)
  have hrun : Run (managerStep platform relayPath) Manager.DrawsVersions relayDirectory _ d :=
    Run.start.next_eq hdrawn hrequest
  exact ⟨reply, d, _, hrequest, hwritten, Manager.requests_conform (Formats.ofReaders platform)
    initialized_relayDirectory hrun _ _ hwritten⟩

end PrinterHmi
