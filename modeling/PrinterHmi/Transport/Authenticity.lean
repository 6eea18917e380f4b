import PrinterHmi.Enrollment.Acceptance
import PrinterHmi.Enrollment.Replay
import PrinterHmi.Transport.Session

/-!
# What a signature of the device says

A device signs three kinds of document, each under a domain of its own: the
response to a relay's challenge, the receipt of an enrollment, the authentication
of a session. The bytes it signs determine the kind and the document
(`transcript_injective`), because a domain ends in the only NUL there is and the
canonical text of a document determines it.

So if a device's key is used by the three operations only (`KeyUse`), and the
signature a document carries was made by the device if it verifies at all
(`Unforged`), then what a verifier accepts is, field by field, what the operation
of that kind signed (`message_authenticity`).
-/

namespace PrinterHmi

/-! ### Kinds of signed documents -/

/-- The documents that are signed, the relay's proof as a peer included. -/
inductive SignedKind : Type where
  | challengeResponse
  | enrollmentReceipt
  | sessionAuth
  | peerProof
  deriving DecidableEq

namespace SignedKind

/-- The text of a kind's domain. -/
def text : SignedKind → String
  | challengeResponse => "PrinterHMI Remote relay challenge response v1"
  | enrollmentReceipt => "PrinterHMI Remote enrollment receipt v1"
  | sessionAuth => "PrinterHMI Remote relay session authentication v1"
  | peerProof => "PrinterHMI Remote peer enrollment proof v1"

/-- The domain of a kind. -/
def domain : SignedKind → Bytes
  | challengeResponse => challengeSignatureDomain
  | enrollmentReceipt => enrollmentReceiptDomain
  | sessionAuth => sessionSignatureDomain
  | peerProof => peerProofDomain

theorem domain_eq (kind : SignedKind) : kind.domain = utf8 kind.text ++ [0] := by
  cases kind <;> rfl

theorem text_injective {kind kind' : SignedKind} (h : kind.text = kind'.text) : kind = kind' := by
  revert h
  cases kind <;> cases kind' <;> decide

/-- The bytes a signature of a document of a kind covers. -/
def transcript (kind : SignedKind) (document : Json) : Bytes := kind.domain ++ canonical document

/-- A domain text is ASCII without a NUL. -/
theorem zero_notMem_text (kind : SignedKind) : 0 ∉ utf8 kind.text := by
  have hascii : ∀ c ∈ kind.text.toList, 0 < c.toNat ∧ c.toNat < 128 := by
    cases kind <;> decide
  have hzero := zero_notMem_utf8 hascii
  rwa [String.ofList_toList] at hzero

end SignedKind

/-- The canonical bytes of a document have no zero. -/
theorem zero_notMem_canonical (d : Json) : 0 ∉ canonical d :=
  zero_notMem_utf8 fun c hc => by
    obtain ⟨hlo, hhi⟩ := Json.encode_printable d c hc
    exact ⟨by omega, by omega⟩

open SignedKind in
/-- **The signed bytes determine the kind and the document.** -/
theorem transcript_injective {kind kind' : SignedKind} {d d' : Json} (hd : d.ordered = true)
    (hd' : d'.ordered = true) (h : kind.transcript d = kind'.transcript d') :
    kind = kind' ∧ d = d' := by
  rw [transcript, transcript, domain_eq, domain_eq, List.append_assoc, List.append_assoc,
    List.singleton_append, List.singleton_append,
    List.append_cons_inj_of_notMem (zero_notMem_text kind) (zero_notMem_canonical d)] at h
  exact ⟨text_injective (utf8_injective h.1), canonical_injective hd hd' h.2.2⟩

/-! ### What the device signs -/

/-- The documents a call hands in are in normal form. -/
def Call.ordered : Call → Bool
  | consumePairing pairingId code peerId peerPublicKey =>
    pairingId.ordered && code.ordered && peerId.ordered && peerPublicKey.ordered
  | completeRelayEnrollment request => request.ordered
  | signRelayChallenge challenge => challenge.ordered
  | revokePeer peerId => peerId.ordered
  | _ => true

section Signing

variable (P : Platform)

/-- **The key is used by the three operations only**: what is signed directly is
what `sign_session_challenge` makes of the identity it was given and a challenge. -/
def KeyUse (es : List StoreEvent) (c : Invocation) : Prop :=
  c.call.ordered = true ∧ ∀ payload, c.call = .sign payload →
    ∃ e ∈ es, ∃ identity challenge relayId now r, e.call.call = .identity ∧
      e.result = .ok (.document identity) ∧ challenge.ordered = true ∧
      sessionResponse P identity challenge relayId now = .ok r ∧
      payload = SignedKind.sessionAuth.transcript r

/-- **Who signed a document**: the operation of its kind, with the key. -/
inductive SignedBy (es : List StoreEvent) (key : Bytes32) : SignedKind → Json → Prop
  | receipt {e : StoreEvent} {request r : Json} (he : e ∈ es)
      (hcall : e.call.call = .completeRelayEnrollment request)
      (hresult : e.result = .ok (.document
        (withSignature r (P.sign key (SignedKind.enrollmentReceipt.transcript r))))) :
      SignedBy es key .enrollmentReceipt r
  | response {e : StoreEvent} {challenge r : Json} (he : e ∈ es)
      (hcall : e.call.call = .signRelayChallenge challenge)
      (hresult : e.result = .ok (.document
        (withSignature r (P.sign key (SignedKind.challengeResponse.transcript r))))) :
      SignedBy es key .challengeResponse r
  /-- `sign_session_challenge` is two operations: reading the identity and signing. -/
  | auth {e e' : StoreEvent} {identity challenge r : Json} {relayId : String} {now : Time}
      (he : e ∈ es) (hidentity : e.call.call = .identity)
      (hdocument : e.result = .ok (.document identity))
      (hr : sessionResponse P identity challenge relayId now = .ok r) (he' : e' ∈ es)
      (hcall : e'.call.call = .sign (SignedKind.sessionAuth.transcript r))
      (hresult : e'.result = .ok (.signature (P.sign key (SignedKind.sessionAuth.transcript r)))) :
      SignedBy es key .sessionAuth r

variable {P}

theorem SignedBy.mono {es es' : List StoreEvent} {key : Bytes32} {kind : SignedKind} {r : Json}
    (h : SignedBy P es key kind r) (hsub : es ⊆ es') : SignedBy P es' key kind r := by
  cases h with
  | receipt he hcall hresult => exact .receipt (hsub he) hcall hresult
  | response he hcall hresult => exact .response (hsub he) hcall hresult
  | auth he hidentity hdocument hr he' hcall hresult =>
    exact .auth (hsub he) hidentity hdocument hr (hsub he') hcall hresult

/-- A signature is accounted for: it covers a document of a kind that the operation
of that kind signed. -/
def Accounted (P : Platform) (es : List StoreEvent) (key : Bytes32) (payload : Bytes) : Prop :=
  ∃ kind r, r.ordered = true ∧ payload = kind.transcript r ∧ SignedBy P es key kind r

/-- A response to a challenge in normal form is in normal form. -/
theorem responseOf_ordered (env : Supply) (i : Identity) {challenge : RelayChallenge}
    (hc : challenge.document.ordered = true) : (responseOf P env i challenge).ordered = true := by
  have hsorted : ["challenge", "device_id", "device_public_key", "schema_version", "signed_at",
      "type"].Pairwise (· < ·) := by decide
  exact Json.ordered_obj.mpr ⟨hsorted, by simp [hc, Json.ordered, schemaVersion]⟩

/-- A session authentication made of documents in normal form is in normal form. -/
theorem sessionAuth_ordered {challenge deviceId publicKey signedAt : Json}
    (hc : challenge.ordered = true) (hd : deviceId.ordered = true) (hp : publicKey.ordered = true)
    (hs : signedAt.ordered = true) :
    (sessionAuth challenge deviceId publicKey signedAt).ordered = true := by
  have hsorted : ["challenge", "device_id", "device_public_key", "protocol_version", "signed_at",
      "type"].Pairwise (· < ·) := by decide
  exact Json.ordered_obj.mpr ⟨hsorted, by simp [hc, hd, hp, hs, Json.ordered, protocolVersion]⟩

/-- The identity an agent shows is in normal form. -/
theorem publicIdentity_ordered (i : Identity) : (publicIdentity i).ordered = true := by
  have hsorted : ["algorithm", "created_at", "device_id", "fingerprint", "generation",
      "public_key", "schema_version"].Pairwise (· < ·) := by decide
  exact Json.ordered_obj.mpr ⟨hsorted, by simp [Json.ordered, schemaVersion]⟩

/-- What `sign_session_challenge` signs is in normal form. -/
theorem sessionResponse_ordered {identity challenge r : Json} {relayId : String} {now : Time}
    (hi : identity.ordered = true) (hc : challenge.ordered = true)
    (h : sessionResponse P identity challenge relayId now = .ok r) : r.ordered = true := by
  simp only [sessionResponse, Except.bind_eq_ok] at h
  obtain ⟨normalized, hn, hr⟩ := h
  obtain rfl := Except.ok.inj hr
  obtain ⟨-, -, -, -, -, -, -, -, -, -, -, -, -, -, hdoc⟩ := validateSessionChallenge_eq_ok.mp hn
  rw [hdoc]
  exact sessionAuth_ordered hc (Json.ordered_field hi _) (Json.ordered_field hi _) rfl

/-- An attempt on an offer signs nothing. -/
theorem signed_of_consumed {env : Supply} {st : StoreState} {a : Attempt} {persist : Bool}
    {h₁ h₂ : Host} {res : Except Exn (Peer × StoreState)}
    (hc : Consumed P env st a persist h₁ res h₂) : h₂.signed = h₁.signed := by
  cases hc with
  | success => cases persist <;> rfl
  | _ => rfl

/-- **What one call signs.** -/
theorem signed_of_outcome {h h' : Host} {c : Invocation} {res : Except Exn Reply}
    (hc : c.call.ordered = true) (hout : Outcome P h c.env c.call res h') :
    h'.signed = h.signed ∨
      (∃ key payload, c.call = .sign payload ∧ res = .ok (.signature (P.sign key payload)) ∧
        h'.signed = (key, payload) :: h.signed) ∨
      ∃ key kind r, r.ordered = true ∧ h'.signed = (key, kind.transcript r) :: h.signed ∧
        ∀ es, (⟨h, c, res, h'⟩ : StoreEvent) ∈ es → SignedBy P es key kind r := by
  obtain ⟨call, env⟩ := c
  dsimp only at hout hc
  -- two kinds of call sign a transcript, one signs what it is given, and the others nothing
  cases hout with
  | raised => exact .inl rfl
  | refused hid => exact .inl hid.frame.2.2
  | created _ hid => exact .inl hid.frame.2.2
  | unconsumed _ hid hcons => exact .inl ((signed_of_consumed hcons).trans hid.frame.2.2)
  | consumed _ hid hcons => exact .inl ((signed_of_consumed hcons).trans hid.frame.2.2)
  | unproved _ hid => exact .inl hid.frame.2.2
  | completed _ hid _ _ _ hcons =>
    have hsigned := (signed_of_consumed hcons).trans hid.frame.2.2
    refine .inr (.inr ⟨_, .enrollmentReceipt, _, ordered_enrollmentReceipt, ?_,
      fun es he => .receipt he rfl rfl⟩)
    rw [← hsigned]
    rfl
  | @signedChallenge document challenge _ _ _ hid hch =>
    have hdoc : challenge.document = document := by
      obtain ⟨-, -, -, -, -, -, -, -, -, -, -, -, -, -, -, hdoc⟩ :=
        validateRelayChallenge_eq_ok.mp hch
      exact hdoc
    refine .inr (.inr ⟨_, .challengeResponse, _, responseOf_ordered env _ (hdoc ▸ hc), ?_,
      fun es he => .response he rfl rfl⟩)
    rw [← hid.frame.2.2]
    rfl
  | listed hid => exact .inl hid.frame.2.2
  | revoked hid => exact .inl hid.frame.2.2
  | rotated hid => exact .inl hid.frame.2.2
  | identified hid => exact .inl hid.frame.2.2
  | signed hid =>
    refine .inr (.inl ⟨_, _, rfl, rfl, ?_⟩)
    rw [Host.withSigned, hid.frame.2.2]

/-- What an identity operation of a run showed. -/
theorem identity_of_mem {allowed : List StoreEvent → Invocation → Prop} {es : List StoreEvent}
    {h : Host} (hrun : Run (storeStep P) allowed .fresh es h) {e : StoreEvent} (he : e ∈ es)
    (hcall : e.call.call = .identity) {d : Json} (hd : e.result = .ok (.document d)) :
    ∃ i, d = publicIdentity i := by
  have hout := storeStep_outcome (P := P) e.before e.call
  rw [hrun.step_of_mem he, hd, hcall] at hout
  cases hout with
  | identified => exact ⟨_, rfl⟩

/-- **Every signature of a run is accounted for.** -/
theorem accounted {es : List StoreEvent} {h : Host}
    (hrun : Run (storeStep P) (KeyUse P) .fresh es h) :
    ∀ x ∈ h.signed, Accounted P es x.1 x.2 := by
  refine hrun.invariant (I := fun es h => ∀ x ∈ h.signed, Accounted P es x.1 x.2)
    (fun x hx => by simp [Host.fresh] at hx) ?_
  intro es h c hrun ih huse x hx
  have hold (hx : x ∈ h.signed) : Accounted P (es ++ [⟨h, c, (storeStep P h c).1,
      (storeStep P h c).2⟩]) x.1 x.2 := by
    obtain ⟨kind, r, hr, hpayload, hby⟩ := ih x hx
    exact ⟨kind, r, hr, hpayload, hby.mono (List.subset_append_left _ _)⟩
  have hlast : (⟨h, c, (storeStep P h c).1, (storeStep P h c).2⟩ : StoreEvent) ∈
      es ++ [⟨h, c, (storeStep P h c).1, (storeStep P h c).2⟩] := by simp
  rcases signed_of_outcome huse.1 (storeStep_outcome (P := P) h c) with
    heq | ⟨key, payload, hcall, hres, heq⟩ | ⟨key, kind, r, hr, heq, hby⟩
  · exact hold (heq ▸ hx)
  · rw [heq, List.mem_cons] at hx
    -- the signature of the call comes from a response that was made before
    rcases hx with rfl | hx
    · obtain ⟨e, he, identity, challenge, relayId, now, r, hidentity, hdoc, hch, hr, rfl⟩ :=
        huse.2 payload hcall
      obtain ⟨i, rfl⟩ := identity_of_mem hrun he hidentity hdoc
      exact ⟨.sessionAuth, r, sessionResponse_ordered (publicIdentity_ordered i) hch hr, rfl,
        .auth (List.mem_append_left _ he) hidentity hdoc hr hlast hcall hres⟩
    · exact hold hx
  · rw [heq, List.mem_cons] at hx
    rcases hx with rfl | hx
    · exact ⟨kind, r, hr, rfl, hby _ hlast⟩
    · exact hold hx

/-- `sign_session_challenge` asks for the identity, builds the response and has it signed. -/
theorem signSessionChallenge_parts {h h' : Host} {env : Supply} {challenge d : Json}
    {relayId : String} {now : Time}
    (hexec : (signSessionChallenge P env challenge relayId now).exec h = (.ok d, h')) :
    ∃ document h₁ r signature, (identity P env).exec h = (.ok document, h₁) ∧
      sessionResponse P document challenge relayId now = .ok r ∧
      (sign P env (SignedKind.sessionAuth.transcript r)).exec h₁ = (.ok signature, h') ∧
      withSignature r signature = d := by
  rw [signSessionChallenge, FileProg.exec_bind] at hexec
  rcases hidentity : (identity P env).exec h with ⟨_ | document, h₁⟩
  · rw [hidentity] at hexec
    cases hexec
  rw [hidentity] at hexec
  dsimp only at hexec
  cases hresponse : sessionResponse P document challenge relayId now with
  | error e =>
    rw [hresponse, FileProg.exec_bind_error (FileProg.exec_lift _ _)] at hexec
    cases hexec
  | ok r =>
    rw [hresponse, FileProg.exec_bind_ok (FileProg.exec_lift _ _), FileProg.exec_bind] at hexec
    rcases hsign : (sign P env (sessionSignatureDomain ++ canonical r)).exec h₁ with
      ⟨_ | signature, h₂⟩
    · rw [hsign] at hexec
      cases hexec
    rw [hsign] at hexec
    obtain rfl : h₂ = h' := congrArg Prod.snd hexec
    exact ⟨document, h₁, r, signature, rfl, hresponse, hsign,
      Except.ok.inj (congrArg Prod.fst hexec)⟩

/-- **`sign_session_challenge` uses the key as it may be used**: it is an identity
operation of the store and a signature that is admitted after it. -/
theorem signSessionChallenge_run {es : List StoreEvent} {h h' : Host} {env : Supply}
    {challenge d : Json} {relayId : String} {now : Time}
    (hrun : Run (storeStep P) (KeyUse P) .fresh es h) (hc : challenge.ordered = true)
    (hexec : (signSessionChallenge P env challenge relayId now).exec h = (.ok d, h')) :
    ∃ e e', Run (storeStep P) (KeyUse P) .fresh (es ++ [e] ++ [e']) h' ∧
      e.call.call = .identity ∧ ∃ r, e'.call.call = .sign (SignedKind.sessionAuth.transcript r) := by
  obtain ⟨document, h₁, r, signature, hidentity, hresponse, hsign, rfl⟩ :=
    signSessionChallenge_parts hexec
  have hfirst : storeStep P h ⟨.identity, env⟩ = (.ok (.document document), h₁) :=
    storeStep_document rfl hidentity
  have hsecond : storeStep P h₁ ⟨.sign (SignedKind.sessionAuth.transcript r), env⟩ =
      (.ok (.signature signature), h') := by
    rw [storeStep, Call.program, exec_wrap]
    exact congrArg (fun x => (x.1.map Reply.signature, x.2)) hsign
  refine ⟨_, _, (hrun.next_eq ⟨rfl, fun _ hsig => by cases hsig⟩ hfirst).next_eq
    ⟨rfl, fun payload hpayload => ?_⟩ hsecond, rfl, r, rfl⟩
  obtain rfl := Call.sign.inj hpayload
  exact ⟨_, List.mem_append_right _ (List.mem_singleton.mpr rfl), document, challenge, relayId,
    now, r, rfl, rfl, hc, hresponse, rfl⟩

end Signing

/-! ### What a verifier accepts -/

section Law

variable {P : Platform}

/-- **The signature the document carries is not forged**: the byte strings it verifies
for under the device's key are ones the device signed. -/
def Unforged (P : Platform) (h : Host) (key : Bytes32) (d : Json) : Prop :=
  ∀ signature payload, Carries d signature →
    P.verify (P.publicKey key) payload signature = true → (key, payload) ∈ h.signed

/-- The document names the device's public key. -/
def NamesKey (P : Platform) (key : Bytes32) (d : Json) : Prop :=
  ∃ e, b64decode e (d.field "device_public_key") = .ok (P.publicKey key).1

/-- What verifies was signed by the operation of its kind. -/
theorem signedBy_of_verify {es : List StoreEvent} {h : Host} {key key' : Bytes32}
    {kind : SignedKind} {d : Json} {signature : Signature} {e : Exn}
    (hrun : Run (storeStep P) (KeyUse P) .fresh es h) (hd : d.ordered = true)
    (hunforged : Unforged P h key d) (hnames : NamesKey P key d)
    (hkey : b64decode e (d.field "device_public_key") = .ok key'.1)
    (hsig : b64decode e (d.field "signature") = .ok signature.1)
    (hverify : P.verify key' (kind.transcript (d.erase "signature")) signature = true) :
    SignedBy P es key kind (d.erase "signature") := by
  obtain ⟨e', hnamed⟩ := hnames
  obtain rfl : P.publicKey key = key' :=
    Subtype.ext (Except.ok.inj ((b64decode_congr hnamed).symm.trans hkey))
  obtain ⟨kind', r, hr, hpayload, hby⟩ :=
    accounted hrun _ (hunforged signature _ ⟨e, hsig⟩ hverify)
  obtain ⟨rfl, rfl⟩ := transcript_injective (Json.ordered_erase hd _) hr hpayload
  exact hby

/-- **Message authenticity**: what the verifiers accept under a device's key is,
without its signature, what the operation of that kind signed with it in the run; and
the signed bytes determine the kind and every field. -/
theorem message_authenticity {es : List StoreEvent} {h : Host} {key : Bytes32} {d : Json}
    (hrun : Run (storeStep P) (KeyUse P) .fresh es h) (hd : d.ordered = true)
    (hunforged : Unforged P h key d) (hnames : NamesKey P key d) :
    (∀ r, verifyEnrollmentReceipt P d = .ok r →
      SignedBy P es key .enrollmentReceipt (d.erase "signature")) ∧
    (∀ now c, verifyChallengeResponse P d now = .ok c →
      SignedBy P es key .challengeResponse (d.erase "signature")) ∧
    (∀ expected now r, verifySessionAuth P d expected now = .ok r →
      SignedBy P es key .sessionAuth (d.erase "signature")) ∧
    ∀ kind kind' : SignedKind, ∀ r r' : Json, r.ordered = true → r'.ordered = true →
      kind.transcript r = kind'.transcript r' → kind = kind' ∧ r = r' := by
  refine ⟨fun r hr => ?_, fun now c hc => ?_, fun expected now r hr => ?_,
    fun _ _ _ _ => transcript_injective⟩
  · obtain ⟨-, -, -, -, key', signature, hkey, -, hsig, hverify⟩ :=
      verifyEnrollmentReceipt_eq_ok.mp hr
    exact signedBy_of_verify hrun hd hunforged hnames hkey hsig hverify
  · obtain ⟨-, -, -, key', signature, -, hkey, -, -, -, -, -, hsig, hverify⟩ :=
      verifyChallengeResponse_eq_ok.mp hc
    exact signedBy_of_verify hrun hd hunforged hnames hkey hsig hverify
  · obtain ⟨-, -, -, -, -, key', signature, -, -, hkey, hsig, -, -, -, -, -, hverify⟩ :=
      verifySessionAuth_eq_ok.mp hr
    exact signedBy_of_verify hrun hd hunforged hnames hkey hsig hverify

end Law

namespace Sample

/-- What the agent signs in the first enrollment. -/
def firstTranscript : Bytes :=
  SignedKind.enrollmentReceipt.transcript
    (receipt pairingId "printerhmi-relay" "2023-11-14T22:13:22Z")

/-- The receipt of the first enrollment, signed. -/
def firstReceipt : Json :=
  withSignature (receipt pairingId "printerhmi-relay" "2023-11-14T22:13:22Z") receiptSignature

/-- The receipt the agent makes in the sample run. -/
theorem receiptOf_first : receiptOf platform (supply (moment 2) pairingId) agentIdentity
    firstChallenge (attempted pairingId "printerhmi-relay") =
      receipt pairingId "printerhmi-relay" "2023-11-14T22:13:22Z" := by
  have hdevice : agentIdentity.deviceId = device := by decide
  have hpublic : platform.publicKey agentKey = agentPublic := by decide
  have htime : platform.timestamp (moment 2) = "2023-11-14T22:13:22Z" := by decide
  have hkey : agentIdentity.publicKey = b64encode agentPublic.1 := by rw [← hpublic]; rfl
  rw [receiptOf, hdevice, hkey, receipt, ← htime]
  rfl

/-- The agent signs nothing but the receipt with the signature it carries. -/
theorem sign_agentKey {payload : Bytes} :
    sign agentKey payload = receiptSignature ↔ payload = firstTranscript := by
  constructor
  · intro hsig
    refine (Prod.mk.inj (eq_of_override hsig (a := (agentKey, firstTranscript)) ?_
      (fit_ne (by decide) _))).2
    have hother : ∀ s ∈ [proofSignature, proofSignature', receiptSignature', responseSignature,
        authSignature], s ≠ receiptSignature := by decide
    simp only [signatures, List.forall_mem_cons, List.not_mem_nil, false_imp_iff, implies_true,
      and_true]
    refine ⟨fun hc => ?_, fun hc => ?_, fun _ => rfl, fun hc => ?_, fun hc => ?_, fun hc => ?_⟩
    all_goals exact absurd hc (hother _ (by simp))
  · rintro rfl
    have hkeys : relayKey ≠ agentKey := by decide
    rw [sign, signatures, override_cons, if_neg fun hc => hkeys (Prod.mk.inj hc).1, override_cons,
      if_neg fun hc => hkeys (Prod.mk.inj hc).1, override_cons]
    exact if_pos rfl

/-- The first receipt verifies. -/
theorem verifyEnrollmentReceipt_first : verifyEnrollmentReceipt platform firstReceipt =
    .ok (firstReceipt.erase "signature") := by
  have hdevice : deviceId platform agentPublic.1 = device := by decide
  refine verifyEnrollmentReceipt_eq_ok.mpr ⟨by decide, by decide,
    by decide, rfl, agentPublic, receiptSignature, b64decode_str_b64encode _ _, ?_,
    b64decode_str_b64encode _ _, ?_⟩
  · rw [hdevice]
    decide
  · exact verify_agent (sign_agentKey.mpr rfl)

/-- The signature of the first receipt is not forged. -/
theorem unforged_first {h : Host} (hsigned : (agentKey, firstTranscript) ∈ h.signed) :
    Unforged platform h agentKey firstReceipt := by
  rintro signature payload ⟨e, hsig⟩ hverify
  obtain rfl : receiptSignature = signature :=
    Subtype.ext (Except.ok.inj ((b64decode_str_b64encode e _).symm.trans hsig))
  have hsign := sign_of_verify hverify
  rw [show keys.symm (platform.publicKey agentKey) = agentKey from keys.symm_apply_apply _]
    at hsign
  rw [sign_agentKey.mp hsign]
  exact hsigned

/-- The agent's authentication of the session. -/
def authentication : Json :=
  withSignature (sessionAuth session (.str device) (.str (b64encode agentPublic.1))
    (.str "2023-11-14T22:13:24Z")) authSignature

/-- The agent's device identifier is that of its key. -/
theorem device_eq : deviceId platform agentPublic.1 = device := by decide

/-- What the agent signs in the sample session. -/
def authTranscript : Bytes :=
  SignedKind.sessionAuth.transcript (sessionAuth session (.str device)
    (.str (b64encode agentPublic.1)) (.str "2023-11-14T22:13:24Z"))

theorem erase_signature_authentication : authentication.erase "signature" =
    sessionAuth session (.str device) (.str (b64encode agentPublic.1))
      (.str "2023-11-14T22:13:24Z") := by
  decide

/-- The signature of the authentication is the agent's, of the authentication only. -/
theorem sign_authentication {key : Bytes32} {payload : Bytes} :
    sign key payload = authSignature ↔ key = agentKey ∧ payload = authTranscript := by
  constructor
  · intro hsig
    refine Prod.mk.inj (eq_of_override hsig (a := (agentKey, authTranscript)) ?_
      (fit_ne (by decide) _))
    have hother : ∀ s ∈ [proofSignature, proofSignature', receiptSignature, receiptSignature',
        responseSignature], s ≠ authSignature := by decide
    simp only [signatures, List.forall_mem_cons, List.not_mem_nil, false_imp_iff, implies_true,
      and_true]
    refine ⟨fun hc => ?_, fun hc => ?_, fun hc => ?_, fun hc => ?_, fun hc => ?_, fun _ => rfl⟩
    all_goals exact absurd hc (hother _ (by simp))
  · rintro ⟨rfl, rfl⟩
    have hkeys : relayKey ≠ agentKey := by decide
    have hauth : (sessionAuth session (.str device) (.str (b64encode agentPublic.1))
        (.str "2023-11-14T22:13:24Z")).ordered = true := by decide
    have hkinds (kind : SignedKind) (d : Json) (hne : kind ≠ .sessionAuth)
        (hd : d.ordered = true) : (agentKey, kind.transcript d) ≠ (agentKey, authTranscript) :=
      fun hc => hne (transcript_injective hd hauth (Prod.mk.inj hc).2).1
    refine override_of_mem (by simp [signatures, authTranscript, SignedKind.transcript,
      SignedKind.domain]) ?_
    simp only [signatures, List.forall_mem_cons, List.not_mem_nil, false_imp_iff, implies_true,
      and_true]
    refine ⟨fun hc => ?_, fun hc => ?_, fun hc => ?_, fun hc => ?_, fun hc => ?_⟩
    · exact absurd (Prod.mk.inj hc).1 hkeys
    · exact absurd (Prod.mk.inj hc).1 hkeys
    · exact absurd hc (hkinds .enrollmentReceipt _ (by decide) (by decide))
    · exact absurd hc (hkinds .enrollmentReceipt _ (by decide) (by decide))
    · exact absurd hc (hkinds .challengeResponse _ (by decide) (by decide))

theorem timestamps_session :
    parseTimestamp platform invalidSessionTimestamp (session.field "issued_at") =
        .ok (moment 3) ∧
      parseTimestamp platform invalidSessionTimestamp (session.field "expires_at") =
        .ok (moment 63) ∧
      parseTimestamp platform invalidSessionTimestamp (.str "2023-11-14T22:13:24Z") =
        .ok (moment 4) := by
  decide

/-- The sample challenge is valid for the agent a second after it was issued. -/
theorem validateSessionChallenge_sample :
    validateSessionChallenge platform session (.str device) (.str "relay-1") (moment 4) =
      .ok ⟨session, sessionId.1, moment 3, moment 63⟩ := by
  obtain ⟨hissued, hexpires, -⟩ := timestamps_session
  exact validateSessionChallenge_eq_ok.mpr ⟨by decide, rfl, rfl, rfl, sessionId.2,
    Json.pyEq_refl _, Json.pyEq_refl _,
    ⟨sessionNonce.1, b64decode_str_b64encode _ _, sessionNonce.2⟩, hissued, hexpires,
    by decide, by decide, by decide, by decide, rfl⟩

end Sample

open Sample in
/-- The receipt of the sample run is accepted, and was signed in it. -/
theorem message_authenticity_sample : ∃ es h, Run (storeStep platform) (KeyUse platform) .fresh es h ∧
    es.map Event.call = [offer, enrolling] ∧
    verifyEnrollmentReceipt platform firstReceipt = .ok (firstReceipt.erase "signature") ∧
    SignedBy platform es agentKey .enrollmentReceipt (firstReceipt.erase "signature") := by
  obtain ⟨r₁, h₁, hoffer, hs₁⟩ := reaches_offered
  obtain ⟨h₂, henroll, -, hsigned⟩ := hs₁.enrolled
  have hrun : Run (storeStep platform) (KeyUse platform) .fresh [⟨_, _, _, _⟩, ⟨_, _, _, _⟩] h₂ :=
    (Run.start.next_eq ⟨rfl, fun _ hc => by cases hc⟩ hoffer).next_eq
      ⟨by decide, fun _ hc => by cases hc⟩ henroll
  refine ⟨_, h₂, hrun, rfl, verifyEnrollmentReceipt_first, ?_⟩
  rw [show enrolling.env = supply (moment 2) pairingId from rfl, receiptOf_first] at hsigned
  exact (message_authenticity hrun (by decide) (unforged_first hsigned)
    ⟨invalidEncoded, by decide⟩).1 _ verifyEnrollmentReceipt_first

end PrinterHmi
