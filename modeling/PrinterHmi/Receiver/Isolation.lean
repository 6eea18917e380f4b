import PrinterHmi.Receiver.Publication
import PrinterHmi.Transport.Interleaving

/-!
# A session opens nowhere else

A relay that a device talks to sees the challenge it has made itself, and the device's
authentication over it. It might pass another relay's challenge on and hand the answer back, and
open a session there in the name of the device. The device signs a challenge for the relay of its
configuration only, and the challenge says which relay that is; so it is the device's own call for
*that* relay that a record there goes back to (`published_where_signed`).

The device's side is a run of its enrollment store, in which its key is used by the three operations
that sign (`KeyUse`), and the receivers' side a run of any number of receivers with any connections.
-/

namespace PrinterHmi

section Isolation

variable (P : Platform)

/-- **The device has signed a session with a relay**: `sign_session_challenge` was called with the
name of the relay and this challenge, and what it signed with the key is `response`. -/
def SignsSession (es : List StoreEvent) (key : Bytes32) (relayId : String)
    (challenge response : Json) : Prop :=
  ∃ e ∈ es, ∃ e' ∈ es, ∃ identity now, e.call.call = .identity ∧
    e.result = .ok (.document identity) ∧
    sessionResponse P identity challenge relayId now = .ok response ∧
    e'.call.call = .sign (SignedKind.sessionAuth.transcript response) ∧
    e'.result = .ok (.signature (P.sign key (SignedKind.sessionAuth.transcript response)))

variable {P}

/-- What is signed for a session was signed for some relay, the one its challenge names. -/
theorem signsSession_of_signedBy {es : List StoreEvent} {key : Bytes32} {response : Json}
    (h : SignedBy P es key .sessionAuth response) :
    ∃ relayId challenge, SignsSession P es key relayId challenge response ∧
      response.field "challenge" = challenge ∧ challenge.field "relay_id" = .str relayId := by
  cases h with
  | @auth e e' identity challenge _ relayId now he hidentity hdocument hr he' hcall hresult =>
    refine ⟨relayId, challenge,
      ⟨e, he, e', he', identity, now, hidentity, hdocument, hr, hcall, hresult⟩, ?_⟩
    simp only [sessionResponse, Except.bind_eq_ok] at hr
    obtain ⟨normalized, hn, hmade⟩ := hr
    obtain rfl := Except.ok.inj hmade
    obtain ⟨-, -, -, -, -, hrelay, -, -, -, -, -, -, -, -, hdocument⟩ :=
      validateSessionChallenge_eq_ok.mp hn
    exact ⟨hdocument, Json.fieldEq_str_iff.mp hrelay⟩

/-- **What an authentication that passes was signed for**: a challenge equal to the one that was
issued, and the relay that issued it. -/
theorem signsSession_of_verified {es : List StoreEvent} {h : Host} {key : Bytes32}
    {auth challenge verified : Json} {now : Time} {relayId : String}
    (hstore : Run (storeStep P) (KeyUse P) .fresh es h) (hordered : auth.ordered = true)
    (hunforged : Unforged P h key auth) (hnames : NamesKey P key auth)
    (hrelay : challenge.field "relay_id" = .str relayId)
    (hverified : verifySessionAuth P auth challenge now = .ok verified) :
    ∃ answered, answered.pyEq challenge = true ∧
      SignsSession P es key relayId answered (auth.erase "signature") := by
  obtain ⟨-, -, -, hchallenge, -, key', signature, -, -, hkey, hsig, -, -, -, -, -, hverify⟩ :=
    verifySessionAuth_eq_ok.mp hverified
  have hsigned : SignedBy P es key .sessionAuth (auth.erase "signature") :=
    signedBy_of_verify hstore hordered hunforged hnames hkey hsig hverify
  obtain ⟨relayId', answered, hsigns, hanswered, hrelay'⟩ := signsSession_of_signedBy hsigned
  -- the challenge in the signed document is the one that was issued, and so is its relay
  rw [Json.field_erase_of_ne (by decide)] at hanswered
  have hequal : answered.pyEq challenge = true := hanswered ▸ hchallenge
  have hsame := Json.pyEq_field hequal "relay_id"
  rw [hrelay, Json.pyEq_str_iff] at hsame
  obtain rfl := Json.field_str_inj hrelay' hsame
  exact ⟨answered, hequal, hsigns⟩

variable {ι : Type} [DecidableEq ι] {config : ι → ReceiverConfig}

/-- **A record changes only where the device meant it to.** When the record of a device changes at
a receiver, in a run of any receivers with any connections and in any order, the device has called
`sign_session_challenge` with the name of that very relay, for a challenge equal to one that this
receiver has issued on that connection before – provided what verifies under the enrolled key was
signed with it. -/
theorem published_where_signed {allowed : List (ReceiverEvent ι) → ReceiverAction ι → Prop}
    {es : List StoreEvent} {h : Host} {key : Bytes32} {s : ι → Receiver}
    {pre post : List (ReceiverEvent ι)} {e : ReceiverEvent ι} {i : ι} {d enrolled : String}
    (hstore : Run (storeStep P) (KeyUse P) .fresh es h)
    (hrun : Run (receiversStep P config) allowed (receiversStart config) (pre ++ e :: post) s)
    (hunforged : ∀ e' ∈ pre, ∀ i c auth, Received e' i c auth → Unforged P h key auth)
    (henrolled : (config i).devices.get? d = some enrolled)
    (hkey : b64decodeText invalidTransportEncoding enrolled = .ok (P.publicKey key).1)
    (hchange : (e.after i).registry.records.get? d ≠ (e.before i).registry.records.get? d) :
    ∃ opening ∈ pre, ∃ challenge answered response,
      Issued P config opening i e.call.connection d challenge ∧ answered.pyEq challenge = true ∧
        SignsSession P es key (config i).relayId answered response := by
  obtain ⟨hbefore, -, hstep⟩ := hrun.split
  obtain ⟨-, -, challenge, -, -, hphase, -⟩ := changed_record hstep hchange
  have hbacked := backed hbefore i e.call.connection
  rw [hphase] at hbacked
  -- the session was opened by an authentication under the enrolled key
  obtain ⟨auth, hauth⟩ := hbacked
  cases hauth with
  | @mk opening verifying enrolled' verified horder hissued hreceived henrolled' hnamed hverified =>
    obtain rfl : enrolled = enrolled' := Option.some.inj (henrolled.symm.trans henrolled')
    have hnames : NamesKey P key auth := ⟨invalidTransportEncoding, by rw [hnamed]; exact hkey⟩
    obtain ⟨-, -, raw, -, hframe⟩ := id hreceived
    have hrelay : challenge.field "relay_id" = .str (config i).relayId := by
      obtain ⟨-, -, -, rfl, -⟩ := id hissued
      rfl
    obtain ⟨answered, hequal, hsigns⟩ := signsSession_of_verified hstore
      (readFrame_ordered hframe).1 (hunforged verifying (horder.subset (by simp)) i _ auth hreceived)
      hnames hrelay hverified
    exact ⟨opening, horder.subset (by simp), challenge, answered, _, hissued, hequal, hsigns⟩

end Isolation

namespace Sample

/-- The agent signs the sample session. -/
theorem reaches_signed : ∃ es h, Run (storeStep platform) (KeyUse platform) .fresh es h ∧
    (agentKey, authTranscript) ∈ h.signed := by
  have hidentity : storeStep platform .fresh ⟨.identity, supply (moment 0) pairingId⟩ =
      (.ok (.document (publicIdentity agentIdentity)), agentHost) := rfl
  have hbuilt : authTranscript = SignedKind.sessionAuth.transcript builtAuth :=
    congrArg SignedKind.sessionAuth.transcript (by decide)
  have hsign := storeStep_signature (exec_sign_identified agentHost_identified authTranscript)
  have huse : KeyUse platform [⟨.fresh, ⟨.identity, supply (moment 0) pairingId⟩,
      .ok (.document (publicIdentity agentIdentity)), agentHost⟩]
      ⟨.sign authTranscript, supply (moment 4) pairingId⟩ :=
    ⟨rfl, fun payload hpayload => ⟨_, List.mem_singleton.mpr rfl, _, session, "relay-1", moment 4,
      builtAuth, rfl, rfl, by decide, sessionResponse_sample,
      (Call.sign.inj hpayload).symm.trans hbuilt⟩⟩
  exact ⟨_, _, (Run.start.next_eq ⟨rfl, fun _ hc => by cases hc⟩ hidentity).next_eq huse hsign,
    List.mem_cons_self⟩

/-- The authentications of the sample session are not forged. -/
theorem unforged_sample {h : Host} (hsigned : (agentKey, authTranscript) ∈ h.signed)
    {es : List (ReceiverEvent Unit)} (hcalls : es.map Event.call = opening) :
    ∀ e ∈ es, ∀ i c auth, Received e i c auth → Unforged platform h agentKey auth := by
  intro e he i c auth hreceived signature payload hcarries hverify
  have hpublic : platform.publicKey agentKey = agentPublic := by decide
  have hmem : ∀ e ∈ es, e.call ∈ opening ++ [telling] := fun e he =>
    List.mem_append_left _ (hcalls ▸ List.mem_map_of_mem he)
  obtain ⟨-, rfl⟩ := genuine_sample hmem e he i c auth hreceived _ signature payload hcarries
    hverify
  exact hsigned

end Sample

open Sample in
/-- The sample session was signed by the agent for the sample relay. -/
theorem published_where_signed_sample : ∃ es h pre e s,
    Run (storeStep platform) (KeyUse platform) .fresh es h ∧ SampleRun (pre ++ [e]) s ∧
    (e.after ()).registry.records.get? device ≠ (e.before ()).registry.records.get? device ∧
    ∃ opening ∈ pre, ∃ challenge answered response,
      Issued platform (fun _ => receiverConfig) opening () e.call.connection device challenge ∧
        answered.pyEq challenge = true ∧
        SignsSession platform es agentKey "relay-1" answered response := by
  obtain ⟨es, h, hstore, hsigned⟩ := reaches_signed
  obtain ⟨pre, e, hrun, hcalls, -, -, hchange, -⟩ := reaches_published
  exact ⟨es, h, pre, e, _, hstore, hrun, hchange, published_where_signed hstore hrun
    (unforged_sample hsigned hcalls) ((Dict.get?_insert ..).trans (if_pos rfl))
    (b64decodeText_b64encode _ _) hchange⟩

end PrinterHmi
