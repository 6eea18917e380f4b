import PrinterHmi.Receiver.Handler
import PrinterHmi.Transport.Authenticity

/-!
# Who may publish

A record of a receiver changes only when a connection sends telemetry on a session that
the device itself opened there. This is a property of runs of the receivers: of what was
written to a connection and received on it before. `Backed` is the invariant: what a
handler that waits in some phase has behind it, in the history of its connection; and
`publication_authentic` reads off it, for every change of a record, the challenge, the
authentication and the telemetry it came from.

Sessions are told apart by what is drawn for them, the identifier and the nonce: no
session is given a pair that another was (`FreshSessions`). That a signature was made by
the holder of the key it verifies under is an assumption about the authentications that
are received (`Genuine`), and the only one about signatures.
-/

namespace PrinterHmi

variable {ι : Type} [DecidableEq ι]

/-! ### What is said of an event -/

section Events

variable (P : Platform) (config : ι → ReceiverConfig)

/-- **A challenge is issued**: the event answers a hello on this connection, and writes
this challenge for this device. -/
def Issued (e : ReceiverEvent ι) (i : ι) (c : ℕ) (d : String) (challenge : Json) : Prop :=
  e.call.receiver = i ∧ e.call.connection = c ∧ (e.before i).connections c = .hello ∧
    challenge = sessionChallenge P d (config i).relayId sessionLifetime e.call.env.sessionId
      e.call.env.nonce e.call.env.now ∧
    ∃ payload, writeFrame challenge = .ok payload ∧ e.result = some payload

omit [DecidableEq ι] in
/-- **A document is received** on this connection. -/
def Received (e : ReceiverEvent ι) (i : ι) (c : ℕ) (document : Json) : Prop :=
  e.call.receiver = i ∧ e.call.connection = c ∧
    ∃ raw, e.call.input = .line raw ∧ readFrame raw = .ok document

/-- **What is drawn for a session is fresh.** -/
def FreshSessions (es : List (ReceiverEvent ι)) (a : ReceiverAction ι) : Prop :=
  ∀ e ∈ es, ∀ i c d challenge, Issued P config e i c d challenge →
    ¬(e.call.env.sessionId = a.env.sessionId ∧ e.call.env.nonce = a.env.nonce)

omit [DecidableEq ι] in
/-- **The signatures received are genuine**: the byte strings they verify for under a key
were signed with it. -/
def Genuine (Signed : Bytes32 → Bytes → Prop) (es : List (ReceiverEvent ι)) : Prop :=
  ∀ e ∈ es, ∀ i c auth, Received e i c auth → ∀ key signature payload, Carries auth signature →
    P.verify key payload signature = true → Signed key payload

/-- **A session was authenticated**: on this connection a challenge was issued for the
device, and then its enrolled key authenticated over that challenge. -/
inductive Authenticated (es : List (ReceiverEvent ι)) (i : ι) (c : ℕ) (d : String)
    (challenge auth : Json) : Prop
  | mk {opening verifying : ReceiverEvent ι} {enrolled : String} {verified : Json}
      (horder : [opening, verifying].Sublist es)
      (hissued : Issued P config opening i c d challenge)
      (hreceived : Received verifying i c auth)
      (henrolled : (config i).devices.get? d = some enrolled)
      (hkey : auth.field "device_public_key" = .str enrolled)
      (hverified : verifySessionAuth P auth challenge verifying.call.env.now = .ok verified)

/-- **A record is published as it should be**: what the change of the record of a device
came from. -/
inductive Publication (Signed : Bytes32 → Bytes → Prop) (pre : List (ReceiverEvent ι))
    (e : ReceiverEvent ι) (post : List (ReceiverEvent ι)) (i : ι) (d : String) : Prop
  | mk {c : ℕ} {key : Bytes32} {enrolled : String} {challenge auth telemetry : Json}
      {record : Record}
      -- the session was authenticated on this connection, by the enrolled key
      (hauth : Authenticated P config pre i c d challenge auth)
      (henrolled : (config i).devices.get? d = some enrolled)
      (hkey : auth.field "device_public_key" = .str enrolled)
      (hdecoded : b64decodeText invalidTransportEncoding enrolled = .ok key.1)
      (hid : d = deviceId P key.1)
      (hchallenge : auth.fieldEq "challenge" challenge = true)
      (hsigned : Signed key (sessionSignatureDomain ++ canonical (auth.erase "signature")))
      -- over no other challenge of any connection
      (honly : ∀ e' ∈ pre ++ e :: post, ∀ i' c' d' challenge',
        Issued P config e' i' c' d' challenge' → auth.fieldEq "challenge" challenge' = true →
          i' = i ∧ c' = c ∧ d' = d)
      -- what is stored was sent on this connection, for this session
      (htelemetry : Received e i c telemetry)
      (hsession : telemetry.field "session_id" = challenge.field "session_id")
      (hrecord : (e.after i).registry.records.get? d = some record)
      (hequal : record.snapshot.pyEq (telemetry.field "snapshot") = true)
      (hsnapshot : record.snapshot =
        (telemetry.field "snapshot").set "schema_version" protocolVersion)
      (hfixed : sanitizeSnapshot P record.snapshot = .ok record.snapshot)
      -- and nothing else changed
      (hdevices : ∀ d' ≠ d, (e.after i).registry.records.get? d' =
        (e.before i).registry.records.get? d')
      (hreceivers : ∀ i' ≠ i, e.after i' = e.before i') : Publication Signed pre e post i d

end Events

section Runs

variable {P : Platform} {config : ι → ReceiverConfig} {es : List (ReceiverEvent ι)}
  {s : ι → Receiver}

omit [DecidableEq ι] in
/-- What an issued challenge names. -/
theorem Issued.fields {e : ReceiverEvent ι} {i : ι} {c : ℕ} {d : String} {challenge : Json}
    (h : Issued P config e i c d challenge) :
    challenge.field "audience" = .str d ∧
      challenge.field "session_id" = .str e.call.env.sessionId.1 ∧
      challenge.field "nonce" = .str (b64encode e.call.env.nonce.1) := by
  obtain ⟨-, -, -, rfl, -⟩ := h
  exact ⟨rfl, rfl, rfl⟩

/-- **A challenge tells its session apart**: of the challenges a run issues, a document
compares equal to one at most. -/
theorem issued_unique (hrun : Run (receiversStep P config) (FreshSessions P config)
      (receiversStart config) es s) {e e' : ReceiverEvent ι} (he : e ∈ es) (he' : e' ∈ es)
    {i i' : ι} {c c' : ℕ} {d d' : String} {challenge challenge' document : Json}
    (h : Issued P config e i c d challenge) (h' : Issued P config e' i' c' d' challenge')
    (heq : document.pyEq challenge = true) (heq' : document.pyEq challenge' = true) :
    i' = i ∧ c' = c ∧ d' = d := by
  obtain ⟨haud, hsession, hnonce⟩ := h.fields
  obtain ⟨haud', hsession', hnonce'⟩ := h'.fields
  have hfield : ∀ {name a b : String}, challenge.field name = .str a →
      challenge'.field name = .str b → a = b := by
    intro name a b ha hb
    have hdoc := Json.pyEq_field heq name
    have hdoc' := Json.pyEq_field heq' name
    rw [ha, Json.pyEq_str_iff] at hdoc
    rw [hb, Json.pyEq_str_iff] at hdoc'
    exact Json.str.inj (hdoc.symm.trans hdoc')
  have hdrawn : e.call.env.sessionId = e'.call.env.sessionId ∧
      e.call.env.nonce = e'.call.env.nonce :=
    ⟨Subtype.ext (hfield hsession hsession'),
      Subtype.ext (b64encode_injective (hfield hnonce hnonce'))⟩
  -- the later of two issues draws identifier and nonce afresh
  rcases eq_or_sublist_of_mem he he' with rfl | hsub | hsub
  · exact ⟨h'.1.symm.trans h.1, h'.2.1.symm.trans h.2.1, (hfield haud haud').symm⟩
  · obtain ⟨pre, hpre, hfresh⟩ := hrun.admitted hsub
    exact absurd hdrawn (hfresh e hpre i c d challenge h)
  · obtain ⟨pre, hpre, hfresh⟩ := hrun.admitted hsub
    exact absurd ⟨hdrawn.1.symm, hdrawn.2.symm⟩ (hfresh e' hpre i' c' d' challenge' h')

/-! ### What a handler has behind it -/

variable (P config) in
/-- **What a handler that waits in a phase has behind it.** -/
def Backed (es : List (ReceiverEvent ι)) (i : ι) (c : ℕ) : Phase → Prop
  | .challenged d enrolled challenge => (config i).devices.get? d = some enrolled ∧
      ∃ e ∈ es, Issued P config e i c d challenge
  | .opened d challenge => ∃ auth, Authenticated P config es i c d challenge auth
  | _ => True

omit [DecidableEq ι] in
theorem Authenticated.mono {es es' : List (ReceiverEvent ι)} (hsub : es.Sublist es') {i : ι}
    {c : ℕ} {d : String} {challenge auth : Json}
    (h : Authenticated P config es i c d challenge auth) :
    Authenticated P config es' i c d challenge auth := by
  obtain ⟨horder, hissued, hreceived, henrolled, hkey, hverified⟩ := h
  exact .mk (horder.trans hsub) hissued hreceived henrolled hkey hverified

omit [DecidableEq ι] in
theorem Backed.mono {es es' : List (ReceiverEvent ι)} (hsub : es.Sublist es') {i : ι} {c : ℕ}
    {phase : Phase} (h : Backed P config es i c phase) : Backed P config es' i c phase := by
  cases phase with
  | challenged d enrolled challenge =>
    obtain ⟨hkey, e, he, hissued⟩ := h
    exact ⟨hkey, e, hsub.subset he, hissued⟩
  | opened d challenge => exact h.imp fun _ hauth => hauth.mono hsub
  | _ => trivial

theorem receiversStep_of_step {a : ReceiverAction ι} {out : Option Bytes} {r : Receiver}
    (h : (s a.receiver).step P (config a.receiver) a.connection a.input a.env = (out, r)) :
    receiversStep P config s a = (out, Function.update s a.receiver r) := by
  rw [receiversStep, h]

/-- **A step of the receivers is a step of one connection of one of them.** -/
theorem handled_of_step {e : ReceiverEvent ι}
    (he : receiversStep P config e.before e.call = (e.result, e.after)) :
    Receiver.Handled P (config e.call.receiver) (e.before e.call.receiver) e.call.connection
        e.call.input e.call.env e.result (e.after e.call.receiver) ∧
      ∀ i ≠ e.call.receiver, e.after i = e.before i := by
  have hhandled := Receiver.handled_step P (config e.call.receiver) (e.before e.call.receiver)
    e.call.connection e.call.input e.call.env
  obtain ⟨hresult, hafter⟩ := Prod.mk.inj he
  rw [← hafter, Function.update_self, ← hresult]
  exact ⟨hhandled, fun i hi => Function.update_of_ne hi _ _⟩

/-- **A step keeps every handler backed.** -/
theorem backed_step {e : ReceiverEvent ι}
    (he : receiversStep P config e.before e.call = (e.result, e.after))
    (h : ∀ i c, Backed P config es i c ((e.before i).connections c)) :
    ∀ i c, Backed P config (es ++ [e]) i c ((e.after i).connections c) := by
  intro i c
  have hold := (h i c).mono (List.sublist_append_left es [e])
  obtain ⟨hhandled, hframe⟩ := handled_of_step he
  by_cases hi : i = e.call.receiver
  swap
  · rwa [hframe i hi]
  subst hi
  -- a step sets the phase of its own connection only
  have hupdate : ∀ {phase : Phase}, (e.after e.call.receiver).connections =
      Function.update (e.before e.call.receiver).connections e.call.connection phase →
      Backed P config (es ++ [e]) e.call.receiver e.call.connection phase →
      Backed P config (es ++ [e]) e.call.receiver c ((e.after e.call.receiver).connections c) := by
    intro phase hphase hbacked
    rw [hphase]
    by_cases hc : c = e.call.connection
    · subst hc
      rwa [Function.update_self]
    · rwa [Function.update_of_ne hc]
  generalize hinput : e.call.input = input at hhandled
  generalize hafter : e.after e.call.receiver = r' at hhandled hupdate
  generalize hresult : e.result = out at hhandled
  cases hhandled with
  | waits => exact hold
  | ends hphase => exact hupdate hphase trivial
  | @challenges raw env id enrolled challenge payload hphase hread hwrite =>
    obtain ⟨-, hkey, hch⟩ := readHello_eq_ok.mp hread
    simp only [createSessionChallenge, Except.bind_eq_ok, require_eq_ok, exists_const] at hch
    obtain rfl := Except.ok.inj hch.2.2.2
    exact hupdate rfl ⟨hkey, e, by simp, rfl, rfl, hphase, rfl, payload, hwrite, hresult⟩
  | @opens raw env id enrolled challenge payload r' hphase hread hphase' =>
    obtain ⟨auth, hframe, hkey, verified, hverified⟩ := readAuthentication_eq_ok.mp hread
    have hbefore := h e.call.receiver e.call.connection
    rw [hphase] at hbefore
    obtain ⟨henrolled, opening, hopening, hissued⟩ := hbefore
    have horder : [opening, e].Sublist (es ++ [e]) :=
      (List.singleton_sublist.mpr hopening).append (List.Sublist.refl [e])
    exact hupdate hphase' ⟨auth, .mk horder hissued ⟨rfl, rfl, raw, hinput, hframe⟩ henrolled hkey
      hverified⟩
  | publishes _ _ hphase' hended =>
    rcases hended with rfl | rfl
    · exact hupdate hphase' trivial
    · exact hupdate hphase' trivial

/-- **Every handler of a run is backed.** -/
theorem backed {allowed : List (ReceiverEvent ι) → ReceiverAction ι → Prop}
    (hrun : Run (receiversStep P config) allowed (receiversStart config) es s) :
    ∀ i c, Backed P config es i c ((s i).connections c) :=
  hrun.invariant (I := fun es s => ∀ i c, Backed P config es i c ((s i).connections c))
    (fun _ _ => trivial) fun _ _ _ _ ih _ => backed_step rfl ih

/-! ### What changes a record -/

/-- **What changes a record**: telemetry on an open session of the device. -/
theorem changed_record {e : ReceiverEvent ι}
    (he : receiversStep P config e.before e.call = (e.result, e.after)) {i : ι} {d : String}
    (hchange : (e.after i).registry.records.get? d ≠ (e.before i).registry.records.get? d) :
    e.call.receiver = i ∧ (∀ i' ≠ i, e.after i' = e.before i') ∧
      ∃ challenge telemetry record, (e.before i).connections e.call.connection =
          .opened d challenge ∧
        Received e i e.call.connection telemetry ∧
        telemetry.fieldEq "session_id" (challenge.field "session_id") = true ∧
        sanitizeSnapshot P (telemetry.field "snapshot") = .ok record.snapshot ∧
        record.snapshot.pyEq (telemetry.field "snapshot") = true ∧
        (e.after i).registry.records = (e.before i).registry.records.insert d record := by
  obtain ⟨hhandled, hframe⟩ := handled_of_step he
  by_cases hi : i = e.call.receiver
  swap
  · exact absurd (by rw [hframe i hi]) hchange
  subst hi
  refine ⟨rfl, hframe, ?_⟩
  generalize hinput : e.call.input = input at hhandled
  generalize e.after e.call.receiver = r' at hhandled hchange ⊢
  generalize e.result = out at hhandled
  -- only telemetry of an open session changes a record
  cases hhandled with
  | waits => exact absurd rfl hchange
  | ends _ _ hrecords => exact absurd (by rw [hrecords]) hchange
  | challenges => exact absurd rfl hchange
  | opens _ _ _ _ hrecords => exact absurd (by rw [hrecords]) hchange
  | @publishes raw env id challenge snapshot out phase r' hphase hread _ _ _ hrecords =>
    split at hrecords
    swap
    · exact absurd (by rw [hrecords]) hchange
    obtain ⟨telemetry, hframe, -, -, -, hsession, -, hsanitized, heq⟩ :=
      readTelemetry_eq_ok.mp hread
    obtain rfl : id = d := by
      by_contra hne
      exact hchange (by rw [hrecords, Dict.get?_insert, if_neg hne])
    exact ⟨challenge, telemetry, _, hphase, ⟨rfl, rfl, raw, hinput, hframe⟩, hsession,
      hsanitized, heq, hrecords⟩

/-- What an authentication that passed says of its key. -/
theorem verifySessionAuth_enrolled {auth challenge verified : Json} {now : Time} {d enrolled : String}
    (haudience : challenge.field "audience" = .str d)
    (hkey : auth.field "device_public_key" = .str enrolled)
    (h : verifySessionAuth P auth challenge now = .ok verified) :
    ∃ (key : Bytes32) (signature : Signature),
      b64decodeText invalidTransportEncoding enrolled = .ok key.1 ∧ d = deviceId P key.1 ∧
        auth.fieldEq "challenge" challenge = true ∧ Carries auth signature ∧
        P.verify key (sessionSignatureDomain ++ canonical (auth.erase "signature")) signature
          = true := by
  obtain ⟨-, -, -, hchallenge, -, key, signature, session, -, hdecoded, hsignature, -, hsession, -,
    -, -, hverify⟩ := verifySessionAuth_eq_ok.mp h
  obtain ⟨-, -, -, -, -, -, haud, -⟩ := validateSessionChallenge_eq_ok.mp hsession
  rw [Json.fieldEq_str_iff, haudience] at haud
  rw [hkey] at hdecoded
  exact ⟨key, signature, hdecoded, Json.str.inj haud, hchallenge, ⟨_, hsignature⟩, hverify⟩

/-- **Publication is authenticated and isolated**: whenever the record of a device
changes, in a run of any receivers with any connections, what changed it was telemetry on
a session that the enrolled key of the device authenticated on that connection, over the
challenge issued there; what is stored is the snapshot that was sent, filtered; and
nothing else changed. -/
theorem publication_authentic {Signed : Bytes32 → Bytes → Prop} {pre post : List (ReceiverEvent ι)}
    {e : ReceiverEvent ι} (hrun : Run (receiversStep P config) (FreshSessions P config)
      (receiversStart config) (pre ++ e :: post) s)
    (hgenuine : Genuine P Signed (pre ++ e :: post)) {i : ι} {d : String}
    (hchange : (e.after i).registry.records.get? d ≠ (e.before i).registry.records.get? d) :
    Publication P config Signed pre e post i d := by
  obtain ⟨hbefore, -, hstep⟩ := hrun.split
  obtain ⟨-, hreceivers, challenge, telemetry, record, hphase, htelemetry, hsession, hsanitized,
    heq, hrecords⟩ := changed_record hstep hchange
  have hbacked := backed hbefore i e.call.connection
  rw [hphase] at hbacked
  -- an open session goes back to an authentication that was verified
  obtain ⟨auth, hauth⟩ := hbacked
  obtain ⟨horder, hissued, hreceived, henrolled, hkey, hverified⟩ := id hauth
  obtain ⟨haudience, hid, -⟩ := hissued.fields
  obtain ⟨key, signature, hdecoded, hdevice, hchallenge, hcarries, hverify⟩ :=
    verifySessionAuth_enrolled haudience hkey hverified
  have hmem := fun e' (he' : e' ∈ pre) => List.mem_append_left (e :: post) he'
  -- and what verifies has been signed by the holder of the key
  have hsigned := hgenuine _ (hmem _ (horder.subset (by simp))) i _ auth hreceived key signature _
    hcarries hverify
  obtain ⟨-, -, raw, -, hframe⟩ := id htelemetry
  have hordered := Json.ordered_field (readFrame_ordered hframe).1 "snapshot"
  rw [hid, Json.fieldEq_str_iff] at hsession
  refine .mk hauth henrolled hkey hdecoded hdevice hchallenge hsigned ?_ htelemetry
    (hsession.trans hid.symm) ?_ heq
    (eq_of_pyEq_sanitizeSnapshot hordered hsanitized heq) (sanitizeSnapshot_sanitized hsanitized)
    ?_ hreceivers
  · intro e' he' i' c' d' challenge' hissued' hchallenge'
    exact issued_unique hrun (hmem _ (horder.subset (by simp))) he' hissued hissued' hchallenge
      hchallenge'
  · rw [hrecords, Dict.get?_insert, if_pos rfl]
  · intro d' hd'
    rw [hrecords, Dict.get?_insert, if_neg hd'.symm]

end Runs

namespace Sample

/-- The receiver of the sample session: one device is enrolled. -/
def receiverConfig : ReceiverConfig where
  enabled := true
  relayId := "relay-1"
  listenHost := "127.0.0.1"
  listenPort := 8443
  apiSocket := "/relay/runtime/receiver.sock"
  stateFile := "/relay/runtime/latest.json"
  certFile := "/relay/relay-cert.pem"
  keyFile := "/relay/relay-key.pem"
  staleAfter := 30
  devices := (∅ : Dict String String).insert device (b64encode agentPublic.1)

/-- What a step of the sample session takes from outside. -/
def handlerSupply (nonce : Bytes32) (now : Time) : HandlerSupply where
  sessionId := sessionId
  nonce := nonce
  now := now
  accepted := now
  published := now
  faults := fun _ => false

/-- The frame of a document arrives. -/
def arrives (d : Json) (nonce : Bytes32) (now : Time) : ReceiverAction Unit :=
  ⟨(), 0, .line (canonical d ++ [newline]), handlerSupply nonce now⟩

/-- A document whose text is short reads back from its frame. -/
theorem readFrame_short {d : Json} (hd : d.ordered = true) (hobj : d.isObj = true)
    (hlen : d.lengthBound < maxFrameBytes) : readFrame (canonical d ++ [newline]) = .ok d :=
  readFrame_writeFrame hd hobj (writeFrame_of_lengthBound hlen)

theorem readFrame_hello :
    readFrame (canonical (agentHello device) ++ [newline]) = .ok (agentHello device) :=
  readFrame_short (by decide) rfl (by decide)

theorem readFrame_authentication :
    readFrame (canonical authentication ++ [newline]) = .ok authentication :=
  readFrame_short (by decide) (by decide) (by decide)

/-- The hello is answered with the challenge of the sample session. -/
theorem readHello_sample : readHello platform receiverConfig (handlerSupply sessionNonce (moment 3))
    (canonical (agentHello device) ++ [newline]) =
      .ok (device, b64encode agentPublic.1, session) := by
  have hissued : platform.timestamp (moment 3) = "2023-11-14T22:13:23Z" := by decide
  have hexpires : platform.timestamp (moment 3 + seconds sessionLifetime) =
      "2023-11-14T22:14:23Z" := by decide
  have hchallenge : sessionChallenge platform device "relay-1" sessionLifetime sessionId
      sessionNonce (moment 3) = session := by
    rw [sessionChallenge, hissued, hexpires]
    rfl
  refine readHello_eq_ok.mpr ⟨⟨_, readFrame_hello, by decide⟩, by decide, ?_⟩
  rw [createSessionChallenge, require_pos (by decide), require_pos (by decide),
    require_pos (by decide)]
  exact congrArg Except.ok hchallenge

/-- The authentication passes. -/
theorem readAuthentication_sample : readAuthentication platform (b64encode agentPublic.1) session
    (handlerSupply (repeated 86) (moment 4)) (canonical authentication ++ [newline]) = .ok () := by
  obtain ⟨-, -, hsigned⟩ := timestamps_session
  have hsession : validateSessionChallenge platform session (.str (deviceId platform agentPublic.1))
      (session.field "relay_id") (moment 4) = .ok ⟨session, sessionId.1, moment 3, moment 63⟩ := by
    rw [device_eq]
    exact validateSessionChallenge_sample
  refine readAuthentication_eq_ok.mpr ⟨authentication, readFrame_authentication,
    by decide, authentication.erase "signature", verifySessionAuth_eq_ok.mpr
    ⟨by decide, by decide, by decide, by decide, rfl, agentPublic, authSignature, _,
      moment 4, b64decode_str_b64encode _ _, b64decode_str_b64encode _ _, ?_, hsession, hsigned,
      by decide, by decide, ?_⟩⟩
  · rw [device_eq]
    decide
  · rw [erase_signature_authentication]
    exact verify_agent (sign_authentication.mpr ⟨rfl, rfl⟩)

/-- The confirmation of the sample session. -/
def ready : Json := sessionReady platform session "relay-1" (moment 4)

/-- The steps that open the sample session. -/
def opening : List (ReceiverAction Unit) :=
  [arrives (agentHello device) sessionNonce (moment 3),
    arrives authentication (repeated 86) (moment 4)]

/-- The runs of the sample receiver. -/
abbrev SampleRun (es : List (ReceiverEvent Unit)) (s : Unit → Receiver) : Prop :=
  Run (receiversStep platform fun _ => receiverConfig)
    (FreshSessions platform fun _ => receiverConfig) (receiversStart fun _ => receiverConfig) es s

/-- A step of the sample receiver goes on with a run, if its nonce was not drawn before. -/
theorem SampleRun.next_step {es : List (ReceiverEvent Unit)} {s : Unit → Receiver}
    (hrun : SampleRun es s) {a : ReceiverAction Unit} {out : Option Bytes} {r : Receiver}
    (hnonce : ∀ a' ∈ es.map Event.call, a'.env.nonce ≠ a.env.nonce)
    (hstep : (s ()).step platform receiverConfig a.connection a.input a.env = (out, r)) :
    SampleRun (es ++ [⟨s, a, out, Function.update s () r⟩]) (Function.update s () r) :=
  hrun.next_eq (fun e he _ _ _ _ _ hc => hnonce e.call (List.mem_map_of_mem he) hc.2)
    (receiversStep_of_step hstep)

/-- The sample session is opened. -/
theorem reaches_opened : ∃ es s, SampleRun es s ∧ es.map Event.call = opening ∧
    (s ()).connections 0 = .opened device session ∧ (s ()).registry.records = ∅ ∧
    (s ()).registry.deviceIds = [device] := by
  obtain ⟨r₁, hstep₁, hr₁⟩ : ∃ r₁, (Receiver.start receiverConfig).step platform receiverConfig 0
      (.line (canonical (agentHello device) ++ [newline])) (handlerSupply sessionNonce (moment 3)) =
        (some (canonical session ++ [newline]), r₁) ∧
      r₁ = (Receiver.start receiverConfig).move 0
        (.challenged device (b64encode agentPublic.1) session) :=
    ⟨_, Receiver.step_hello rfl readHello_sample (writeFrame_of_lengthBound (by decide)), rfl⟩
  obtain ⟨r₂, hstep₂, hr₂⟩ : ∃ r₂, r₁.step platform receiverConfig 0
      (.line (canonical authentication ++ [newline])) (handlerSupply (repeated 86) (moment 4)) =
        (some (canonical ready ++ [newline]), r₂) ∧
      r₂ = { r₁ with registry := r₁.registry.sessionOpened device }.move 0
        (.opened device session) := by
    refine ⟨_, Receiver.step_challenged ?_ readAuthentication_sample
      (writeFrame_of_lengthBound (by decide)), rfl⟩
    rw [hr₁, Receiver.move_connections, Function.update_self]
  have hrun₁ : SampleRun [] _ := Run.start
  have hrun₂ := hrun₁.next_step (a := arrives (agentHello device) sessionNonce (moment 3))
    (by simp) hstep₁
  have hnonce : ∀ a ∈ [arrives (agentHello device) sessionNonce (moment 3)],
      a.env.nonce ≠ (arrives authentication (repeated 86) (moment 4)).env.nonce := by
    intro a ha
    obtain rfl := List.mem_singleton.mp ha
    exact (by decide : sessionNonce ≠ repeated 86)
  have hrun := hrun₂.next_step (a := arrives authentication (repeated 86) (moment 4)) hnonce hstep₂
  refine ⟨_, _, hrun, rfl, ?_, ?_, ?_⟩
  · rw [Function.update_self, hr₂, Receiver.move_connections, Function.update_self]
  · rw [Function.update_self, hr₂, hr₁]
    rfl
  · rw [Function.update_self, hr₂, hr₁]
    rfl

/-- The snapshot that is sent. -/
def snapshot : Json :=
  snapshotDocument (.str "2023-11-14T22:13:24Z")
    [("printer-1", .obj [("connected", .bool true)])]

/-- Its telemetry. -/
def telemetry : Json := telemetryEnvelope sessionId.1 snapshot

/-- The telemetry arrives. -/
def telling : ReceiverAction Unit := arrives telemetry (repeated 87) (moment 4)

theorem readFrame_telemetry : readFrame (canonical telemetry ++ [newline]) = .ok telemetry :=
  readFrame_short (by decide) rfl (by decide)

/-- The snapshot is filtered already. -/
theorem sanitizeSnapshot_sample : sanitizeSnapshot platform snapshot = .ok snapshot := by
  refine sanitizeSnapshot_eq_ok.mpr ⟨rfl, rfl, _, rfl, by simp [Json.isObj], ?_, by decide⟩
  rw [length_canonical]
  exact snapshot.length_encode_le.trans (by decide)

/-- The telemetry passes. -/
theorem readTelemetry_sample :
    readTelemetry platform session (canonical telemetry ++ [newline]) = .ok snapshot :=
  readTelemetry_eq_ok.mpr ⟨telemetry, readFrame_telemetry, by decide, rfl, rfl,
    Json.pyEq_refl _, rfl, sanitizeSnapshot_sample, Json.pyEq_refl _⟩

/-- **The sample session publishes and acknowledges.** -/
theorem reaches_published : ∃ pre e, SampleRun (pre ++ [e]) e.after ∧
    pre.map Event.call = opening ∧ e.call = telling ∧
    e.result = some (canonical (telemetryAck session) ++ [newline]) ∧
    (e.after ()).registry.records.get? device ≠ (e.before ()).registry.records.get? device ∧
    (e.after ()).registry.records.get? device =
      some (newRecord platform device 1 snapshot (moment 4)) := by
  obtain ⟨pre, s, hrun, hcalls, hphase, hrecords, hids⟩ := reaches_opened
  have hpublish : (Registry.publish platform device 1 snapshot (moment 4)).run (fun _ => false)
      (s ()).registry = _ :=
    (FileProg.run_no_fault _ _).trans (exec_publish (by simp [hids]) 1 snapshot (moment 4))
  have hstep : (s ()).step platform receiverConfig 0 telling.input telling.env = _ :=
    Receiver.step_opened hphase readTelemetry_sample hpublish
      (writeFrame_of_lengthBound (by decide))
  have hnonce : ∀ a ∈ opening, a.env.nonce ≠ telling.env.nonce := by decide
  have hbefore : (s ()).registry.records.get? device = none := by
    rw [hrecords]
    rfl
  have hafter : ((s ()).registry.records.insert device
      (newRecord platform device 1 snapshot (moment 4))).get? device = some _ :=
    (Dict.get?_insert ..).trans (if_pos rfl)
  refine ⟨pre, _, hrun.next_step (a := telling) (by rwa [hcalls]) hstep, hcalls, rfl, rfl, ?_, ?_⟩
  · dsimp only
    rw [Function.update_self, hbefore]
    exact hafter ▸ Option.some_ne_none _
  · dsimp only
    rw [Function.update_self]
    exact hafter

/-- What the agent's key signed. -/
def signedByAgent (key : Bytes32) (payload : Bytes) : Prop :=
  key = agentPublic ∧ payload = authTranscript

/-- The documents received in the sample session. -/
theorem received_sample {e : ReceiverEvent Unit} (he : e.call ∈ opening ++ [telling]) {i : Unit}
    {c : ℕ} {document : Json} (h : Received e i c document) :
    document ∈ [agentHello device, authentication, telemetry] := by
  obtain ⟨-, -, raw, hinput, hread⟩ := h
  simp only [opening, List.cons_append, List.nil_append, List.mem_cons, List.not_mem_nil,
    or_false] at he ⊢
  rcases he with he | he | he
  all_goals
    rw [he] at hinput
    obtain rfl := Input.line.inj hinput
  · exact .inl (Except.ok.inj (hread.symm.trans readFrame_hello))
  · exact .inr (.inl (Except.ok.inj (hread.symm.trans readFrame_authentication)))
  · exact .inr (.inr (Except.ok.inj (hread.symm.trans readFrame_telemetry)))

/-- The sample session has genuine signatures only. -/
theorem genuine_sample {es : List (ReceiverEvent Unit)}
    (h : ∀ e ∈ es, e.call ∈ opening ++ [telling]) : Genuine platform signedByAgent es := by
  rintro e he i c auth hreceived key signature payload ⟨err, hsignature⟩ hverify
  have hauth := received_sample (h e he) hreceived
  simp only [List.mem_cons, List.not_mem_nil, or_false] at hauth
  rcases hauth with rfl | rfl | rfl
  · cases hsignature
  · obtain rfl : authSignature = signature :=
      Subtype.ext (Except.ok.inj ((b64decode_str_b64encode err _).symm.trans hsignature))
    obtain ⟨hkey, hpayload⟩ := sign_authentication.mp (sign_of_verify hverify)
    have hpublic : keys agentKey = agentPublic := by decide
    exact ⟨by rw [← hpublic, ← hkey, Equiv.apply_symm_apply], hpayload⟩
  · cases hsignature

end Sample

open Sample in
/-- The sample session publishes. -/
theorem publication_authentic_sample : ∃ pre e s, SampleRun (pre ++ [e]) s ∧
    (pre ++ [e]).map Event.call = opening ++ [telling] ∧
    (e.after ()).registry.records.get? device ≠ (e.before ()).registry.records.get? device ∧
    Publication platform (fun _ => receiverConfig) signedByAgent pre e [] () device := by
  obtain ⟨pre, e, hrun, hcalls, hcall, -, hchange, -⟩ := reaches_published
  have hcalls' : (pre ++ [e]).map Event.call = opening ++ [telling] := by
    rw [List.map_append, hcalls, List.map_singleton, hcall]
  exact ⟨pre, e, _, hrun, hcalls', hchange, publication_authentic hrun
    (genuine_sample fun e he => hcalls' ▸ List.mem_map_of_mem he) hchange⟩

end PrinterHmi
