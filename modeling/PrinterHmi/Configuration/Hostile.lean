import PrinterHmi.Configuration.Acceptance

/-!
# Hostile documents

The offer of `create_enrollment_request` and the receipt of `add_receipt` come from elsewhere
and may hold any JSON value in any place. Both are checked field by field, and what a check
finds wrong is raised as a `RelayConfigurationError`, the one exception the two promise. Here is
where they keep to it (`hostile_documents_iff`): in every directory a relay can have, for every
document, with three exceptions.

* A text that is beyond the limits of the reader of JSON. An integer of too many digits is a plain
  `ValueError` and a value that lies too deep a `RecursionError`; only a `JSONDecodeError` is
  handled.
* An offer that passes every check and whose expiry reads as a moment without an offset. The
  pattern of a timestamp is not checked, only that it ends in `Z`, and a text such as
  `2030-01-01Z` becomes a date with a separator and a time. Comparing it with the clock is a
  `TypeError`.
* A receipt that is signed by the key it names and addressed to the relay, and whose
  `challenge_id` is a list or an object. Nothing has checked that it is a text, and looking it
  up among the pending challenges is a `TypeError`. The key may be any key.
-/

namespace PrinterHmi

open FileProg

/-- The class the manager promises. -/
def OfConfiguration (e : Exn) : Prop := e.cls = .relayConfigurationError

theorem ofConfiguration_error (message : String) : OfConfiguration (configurationError message) :=
  rfl

/-- The file holds the text of a JSON document. -/
def HoldsDocument (file : Option Bytes) (text : List Char) (document : Json) : Prop :=
  ∃ raw, file = some raw ∧ (utf8? raw).map String.toList = some text ∧
    Json.loads text = some document

/-- What has fields is an object. -/
theorem isObj_of_hasFields {document : Json} {fields : List String}
    (h : document.hasFields fields = true) : document.isObj = true := by
  rw [Json.hasFields, Bool.and_eq_true, Bool.and_eq_true] at h
  exact h.1.1

section Reading

variable {P : Platform} {file : Option Bytes} {text : List Char} {document : Json}

/-- The file is read as its text. -/
theorem readJson_of_holds (h : HoldsDocument file text document) (label : String) :
    readJson P file label = (do
      let document ← loadsJson P text (configurationError (label ++ " could not be read"))
      require (document.isObj) (configurationError ("invalid " ++ label))
      pure document) := by
  obtain ⟨raw, rfl, htext, -⟩ := h
  obtain ⟨s, hs, rfl⟩ := Option.map_eq_some_iff.mp htext
  rw [readJson, orRaise_some, Except.ok_bind_eq rfl, Except.ok_bind_eq (orRaise_eq_ok.mpr hs)]

/-- A document within the limits is read, unless it is no object. -/
theorem readJson_of_within (h : HoldsDocument file text document)
    (hwithin : Json.Within P.limits text) (label : String) : readJson P file label =
      if document.isObj then .ok document else .error (configurationError ("invalid " ++ label)) := by
  have hdocument := Json.decode_eq_ok.mpr ⟨hwithin, h.choose_spec.2.2⟩
  rw [readJson_of_holds h, Except.ok_bind_eq (loadsJson_eq_ok.mpr hdocument)]
  by_cases hobj : document.isObj
  · rw [require_pos hobj, if_pos hobj]
    rfl
  · rw [require_neg hobj, if_neg hobj]
    rfl

/-- **Beyond the limits something else is raised.** -/
theorem readJson_of_not_within (h : HoldsDocument file text document)
    (hbeyond : ¬Json.Within P.limits text) (label : String) :
    ∃ e, readJson P file label = .error e ∧ ¬OfConfiguration e := by
  obtain ⟨stop, hstop⟩ := Json.decode_eq_stopped hbeyond
  rw [readJson_of_holds h, loadsJson, hstop]
  cases stop with
  | tooLong => exact ⟨_, rfl, fun hc => by cases hc⟩
  | tooDeep => exact ⟨_, rfl, fun hc => by cases hc⟩

end Reading

/-! ### Offers -/

section Offer

variable (P : Platform)

/-- **The form of an offer**: what is checked of it before its expiry. -/
structure OfferForm (offer : Json) : Prop where
  fields : offer.hasFields pairingOfferFields = true ∧
    offer.fieldEq "schema_version" schemaVersion = true
  pairing : ∃ text, offer.field "pairing_id" = .str text ∧ isUuidText text = true
  device : ∃ device : EnrolledDevice, offer.field "device_id" = .str device.deviceId ∧
    offer.field "device_public_key" = .str device.publicKey ∧ device.Derived P
  code : ∃ text, offer.field "code" = .str text ∧ pairingCodePattern text = true

/-- The expiry of an offer reads as a moment without an offset. -/
def NaiveExpiry (offer : Json) : Prop :=
  ∃ text moment stamp, offer.field "expires_at" = .str text ∧ zuluText? text = some moment ∧
    P.fromisoformat moment = some stamp ∧ stamp.aware = false

variable {P} {now : Time} {offer : Json}

/-- **The one check of an offer that raises something else.** -/
theorem readOffer_naive (hform : OfferForm P offer) (hnaive : NaiveExpiry P offer) :
    readOffer P now offer =
      .error ⟨.typeError, "can't compare offset-naive and offset-aware datetimes"⟩ := by
  obtain ⟨hfields, ⟨pairingId, hpairing⟩, ⟨device, hid, hkey, hpattern, key, hdecoded, hderived⟩,
    ⟨code, hcode⟩⟩ := hform
  obtain ⟨text, moment, stamp, htext, hzulu, hstamp, hnaive⟩ := hnaive
  have hpattern' : deviceIdPattern device.deviceId = true := by
    rw [hderived]
    exact deviceIdPattern_deviceId P key.1
  have hdecoded' : b64decode invalidEncodedKey (offer.field "device_public_key") = .ok key.1 := by
    rw [hkey]
    exact b64decodeText_eq_ok hdecoded
  have haware : ¬stamp.aware = true := Bool.eq_false_iff.mp hnaive
  rw [readOffer, require_pos hfields, Except.ok_bind_eq rfl,
    Except.ok_bind_eq (uuidText_eq_ok.mpr hpairing), Except.ok_bind_eq hdecoded',
    Except.ok_bind_eq (patternText_eq_ok.mpr ⟨hid, hpattern'⟩),
    Except.ok_bind_eq (patternText_eq_ok.mpr ⟨hkey, hpattern⟩),
    require_pos ⟨key.2, hderived.symm⟩, Except.ok_bind_eq rfl,
    Except.ok_bind_eq (patternText_eq_ok.mpr hcode),
    Except.ok_bind_eq (orRaise_eq_ok.mpr (Json.str?_eq_some.mpr htext)),
    Except.ok_bind_eq (orRaise_eq_ok.mpr hzulu), Except.ok_bind_eq (orRaise_eq_ok.mpr hstamp),
    require_neg haware]
  rfl

/-- Every other check raises what is promised. -/
theorem raises_readOffer (h : ¬(OfferForm P offer ∧ NaiveExpiry P offer)) :
    (readOffer P now offer).Raises OfConfiguration := by
  have hoffer : OfConfiguration invalidOffer := rfl
  have hexpiry : OfConfiguration invalidOfferExpiry := rfl
  refine .bind (Except.raises_require hoffer) fun _ hfields => ?_
  refine .bind (raises_patternText hoffer _ _) fun pairingId hpairing => ?_
  refine .bind (raises_b64decode (ofConfiguration_error _) _) fun decoded hdecoded => ?_
  refine .bind (raises_patternText hoffer _ _) fun id hid => ?_
  refine .bind (raises_patternText hoffer _ _) fun publicKey hkey => ?_
  refine .bind (Except.raises_require hoffer) fun _ hderived => ?_
  refine .bind (raises_patternText hoffer _ _) fun code hcode => ?_
  refine .bind (Except.raises_orRaise hexpiry _) fun text htext => ?_
  refine .bind (Except.raises_orRaise hexpiry _) fun moment hmoment => ?_
  refine .bind (Except.raises_orRaise hexpiry _) fun stamp hstamp => ?_
  rw [require_eq_ok] at hfields hderived
  obtain ⟨hid, -⟩ := patternText_eq_ok.mp hid
  obtain ⟨hkey, hpattern⟩ := patternText_eq_ok.mp hkey
  rw [hkey] at hdecoded
  -- what has passed is the form of an offer, so the expiry is not naive
  have hform : OfferForm P offer :=
    { fields := hfields
      pairing := ⟨pairingId, uuidText_eq_ok.mp hpairing⟩
      device := ⟨⟨id, publicKey⟩, hid, hkey, hpattern, ⟨decoded, hderived.1⟩,
        b64decodeText_eq_ok hdecoded, hderived.2.symm⟩
      code := ⟨code, patternText_eq_ok.mp hcode⟩ }
  have haware : stamp.aware = true := by
    by_contra hc
    exact h ⟨hform, text, moment, stamp, Json.str?_eq_some.mp (orRaise_eq_ok.mp htext),
      orRaise_eq_ok.mp hmoment, orRaise_eq_ok.mp hstamp, Bool.eq_false_iff.mpr hc⟩
  rw [require_pos haware, Except.ok_bind_eq rfl]
  exact .bind (Except.raises_require (ofConfiguration_error _)) fun _ _ => Except.raises_ok _

variable (P now offer) in
/-- **Where reading an offer raises what is promised.** -/
theorem raises_readOffer_iff : (readOffer P now offer).Raises OfConfiguration ↔
    ¬(OfferForm P offer ∧ NaiveExpiry P offer) := by
  refine ⟨fun h hc => ?_, raises_readOffer⟩
  rw [readOffer_naive hc.1 hc.2, Except.raises_error_iff] at h
  cases h

end Offer

/-! ### Receipts -/

section Receipt

variable (P : Platform)

/-- A receipt that is signed by the key it names. -/
def Verified (receipt : Json) : Prop := ∃ verified, verifyEnrollmentReceipt P receipt = .ok verified

/-- A receipt that names a relay, its peer and its key. -/
def Addressed (state : RelayState) (receipt : Json) : Prop :=
  receipt.field "relay_id" = .str state.relayId ∧ receipt.field "peer_id" = .str state.peerId ∧
    receipt.field "peer_public_key" = .str state.peerPublicKey

/-- The challenge of a receipt is a list or an object. -/
def UnhashableChallenge (receipt : Json) : Prop :=
  (∃ items, receipt.field "challenge_id" = .arr items) ∨
    ∃ fields, receipt.field "challenge_id" = .obj fields

variable {P} {state : RelayState} {receipt : Json}

/-- Verifying a receipt raises only the error of an enrollment, which is made one of the
configuration. -/
theorem raises_verifiedReceipt (receipt : Json) :
    (verifiedReceipt P receipt).Raises OfConfiguration := by
  have herror (message : String) : (enrollmentError message).cls = .enrollmentError := rfl
  have hverify : (verifyEnrollmentReceipt P receipt).Raises fun e => e.cls = .enrollmentError := by
    refine .bind (Except.raises_require (herror _)) fun _ _ => ?_
    refine .bind (raises_b64decode (herror _) _) fun decoded _ => ?_
    refine .bind (raises_keyBytes (herror _) _) fun key _ => ?_
    refine .bind (Except.raises_require (herror _)) fun _ _ => ?_
    refine .bind (raises_b64decode (herror _) _) fun signed _ => ?_
    refine .bind (raises_signatureBytes (herror _) _) fun signature _ => ?_
    exact .bind (Except.raises_require (herror _)) fun _ _ => Except.raises_ok _
  rw [verifiedReceipt]
  cases hcase : verifyEnrollmentReceipt P receipt with
  | ok verified => exact Except.raises_ok _
  | error e =>
    have he : e.cls = .enrollmentError := hverify e hcase
    dsimp only
    rw [if_pos he]
    exact Except.raises_error_iff.mpr rfl

/-- The pending challenges are asked for any value but a list or an object. -/
theorem raises_pendingOf_iff (state : RelayState) (challengeId : Json) :
    (state.pendingOf challengeId).Raises OfConfiguration ↔
      ¬((∃ items, challengeId = .arr items) ∨ ∃ fields, challengeId = .obj fields) := by
  cases challengeId with
  | arr items =>
    refine iff_of_false (fun h => ?_) fun h => h (.inl ⟨items, rfl⟩)
    cases Except.raises_error_iff.mp h
  | obj fields =>
    refine iff_of_false (fun h => ?_) fun h => h (.inr ⟨fields, rfl⟩)
    cases Except.raises_error_iff.mp h
  | _ => exact iff_of_true (Except.raises_ok _) (by simp)

variable (P state receipt) in
/-- **Where matching a receipt raises what is promised.** -/
theorem raises_matchReceipt_iff : (matchReceipt P state receipt).Raises OfConfiguration ↔
    ¬(Verified P receipt ∧ Addressed state receipt ∧ UnhashableChallenge receipt) := by
  rw [matchReceipt]
  cases hverified : verifiedReceipt P receipt with
  | error e =>
    refine iff_of_true (Except.raises_error_iff.mpr (raises_verifiedReceipt receipt e hverified)) ?_
    rintro ⟨⟨verified, hc⟩, -⟩
    rw [verifiedReceipt_eq_ok.mpr hc] at hverified
    cases hverified
  | ok verified =>
    have hverify := verifiedReceipt_eq_ok.mp hverified
    -- what is looked at is in the receipt as it came
    obtain ⟨-, -, -, rfl, -⟩ := verifyEnrollmentReceipt_eq_ok.mp hverify
    have hother {name : String} (h : name ≠ "signature") :
        (receipt.erase "signature").field name = receipt.field name :=
      Json.field_erase_of_ne h receipt
    have haddressed : ((receipt.erase "signature").fieldEq "relay_id" (.str state.relayId) ∧
        (receipt.erase "signature").fieldEq "peer_id" (.str state.peerId) ∧
        (receipt.erase "signature").fieldEq "peer_public_key" (.str state.peerPublicKey)) ↔
          Addressed state receipt := by
      rw [Json.fieldEq_str_iff, Json.fieldEq_str_iff, Json.fieldEq_str_iff, hother (by decide),
        hother (by decide), hother (by decide), Addressed]
    rw [Except.ok_bind_eq rfl]
    by_cases hrelay : Addressed state receipt
    · rw [require_pos (haddressed.mpr hrelay), Except.ok_bind_eq rfl, hother (by decide)]
      refine (Except.raises_bind_iff fun found _ => ?_).trans
        ((raises_pendingOf_iff state _).trans (not_congr ?_))
      · cases found with
        | none => exact Except.raises_error_iff.mpr rfl
        | some pending =>
          exact .bind (Except.raises_require rfl) fun _ _ => Except.raises_ok _
      · exact ⟨fun h => ⟨⟨_, hverify⟩, hrelay, h⟩, fun h => h.2.2⟩
    · rw [require_neg fun hc => hrelay (haddressed.mp hc)]
      exact iff_of_true (Except.raises_error_iff.mpr rfl) fun h => hrelay h.2.1

end Receipt

/-! ### Configurations -/

section Config

variable {P : Platform} {paths : Paths}

/-- The class of a receiver. -/
def OfReceiver (e : Exn) : Prop := e.cls = .relayReceiverError

theorem ofReceiver_error (message : String) : OfReceiver (receiverError message) := rfl

theorem raises_readDevice (item : Json) : (readDevice P item).Raises OfReceiver := by
  have herror := ofReceiver_error
  refine .bind (Except.raises_require (herror _)) fun _ _ => ?_
  refine .bind (raises_patternText (herror _) _ _) fun id _ => ?_
  refine .bind (raises_patternText (herror _) _ _) fun publicKey _ => ?_
  refine .bind (raises_b64decodeText (herror _) _) fun decoded _ => ?_
  exact .bind (Except.raises_require (herror _)) fun _ _ => Except.raises_ok _

theorem raises_readDevices (items : List Json) (devices : Dict String String) :
    (readDevices P items devices).Raises OfReceiver := by
  induction items generalizing devices with
  | nil => exact Except.raises_ok devices
  | cons item items ih =>
    refine .bind (raises_readDevice item) fun e _ => ?_
    exact .bind (Except.raises_require (ofReceiver_error _)) fun _ _ => ih _

theorem raises_configPath (value : Json) (label : String) (mustExist : Bool) :
    (configPath paths value label mustExist).Raises OfReceiver := by
  have herror := ofReceiver_error
  refine .bind (Except.raises_orRaise (herror _) _) fun text _ => ?_
  refine .bind (Except.raises_require (herror _)) fun _ _ => ?_
  exact .bind (Except.raises_require (herror _)) fun _ _ => Except.raises_ok _

/-- Loading a configuration of a receiver raises what a receiver raises, unless its interval is an
integer too large for a float. -/
theorem raises_receiverConfig {document : Json}
    (hfloat : floatable (document.field "stale_after") = true) :
    (ReceiverConfig.load P paths document).Raises OfReceiver := by
  have herror := ofReceiver_error
  refine .bind (Except.raises_require (herror _)) fun _ _ => ?_
  refine .bind (Except.raises_require (herror _)) fun _ _ => ?_
  refine .bind (Except.raises_orRaise (herror _) _) fun enabled _ => ?_
  refine .bind (raises_patternText (herror _) _ _) fun relayId _ => ?_
  refine .bind (Except.raises_orRaise (herror _) _) fun host _ => ?_
  refine .bind (Except.raises_orRaise (herror _) _) fun loopback _ => ?_
  refine .bind (Except.raises_require (herror _)) fun _ _ => ?_
  refine .bind (Except.raises_orRaise (herror _) _) fun port _ => ?_
  refine .bind (Except.raises_require (herror _)) fun _ _ => ?_
  refine .bind (Except.raises_orRaise (herror _) _) fun staleAfter _ => ?_
  rw [require_pos hfloat]
  refine .bind (Except.raises_ok _) fun _ _ => ?_
  refine .bind (Except.raises_require (herror _)) fun _ _ => ?_
  refine .bind (Except.raises_orRaise (herror _) _) fun items _ => ?_
  refine .bind (Except.raises_require (herror _)) fun _ _ => ?_
  refine .bind (Except.raises_require (herror _)) fun _ _ => ?_
  refine .bind (raises_readDevices items _) fun devices _ => ?_
  refine .bind (raises_configPath _ _ _) fun apiSocket _ => ?_
  refine .bind (raises_configPath _ _ _) fun stateFile _ => ?_
  refine .bind (raises_configPath _ _ _) fun certFile _ => ?_
  exact .bind (raises_configPath _ _ _) fun keyFile _ => Except.raises_ok _

/-- A manager makes it an error of the configuration. Its own intervals are not too large. -/
theorem raises_load {config : ReceiverDocument}
    (hstale : 5 ≤ config.staleAfter ∧ config.staleAfter ≤ 3600) :
    (config.load P paths).Raises OfConfiguration := by
  have hfloat : floatable (config.json.field "stale_after") = true :=
    floatable_of_le (x := config.staleAfter) rfl (by exact_mod_cast hstale.1)
      (by exact_mod_cast hstale.2)
  rw [ReceiverDocument.load]
  cases hload : ReceiverConfig.load P paths config.json with
  | ok parsed => exact Except.raises_ok parsed
  | error e =>
    have he : e.cls = .relayReceiverError := raises_receiverConfig hfloat e hload
    dsimp only
    rw [if_pos he]
    exact Except.raises_error_iff.mpr rfl

end Config

/-! ### Calls -/

/-- **A clean call**: it succeeds, or raises what is promised and leaves everything as it was. -/
def Clean (d : Directory) (result : Except Exn Json × Directory) : Prop :=
  (∃ reply, result.1 = .ok reply) ∨ ∃ e, result = (.error e, d) ∧ OfConfiguration e

theorem clean_ok {d d' : Directory} (reply : Json) : Clean d (.ok reply, d') := .inl ⟨reply, rfl⟩

theorem clean_error_iff {d : Directory} {e : Exn} : Clean d (.error e, d) ↔ OfConfiguration e := by
  constructor
  · rintro (⟨reply, hc⟩ | ⟨e', he, hclass⟩)
    · cases hc
    · obtain rfl := Except.error.inj (Prod.mk.inj he).1
      exact hclass
  · exact fun h => .inr ⟨e, rfl, h⟩

namespace Manager

section Calls

variable {P : Platform} {resolve : String → String} {env : Founding} {relayId peerId : String}
  {listenPort : ℤ} {d : Directory} {s : RelayState} {c : ReceiverDocument}
  {call : ManagerCall} {file : Option Bytes} {text : List Char} {document : Json}

/-- A document that is no object is refused as one that cannot be read. -/
theorem readJson_not_obj (hfile : HoldsDocument file text document)
    (hwithin : Json.Within P.limits text) (hobj : ¬document.isObj) (label : String) :
    readJson P file label = .error (configurationError ("invalid " ++ label)) := by
  rw [readJson_of_within hfile hwithin, if_neg hobj]

theorem readJson_obj (hfile : HoldsDocument file text document)
    (hwithin : Json.Within P.limits text) (hobj : document.isObj) (label : String) :
    readJson P file label = .ok document := by
  rw [readJson_of_within hfile hwithin, if_pos hobj]

/-- **A document beyond the limits is not handled cleanly**, as an offer and as a receipt. -/
theorem Founded.not_clean (h : Founded P resolve env relayId peerId listenPort d s c)
    (hcall : call.Faultless) (hfile : HoldsDocument file text document)
    (hbeyond : ¬Json.Within P.limits text)
    (haction : (∃ output, call.action = .createEnrollmentRequest file output) ∨
      call.action = .addReceipt file) : ¬Clean d (managerStep P resolve d call) := by
  have hload := course_loadState h.loads.state h.loads.stateOk
  rcases haction with ⟨output, haction⟩ | haction
  · obtain ⟨e, hread, he⟩ := readJson_of_not_within hfile hbeyond "pairing offer"
    rw [managerStep_of_course hcall haction (course_locked (hload.bind
      ((course_lift_error hread d).bind_error _))), clean_error_iff]
    exact he
  · obtain ⟨e, hread, he⟩ := readJson_of_not_within hfile hbeyond "enrollment receipt"
    rw [managerStep_of_course hcall haction (course_locked (hload.bind
      ((course_loadConfig h.loads).bind ((course_lift_error hread d).bind_error _)))),
      clean_error_iff]
    exact he

/-- A request is not written where there is no directory, or a file. -/
theorem course_writeOutput_error {env : ManagerSupply}
    (h : ¬(env.parentExists = true ∧ env.occupied = false)) (output : String) (request : Json)
    (d : Directory) : ∃ e, OfConfiguration e ∧
      (writeOutput env output request).Course d [] (.error e) d := by
  by_cases hparent : env.parentExists = true
  · have hfree : ¬env.occupied = false := fun hc => h ⟨hparent, hc⟩
    exact ⟨_, ofConfiguration_error _, (course_require hparent _ d).bind
      ((course_require_error hfree _ d).bind_error _)⟩
  · exact ⟨_, ofConfiguration_error _, (course_require_error hparent _ d).bind_error _⟩

/-- **Which offers are handled cleanly.** -/
theorem Founded.offer_clean_iff (h : Founded P resolve env relayId peerId listenPort d s c)
    {output : String} (hcall : call.Faultless)
    (haction : call.action = .createEnrollmentRequest file output)
    (hfile : HoldsDocument file text document) (hwithin : Json.Within P.limits text) :
    Clean d (managerStep P resolve d call) ↔ ¬(OfferForm P document ∧ NaiveExpiry P document) := by
  have hload := course_loadState h.loads.state h.loads.stateOk
  rw [← raises_readOffer_iff P call.env.checked document]
  by_cases hobj : document.isObj
  swap
  · have hread := course_lift_error (readJson_not_obj hfile hwithin hobj "pairing offer") d
    rw [managerStep_of_course hcall haction (course_locked (hload.bind (hread.bind_error _)))]
    refine iff_of_true (clean_error_iff.mpr (ofConfiguration_error _)) ?_
    exact raises_readOffer fun hc => hobj (isObj_of_hasFields hc.1.fields.1)
  have hread := course_lift_ok (readJson_obj hfile hwithin hobj "pairing offer") d
  cases hoffer : readOffer P call.env.checked document with
  | error e =>
    have hraised := course_lift_error hoffer d
    rw [managerStep_of_course hcall haction (course_locked (hload.bind (hread.bind
      (hraised.bind_error _)))), clean_error_iff, Except.raises_error_iff]
  | ok offer =>
    -- the request is made, and only its path can be wrong
    refine iff_of_true ?_ (Except.raises_ok offer)
    obtain ⟨challenge, -, hbuild⟩ := h.buildRequest call.env hoffer
    have hoffered := course_lift_ok hoffer d
    have hbuilt := course_lift_ok hbuild d
    by_cases hplace : call.env.parentExists = true ∧ call.env.occupied = false
    · rw [managerStep_of_course hcall haction (course_createEnrollmentRequest h.loads
        (readJson_obj hfile hwithin hobj _) hoffer hbuild hplace.1 hplace.2 output)]
      exact clean_ok _
    · obtain ⟨e, he, hwrite⟩ := course_writeOutput_error hplace output
        (requestOf P env peerId offer challenge) d
      rw [managerStep_of_course hcall haction (course_locked (hload.bind (hread.bind
        (hoffered.bind (hbuilt.bind (hwrite.bind_error _))))))]
      exact clean_error_iff.mpr he

/-- **Which receipts are handled cleanly.** -/
theorem Founded.receipt_clean_iff (h : Founded P resolve env relayId peerId listenPort d s c)
    (hcall : call.Faultless) (haction : call.action = .addReceipt file)
    (hfile : HoldsDocument file text document) (hwithin : Json.Within P.limits text) :
    Clean d (managerStep P resolve d call) ↔
      ¬(Verified P document ∧ Addressed s document ∧ UnhashableChallenge document) := by
  have hload := course_loadState h.loads.state h.loads.stateOk
  have hconfig := course_loadConfig h.loads
  rw [← raises_matchReceipt_iff P s document]
  -- what is no object is refused when it is read
  by_cases hobj : document.isObj
  swap
  · have hread := course_lift_error (readJson_not_obj hfile hwithin hobj "enrollment receipt") d
    rw [managerStep_of_course hcall haction (course_locked (hload.bind (hconfig.bind
      (hread.bind_error _))))]
    refine iff_of_true (clean_error_iff.mpr (ofConfiguration_error _)) ?_
    refine (raises_matchReceipt_iff P s document).mpr fun hc => hobj ?_
    obtain ⟨verified, hverified⟩ := hc.1
    exact isObj_of_hasFields (verifyEnrollmentReceipt_eq_ok.mp hverified).1
  have hread := readJson_obj hfile hwithin hobj "enrollment receipt"
  -- an exception of the checks is what the call raises
  cases hmatch : matchReceipt P s document with
  | error e =>
    have hraised := course_lift_error hmatch d
    rw [managerStep_of_course hcall haction (course_locked (hload.bind (hconfig.bind
      ((course_lift_ok hread d).bind (hraised.bind_error _))))), clean_error_iff,
      Except.raises_error_iff]
  | ok found =>
    obtain ⟨challengeId, device⟩ := found
    -- a receipt that passes them enrolls, or conflicts with an enrolled device, or with the limits
    refine iff_of_true ?_ (Except.raises_ok _)
    have hstep {l : List Directory} {r : Except Exn Json} {d' : Directory}
        (henroll : (enrollDevice P resolve s c challengeId device).Course d l r d') :
        managerStep P resolve d call = (r, d') :=
      managerStep_of_course hcall haction (course_addReceipt h.loads hread hmatch henroll)
    cases hfound : findDevice c device.deviceId with
    | some existing =>
      by_cases hsame : existing = device
      · rw [hstep (course_enrollDevice_found h.loads (hsame ▸ hfound) challengeId)]
        exact clean_ok _
      · have henroll : (enrollDevice P resolve s c challengeId device).Course d []
            (.error (configurationError "enrolled device key conflict")) d := by
          rw [enrollDevice, hfound]
          exact (course_require_error hsame _ d).bind_error _
        rw [hstep henroll]
        exact clean_error_iff.mpr (ofConfiguration_error _)
    | none =>
      cases hvalid : (withDevice c device).load P (d.paths resolve) with
      | ok parsed =>
        rw [hstep (course_enrollDevice_new h.loads hfound (valid_of_load hvalid).1 challengeId)]
        exact clean_ok _
      | error e =>
        have hstale : 5 ≤ (withDevice c device).staleAfter ∧
          (withDevice c device).staleAfter ≤ 3600 := h.loads.valid.staleAfter
        have henroll : (enrollDevice P resolve s c challengeId device).Course d
            (List.replicate 8 d) (.error e) d := by
          rw [enrollDevice, hfound]
          exact (course_saveConfig_error hvalid).bind_error _
        rw [hstep henroll]
        exact clean_error_iff.mpr (raises_load hstale e hvalid)

/-- **Hostile documents are handled cleanly, with three exceptions.** In every directory a relay
can come to have, a call on any document is clean unless its text is beyond the limits of the
reader of JSON, or, as an offer, it passes every check of an offer and its expiry reads as a moment
without an offset, or, as a receipt, it is signed by the key it names, addressed to the relay, and
its challenge is a list or an object. -/
theorem hostile_documents_iff {relayName peerName port : Json} {d₀ : Directory}
    {events : List ManagerEvent} (hinit : Initialized P resolve env relayName peerName port d₀)
    (hrun : ManagerRun P resolve d₀ events d) (hcall : call.Faultless)
    (hfile : HoldsDocument file text document) :
    ∃ s, d.state = some s ∧
      (∀ output, call.action = .createEnrollmentRequest file output →
        (Clean d (managerStep P resolve d call) ↔
          Json.Within P.limits text ∧ ¬(OfferForm P document ∧ NaiveExpiry P document))) ∧
      (call.action = .addReceipt file →
        (Clean d (managerStep P resolve d call) ↔
          Json.Within P.limits text ∧
            ¬(Verified P document ∧ Addressed s document ∧ UnhashableChallenge document))) := by
  obtain ⟨relayId, peerId, listenPort, -, -, -, hstart⟩ := founded_of_initialized hinit
  obtain ⟨s, c, hfounded⟩ := founded_of_run ⟨_, _, hstart⟩ hrun
  refine ⟨s, hfounded.loads.state, fun output haction => ?_, fun haction => ?_⟩
  · by_cases hwithin : Json.Within P.limits text
    · rw [and_iff_right hwithin]
      exact hfounded.offer_clean_iff hcall haction hfile hwithin
    · exact iff_of_false (hfounded.not_clean hcall hfile hwithin (.inl ⟨output, haction⟩))
        fun h => hwithin h.1
  · by_cases hwithin : Json.Within P.limits text
    · rw [and_iff_right hwithin]
      exact hfounded.receipt_clean_iff hcall haction hfile hwithin
    · exact iff_of_false (hfounded.not_clean hcall hfile hwithin (.inr haction))
        fun h => hwithin h.1

end Calls

end Manager

/-! ### Samples -/

namespace Sample

open Manager

/-- A receipt for the sample relay, but for its signature; its challenge is a list. -/
def hostileReceipt : Json :=
  .obj [("challenge_id", .arr []), ("device_id", .str (deviceId platform
      (platform.publicKey agentKey).1)),
    ("device_public_key", .str (b64encode (platform.publicKey agentKey).1)),
    ("enrolled_at", .str "2023-11-14T22:13:22Z"), ("pairing_id", .str pairingId.1),
    ("peer_id", .str "printerhmi-relay"),
    ("peer_public_key", .str (b64encode (platform.publicKey founding.key).1)),
    ("relay_id", .str "relay-1"), ("schema_version", schemaVersion),
    ("type", .str "agent.enrollment-receipt")]

/-- The receipt, signed with the key it names. -/
def hostileSigned : Json :=
  withSignature hostileReceipt
    (platform.sign agentKey (enrollmentReceiptDomain ++ canonical hostileReceipt))

theorem ordered_hostileSigned : hostileSigned.ordered = true := by
  have hsorted : ["challenge_id", "device_id", "device_public_key", "enrolled_at", "pairing_id",
      "peer_id", "peer_public_key", "relay_id", "schema_version", "type"].Pairwise (· < ·) := by
    decide
  have hordered : hostileReceipt.ordered = true :=
    Json.ordered_obj.mpr ⟨hsorted, by simp [Json.ordered, Json.orderedItems, schemaVersion]⟩
  exact ordered_withSignature hordered _

theorem verified_hostileSigned : Verified platform hostileSigned :=
  ⟨_, verifyEnrollmentReceipt_eq_ok.mpr ⟨rfl, rfl, rfl, rfl, platform.publicKey agentKey, _,
    b64decode_str_b64encode _ _, rfl, b64decode_str_b64encode _ _, platform.verify_sign _ _⟩⟩

/-- What a canonical text says. -/
theorem holdsDocument_canonical {document : Json} (h : document.ordered = true) :
    HoldsDocument (some (canonical document)) document.encode document := by
  refine ⟨_, rfl, ?_, Json.loads_encode h⟩
  rw [canonical, utf8?_utf8, Option.map_some, String.toList_ofList]

end Sample

open Sample in
/-- The relay of the sample directory is asked to make a request of the agent's offer. -/
theorem Manager.hostile_documents_iff_sample :
    Clean relayDirectory (managerStep platform relayPath relayDirectory requesting) := by
  have hcall : requesting.Faultless := fun _ => rfl
  obtain ⟨s, -, hoffer, -⟩ := Manager.hostile_documents_iff initialized_relayDirectory Run.start
    hcall (holdsDocument_canonical (ordered_pairingOffer _ _ _))
  have hfits := (isRecord_pairingOffer (P := platform) (supply (moment 0) pairingId) 600
    agentIdentity).fits platform
  have hwithin := (Json.decode_eq_ok.mp (Json.decode_encode (ordered_pairingOffer _ _ _) hfits)).1
  refine (hoffer "/srv/request.json" rfl).mpr ⟨hwithin, ?_⟩
  -- the expiry the agent writes has an offset
  rintro ⟨-, text, expiry, stamp, htext, hzulu, hstamp, hnaive⟩
  obtain rfl := Json.str.inj htext
  obtain rfl := Option.some.inj ((zuluText?_timestamp platform _).symm.trans hzulu)
  obtain rfl := Option.some.inj ((platform.fromisoformat_stem _).symm.trans hstamp)
  cases hnaive

open Sample in
/-- **A receipt that is not handled cleanly**: it is signed with the key it names, addressed to the
sample relay, and its challenge is a list. -/
theorem Manager.receipt_not_clean : ∃ (call : ManagerCall) (file : Option Bytes) (text : List Char)
    (document : Json),
    Initialized platform relayPath founding (.str "relay-1") (.str "printerhmi-relay") (.int 8443)
        relayDirectory ∧
      call.Faultless ∧ call.action = .addReceipt file ∧ HoldsDocument file text document ∧
      ¬Clean relayDirectory (managerStep platform relayPath relayDirectory call) := by
  have hfile := holdsDocument_canonical ordered_hostileSigned
  refine ⟨⟨.addReceipt (some (canonical hostileSigned)), relaySupply, fun _ => false⟩, _, _, _,
    initialized_relayDirectory, fun _ => rfl, rfl, hfile, fun hclean => ?_⟩
  have hfits : Json.fits platform.limits 0 hostileSigned = true := rfl
  have hwithin := (Json.decode_eq_ok.mp (Json.decode_encode ordered_hostileSigned hfits)).1
  refine (founded_relayDirectory.receipt_clean_iff (fun _ => rfl) rfl hfile hwithin).mp hclean ?_
  exact ⟨verified_hostileSigned, ⟨rfl, rfl, rfl⟩, .inl ⟨[], rfl⟩⟩

end PrinterHmi
