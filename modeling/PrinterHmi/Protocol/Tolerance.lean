import PrinterHmi.Protocol.Conformance

/-!
# What the checks let through

The program checks what it receives with code of its own, and not with the schemas. The code is
laxer in a few ways: a truth value passes for the number one, an encoded text may be spelled with
other characters, a date in any form that reads as a moment, a UUID may have any version, and some
members are not looked at. Which of these a check allows is the `Leeway` it leaves, field by field.
A document that has passed a check conforms to the schema of its kind exactly if it makes no use of
the leeway (`conforms_iff_strict`).
-/

namespace PrinterHmi

open Schema Stretch

/-! ### UUIDs -/

/-- `8-4-4-4-12` hexadecimal digits. -/
def uuidStretches : List Stretch :=
  [⟨hexRanges, 8, 8⟩, single '-', ⟨hexRanges, 4, 4⟩, single '-', ⟨hexRanges, 4, 4⟩, single '-',
    ⟨hexRanges, 4, 4⟩, single '-', ⟨hexRanges, 12, 12⟩]

/-- The version of a UUID is between 1 and 5, and its variant the one of the standard. -/
def Versioned (s : String) : Prop :=
  (∀ c, s.toList[14]? = some c → inRanges [('1', '5')] c = true) ∧
    ∀ c, s.toList[19]? = some c →
      inRanges [('8', '8'), ('9', '9'), ('a', 'a'), ('b', 'b')] c = true

theorem inRanges_hex (c : Char) : inRanges hexRanges c = true ↔ c ∈ hexAlphabet :=
  inRanges_iff_mem (by decide) (by decide) c

/-- A UUID, character by character. -/
theorem isUuidText_iff_each {s : String} :
    isUuidText s = true ↔ Each (classes uuidStretches) s.toList := by
  have hclass : ∀ i < 36, (classes uuidStretches)[i]? =
      some (if i ∈ [8, 13, 18, 23] then [('-', '-')] else hexRanges) := by decide
  have hdash (c : Char) : inRanges [('-', '-')] c = true ↔ c = '-' := by
    simpa [inRanges] using ⟨fun h => le_antisymm h.2 h.1, fun h => ⟨h.ge, h.le⟩⟩
  rw [isUuidText, Bool.and_eq_true, beq_iff_eq, List.all_eq_true, Each,
    show (classes uuidStretches).length = 36 from rfl]
  refine and_congr_right fun hlen => ?_
  constructor
  · intro hall i c ranges hc hr
    have hi : i < 36 := hlen ▸ (List.getElem?_eq_some_iff.mp hc).1
    obtain rfl := Option.some.inj ((hclass i hi).symm.trans hr)
    have hchar := hall (c, i) (List.mem_zipIdx_iff_getElem?.mpr hc)
    dsimp only at hchar
    split_ifs at hchar ⊢ with hmem
    · exact (hdash c).mpr (beq_iff_eq.mp hchar)
    · exact (inRanges_hex c).mpr (decide_eq_true_iff.mp hchar)
  · rintro hall ⟨c, i⟩ hci
    have hc : s.toList[i]? = some c := List.mem_zipIdx_iff_getElem?.mp hci
    have hi : i < 36 := hlen ▸ (List.getElem?_eq_some_iff.mp hc).1
    have hchar := hall i c _ hc (hclass i hi)
    dsimp only
    split_ifs at hchar ⊢ with hmem
    · exact beq_iff_eq.mpr ((hdash c).mp hchar)
    · exact decide_eq_true_iff.mpr ((inRanges_hex c).mp hchar)

/-- **The identifier of a challenge** is a UUID with a version. -/
theorem fullmatch_challengeId {s : String} (h : isUuidText s = true) :
    fullmatch challengeIdPattern s.toList = true ↔ Versioned s := by
  have hnarrow : classes challengeIdPattern =
      ((classes uuidStretches).set 14 [('1', '5')]).set 19
        [('8', '8'), ('9', '9'), ('a', 'a'), ('b', 'b')] := by decide
  have hversion (c : Char) (hc : inRanges [('1', '5')] c = true) : inRanges hexRanges c = true := by
    have hmem : ∀ k ∈ charsOf [('1', '5')], inRanges hexRanges k = true := by decide
    exact hmem c (mem_charsOf hc)
  have hvariant (c : Char)
      (hc : inRanges [('8', '8'), ('9', '9'), ('a', 'a'), ('b', 'b')] c = true) :
      inRanges hexRanges c = true := by
    have hmem : ∀ k ∈ charsOf [('8', '8'), ('9', '9'), ('a', 'a'), ('b', 'b')],
        inRanges hexRanges k = true := by decide
    exact hmem c (mem_charsOf hc)
  have hat14 : (classes uuidStretches)[14]? = some hexRanges := by decide
  have hat19 : ((classes uuidStretches).set 14 [('1', '5')])[19]? = some hexRanges := by decide
  rw [fullmatch_iff_each (by decide), hnarrow, each_set hat19 hvariant, each_set hat14 hversion,
    ← isUuidText_iff_each, and_assoc]
  exact and_iff_right h

/-! ### Leeway -/

/-- **What a check is lax about.** -/
inductive Leeway : Type where
  /-- A truth value passes for a number. -/
  | number
  /-- An encoded text may be padded, and have the characters of the other alphabet. -/
  | encoded
  /-- A date is any text that reads as a moment. -/
  | moment
  /-- A UUID may have any version. -/
  | version
  /-- The member is not looked at; it should have this form. -/
  | unread (form : Schema)
  /-- The members of an object. -/
  | members (fields : List (String × Leeway))

mutual

/-- **The value makes no use of the leeway.** -/
def Leeway.Strict (check : String → String → Bool) : Leeway → Json → Prop
  | .number, v => v ≠ .bool true
  | .encoded, v => ∀ s, v = .str s → Base64.Plain s.toList
  | .moment, v => ∃ s, v = .str s ∧ check "date-time" s = true
  | .version, v => ∀ s, v = .str s → Versioned s
  | .unread form, v => form.conforms check v = true
  | .members fields, v => Leeway.StrictMembers check fields v

/-- The members make no use of theirs. -/
def Leeway.StrictMembers (check : String → String → Bool) : List (String × Leeway) → Json → Prop
  | [], _ => True
  | (name, leeway) :: rest, v =>
    Leeway.Strict check leeway (v.field name) ∧ Leeway.StrictMembers check rest v

end

section Accepted

variable (P : Platform) (F : Formats P)

/-- The leeway of a session challenge. -/
def sessionChallengeLeeway : Leeway :=
  .members [("protocol_version", .number), ("nonce", .encoded), ("issued_at", .moment),
    ("expires_at", .moment)]

/-- The leeway of a relay challenge. -/
def relayChallengeLeeway : Leeway :=
  .members [("schema_version", .number), ("challenge_id", .version), ("nonce", .encoded),
    ("issued_at", .moment), ("expires_at", .moment)]

/-- **A document that has passed its check**, with the schema of its kind and the leeway the check
leaves. What a check compares with is of the form that its caller has given it: the identifiers are
a device's and a relay's, the challenge is one of the schema, the state of a relay has loaded. -/
inductive Accepted : Schema → Leeway → Json → Prop
  | hello {d deviceId} (h : validateAgentHello d = .ok deviceId) :
    Accepted RelaySessionV1.hello (.members [("protocol_version", .number)]) d
  | sessionChallenge {d deviceId relayId now c} (hdevice : deviceIdPattern deviceId = true)
    (hrelay : relayIdPattern relayId = true)
    (h : validateSessionChallenge P d (.str deviceId) (.str relayId) now = .ok c) :
    Accepted RelaySessionV1.challenge sessionChallengeLeeway d
  | authentication {d challenge now r}
    (hchallenge : RelaySessionV1.challenge.conforms F.check challenge = true)
    (h : verifySessionAuth P d challenge now = .ok r) :
    Accepted RelaySessionV1.authentication (.members [("protocol_version", .number),
      ("challenge", .members [("protocol_version", .number)]), ("device_public_key", .encoded),
      ("signed_at", .moment), ("signature", .encoded)]) d
  | ready {relayId challenge raw d} (hsession : SessionOf challenge)
    (hrelay : relayIdPattern relayId = true) (h : readReady relayId challenge raw = .ok d) :
    Accepted RelaySessionV1.ready (.members [("protocol_version", .number),
      ("accepted_at", .unread dateTimeSchema)]) d
  | telemetry {challenge raw d snapshot} (hsession : SessionOf challenge)
    (hread : readFrame raw = .ok d) (h : readTelemetry P challenge raw = .ok snapshot) :
    Accepted RelaySessionV1.telemetry (.members [("protocol_version", .number),
      ("sequence", .number)]) d
  | acknowledgement {challenge raw d} (hsession : SessionOf challenge)
    (h : readAck challenge raw = .ok d) :
    Accepted RelaySessionV1.acknowledgement (.members [("protocol_version", .number),
      ("sequence", .number)]) d
  | challenge {d deviceId now c} (hdevice : deviceIdPattern deviceId = true)
    (h : validateRelayChallenge P d deviceId now = .ok c) :
    Accepted RelayChallengeV1.challenge relayChallengeLeeway d
  | response {d now c} (h : verifyChallengeResponse P d now = .ok c) :
    Accepted RelayChallengeV1.response (.members [("schema_version", .number),
      ("challenge", relayChallengeLeeway), ("device_public_key", .encoded), ("signed_at", .moment),
      ("signature", .encoded)]) d
  | request {d r deviceId now c} (hdevice : deviceIdPattern deviceId = true)
    (h : readEnrollmentRequest P d = .ok r)
    (hchallenge : validateRelayChallenge P r.challenge deviceId now = .ok c) :
    Accepted RelayEnrollmentV1.request (.members [("schema_version", .number),
      ("challenge", relayChallengeLeeway),
      ("code", .unread (text [pattern RelayEnrollmentV1.requestCodePattern])),
      ("peer_public_key", .encoded), ("peer_signature", .encoded)]) d
  | receipt {d r} (h : verifyEnrollmentReceipt P d = .ok r) :
    Accepted RelayEnrollmentV1.receipt (.members [("schema_version", .number),
      ("challenge_id", .unread uuidSchema), ("relay_id", .unread identifierSchema),
      ("pairing_id", .unread uuidSchema), ("device_public_key", .encoded),
      ("peer_id", .unread identifierSchema), ("peer_public_key", .unread (encodedSchema 43)),
      ("enrolled_at", .unread dateTimeSchema), ("signature", .encoded)]) d
  | matched {d state challengeId device} (hstate : checkRelayState P (RelayState.json state) = .ok ())
    (hpending : isUuidText challengeId = true)
    (h : matchReceipt P state d = .ok (challengeId, device)) :
    Accepted RelayEnrollmentV1.receipt (.members [("schema_version", .number),
      ("pairing_id", .unread uuidSchema), ("device_public_key", .encoded),
      ("peer_public_key", .encoded), ("enrolled_at", .unread dateTimeSchema),
      ("signature", .encoded)]) d
  | offer {d now o} (h : readOffer P now d = .ok o) :
    Accepted EnrollmentV1.schema (.members [("schema_version", .number),
      ("expires_at", .moment)]) d

variable {P F} {d v : Json} {name : String}

/-- A number that is compared with one is one, or true. -/
theorem real?_iff_strict (h : d.fieldEq name (.int 1) = true) :
    (d.field name).real? = some 1 ↔ Leeway.number.Strict F.check (d.field name) := by
  rw [Json.fieldEq] at h
  rw [Leeway.Strict]
  cases hv : d.field name with
  | bool b => cases b <;> simp_all [Json.pyEq, Json.number?, Json.real?]
  | _ => simp_all [Json.pyEq, Json.number?, Json.real?]

/-- A text that has been decoded is of the form of the schemas, or spelled otherwise. -/
theorem encoded_iff_strict {e : Exn} {b : Bytes} (h : b64decode e v = .ok b) {length : ℕ}
    (hlength : length = (4 * b.length + 2) / 3) :
    (∃ s, v = .str s ∧ schemaPattern length s = true) ↔ Leeway.encoded.Strict F.check v := by
  obtain ⟨s, rfl, hs⟩ := b64decode_eq_ok h
  have hform : schemaPattern length s = true ↔ Base64.Plain s.toList := by
    rw [← Base64.form_iff (decode_of_b64decodeText hs), schemaPattern, matchesClass]
    simp only [Bool.and_eq_true, decide_eq_true_eq, List.all_eq_true]
    constructor
    · rintro ⟨⟨hle, hge⟩, hmem⟩
      exact ⟨hmem, by omega⟩
    · rintro ⟨hmem, hlen⟩
      exact ⟨⟨by omega, by omega⟩, hmem⟩
  rw [Leeway.Strict]
  constructor
  · rintro ⟨_, ⟨⟩, hpattern⟩ _ ⟨⟩
    exact hform.mp hpattern
  · intro hplain
    exact ⟨s, rfl, hform.mpr (hplain s rfl)⟩

/-- **A session challenge** conforms if it makes no use of its leeway. -/
theorem sessionChallenge_iff_strict {deviceId relayId : String} {now : Time} {c : SessionChallenge}
    (hdevice : deviceIdPattern deviceId = true) (hrelay : relayIdPattern relayId = true)
    (h : validateSessionChallenge P d (.str deviceId) (.str relayId) now = .ok c) :
    RelaySessionV1.challenge.conforms F.check d = true ↔
      sessionChallengeLeeway.Strict F.check d := by
  obtain ⟨hfields, hversion, htype, hsession, huuid, hrelay', haudience, ⟨nonce, hnonce, hlen⟩, -⟩ :=
    validateSessionChallenge_eq_ok.mp h
  rw [Json.fieldEq_str_iff] at hrelay' haudience
  rw [RelaySessionV1.conforms_challenge, real?_iff_strict (F := F) hversion,
    encoded_iff_strict (F := F) hnonce (by rw [hlen])]
  simp only [sessionChallengeLeeway, Leeway.Strict, Leeway.StrictMembers, hfields, htype, hsession,
    hrelay', haudience, Json.str.injEq, exists_eq_left', hdevice, hrelay, F.uuid ⟨_, huuid⟩,
    true_and, and_true]

/-- **A relay challenge** conforms if it makes no use of its leeway. -/
theorem relayChallenge_iff_strict {deviceId : String} {now : Time} {c : RelayChallenge}
    (hdevice : deviceIdPattern deviceId = true)
    (h : validateRelayChallenge P d deviceId now = .ok c) :
    RelayChallengeV1.challenge.conforms F.check d = true ↔
      relayChallengeLeeway.Strict F.check d := by
  obtain ⟨hfields, hversion, htype, hid, huuid, hrelay, hpattern, ⟨nonce, hnonce, hlen⟩,
    haudience, -⟩ := validateRelayChallenge_eq_ok.mp h
  rw [RelayChallengeV1.conforms_challenge, real?_iff_strict (F := F) hversion,
    encoded_iff_strict (F := F) hnonce (by rw [hlen])]
  simp only [relayChallengeLeeway, Leeway.Strict, Leeway.StrictMembers, hfields, htype, hid, hrelay,
    haudience, Json.str.injEq, exists_eq_left', forall_eq', hdevice, hpattern,
    fullmatch_challengeId huuid, true_and, and_true]

/-- The number of a message is one, or true. -/
theorem sequence_iff_strict (h : d.fieldEq name (.int 1) = true) :
    sequenceSchema.conforms F.check (d.field name) = true ↔
      Leeway.number.Strict F.check (d.field name) := by
  rw [← real?_iff_strict (F := F) h, conforms_sequence]
  rw [Json.fieldEq] at h
  constructor
  · rintro ⟨hkind, -⟩
    cases hv : d.field name <;> simp_all [Json.pyEq, Json.number?, Json.real?, conforms, Kind.holds]
  · intro hreal
    refine ⟨?_, fun x hx => by rw [hreal] at hx; exact (Option.some.inj hx).le⟩
    cases hv : d.field name <;> simp_all [Json.real?, conforms, Kind.holds]

/-- A document with a member that compares equal to a session challenge of the schema has one
itself, except for its version. -/
theorem challenge_iff_strict {a b : Json} (hb : RelaySessionV1.challenge.conforms F.check b = true)
    (h : a.pyEq b = true) : RelaySessionV1.challenge.conforms F.check a = true ↔
      Leeway.number.Strict F.check (a.field "protocol_version") := by
  obtain ⟨hfields, hversion, htype, ⟨session, hsession, huuid⟩, ⟨relay, hrelay, hrelay'⟩,
    ⟨nonce, hnonce, hnonce'⟩, ⟨audience, haudience, haudience'⟩, ⟨issued, hissued, hissued'⟩,
    ⟨expires, hexpires, hexpires'⟩⟩ := RelaySessionV1.conforms_challenge.mp hb
  -- a text is the same text, and the version is a number of the same value
  have htext {name s : String} (hs : b.field name = .str s) : a.field name = .str s := by
    have hfield := Json.pyEq_field h name
    rw [hs] at hfield
    exact Json.pyEq_str_iff.mp hfield
  have hfields' : a.hasFields sessionChallengeFields = true := by
    cases b with
    | obj ys =>
      cases a with
      | obj xs =>
        rw [Json.pyEq] at h
        rw [Json.hasFields, Json.names, Json.keys_eq_of_pyEqFields h]
        exact hfields
      | _ => simp [Json.pyEq, Json.number?] at h
    | _ => cases hfields
  have hone : a.fieldEq "protocol_version" (.int 1) = true := by
    have hfield := Json.pyEq_field h "protocol_version"
    rw [Json.fieldEq]
    cases hv : b.field "protocol_version" <;> cases ha : a.field "protocol_version" <;>
      simp_all [Json.pyEq, Json.number?, Json.real?]
  rw [RelaySessionV1.conforms_challenge, real?_iff_strict (F := F) hone]
  simp only [hfields', htext htype, htext hsession, htext hrelay, htext hnonce, htext haudience,
    htext hissued, htext hexpires, Json.str.injEq, exists_eq_left', huuid, hrelay', hnonce',
    haudience', hissued', hexpires', true_and, and_true]

/-- **What the checks let through conforms exactly if it is strict.** A document that has passed a
check conforms to the schema of its kind exactly if it makes no use of the leeway of that check. -/
theorem conforms_iff_strict (P : Platform) (F : Formats P) (schema : Schema) (leeway : Leeway)
    (d : Json) (h : Accepted P F schema leeway d) :
    schema.conforms F.check d = true ↔ leeway.Strict F.check d := by
  cases h with
  | hello h =>
    obtain ⟨hfields, hversion, htype, hid, hpattern⟩ := validateAgentHello_eq_ok.mp h
    rw [RelaySessionV1.conforms_hello, real?_iff_strict (F := F) hversion]
    simp only [Leeway.Strict, Leeway.StrictMembers, hfields, htype, hid, Json.str.injEq,
      exists_eq_left', hpattern, true_and, and_true]
  | sessionChallenge hdevice hrelay h => exact sessionChallenge_iff_strict hdevice hrelay h
  | authentication hchallenge h =>
    obtain ⟨hfields, hversion, htype, hsame, -, key, signature, _, _, hkey, hsignature, hid, -⟩ :=
      verifySessionAuth_eq_ok.mp h
    have hdevice := deviceIdPattern_deviceId P key.1
    rw [RelaySessionV1.conforms_authentication, real?_iff_strict (F := F) hversion,
      encoded_iff_strict (F := F) hkey (by rw [key.2]),
      encoded_iff_strict (F := F) hsignature (by rw [signature.2]),
      challenge_iff_strict hchallenge hsame]
    simp only [Leeway.Strict, Leeway.StrictMembers, hfields, htype, hid, Json.str.injEq,
      exists_eq_left', hdevice, true_and, and_true]
  | ready hsession hrelay h =>
    obtain ⟨u, hu⟩ := hsession.session
    obtain ⟨-, hfields, hversion, htype, hsame, hsame', hrelay'⟩ := readReady_eq_ok.mp h
    rw [hu, Json.fieldEq_str_iff] at hsame hsame'
    rw [RelaySessionV1.conforms_ready, real?_iff_strict (F := F) hversion]
    simp only [Leeway.Strict, Leeway.StrictMembers, conforms_dateTime, hfields, htype, hsame, hsame',
      hrelay', Json.str.injEq, exists_eq_left', F.uuid u, hrelay, true_and, and_true]
  | telemetry hsession hread h =>
    obtain ⟨u, hu⟩ := hsession.session
    obtain ⟨_, hread', hfields, hversion, htype, hsame, hsequence, hfiltered, hequal⟩ :=
      readTelemetry_eq_ok.mp h
    obtain rfl := Except.ok.inj (hread.symm.trans hread')
    obtain ⟨hobj, -⟩ := sanitizeSnapshot_eq_ok.mp hfiltered
    rw [hu, Json.fieldEq_str_iff] at hsame
    rw [RelaySessionV1.conforms_telemetry, real?_iff_strict (F := F) hversion,
      sequence_iff_strict hsequence]
    simp only [Leeway.Strict, Leeway.StrictMembers, hfields, htype, hsame, Json.str.injEq,
      exists_eq_left', F.uuid u, hobj, true_and, and_true]
  | acknowledgement hsession h =>
    obtain ⟨u, hu⟩ := hsession.session
    obtain ⟨-, hfields, hversion, htype, hsame, hsequence⟩ := readAck_eq_ok.mp h
    rw [hu, Json.fieldEq_str_iff] at hsame
    rw [RelaySessionV1.conforms_acknowledgement, real?_iff_strict (F := F) hversion,
      sequence_iff_strict hsequence]
    simp only [Leeway.Strict, Leeway.StrictMembers, hfields, htype, hsame, Json.str.injEq,
      exists_eq_left', F.uuid u, true_and, and_true]
  | challenge hdevice h => exact relayChallenge_iff_strict hdevice h
  | response h =>
    obtain ⟨hfields, hversion, htype, key, signature, _, hkey, hid, hchallenge, -, -, -, hsignature,
      -⟩ := verifyChallengeResponse_eq_ok.mp h
    have hdevice := deviceIdPattern_deviceId P key.1
    rw [RelayChallengeV1.conforms_response, real?_iff_strict (F := F) hversion,
      encoded_iff_strict (F := F) hkey (by rw [key.2]),
      encoded_iff_strict (F := F) hsignature (by rw [signature.2]),
      relayChallenge_iff_strict hdevice hchallenge]
    simp only [Leeway.Strict, Leeway.StrictMembers, hfields, htype, hid, Json.str.injEq,
      exists_eq_left', hdevice, true_and, and_true]
  | @request _ r _ _ _ hdevice h hchallenge =>
    obtain ⟨hfields, hversion, htype, hpairing, huuid, hpeer, hpattern, hkey, hsignature, -, hsame⟩ :=
      readEnrollmentRequest_eq_ok.mp h
    rw [hsame] at hchallenge
    rw [RelayEnrollmentV1.conforms_request, real?_iff_strict (F := F) hversion,
      encoded_iff_strict (F := F) hkey (by rw [r.key.2]),
      encoded_iff_strict (F := F) hsignature (by rw [r.signature.2]),
      relayChallenge_iff_strict hdevice hchallenge]
    simp only [Leeway.Strict, Leeway.StrictMembers, conforms_pattern, hfields, htype, hpairing, hpeer,
      Json.str.injEq, exists_eq_left', F.uuid ⟨_, huuid⟩, show relayIdPattern _ = true from hpattern,
      true_and, and_true]
  | receipt h =>
    obtain ⟨hfields, hversion, htype, -, key, signature, hkey, hid, hsignature, -⟩ :=
      verifyEnrollmentReceipt_eq_ok.mp h
    have hdevice := deviceIdPattern_deviceId P key.1
    rw [RelayEnrollmentV1.conforms_receipt, real?_iff_strict (F := F) hversion,
      encoded_iff_strict (F := F) hkey (by rw [key.2]),
      encoded_iff_strict (F := F) hsignature (by rw [signature.2])]
    simp only [Leeway.Strict, Leeway.StrictMembers, conforms_uuid, conforms_identifier,
      conforms_encoded, conforms_dateTime, hfields, htype, hid, Json.str.injEq, exists_eq_left',
      hdevice, true_and, and_true]
  | @matched _ state challengeId device hstate hpending h =>
    obtain ⟨hrelay, hpeer, key, -, hpeerKey⟩ := checkRelayState_json.mp hstate
    obtain ⟨⟨⟨hfields, hversion, htype⟩, hrelay', hpeer', hpeerKey', hchallenge, hid, hkey', key', signature,
      hkey, hderived, hsignature, -⟩, -⟩ := matchReceipt_eq_ok.mp h
    have hdevice : deviceIdPattern device.deviceId = true := by
      rw [hderived]
      exact deviceIdPattern_deviceId P key'.1
    have hkeyField : b64decode invalidEncodedKey (d.field "device_public_key") = .ok key'.1 := by
      rw [hkey']
      exact b64decodeText_eq_ok hkey
    have hpeerField : b64decode invalidEncodedKey (d.field "peer_public_key") =
        .ok (P.publicKey key).1 := by
      rw [hpeerKey']
      exact hpeerKey
    rw [RelayEnrollmentV1.conforms_receipt, real?_iff_strict (F := F) hversion,
      encoded_iff_strict (F := F) hkeyField (by rw [key'.2]),
      encoded_iff_strict (F := F) hpeerField (by rw [(P.publicKey key).2]),
      encoded_iff_strict (F := F) hsignature (by rw [signature.2])]
    simp only [Leeway.Strict, Leeway.StrictMembers, conforms_uuid, conforms_dateTime, hfields, htype,
      hchallenge, hrelay', hpeer', hid, Json.str.injEq, exists_eq_left', F.uuid ⟨_, hpending⟩, hrelay,
      show relayIdPattern _ = true from hpeer, hdevice, true_and, and_true]
  | offer h =>
    simp only [readOffer, Except.bind_eq_ok, require_eq_ok, exists_const, uuidText_eq_ok,
      patternText_eq_ok, and_assoc] at h
    obtain ⟨hfields, hversion, pairingId, hpairing, huuid, decoded, hdecoded, id, hid, hpattern,
      publicKey, hkey, hkeyPattern, -, -, code, hcode, hcodePattern, -⟩ := h
    rw [EnrollmentV1.conforms_schema, real?_iff_strict (F := F) hversion]
    simp only [Leeway.Strict, Leeway.StrictMembers, hfields, hpairing, hid, hkey, hcode,
      Json.str.injEq, exists_eq_left', F.uuid ⟨_, huuid⟩, hpattern,
      show schemaPattern 43 publicKey = true from hkeyPattern, hcodePattern, true_and, and_true]

end Accepted

open Sample in
/-- The sample challenge is accepted with a padded nonce, and does not conform. -/
theorem conforms_iff_strict_sample :
    Accepted platform (Formats.ofReaders platform) RelayChallengeV1.challenge relayChallengeLeeway
        (respelled paddedNonce) ∧
      ¬RelayChallengeV1.challenge.conforms (Formats.ofReaders platform).check
        (respelled paddedNonce) = true := by
  have haccepted : Accepted platform (Formats.ofReaders platform) RelayChallengeV1.challenge
      relayChallengeLeeway (respelled paddedNonce) :=
    .challenge (by decide) (validateRelayChallenge_respelled b64decodeText_paddedNonce)
  refine ⟨haccepted, ?_⟩
  rw [conforms_iff_strict _ _ _ _ _ haccepted]
  rintro ⟨-, -, hnonce, -⟩
  exact absurd (hnonce paddedNonce rfl) (by decide)

end PrinterHmi
