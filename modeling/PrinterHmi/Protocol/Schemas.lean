import PrinterHmi.Configuration.Documents
import PrinterHmi.Lib.Schema
import PrinterHmi.Receiver.Delivery
import PrinterHmi.Spelling

/-!
# The published schemas

The protocol is published as JSON schemas, one file for each kind of exchange: the one-time
offer of a device, the challenge of a relay and its answer, the enrollment of a peer, the session,
the requests of the local API and the catalog. They are here as they stand in the files, member by
member. The program does not read them: whether it keeps to them is a question about its own
checks and documents, and the forms of texts the two share are the first of it
(`conforms_deviceId`, `conforms_relayId`, `conforms_encoded`).

What a validator takes for a UUID or a date is its own affair, within its documentation:
the texts the program writes for them are among them (`Formats`).
-/

namespace PrinterHmi

open Schema Stretch

/-! ### Forms of texts -/

/-- `^phm_[a-z2-7]{26}$`. -/
def deviceIdSchema : Schema :=
  text [pattern [single 'p', single 'h', single 'm', single '_', ⟨[('a', 'z'), ('2', '7')], 26, 26⟩]]

/-- The ranges of `[A-Za-z0-9._-]`. -/
def identifierRanges : List (Char × Char) :=
  [('A', 'Z'), ('a', 'z'), ('0', '9'), ('.', '.'), ('_', '_'), ('-', '-')]

/-- `^[A-Za-z0-9._-]{1,64}$`. -/
def identifierSchema : Schema := text [pattern [⟨identifierRanges, 1, 64⟩]]

/-- The ranges of `[A-Za-z0-9_-]`. -/
def encodedRanges : List (Char × Char) :=
  [('A', 'Z'), ('a', 'z'), ('0', '9'), ('_', '_'), ('-', '-')]

/-- `^[A-Za-z0-9_-]{43}$`, or another number of characters. -/
def encodedSchema (length : ℕ) : Schema := text [pattern [⟨encodedRanges, length, length⟩]]

/-- The ranges of `[0-9a-f]`. -/
def hexRanges : List (Char × Char) := [('0', '9'), ('a', 'f')]

/-- `^[0-9a-f]{8}-[0-9a-f]{4}-[1-5][0-9a-f]{3}-[89ab][0-9a-f]{3}-[0-9a-f]{12}$`. -/
def challengeIdPattern : List Stretch :=
  [⟨hexRanges, 8, 8⟩, single '-', ⟨hexRanges, 4, 4⟩, single '-', ⟨[('1', '5')], 1, 1⟩,
    ⟨hexRanges, 3, 3⟩, single '-', ⟨[('8', '8'), ('9', '9'), ('a', 'a'), ('b', 'b')], 1, 1⟩,
    ⟨hexRanges, 3, 3⟩, single '-', ⟨hexRanges, 12, 12⟩]

/-- The ranges of `[2-9A-HJ-NP-Z]`. -/
def codeRanges : List (Char × Char) := [('2', '9'), ('A', 'H'), ('J', 'N'), ('P', 'Z')]

/-- `"format": "uuid"`. -/
def uuidSchema : Schema := text [format "uuid"]

/-- `"format": "date-time"`. -/
def dateTimeSchema : Schema := text [format "date-time"]

/-- `"const": 1`. -/
def versionSchema : Schema := const (.int 1)

/-- `"const"`, a type of messages. -/
def typeSchema (name : String) : Schema := const (.str name)

/-- `"type": "integer", "minimum": 1`. -/
def sequenceSchema : Schema := all [kinds [.integer], minimum 1]

/-! ### The session: `relay-session-v1` -/

namespace RelaySessionV1

/-- `hello`. -/
def hello : Schema :=
  record [("protocol_version", versionSchema), ("type", typeSchema "agent.hello"),
    ("device_id", deviceIdSchema)]

/-- `challenge`. -/
def challenge : Schema :=
  record [("protocol_version", versionSchema), ("type", typeSchema "relay.session-challenge"),
    ("session_id", uuidSchema), ("relay_id", identifierSchema), ("nonce", encodedSchema 43),
    ("audience", deviceIdSchema), ("issued_at", dateTimeSchema), ("expires_at", dateTimeSchema)]

/-- `authentication`. -/
def authentication : Schema :=
  record [("protocol_version", versionSchema), ("type", typeSchema "agent.session-auth"),
    ("challenge", challenge), ("device_id", deviceIdSchema),
    ("device_public_key", encodedSchema 43), ("signed_at", dateTimeSchema),
    ("signature", encodedSchema 86)]

/-- `ready`. -/
def ready : Schema :=
  record [("protocol_version", versionSchema), ("type", typeSchema "relay.session-ready"),
    ("session_id", uuidSchema), ("challenge_id", uuidSchema), ("relay_id", identifierSchema),
    ("accepted_at", dateTimeSchema)]

/-- `telemetry`. -/
def telemetry : Schema :=
  record [("protocol_version", versionSchema), ("type", typeSchema "agent.telemetry"),
    ("session_id", uuidSchema), ("sequence", sequenceSchema), ("snapshot", kinds [.object])]

/-- `acknowledgement`. -/
def acknowledgement : Schema :=
  record [("protocol_version", versionSchema), ("type", typeSchema "relay.telemetry-ack"),
    ("session_id", uuidSchema), ("sequence", sequenceSchema)]

/-- The messages of an agent, by their types. -/
def ofAgent : List (String × Schema) :=
  [("agent.hello", hello), ("agent.session-auth", authentication), ("agent.telemetry", telemetry)]

/-- The messages of a relay, by their types. -/
def ofRelay : List (String × Schema) :=
  [("relay.session-challenge", challenge), ("relay.session-ready", ready),
    ("relay.telemetry-ack", acknowledgement)]

/-- The schema of the session. -/
def schema : Schema :=
  oneOf [hello, challenge, authentication, ready, telemetry, acknowledgement]

end RelaySessionV1

/-! ### The challenge of a relay: `relay-challenge-v1` -/

namespace RelayChallengeV1

/-- `challenge`. The schema of enrollment has the same text for it. -/
def challenge : Schema :=
  record [("schema_version", versionSchema), ("type", typeSchema "relay.challenge"),
    ("challenge_id", text [pattern challengeIdPattern]), ("relay_id", identifierSchema),
    ("nonce", encodedSchema 43), ("audience", deviceIdSchema), ("issued_at", dateTimeSchema),
    ("expires_at", dateTimeSchema)]

/-- `response`. -/
def response : Schema :=
  record [("schema_version", versionSchema), ("type", typeSchema "agent.challenge-response"),
    ("challenge", challenge), ("device_id", deviceIdSchema),
    ("device_public_key", encodedSchema 43), ("signed_at", dateTimeSchema),
    ("signature", encodedSchema 86)]

/-- The schema of challenges and their answers. -/
def schema : Schema := oneOf [challenge, response]

end RelayChallengeV1

/-! ### Enrollment: `enrollment-v1` and `relay-enrollment-v1` -/

/-- The one-time offer. -/
def EnrollmentV1.schema : Schema :=
  record [("schema_version", versionSchema), ("pairing_id", uuidSchema),
    ("device_id", deviceIdSchema), ("device_public_key", encodedSchema 43),
    ("code", text [pattern [⟨codeRanges, 5, 5⟩, single '-', ⟨codeRanges, 5, 5⟩]]),
    ("expires_at", dateTimeSchema)]

namespace RelayEnrollmentV1

/-- The ranges of `[23456789ABCDEFGHJKLMNPQRSTUVWXYZ]`. -/
def pairingRanges : List (Char × Char) := pairingAlphabet.map fun c => (c, c)

/-- `^[23456789ABCDEFGHJKLMNPQRSTUVWXYZ]{5}-?[23456789ABCDEFGHJKLMNPQRSTUVWXYZ]{5}$`. -/
def requestCodePattern : List Stretch :=
  [⟨pairingRanges, 5, 5⟩, ⟨[('-', '-')], 0, 1⟩, ⟨pairingRanges, 5, 5⟩]

/-- `request`. -/
def request : Schema :=
  record [("schema_version", versionSchema), ("type", typeSchema "relay.enrollment-request"),
    ("challenge", RelayChallengeV1.challenge), ("pairing_id", uuidSchema),
    ("code", text [pattern requestCodePattern]),
    ("peer_id", identifierSchema), ("peer_public_key", encodedSchema 43),
    ("peer_signature", encodedSchema 86)]

/-- `receipt`. -/
def receipt : Schema :=
  record [("schema_version", versionSchema), ("type", typeSchema "agent.enrollment-receipt"),
    ("challenge_id", uuidSchema), ("relay_id", identifierSchema), ("pairing_id", uuidSchema),
    ("device_id", deviceIdSchema), ("device_public_key", encodedSchema 43),
    ("peer_id", identifierSchema), ("peer_public_key", encodedSchema 43),
    ("enrolled_at", dateTimeSchema), ("signature", encodedSchema 86)]

/-- The schema of relay enrollment. -/
def schema : Schema := oneOf [request, receipt]

end RelayEnrollmentV1

/-! ### The local API: `local-api-v1` and `catalog-v1` -/

/-- A request of the local API. -/
def LocalApiV1.schema : Schema :=
  closed ["protocol_version", "method"]
    [("protocol_version", versionSchema),
      ("method", enum [.str "health", .str "catalog", .str "snapshot", .str "instance.get"]),
      ("params", closed [] [("instance_id", all [kinds [.string], minLength 1])])]

/-- The catalog of instances. -/
def CatalogV1.schema : Schema :=
  all [kinds [.array], items (closed ["instance_id", "socket_path", "data_path", "reachable"]
    [("instance_id", uuidSchema), ("socket_path", kinds [.string]), ("data_path", kinds [.string]),
      ("hostname", kinds [.string, .null]), ("moonraker_version", kinds [.string, .null]),
      ("klippy_state", kinds [.string, .null]), ("reachable", kinds [.boolean]),
      ("error", kinds [.string, .null])])]

/-! ### Formats -/

/-- **The format checks of a validator.** A canonical UUID is a UUID, and a moment as the program
writes it is a date. -/
structure Formats (P : Platform) where
  check : String → String → Bool
  uuid : ∀ u : Uuid, check "uuid" u.1 = true
  dateTime : ∀ t, check "date-time" (P.timestamp t) = true

/-- The format checks that the readers of the program make. -/
def Formats.ofReaders (P : Platform) : Formats P where
  check format s :=
    match format with
    | "uuid" => isUuidText s
    | "date-time" => ((zuluText? s).bind P.fromisoformat).isSome
    | _ => true
  uuid u := u.2
  dateTime t := by
    rw [zuluText?_timestamp, Option.bind_some, P.fromisoformat_stem]
    rfl

section Forms

variable {formats : String → String → Bool} {s : String} {d : Json}

/-! ### The forms the program checks -/

theorem conforms_version : versionSchema.conforms formats d = true ↔ d.real? = some 1 := by
  rw [versionSchema, conforms, Json.same_int]
  rfl

theorem conforms_type {name : String} :
    (typeSchema name).conforms formats d = true ↔ d = .str name := by
  rw [typeSchema, conforms, Json.same_str]

theorem conforms_uuid :
    uuidSchema.conforms formats d = true ↔ ∃ s, d = .str s ∧ formats "uuid" s = true := by
  simp only [uuidSchema, conforms_text, List.forall_mem_singleton, conforms, Json.str?,
    Option.all_some]

theorem conforms_dateTime :
    dateTimeSchema.conforms formats d = true ↔ ∃ s, d = .str s ∧ formats "date-time" s = true := by
  simp only [dateTimeSchema, conforms_text, List.forall_mem_singleton, conforms, Json.str?,
    Option.all_some]

/-- A text of one pattern. -/
theorem conforms_pattern {stretches : List Stretch} :
    (text [pattern stretches]).conforms formats d = true ↔
      ∃ s, d = .str s ∧ fullmatch stretches s.toList = true := by
  simp only [conforms_text, List.forall_mem_singleton, conforms, Json.str?, Option.all_some]

/-- A class of characters, as a test and by its ranges. -/
theorem fullmatch_class {p : Char → Bool} {ranges : List (Char × Char)} {lo hi : ℕ} {t : List Char}
    (hp : ∀ c, inRanges ranges c = true ↔ p c = true) :
    fullmatch [⟨ranges, lo, hi⟩] t = true ↔ matchesClass p lo hi t = true := by
  rw [fullmatch_one, matchesClass]
  simp only [hp, Bool.and_eq_true, decide_eq_true_eq, List.all_eq_true, and_assoc]

/-- A class of characters, given as a list and by its ranges. -/
theorem fullmatch_alphabet {alphabet : List Char} {ranges : List (Char × Char)} {lo hi : ℕ}
    (h : ∀ c, inRanges ranges c = true ↔ c ∈ alphabet) (t : List Char) :
    fullmatch [⟨ranges, lo, hi⟩] t = true ↔ matchesClass (· ∈ alphabet) lo hi t = true :=
  fullmatch_class fun c => (h c).trans decide_eq_true_iff.symm

theorem inRanges_identifier (c : Char) :
    inRanges identifierRanges c = true ↔ isIdentifierChar c = true := by
  have hone (k : Char) : (k.val ≤ c.val ∧ c.val ≤ k.val) ↔ c = k :=
    ⟨fun h => le_antisymm h.2 h.1, fun h => ⟨h.ge, h.le⟩⟩
  have hclass : isIdentifierChar c =
      (decide (c.val ≥ 'A'.val ∧ c.val ≤ 'Z'.val) ||
        decide (c.val ≥ 'a'.val) && decide (c.val ≤ 'z'.val) ||
        decide (c.val ≥ '0'.val) && decide (c.val ≤ '9'.val) || c == '.' || c == '_' || c == '-') :=
    rfl
  simp only [inRanges, identifierRanges, hclass, List.any_cons, List.any_nil, Bool.or_eq_true,
    Bool.and_eq_true, decide_eq_true_eq, beq_iff_eq, or_assoc, Bool.false_eq_true, or_false, ge_iff_le,
    Char.le_def, hone]

theorem inRanges_encoded (c : Char) : inRanges encodedRanges c = true ↔ c ∈ Base64.alphabet :=
  inRanges_iff_mem (by decide) (by decide) c

theorem inRanges_base32 (c : Char) :
    inRanges [('a', 'z'), ('2', '7')] c = true ↔ c ∈ Base32.alphabet :=
  inRanges_iff_mem (by decide) (by decide) c

theorem inRanges_code (c : Char) : inRanges codeRanges c = true ↔ c ∈ pairingAlphabet :=
  inRanges_iff_mem (by decide) (by decide) c

theorem inRanges_pairing (c : Char) :
    inRanges RelayEnrollmentV1.pairingRanges c = true ↔ c ∈ pairingAlphabet :=
  inRanges_iff_mem (by decide) (by decide) c

/-- **The schemas and the program have the same identifiers.** -/
theorem conforms_identifier : identifierSchema.conforms formats d = true ↔
    ∃ s, d = .str s ∧ relayIdPattern s = true := by
  simp only [identifierSchema, conforms_pattern, fullmatch_class inRanges_identifier,
    relayIdPattern]

/-- **The schemas have the unpadded URL-safe alphabet.** -/
theorem conforms_encoded {length : ℕ} : (encodedSchema length).conforms formats d = true ↔
    ∃ s, d = .str s ∧ schemaPattern length s = true := by
  simp only [encodedSchema, conforms_pattern, schemaPattern,
    fullmatch_alphabet inRanges_encoded]

/-- A device identifier, by its characters. -/
theorem deviceIdPattern_iff : deviceIdPattern s = true ↔
    ∃ t, s.toList = deviceIdPrefix ++ t ∧ matchesClass (· ∈ Base32.alphabet) 26 26 t = true := by
  rw [deviceIdPattern, Bool.and_eq_true, beq_iff_eq]
  constructor
  · rintro ⟨hmark, hrest⟩
    exact ⟨s.toList.drop 4, by rw [← hmark, List.take_append_drop], hrest⟩
  · rintro ⟨t, hs, ht⟩
    rw [hs]
    exact ⟨rfl, ht⟩

/-- **The schemas and the program have the same device identifiers.** -/
theorem conforms_deviceId : deviceIdSchema.conforms formats d = true ↔
    ∃ s, d = .str s ∧ deviceIdPattern s = true := by
  simp only [deviceIdSchema, conforms_pattern, fullmatch_single, deviceIdPattern_iff,
    fullmatch_alphabet inRanges_base32, deviceIdPrefix, List.cons_append, List.nil_append]
  grind

/-- A pairing code as it is handed out, by its characters. -/
theorem fullmatch_code {ranges : List (Char × Char)}
    (hranges : ∀ c, inRanges ranges c = true ↔ c ∈ pairingAlphabet) {s : String} :
    fullmatch [⟨ranges, 5, 5⟩, single '-', ⟨ranges, 5, 5⟩] s.toList = true ↔
      pairingCodePattern s = true := by
  have hclass (t : List Char) : fullmatch [⟨ranges, 5, 5⟩] t = true ↔
      matchesClass (· ∈ pairingAlphabet) 5 5 t = true :=
    fullmatch_alphabet hranges t
  rw [fullmatch_exact, fullmatch_single, pairingCodePattern, Bool.and_eq_true, Bool.and_eq_true,
    beq_iff_eq]
  have hfirst : (5 ≤ s.toList.length ∧ ∀ c ∈ s.toList.take 5, inRanges ranges c = true) ↔
      matchesClass (· ∈ pairingAlphabet) 5 5 (s.toList.take 5) = true := by
    rw [← hclass, fullmatch_one, List.length_take]
    grind
  -- after the dash comes what is left after six characters
  have hdrop {t : List Char} (ht : s.toList.drop 5 = '-' :: t) : s.toList.drop 6 = t := by
    rw [show 6 = 5 + 1 from rfl, ← List.drop_drop, ht]
    rfl
  rw [← and_assoc, hfirst, and_assoc]
  refine and_congr_right fun _ => ?_
  constructor
  · rintro ⟨t, ht, hrest⟩
    rw [hdrop ht, ht]
    exact ⟨rfl, (hclass t).mp hrest⟩
  · rintro ⟨hdash, hrest⟩
    obtain ⟨t, ht⟩ := List.head?_eq_some_iff.mp hdash
    exact ⟨t, ht, (hclass t).mpr (hdrop ht ▸ hrest)⟩

/-- **The code of an offer is a code of a request.** -/
theorem fullmatch_requestCode (h : pairingCodePattern s = true) :
    fullmatch RelayEnrollmentV1.requestCodePattern s.toList = true := by
  rw [← fullmatch_code inRanges_pairing, fullmatch_exact] at h
  rw [RelayEnrollmentV1.requestCodePattern, fullmatch_exact]
  exact ⟨h.1, h.2.1, fullmatch_optional.mpr (.inr h.2.2)⟩

/-! ### The messages -/

/-- Whether an object has exactly some fields does not depend on the order in which they are
listed. -/
theorem hasFields_congr {names : List String} (names' : List String) (h : ∀ name ∈ names, name ∈ names')
    (h' : ∀ name ∈ names', name ∈ names) : d.hasFields names = d.hasFields names' := by
  have hiff (name : String) : name ∈ names ↔ name ∈ names' := ⟨h name, h' name⟩
  rw [Bool.eq_iff_iff]
  simp only [Json.hasFields, Bool.and_eq_true, List.all_eq_true, decide_eq_true_eq, hiff]

theorem conforms_sequence : sequenceSchema.conforms formats d = true ↔
    (kinds [.integer]).conforms formats d = true ∧ ∀ x, d.real? = some x → 1 ≤ x := by
  rw [sequenceSchema, conforms_all, List.forall_mem_cons, List.forall_mem_singleton]
  simp only [conforms, Option.all_eq_true, decide_eq_true_eq]
  norm_cast

theorem conforms_object : (kinds [.object]).conforms formats d = true ↔ d.isObj = true := by
  cases d <;> simp [conforms, Kind.holds, Json.isObj]

namespace RelaySessionV1

theorem conforms_hello : hello.conforms formats d = true ↔
    d.hasFields ["device_id", "protocol_version", "type"] = true ∧
      (d.field "protocol_version").real? = some 1 ∧ d.field "type" = .str "agent.hello" ∧
      ∃ s, d.field "device_id" = .str s ∧ deviceIdPattern s = true := by
  rw [hello, conforms_record,
    hasFields_congr ["device_id", "protocol_version", "type"] (by decide) (by decide)]
  simp only [List.forall_mem_cons, List.not_mem_nil, false_imp_iff, implies_true, and_true,
    conforms_version, conforms_type, conforms_deviceId]

theorem conforms_challenge : challenge.conforms formats d = true ↔
    d.hasFields sessionChallengeFields = true ∧
      (d.field "protocol_version").real? = some 1 ∧
      d.field "type" = .str "relay.session-challenge" ∧
      (∃ s, d.field "session_id" = .str s ∧ formats "uuid" s = true) ∧
      (∃ s, d.field "relay_id" = .str s ∧ relayIdPattern s = true) ∧
      (∃ s, d.field "nonce" = .str s ∧ schemaPattern 43 s = true) ∧
      (∃ s, d.field "audience" = .str s ∧ deviceIdPattern s = true) ∧
      (∃ s, d.field "issued_at" = .str s ∧ formats "date-time" s = true) ∧
      ∃ s, d.field "expires_at" = .str s ∧ formats "date-time" s = true := by
  rw [challenge, conforms_record, hasFields_congr sessionChallengeFields (by decide) (by decide)]
  simp only [List.forall_mem_cons, List.not_mem_nil, false_imp_iff, implies_true, and_true,
    conforms_version, conforms_type, conforms_uuid, conforms_identifier, conforms_encoded,
    conforms_deviceId, conforms_dateTime]

theorem conforms_authentication : authentication.conforms formats d = true ↔
    d.hasFields sessionAuthFields = true ∧
      (d.field "protocol_version").real? = some 1 ∧
      d.field "type" = .str "agent.session-auth" ∧
      challenge.conforms formats (d.field "challenge") = true ∧
      (∃ s, d.field "device_id" = .str s ∧ deviceIdPattern s = true) ∧
      (∃ s, d.field "device_public_key" = .str s ∧ schemaPattern 43 s = true) ∧
      (∃ s, d.field "signed_at" = .str s ∧ formats "date-time" s = true) ∧
      ∃ s, d.field "signature" = .str s ∧ schemaPattern 86 s = true := by
  rw [authentication, conforms_record, hasFields_congr sessionAuthFields (by decide) (by decide)]
  simp only [List.forall_mem_cons, List.not_mem_nil, false_imp_iff, implies_true, and_true,
    conforms_version, conforms_type, conforms_encoded, conforms_deviceId, conforms_dateTime]

theorem conforms_ready : ready.conforms formats d = true ↔
    d.hasFields sessionReadyFields = true ∧
      (d.field "protocol_version").real? = some 1 ∧
      d.field "type" = .str "relay.session-ready" ∧
      (∃ s, d.field "session_id" = .str s ∧ formats "uuid" s = true) ∧
      (∃ s, d.field "challenge_id" = .str s ∧ formats "uuid" s = true) ∧
      (∃ s, d.field "relay_id" = .str s ∧ relayIdPattern s = true) ∧
      ∃ s, d.field "accepted_at" = .str s ∧ formats "date-time" s = true := by
  rw [ready, conforms_record, hasFields_congr sessionReadyFields (by decide) (by decide)]
  simp only [List.forall_mem_cons, List.not_mem_nil, false_imp_iff, implies_true, and_true,
    conforms_version, conforms_type, conforms_uuid, conforms_identifier, conforms_dateTime]

theorem conforms_telemetry : telemetry.conforms formats d = true ↔
    d.hasFields telemetryFields = true ∧
      (d.field "protocol_version").real? = some 1 ∧
      d.field "type" = .str "agent.telemetry" ∧
      (∃ s, d.field "session_id" = .str s ∧ formats "uuid" s = true) ∧
      sequenceSchema.conforms formats (d.field "sequence") = true ∧
      (d.field "snapshot").isObj = true := by
  rw [telemetry, conforms_record, hasFields_congr telemetryFields (by decide) (by decide)]
  simp only [List.forall_mem_cons, List.not_mem_nil, false_imp_iff, implies_true, and_true,
    conforms_version, conforms_type, conforms_uuid, conforms_object]

theorem conforms_acknowledgement : acknowledgement.conforms formats d = true ↔
    d.hasFields telemetryAckFields = true ∧
      (d.field "protocol_version").real? = some 1 ∧
      d.field "type" = .str "relay.telemetry-ack" ∧
      (∃ s, d.field "session_id" = .str s ∧ formats "uuid" s = true) ∧
      sequenceSchema.conforms formats (d.field "sequence") = true := by
  rw [acknowledgement, conforms_record, hasFields_congr telemetryAckFields (by decide) (by decide)]
  simp only [List.forall_mem_cons, List.not_mem_nil, false_imp_iff, implies_true, and_true,
    conforms_version, conforms_type, conforms_uuid]

/-- The messages of a session, by their types. -/
def alternatives : List (String × Schema) :=
  [("agent.hello", hello), ("relay.session-challenge", challenge),
    ("agent.session-auth", authentication), ("relay.session-ready", ready),
    ("agent.telemetry", telemetry), ("relay.telemetry-ack", acknowledgement)]

variable (formats) in
/-- **The messages of a session are told apart by their types.** -/
theorem discriminated : Discriminated formats "type" alternatives where
  tagged a ha d hd := by
    simp only [alternatives, List.mem_cons, List.not_mem_nil, or_false] at ha
    rcases ha with rfl | rfl | rfl | rfl | rfl | rfl
    · exact (conforms_hello.mp hd).2.2.1
    · exact (conforms_challenge.mp hd).2.2.1
    · exact (conforms_authentication.mp hd).2.2.1
    · exact (conforms_ready.mp hd).2.2.1
    · exact (conforms_telemetry.mp hd).2.2.1
    · exact (conforms_acknowledgement.mp hd).2.2.1
  nodup := by decide

/-- **What conforms to the schema of the session** is one of its messages. -/
theorem conforms_schema : schema.conforms formats d = true ↔
    ∃ a ∈ alternatives, a.2.conforms formats d = true :=
  conforms_oneOf (discriminated formats)

/-- A message of a known type conforms as its alternative says. -/
theorem conforms_schema_of_type {a : String × Schema} (ha : a ∈ alternatives)
    (hd : d.field "type" = .str a.1) :
    schema.conforms formats d = true ↔ a.2.conforms formats d = true :=
  conforms_oneOf_of_tag (discriminated formats) ha hd

end RelaySessionV1

namespace RelayChallengeV1

theorem conforms_challenge : challenge.conforms formats d = true ↔
    d.hasFields relayChallengeFields = true ∧
      (d.field "schema_version").real? = some 1 ∧ d.field "type" = .str "relay.challenge" ∧
      (∃ s, d.field "challenge_id" = .str s ∧ fullmatch challengeIdPattern s.toList = true) ∧
      (∃ s, d.field "relay_id" = .str s ∧ relayIdPattern s = true) ∧
      (∃ s, d.field "nonce" = .str s ∧ schemaPattern 43 s = true) ∧
      (∃ s, d.field "audience" = .str s ∧ deviceIdPattern s = true) ∧
      (∃ s, d.field "issued_at" = .str s ∧ formats "date-time" s = true) ∧
      ∃ s, d.field "expires_at" = .str s ∧ formats "date-time" s = true := by
  rw [challenge, conforms_record, hasFields_congr relayChallengeFields (by decide) (by decide)]
  simp only [List.forall_mem_cons, List.not_mem_nil, false_imp_iff, implies_true, and_true,
    conforms_version, conforms_type, conforms_pattern, conforms_identifier, conforms_encoded,
    conforms_deviceId, conforms_dateTime]

theorem conforms_response : response.conforms formats d = true ↔
    d.hasFields challengeResponseFields = true ∧
      (d.field "schema_version").real? = some 1 ∧
      d.field "type" = .str "agent.challenge-response" ∧
      challenge.conforms formats (d.field "challenge") = true ∧
      (∃ s, d.field "device_id" = .str s ∧ deviceIdPattern s = true) ∧
      (∃ s, d.field "device_public_key" = .str s ∧ schemaPattern 43 s = true) ∧
      (∃ s, d.field "signed_at" = .str s ∧ formats "date-time" s = true) ∧
      ∃ s, d.field "signature" = .str s ∧ schemaPattern 86 s = true := by
  rw [response, conforms_record, hasFields_congr challengeResponseFields (by decide) (by decide)]
  simp only [List.forall_mem_cons, List.not_mem_nil, false_imp_iff, implies_true, and_true,
    conforms_version, conforms_type, conforms_encoded, conforms_deviceId, conforms_dateTime]

variable (formats) in
/-- A challenge and its answer are told apart by their types. -/
theorem discriminated : Discriminated formats "type"
    [("relay.challenge", challenge), ("agent.challenge-response", response)] where
  tagged a ha d hd := by
    simp only [List.mem_cons, List.not_mem_nil, or_false] at ha
    rcases ha with rfl | rfl
    · exact (conforms_challenge.mp hd).2.2.1
    · exact (conforms_response.mp hd).2.2.1
  nodup := by decide

/-- A challenge conforms to the schema as to its alternative. -/
theorem conforms_schema_challenge (hd : d.field "type" = .str "relay.challenge") :
    schema.conforms formats d = true ↔ challenge.conforms formats d = true :=
  conforms_oneOf_of_tag (discriminated formats) List.mem_cons_self hd

/-- And so does an answer. -/
theorem conforms_schema_response (hd : d.field "type" = .str "agent.challenge-response") :
    schema.conforms formats d = true ↔ response.conforms formats d = true :=
  conforms_oneOf_of_tag (discriminated formats) (List.mem_cons_of_mem _ List.mem_cons_self) hd

end RelayChallengeV1

namespace RelayEnrollmentV1

theorem conforms_request : request.conforms formats d = true ↔
    d.hasFields enrollmentRequestFields = true ∧
      (d.field "schema_version").real? = some 1 ∧
      d.field "type" = .str "relay.enrollment-request" ∧
      RelayChallengeV1.challenge.conforms formats (d.field "challenge") = true ∧
      (∃ s, d.field "pairing_id" = .str s ∧ formats "uuid" s = true) ∧
      (∃ s, d.field "code" = .str s ∧ fullmatch requestCodePattern s.toList = true) ∧
      (∃ s, d.field "peer_id" = .str s ∧ relayIdPattern s = true) ∧
      (∃ s, d.field "peer_public_key" = .str s ∧ schemaPattern 43 s = true) ∧
      ∃ s, d.field "peer_signature" = .str s ∧ schemaPattern 86 s = true := by
  rw [request, conforms_record, hasFields_congr enrollmentRequestFields (by decide) (by decide)]
  simp only [List.forall_mem_cons, List.not_mem_nil, false_imp_iff, implies_true, and_true,
    conforms_version, conforms_type, conforms_pattern, conforms_uuid, conforms_identifier,
    conforms_encoded]

theorem conforms_receipt : receipt.conforms formats d = true ↔
    d.hasFields enrollmentReceiptFields = true ∧
      (d.field "schema_version").real? = some 1 ∧
      d.field "type" = .str "agent.enrollment-receipt" ∧
      (∃ s, d.field "challenge_id" = .str s ∧ formats "uuid" s = true) ∧
      (∃ s, d.field "relay_id" = .str s ∧ relayIdPattern s = true) ∧
      (∃ s, d.field "pairing_id" = .str s ∧ formats "uuid" s = true) ∧
      (∃ s, d.field "device_id" = .str s ∧ deviceIdPattern s = true) ∧
      (∃ s, d.field "device_public_key" = .str s ∧ schemaPattern 43 s = true) ∧
      (∃ s, d.field "peer_id" = .str s ∧ relayIdPattern s = true) ∧
      (∃ s, d.field "peer_public_key" = .str s ∧ schemaPattern 43 s = true) ∧
      (∃ s, d.field "enrolled_at" = .str s ∧ formats "date-time" s = true) ∧
      ∃ s, d.field "signature" = .str s ∧ schemaPattern 86 s = true := by
  rw [receipt, conforms_record, hasFields_congr enrollmentReceiptFields (by decide) (by decide)]
  simp only [List.forall_mem_cons, List.not_mem_nil, false_imp_iff, implies_true, and_true,
    conforms_version, conforms_type, conforms_uuid, conforms_identifier, conforms_encoded,
    conforms_deviceId, conforms_dateTime]

variable (formats) in
/-- A request and its receipt are told apart by their types. -/
theorem discriminated : Discriminated formats "type"
    [("relay.enrollment-request", request), ("agent.enrollment-receipt", receipt)] where
  tagged a ha d hd := by
    simp only [List.mem_cons, List.not_mem_nil, or_false] at ha
    rcases ha with rfl | rfl
    · exact (conforms_request.mp hd).2.2.1
    · exact (conforms_receipt.mp hd).2.2.1
  nodup := by decide

/-- A request conforms to the schema as to its alternative. -/
theorem conforms_schema_request (hd : d.field "type" = .str "relay.enrollment-request") :
    schema.conforms formats d = true ↔ request.conforms formats d = true :=
  conforms_oneOf_of_tag (discriminated formats) List.mem_cons_self hd

/-- And so does a receipt. -/
theorem conforms_schema_receipt (hd : d.field "type" = .str "agent.enrollment-receipt") :
    schema.conforms formats d = true ↔ receipt.conforms formats d = true :=
  conforms_oneOf_of_tag (discriminated formats) (List.mem_cons_of_mem _ List.mem_cons_self) hd

end RelayEnrollmentV1

theorem EnrollmentV1.conforms_schema : EnrollmentV1.schema.conforms formats d = true ↔
    d.hasFields pairingOfferFields = true ∧
      (d.field "schema_version").real? = some 1 ∧
      (∃ s, d.field "pairing_id" = .str s ∧ formats "uuid" s = true) ∧
      (∃ s, d.field "device_id" = .str s ∧ deviceIdPattern s = true) ∧
      (∃ s, d.field "device_public_key" = .str s ∧ schemaPattern 43 s = true) ∧
      (∃ s, d.field "code" = .str s ∧ pairingCodePattern s = true) ∧
      ∃ s, d.field "expires_at" = .str s ∧ formats "date-time" s = true := by
  rw [EnrollmentV1.schema, conforms_record,
    hasFields_congr pairingOfferFields (by decide) (by decide)]
  simp only [List.forall_mem_cons, List.not_mem_nil, false_imp_iff, implies_true, and_true,
    conforms_version, conforms_pattern, fullmatch_code inRanges_code, conforms_uuid,
    conforms_encoded, conforms_deviceId, conforms_dateTime]

end Forms

end PrinterHmi
