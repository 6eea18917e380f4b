import PrinterHmi.Enrollment.Peers
import PrinterHmi.Transport.Windows

/-!
# Signing a session among other processes

`sign_session_challenge` takes the lock of the store twice, once to read the identity
and once to sign, and another process that shares the directory can run any operations
in between (`SessionSigning`). What it returns names the key that was read and is
signed with the key that is there when it signs. The two are one key unless a rotation
came between: the response verifies under the key it names exactly when the key is
still in place (`selfConsistent_iff`), and `rotated_between` is an interleaving in which
it is not. `sign_relay_challenge` holds the lock throughout and cannot be split so.
-/

namespace PrinterHmi

open StoreEvent

section Signing

variable (P : Platform)

/-- **A call of `sign_session_challenge`** that returns, with the calls other processes
make between its two operations on the store. -/
structure SessionSigning where
  /-- What the identity operation takes from outside. -/
  reading : Supply
  /-- What the signature takes from outside. -/
  signing : Supply
  challenge : Json
  relayId : String
  now : Time
  /-- The host the call finds. -/
  start : Host
  /-- The identity it is shown. -/
  identity : Json
  identified : Host
  /-- The response it builds. -/
  response : Json
  /-- The calls of others before it signs. -/
  others : List StoreEvent
  resumed : Host
  signature : Signature
  final : Host
  exec_identity : (PrinterHmi.identity P reading).exec start = (.ok identity, identified)
  response_eq : sessionResponse P identity challenge relayId now = .ok response
  run_others : StoreRun P identified others resumed
  exec_sign : (sign P signing (SignedKind.sessionAuth.transcript response)).exec resumed =
    (.ok signature, final)

variable {P}

/-- What the call returns. -/
def SessionSigning.result (s : SessionSigning P) : Json := withSignature s.response s.signature

/-- The key the call was shown is in place when it signs. -/
def SessionSigning.KeyKept (s : SessionSigning P) : Prop :=
  ∃ i, s.resumed.identity = some i ∧ s.identity.field "public_key" = .str i.publicKey

/-- The call undisturbed. -/
theorem exists_sessionSigning {env : Supply} {challenge d : Json} {relayId : String} {now : Time}
    {h h' : Host} (hexec : (signSessionChallenge P env challenge relayId now).exec h = (.ok d, h')) :
    ∃ s : SessionSigning P, s.challenge = challenge ∧ s.relayId = relayId ∧ s.now = now ∧
      s.start = h ∧ s.others = [] ∧ s.final = h' ∧ s.result = d := by
  obtain ⟨document, h₁, r, signature, hidentity, hresponse, hsign, hd⟩ :=
    signSessionChallenge_parts hexec
  exact ⟨⟨env, env, challenge, relayId, now, h, document, h₁, r, [], h₁, signature, h', hidentity,
    hresponse, .start, hsign⟩, rfl, rfl, rfl, rfl, rfl, rfl, hd⟩

/-- **The document verifies under the key it names**: its signature is one of that key
over the rest of it. -/
def SelfConsistent (P : Platform) (d : Json) : Prop :=
  ∃ key signature, b64decode invalidTransportEncoding (d.field "device_public_key") =
      .ok (key : Bytes32).1 ∧ Carries d signature ∧
    P.verify key (SignedKind.sessionAuth.transcript (d.erase "signature")) signature = true

/-- Two keys do not sign alike: what one signed verifies under no other. -/
def KeysDistinguished (P : Platform) : Prop :=
  ∀ key key' payload, P.verify (P.publicKey key') payload (P.sign key payload) = true →
    P.publicKey key' = P.publicKey key

/-! ### The identity between the two operations -/

/-- The host after a rotation. -/
def Host.rotatedBy (P : Platform) (h : Host) (env : Supply) (i : Identity) : Host :=
  ((h.withIdentity P env.rotated (i.generation + 1)).withState .empty).audited P env.audited
    "identity.rotated" "success"
    [("device_id", .str (newIdentity P env.rotated (i.generation + 1)).deviceId),
      ("previous_device_id", .str i.deviceId)]

/-- A rotation, once the identity is in place. -/
theorem exec_rotateIdentity {env : Supply} {h h₁ : Host} {i : Identity} {k : Bytes32}
    (hid : Identified P env.initial h i k h₁) :
    (rotateIdentity P env true).exec h =
      (.ok (publicIdentity (newIdentity P env.rotated (i.generation + 1))),
        h₁.rotatedBy P env i) := by
  rw [rotateIdentity, require_pos rfl, FileProg.exec_bind_ok (FileProg.exec_lift _ _), exec_locked,
    FileProg.exec_bind_ok hid.exec, FileProg.exec_bind_ok (exec_loadState h₁)]
  rfl

/-- **The identity stays in place** over any run without a rotation. -/
theorem identity_of_run {h h' : Host} {es : List StoreEvent} {i : Identity}
    (hrun : StoreRun P h es h') (hi : h.identity = some i) (hes : ∀ e ∈ es, rotates e = false) :
    h'.identity = some i := by
  refine hrun.invariant (I := fun es h' => (∀ e ∈ es, rotates e = false) → h'.identity = some i)
    (fun _ => hi) ?_ hes
  intro es h c _ ih _ hes
  rw [List.forall_mem_append, List.forall_mem_singleton] at hes
  rcases identity_of_outcome (storeStep_outcome (P := P) h c) (ih hes.1) with ⟨hrot, -⟩ | hkept
  · rw [hes.2] at hrot
    cases hrot
  · exact hkept

/-! ### The law -/

/-- An identity in place never goes away. -/
theorem exists_identity_of_run {h h' : Host} {es : List StoreEvent} {i : Identity}
    (hrun : StoreRun P h es h') (hi : h.identity = some i) : ∃ j, h'.identity = some j := by
  refine hrun.invariant_state (I := fun h => ∃ j, h.identity = some j) ⟨i, hi⟩ ?_
  rintro h c ⟨j, hj⟩
  rcases identity_of_outcome (storeStep_outcome (P := P) h c) hj with ⟨-, hnew⟩ | hkept
  · exact hnew
  · exact ⟨j, hkept⟩

/-- What the call was shown, and what it signed with. -/
theorem SessionSigning.keys (s : SessionSigning P) :
    ∃ (i j : Identity) (k l : Bytes32), s.identity = publicIdentity i ∧
      s.identified.identity = some i ∧ i.publicKey = b64encode (P.publicKey k).1 ∧
      s.resumed.identity = some j ∧ j.publicKey = b64encode (P.publicKey l).1 ∧
      s.signature = P.sign l (SignedKind.sessionAuth.transcript s.response) := by
  have hread : HasOutcome P s.start s.reading .identity _ := identity_outcome
  rw [HasOutcome, s.exec_identity] at hread
  have hsigned : Outcome P s.resumed s.signing (.sign _) _ _ :=
    sign_outcome (SignedKind.sessionAuth.transcript s.response)
  rw [s.exec_sign] at hsigned
  generalize hdocument : s.identity = document at hread
  generalize hsignature : s.signature = signature at hsigned
  generalize s.final = final at hsigned
  cases hread with
  | identified hid =>
    obtain ⟨j, hj⟩ := exists_identity_of_run s.run_others hid.identity
    cases hsigned with
    | signed hid' =>
      cases hid' with
      | stored hj' hl =>
        exact ⟨_, _, _, _, rfl, hid.identity, hid.key.1, hj', (checkIdentity_eq_ok hl).1, rfl⟩
      | generated hnone =>
        rw [hnone] at hj
        cases hj

/-- What the response of the call says. -/
theorem SessionSigning.response_fields (s : SessionSigning P) :
    s.response.field "device_public_key" = s.identity.field "public_key" ∧
      s.result.field "device_public_key" = s.identity.field "public_key" ∧
      s.result.field "signature" = .str (b64encode s.signature.1) ∧
      s.result.erase "signature" = s.response := by
  have hresponse := s.response_eq
  simp only [sessionResponse, Except.bind_eq_ok] at hresponse
  obtain ⟨normalized, -, hr⟩ := hresponse
  rw [SessionSigning.result, ← Except.ok.inj hr]
  exact ⟨rfl, rfl, rfl, rfl⟩

/-- What the call returns verifies under the key it names exactly when that key is in
place when it signs. -/
theorem selfConsistent_iff (hkeys : KeysDistinguished P) (s : SessionSigning P) :
    SelfConsistent P s.result ↔ s.KeyKept := by
  obtain ⟨i, j, k, l, hidentity, -, hi, hresumed, hj, hsignature⟩ := s.keys
  obtain ⟨-, hnamed, hcarried, hrest⟩ := s.response_fields
  have hshown : s.identity.field "public_key" = .str (b64encode (P.publicKey k).1) := by
    rw [hidentity, ← hi]
    rfl
  constructor
  · rintro ⟨key, signature, hkey, ⟨e, hsig⟩, hverify⟩
    rw [hnamed, hshown, b64decode_str_b64encode] at hkey
    rw [hcarried, b64decode_str_b64encode] at hsig
    obtain rfl : P.publicKey k = key := Subtype.ext (Except.ok.inj hkey)
    obtain rfl : s.signature = signature := Subtype.ext (Except.ok.inj hsig)
    rw [hrest, hsignature] at hverify
    exact ⟨j, hresumed, by rw [hshown, hj, hkeys l k _ hverify]⟩
  · rintro ⟨j', hj', hsame⟩
    obtain rfl : j = j' := Option.some.inj (hresumed.symm.trans hj')
    rw [hshown, hj] at hsame
    have hkey : P.publicKey k = P.publicKey l :=
      Subtype.ext (b64encode_injective (Json.str.inj hsame))
    refine ⟨P.publicKey k, s.signature, ?_, ⟨invalidTransportEncoding, ?_⟩, ?_⟩
    · rw [hnamed, hshown, b64decode_str_b64encode]
    · rw [hcarried, b64decode_str_b64encode]
    · rw [hrest, hsignature, hkey]
      exact P.verify_sign _ _

/-- **The key is kept by every interleaving without a rotation.** -/
theorem keyKept_of_unrotated (s : SessionSigning P) (hes : ∀ e ∈ s.others, rotates e = false) :
    s.KeyKept := by
  obtain ⟨i, -, -, -, hidentity, hidentified, -⟩ := s.keys
  exact ⟨i, identity_of_run s.run_others hidentified hes, by rw [hidentity]; rfl⟩

/-- **A session authentication is consistent exactly when the key is kept**: what
`sign_session_challenge` returns, whatever other processes do to the store between its
two operations, verifies under the key it names if and only if that key is in place when
it signs; and it is if no call between rotates the identity. -/
theorem session_auth_consistent (hkeys : KeysDistinguished P) :
    (∀ s : SessionSigning P, SelfConsistent P s.result ↔ s.KeyKept) ∧
      ∀ s : SessionSigning P, (∀ e ∈ s.others, rotates e = false) → SelfConsistent P s.result :=
  ⟨selfConsistent_iff hkeys, fun s hes => (selfConsistent_iff hkeys s).mpr (keyKept_of_unrotated s hes)⟩

end Signing

namespace Sample

/-- The session authentication the agent builds from the identity it was shown. -/
def builtAuth : Json :=
  sessionAuth session (.str agentIdentity.deviceId) (.str agentIdentity.publicKey)
    (.str (platform.timestamp (moment 4)))

/-- The agent is shown its identity and builds its answer to the sample session. -/
theorem sessionResponse_sample :
    sessionResponse platform (publicIdentity agentIdentity) session "relay-1" (moment 4) =
      .ok builtAuth := by
  have hdevice : agentIdentity.deviceId = device := by decide
  have hch : validateSessionChallenge platform session (.str agentIdentity.deviceId)
      (.str "relay-1") (moment 4) = .ok ⟨session, sessionId.1, moment 3, moment 63⟩ := by
    rw [hdevice]
    exact validateSessionChallenge_sample
  rw [sessionResponse, show (publicIdentity agentIdentity).field "device_id" =
    .str agentIdentity.deviceId from rfl, hch]
  rfl

/-- The agent with its identity in place. -/
def agentHost : Host := Host.fresh.withIdentity platform (supply (moment 0) pairingId).initial 1

/-- The rotation by another process. -/
def rotatingAmid : Invocation := ⟨.rotateIdentity true, supply (moment 4) pairingId⟩

/-- The agent after the rotation. -/
def rotatedHost : Host := agentHost.rotatedBy platform rotatingAmid.env agentIdentity

/-- The agent has its identity. -/
theorem agentHost_identified :
    Identified platform (supply (moment 4) pairingId).initial agentHost agentIdentity agentKey
      agentHost :=
  .stored rfl (checkIdentity_newIdentity _ _)

/-- After the rotation it has another one. -/
theorem rotatedHost_identified :
    Identified platform (supply (moment 4) pairingId).initial rotatedHost
      (newIdentity platform (supply (moment 4) pairingId).rotated 2) rotatedKey rotatedHost :=
  .stored rfl (checkIdentity_newIdentity _ _)

/-- A session signed across a rotation. -/
def signingAcross : SessionSigning platform where
  reading := supply (moment 4) pairingId
  signing := supply (moment 4) pairingId
  challenge := session
  relayId := "relay-1"
  now := moment 4
  start := agentHost
  identity := publicIdentity agentIdentity
  identified := agentHost
  response := builtAuth
  others := [⟨agentHost, rotatingAmid, .ok (.document (publicIdentity
    (newIdentity platform rotatingAmid.env.rotated (agentIdentity.generation + 1)))), rotatedHost⟩]
  resumed := rotatedHost
  signature := platform.sign rotatedKey (SignedKind.sessionAuth.transcript builtAuth)
  final := rotatedHost.withSigned rotatedKey (SignedKind.sessionAuth.transcript builtAuth)
  exec_identity := FileProg.exec_bind_ok agentHost_identified.exec _
  response_eq := sessionResponse_sample
  run_others := Run.start.next_eq trivial
    (storeStep_document rfl (exec_rotateIdentity agentHost_identified))
  exec_sign := exec_sign_identified rotatedHost_identified _

/-- No two keys sign alike on the sample platform. -/
theorem sign_injective {key key' : Bytes32} {payload payload' : Bytes}
    (h : sign key payload = sign key' payload') : key = key' := by
  have hlast : ∀ e ∈ signatures, e.2.1.getLast? ≠ some 0 := by decide
  have hkeys : ∀ e ∈ signatures, ∀ e' ∈ signatures, e.2 = e'.2 → e.1.1 = e'.1.1 := by
    decide
  have hother (e : (Bytes32 × Bytes) × Signature) (he : e ∈ signatures) (key : Bytes32) :
      (⟨fit 64 key.1, length_fit 64 _⟩ : Signature) ≠ e.2 := fit_ne (hlast e he) key
  rw [sign, sign] at h
  rcases override_cases signatures _ (key, payload) with ⟨e, he, hx, hv⟩ | hv <;>
    rcases override_cases signatures _ (key', payload') with ⟨e', he', hx', hv'⟩ | hv' <;>
    rw [hv, hv'] at h
  · rw [show key = e.1.1 by rw [hx], show key' = e'.1.1 by rw [hx']]
    exact hkeys e he e' he' h
  · exact absurd h.symm (hother e he key')
  · exact absurd h (hother e' he' key)
  · have hfit := congrArg Subtype.val h
    dsimp only at hfit
    rw [fit_key, fit_key] at hfit
    exact Subtype.ext (List.append_cancel_right hfit)

theorem keysDistinguished : KeysDistinguished platform := by
  intro key key' payload hverify
  have hsign := sign_of_verify hverify
  rw [show keys.symm (platform.publicKey key') = key' from keys.symm_apply_apply _] at hsign
  rw [sign_injective hsign]

/-- The key the agent was shown is not the one in place after the rotation. -/
theorem not_keyKept_across : ¬signingAcross.KeyKept := by
  rintro ⟨i, hi, hkey⟩
  obtain rfl := Option.some.inj hi
  have hkeys : b64encode (platform.publicKey agentKey).1 =
      b64encode (platform.publicKey rotatedKey).1 := Json.str.inj hkey
  have hne : agentKey ≠ rotatedKey := by decide
  exact hne (keys.injective (Subtype.ext (b64encode_injective hkeys)))

/-- The same session signed undisturbed. -/
def signingUndisturbed : SessionSigning platform where
  reading := supply (moment 4) pairingId
  signing := supply (moment 4) pairingId
  challenge := session
  relayId := "relay-1"
  now := moment 4
  start := agentHost
  identity := publicIdentity agentIdentity
  identified := agentHost
  response := builtAuth
  others := []
  resumed := agentHost
  signature := platform.sign agentKey (SignedKind.sessionAuth.transcript builtAuth)
  final := agentHost.withSigned agentKey (SignedKind.sessionAuth.transcript builtAuth)
  exec_identity := FileProg.exec_bind_ok agentHost_identified.exec _
  response_eq := sessionResponse_sample
  run_others := Run.start
  exec_sign := exec_sign_identified agentHost_identified _

end Sample

open Sample in
/-- **A rotation between the two operations**: the response names the old key and is
signed with the new one. -/
theorem rotated_between : ∃ s : SessionSigning platform, s.start = agentHost ∧
    s.others.map Event.call = [⟨.rotateIdentity true, supply (moment 4) pairingId⟩] ∧
    ¬SelfConsistent platform s.result :=
  ⟨signingAcross, rfl, rfl, fun hself =>
    not_keyKept_across ((selfConsistent_iff keysDistinguished signingAcross).mp hself)⟩

open Sample in
/-- On the sample platform the response signed across a rotation is not consistent, and the
one signed undisturbed is. -/
theorem session_auth_consistent_sample :
    ¬SelfConsistent platform signingAcross.result ∧
      SelfConsistent platform signingUndisturbed.result := by
  obtain ⟨hiff, hundisturbed⟩ := session_auth_consistent keysDistinguished
  exact ⟨fun hself => not_keyKept_across ((hiff signingAcross).mp hself),
    hundisturbed signingUndisturbed fun e he => by cases he⟩

end PrinterHmi
