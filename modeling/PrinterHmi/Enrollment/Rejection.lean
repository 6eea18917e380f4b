import PrinterHmi.Enrollment.Lockout

/-!
# What a rejected enrollment leaves behind

Both ways of consuming an offer have many ways of failing, some of which write the state
and some of which drop what they had of it in memory. What reaches the disk is little in
every case (`Spared`): the peers stay, challenges are forgotten only once they have
expired, and of the offers only the named one is touched, by one attempt or altogether.

A request for a relay enrollment that does not get as far as its code (`ReachesCode`) does
not touch any offer.
-/

namespace PrinterHmi

section Rejection

variable {P : Platform} {h h₁ h₂ : Host} {env : Supply} {named : Json} {e : Exn}

/-- **What a rejected enrollment has spared** of the state `s`, in the state `s'` it left:
at a clock, for the offer it named. -/
structure Spared (now : Time) (named : Json) (s s' : StoreState) : Prop where
  peers : s'.peers = s.peers
  /-- A challenge is as it was, or has expired and is forgotten. -/
  challenges (id : String) : s'.usedChallenges.get? id = s.usedChallenges.get? id ∨
    s'.usedChallenges.get? id = none ∧
      ∃ used, s.usedChallenges.get? id = some used ∧ used.expiresEpoch ≤ now
  others (id : String) : named ≠ .str id → s'.pairings.get? id = s.pairings.get? id
  /-- The named offer is as it was, has one attempt fewer, or is gone. -/
  offer (id : String) : named = .str id → s'.pairings.get? id = s.pairings.get? id ∨
    (∃ pairing, s.pairings.get? id = some pairing ∧ s'.pairings.get? id =
      some { pairing with attemptsRemaining := pairing.attemptsRemaining - 1 }) ∨
    s'.pairings.get? id = none

/-- A state spares itself. -/
theorem Spared.refl (now : Time) (named : Json) (s : StoreState) : Spared now named s s :=
  ⟨rfl, fun _ => .inl rfl, fun _ _ => rfl, fun _ _ => .inl rfl⟩

/-! ### The states a rejection writes -/

/-- The state an attempt is made on has forgotten expired challenges at most. -/
theorem spared_base (call : Call) (now : Time) (named : Json) (s : StoreState) :
    Spared now named s (call.base now s) := by
  cases call
  case completeRelayEnrollment =>
    refine ⟨rfl, fun id => ?_, fun _ _ => rfl, fun _ _ => .inl rfl⟩
    have hget : (s.pruneUsedChallenges now).usedChallenges.get? id =
        (s.usedChallenges.get? id).filter fun used => now < used.expiresEpoch := Dict.get?_filter _
    cases hused : s.usedChallenges.get? id with
    | none =>
      rw [hused] at hget
      exact .inl hget
    | some used =>
      rw [hused] at hget
      by_cases hlive : now < used.expiresEpoch
      · rw [Option.filter_some, if_pos (decide_eq_true hlive)] at hget
        exact .inl hget
      · rw [Option.filter_some, if_neg fun hc => hlive (of_decide_eq_true hc)] at hget
        exact .inr ⟨hget, used, rfl, not_lt.mp hlive⟩
  all_goals exact .refl now named s

/-- An offer that is taken away. -/
theorem Spared.dropped {now : Time} {s s' : StoreState} {id : String}
    (hs : Spared now (.str id) s s') : Spared now (.str id) s (s'.dropPairing id) where
  peers := hs.peers
  challenges := hs.challenges
  others other hne := by
    have hid : id ≠ other := fun hc => hne (congrArg Json.str hc)
    exact (Dict.get?_erase.trans (if_neg hid)).trans (hs.others other hne)
  offer other heq := by
    obtain rfl := Json.str.inj heq
    exact .inr (.inr (Dict.get?_erase.trans (if_pos rfl)))

/-- An offer with one attempt fewer, gone if that was the last. -/
theorem Spared.missed {now : Time} {s s' : StoreState} {id : String} {pairing : Pairing}
    (hs : Spared now (.str id) s s') (hsame : s'.pairings = s.pairings)
    (hp : s'.pairings.get? id = some pairing) :
    Spared now (.str id) s (s'.afterMiss id pairing) := by
  by_cases hlast : pairing.attemptsRemaining - 1 ≤ 0
  · have hdrop : s'.afterMiss id pairing = s'.dropPairing id := by
      rw [StoreState.afterMiss, if_pos hlast]
      rfl
    rw [hdrop]
    exact hs.dropped
  · have hpairings : (s'.afterMiss id pairing).pairings = s'.pairings.insert id
        { pairing with attemptsRemaining := pairing.attemptsRemaining - 1 } := if_neg hlast
    refine ⟨hs.peers, hs.challenges, fun other hne => ?_, fun other heq => ?_⟩
    · have hid : id ≠ other := fun hc => hne (congrArg Json.str hc)
      rw [hpairings, Dict.get?_insert, if_neg hid]
      exact hs.others other hne
    · obtain rfl := Json.str.inj heq
      rw [hpairings, Dict.get?_insert, if_pos rfl]
      exact .inr (.inl ⟨pairing, hsame ▸ hp, rfl⟩)

/-- **A failed attempt on an offer** spares what the state it was made on spared. -/
theorem Spared.unconsumed {s s' : StoreState} {a : Attempt} {persist : Bool}
    (hs : Spared env.now (.str a.pairingId) s s') (hsame : s'.pairings = s.pairings)
    (hloaded : h.loaded = s) (hc : Consumed P env s' a persist h (.error e) h₁) :
    Spared env.now (.str a.pairingId) s h₁.loaded := by
  cases hc with
  | absent => exact hs.dropped
  | undecodable => exact hloaded ▸ .refl ..
  | miss hp => exact hs.missed hsame hp
  | active => exact hs.dropped

theorem loaded_audited (clock : Time) (event outcome : String) (details : List (String × Json)) :
    (h.audited P clock event outcome details).loaded = h.loaded := rfl

/-- **A call that consumes and raises** spares what it did not name. -/
theorem spared_of_outcome {call : Call} {code : Json} (hnamed : call.presents? = some (named, code))
    (hout : Outcome P h env call (.error e) h₂) : Spared env.now named h.loaded h₂.loaded := by
  cases hout with
  | raised => exact .refl ..
  | refused hid => exact hid.loaded ▸ .refl ..
  | @unconsumed call a persist e i k h₁ h₂ ha hid hc =>
    obtain ⟨code', hpresents, -⟩ := presents_of_attempt ha
    obtain ⟨rfl, -⟩ := Prod.mk.inj (Option.some.inj (hnamed.symm.trans hpresents))
    have hsame : (call.base env.now h.loaded).pairings = h.loaded.pairings := by
      cases call <;> rfl
    exact (spared_base call env.now _ h.loaded).unconsumed hsame hid.loaded hc
  | unproved hr hid =>
    rw [loaded_audited, hid.loaded]
    exact .refl ..

/-! ### Before the code -/

/-- A request that does not get as far as its code leaves the state as it is. -/
theorem state_of_unreached {document : Json} (hnot : ¬ReachesCode P h env document) :
    ((completeRelayEnrollment P env document).exec h).2.loaded = h.loaded := by
  cases hr : readEnrollmentRequest P document with
  | error e =>
    rw [completeRelayEnrollment, hr, FileProg.exec_bind_error (FileProg.exec_lift _ _)]
  | ok request =>
    rw [completeRelayEnrollment, hr, FileProg.exec_bind_ok (FileProg.exec_lift _ _), exec_locked]
    rcases exec_ensureIdentity_bind (P := P) env.initial h _ with ⟨e, he⟩ | ⟨i, k, h₁, hid, hex⟩
    · rw [he]
    rw [hex]
    dsimp only
    -- each check that fails has written nothing
    cases hch : validateRelayChallenge P request.challenge i.deviceId env.now with
    | error e =>
      rw [FileProg.exec_bind_error (FileProg.exec_lift _ _)]
      exact hid.loaded
    | ok challenge =>
      rw [FileProg.exec_bind_ok (FileProg.exec_lift _ _), FileProg.exec_bind_ok (exec_loadState h₁),
        hid.loaded]
      by_cases hunused : ((h.loaded.pruneUsedChallenges env.now).usedChallenges.get?
          challenge.challengeId).isNone = true
      · rw [require_pos hunused, FileProg.exec_bind_ok (FileProg.exec_lift _ _)]
        have hproof : ¬P.verify request.key (peerProofPayload challenge.document
            request.pairingId request.peerId i.deviceId) request.signature = true := fun hc =>
          hnot ⟨request, i, k, h₁, challenge, hr, hid, hch, Option.isNone_iff_eq_none.mp hunused, hc⟩
        rw [if_neg hproof]
        exact hid.loaded
      · rw [require_neg hunused, FileProg.exec_bind_error (FileProg.exec_lift _ _)]
        exact hid.loaded

/-! ### The two operations -/

/-- **A rejected enrollment leaves the rest intact**: whatever the stored state, the
arguments and the clock are, a `consume_pairing` or a `complete_relay_enrollment` that raises
spares everything but expired challenges and the offer it names; and a request that does not
get as far as its code leaves the offers as they are. -/
theorem rejected_enrollment_spares (P : Platform) (h h' : Host) (env : Supply) (e : Exn) :
    (∀ pairingId code peerId peerPublicKey,
      storeStep P h ⟨.consumePairing pairingId code peerId peerPublicKey, env⟩ = (.error e, h') →
        Spared env.now pairingId h.loaded h'.loaded) ∧
    ∀ document, storeStep P h ⟨.completeRelayEnrollment document, env⟩ = (.error e, h') →
      Spared env.now (document.field "pairing_id") h.loaded h'.loaded ∧
        (¬ReachesCode P h env document → h'.loaded.pairings = h.loaded.pairings) := by
  refine ⟨fun pairingId code peerId key hstep => ?_, fun document hstep => ?_⟩
  · have hout := storeStep_outcome (P := P) h ⟨.consumePairing pairingId code peerId key, env⟩
    rw [hstep] at hout
    exact spared_of_outcome rfl hout
  · have hout := storeStep_outcome (P := P) h ⟨.completeRelayEnrollment document, env⟩
    rw [hstep] at hout
    refine ⟨spared_of_outcome rfl hout, fun hnot => ?_⟩
    rw [storeStep, Call.program, exec_wrap] at hstep
    rw [← (Prod.mk.inj hstep).2]
    exact congrArg StoreState.pairings (state_of_unreached hnot)

end Rejection

open Sample in
/-- A wrong code for the sample offer is rejected: the offer has one attempt fewer, and the rest of
the state is spared. -/
theorem rejected_enrollment_spares_sample : ∃ h h', Guessed h 0 ∧
    storeStep platform h guess = (.error invalidPairingCode, h') ∧
    Spared (moment 1) (.str pairingId.1) offeredState h'.loaded ∧
    h'.loaded.pairings.get? pairingId.1 = some { offeredPairing with attemptsRemaining := 4 } := by
  obtain ⟨r, h, -, hg⟩ := guessed_offered
  have hstep : storeStep platform h guess = _ := (hg.course rfl rfl).exec
  have hspared := (rejected_enrollment_spares platform h _ (supply (moment 1) pairingId) _).1
    (.str pairingId.1) (.str "BBBBB-BBBBB") (.str "printerhmi-relay")
    (.str (b64encode relayPublic.1)) hstep
  have hloaded : h.loaded = offeredState := congrArg (·.getD .empty) hg.state
  exact ⟨h, _, hg, hstep, hloaded ▸ hspared, (Dict.get?_insert ..).trans (if_pos rfl)⟩

end PrinterHmi
