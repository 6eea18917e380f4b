import PrinterHmi.Enrollment.Outcomes
import PrinterHmi.Lib.Faults

/-!
# What an operation of the store leaves when a file step fails

The public operations as a machine, any file step of which may fail (`trialStep`). Every
operation stops at its first fault (`strict_call`), so what it leaves is one of the hosts
it goes through; and a host it goes through is one of few (`Stage`, `stage_of_call`): the
operation has done nothing yet, or what it does is stored, or it is in between – a code
has been compared and the state is being written, or the identity has been replaced and
the state has not. Stages are numbered by file steps, as where an operation is in between
matters.

`trialStep_cases` is the inversion for calls whose file steps may fail: such a call
leaves a stage and raises, or is the call without faults.
-/

namespace PrinterHmi

/-! ### Calls whose file steps may fail -/

/-- A call, and which of its file steps fail, counted from zero. -/
structure Trial extends Invocation where
  faults : ℕ → Bool

/-- An event of a run of such calls. -/
abbrev TrialEvent := Event Host Trial (Except Exn Reply)

/-- What happened, without the faults. -/
def TrialEvent.plain (e : TrialEvent) : StoreEvent :=
  ⟨e.before, e.call.toInvocation, e.result, e.after⟩

/-- **The store as a machine**, whichever file steps fail. -/
def trialStep (P : Platform) (h : Host) (t : Trial) : Except Exn Reply × Host :=
  (t.call.program P t.env).run t.faults h

/-! ### The file steps of an operation -/

/-- The number of file steps reading `state.json` takes: its mode is set if it
exists. -/
def Host.stateSteps (h : Host) : ℕ := if h.state.isSome then 1 else 0

/-- The file steps putting the identity in place takes: its mode is set if it is stored,
and it is written and recorded if it is not. -/
def Host.identitySteps (h : Host) : ℕ := if h.identity.isSome then 1 else 9

/-- The file steps of an operation up to the loading of the state: the lock, the
identity, and the mode of `state.json`. -/
def Host.openingSteps (h : Host) : ℕ := 5 + h.identitySteps + h.stateSteps

/-- The two hosts differ in the audit log and the signatures at most. -/
structure Host.Alike (h g : Host) : Prop where
  identity : g.identity = h.identity
  state : g.state = h.state
  compared : g.compared = h.compared

/-- The host `g` is `h`, with an identity put in place at most. -/
structure Host.Untouched (h g : Host) : Prop where
  identity : g.identity = h.identity ∨ h.identity = none
  state : g.state = h.state
  compared : g.compared = h.compared

theorem Host.Alike.refl (h : Host) : h.Alike h := ⟨rfl, rfl, rfl⟩

theorem Host.Alike.loaded {h g : Host} (hg : h.Alike g) : g.loaded = h.loaded := by
  rw [Host.loaded, Host.loaded, hg.state]

theorem Host.Untouched.loaded {h g : Host} (hg : h.Untouched g) : g.loaded = h.loaded := by
  rw [Host.loaded, Host.loaded, hg.state]

theorem Host.Untouched.alike {h g g' : Host} (hg : h.Untouched g) (hg' : g.Alike g') :
    h.Untouched g' :=
  ⟨hg'.identity ▸ hg.identity, hg'.state.trans hg.state, hg'.compared.trans hg.compared⟩

theorem Identified.untouched {P : Platform} {g : Generation} {h h₁ : Host} {i : Identity}
    {key : Bytes32} (hid : Identified P g h i key h₁) : h.Untouched h₁ :=
  ⟨hid.unrotated, hid.frame.1, hid.frame.2.1⟩

section Stages

variable (P : Platform)

/-- A code is compared with the digest of the offer, and is not the one it was made with. -/
def Pairing.Refuses (env : Supply) (pairing : Pairing) (code : Option String) : Prop :=
  ∃ salt expected, b64decodeText invalidEncoded pairing.salt = .ok salt ∧
    b64decodeText invalidEncoded pairing.codeDigest = .ok expected ∧
    candidateDigest P env code salt ≠ expected

/-- **A request gets as far as its code**: it is well formed, its challenge is valid and
unused, and its peer has signed it. -/
def ReachesCode (h : Host) (env : Supply) (document : Json) : Prop :=
  ∃ request i k h₁ challenge, readEnrollmentRequest P document = .ok request ∧
    Identified P env.initial h i k h₁ ∧
    validateRelayChallenge P request.challenge i.deviceId env.now = .ok challenge ∧
    (h.loaded.pruneUsedChallenges env.now).usedChallenges.get? challenge.challengeId = none ∧
    P.verify request.key (peerProofPayload challenge.document request.pairingId request.peerId
      i.deviceId) request.signature = true

/-- **A call gets as far as looking for the offer** of the attempt `a`. -/
inductive Attempts (h : Host) (env : Supply) : Call → Attempt → Prop
  | consume {pairingId code peerId peerPublicKey : Json} {a : Attempt} {i : Identity}
      {k : Bytes32} {h₁ : Host}
      (ha : readAttempt P pairingId code peerId peerPublicKey = .ok a)
      (hid : Identified P env.initial h i k h₁) :
      Attempts h env (.consumePairing pairingId code peerId peerPublicKey) a
  | complete {document : Json} {request : EnrollmentRequest}
      (hr : readEnrollmentRequest P document = .ok request)
      (hreach : ReachesCode P h env document) :
      Attempts h env (.completeRelayEnrollment document) request.toAttempt

/-- **What a call may leave** that stops before its `k`-th file step: the hosts it goes
through, up to the audit log and the signatures. -/
inductive Stage (h : Host) (c : Invocation) (k : ℕ) (g : Host) : Prop
  /-- Nothing is done yet. -/
  | untouched (hg : h.Untouched g)
  /-- A code has been found right, and that is stored nowhere. -/
  | right {a : Attempt} {h₁ : Host} (hattempt : Attempts P h c.env c.call a)
      (hh : h.Untouched h₁) (hg : (h₁.withComparison a.pairingId true).Alike g)
  /-- A wrong code has been compared, and the state that counts it is being written. -/
  | wrong {a : Attempt} {pairing : Pairing} {h₁ : Host} (hattempt : Attempts P h c.env c.call a)
      (hh : h.Untouched h₁) (hp : h.loaded.pairings.get? a.pairingId = some pairing)
      (hlive : c.env.now < pairing.expiresEpoch) (hwrong : pairing.Refuses P c.env a.code)
      (hfirst : h.openingSteps ≤ k) (hlast : k < h.openingSteps + 5)
      (hg : (h₁.withComparison a.pairingId false).Alike g)
  /-- An attempt has been refused, and what it cost the offer is stored. -/
  | refused {a : Attempt} {persist : Bool} {e : Exn} {h₁ h₂ : Host}
      (hattempt : Attempts P h c.env c.call a) (hh : h.Untouched h₁)
      (hc : Consumed P c.env (c.call.base c.env.now h.loaded) a persist h₁ (.error e) h₂)
      (hg : h₂.Alike g)
  /-- An attempt has succeeded, and the peer is stored; so is the challenge, if there is one. -/
  | enrolled {a : Attempt} {pairing : Pairing} {s : StoreState} {h₁ : Host}
      (hattempt : Attempts P h c.env c.call a) (hh : h.Untouched h₁)
      (hp : h.loaded.pairings.get? a.pairingId = some pairing)
      (hpairings : s.pairings = h.loaded.pairings.erase a.pairingId)
      (hused : s.usedChallenges = (c.call.base c.env.now h.loaded).usedChallenges ∨
        ∃ id used, (c.call.base c.env.now h.loaded).usedChallenges.get? id = none ∧
          s.usedChallenges =
            (c.call.base c.env.now h.loaded).usedChallenges.insert id used)
      (hg : ((h₁.withComparison a.pairingId true).withState s).Alike g)
  | created {ttl : ℤ} {h₁ : Host} (hcall : c.call = .createPairing ttl) (hh : h.Untouched h₁)
      (hg : (h₁.withState (h.loaded.offer P c.env ttl)).Alike g)
  | revoked {peerId : Json} {name : String} {peer : Peer} {h₁ : Host}
      (hcall : c.call = .revokePeer peerId) (hh : h.Untouched h₁)
      (hg : (h₁.withState (h.loaded.revoke P name peer c.env.now)).Alike g)
  /-- The identity has been replaced, and the state has not. -/
  | mixed {i : Identity} {key : Bytes32} {h₁ : Host} (hcall : c.call = .rotateIdentity true)
      (hid : Identified P c.env.initial h i key h₁) (hfirst : h.openingSteps + 5 ≤ k)
      (hlast : k < h.openingSteps + 14)
      (hg : (h₁.withIdentity P c.env.rotated (i.generation + 1)).Alike g)
  | rotated {i : Identity} {key : Bytes32} {h₁ : Host} (hcall : c.call = .rotateIdentity true)
      (hid : Identified P c.env.initial h i key h₁)
      (hg : ((h₁.withIdentity P c.env.rotated (i.generation + 1)).withState .empty).Alike g)

end Stages

/-- A code that is refused is not accepted. -/
theorem Pairing.Refuses.not_accepts {P : Platform} {env : Supply} {pairing : Pairing}
    {code : Option String} (h : pairing.Refuses P env code) : ¬pairing.Accepts P env code := by
  obtain ⟨salt, expected, hsalt, hexpected, hne⟩ := h
  rintro ⟨salt', expected', hsalt', hexpected', heq⟩
  obtain rfl := Except.ok.inj (hsalt.symm.trans hsalt')
  obtain rfl := Except.ok.inj (hexpected.symm.trans hexpected')
  exact hne heq

/-- What a call attempts is no rotation. -/
theorem Attempts.not_rotate {P : Platform} {h : Host} {env : Supply} {call : Call} {a : Attempt}
    (hattempt : Attempts P h env call a) (confirmed : Bool) : call ≠ .rotateIdentity confirmed := by
  rintro rfl
  cases hattempt

/-! ### The pieces, step by step -/

section Pieces

variable {P : Platform} {α : Type} {I : ℕ → Host → Prop} {R : ℕ → Except Exn α → Host → Prop}
  {n : ℕ} {h : Host}

theorem counted_writeJson {f : Host → Host} {q : Unit → StoreProg α}
    (hI : ∀ k, n ≤ k → k < n + 5 → I k h) (hq : (q ()).Counted I R (n + 5) (f h)) :
    (writeJson f >>= q).Counted I R n h :=
  ⟨hI n (by omega) (by omega), hI (n + 1) (by omega) (by omega), hI (n + 2) (by omega) (by omega),
    hI (n + 3) (by omega) (by omega), hI (n + 4) (by omega) (by omega), hq⟩

theorem counted_auditLocked {clock : Time} {event outcome : String}
    {details : List (String × Json)} {q : Unit → StoreProg α}
    (hI : ∀ k g, n ≤ k → k < n + 4 → h.Alike g → I k g)
    (hq : (q ()).Counted I R (n + 4) (h.audited P clock event outcome details)) :
    (auditLocked P clock event outcome details >>= q).Counted I R n h :=
  ⟨hI n h (by omega) (by omega) (.refl h), hI (n + 1) h (by omega) (by omega) (.refl h),
    hI (n + 2) h (by omega) (by omega) (.refl h),
    hI (n + 3) _ (by omega) (by omega) ⟨rfl, rfl, rfl⟩, hq⟩

theorem counted_generateIdentity {g : Generation} {generation : ℤ}
    {q : Identity × Bytes32 → StoreProg α} (hbefore : ∀ k, n ≤ k → k < n + 5 → I k h)
    (hafter : ∀ k g', n + 5 ≤ k → k < n + 9 → (h.withIdentity P g generation).Alike g' → I k g')
    (hq : (q (newIdentity P g generation, g.key)).Counted I R (n + 9)
      (h.withIdentity P g generation)) :
    (generateIdentity P g generation >>= q).Counted I R n h :=
  counted_writeJson (q := fun _ => auditLocked P g.audited "identity.created" "success"
      [("device_id", .str (newIdentity P g generation).deviceId),
        ("generation", .int generation)] >>= fun _ => q (newIdentity P g generation, g.key))
    hbefore (counted_auditLocked (fun k g' hk hk' hg => hafter k g' hk hk'
      ⟨hg.identity, hg.state, hg.compared⟩) hq)

theorem counted_loadState {q : StoreState → StoreProg α} (hI : I n h)
    (hq : (q h.loaded).Counted I R (n + h.stateSteps) h) : (loadState >>= q).Counted I R n h := by
  refine FileProg.counted_andThen.mpr (FileProg.counted_state_bind ?_)
  rw [Host.stateSteps, Host.loaded] at hq
  cases hs : h.state with
  | none =>
    rw [hs] at hq
    exact hq
  | some s =>
    rw [hs] at hq
    exact ⟨hI, hq⟩

theorem counted_ensureIdentity {g : Generation} {q : Identity × Bytes32 → StoreProg α}
    (hI : ∀ k g', h.Untouched g' → I k g') (herror : ∀ e, R n (.error e) h)
    (hq : ∀ i key h₁, Identified P g h i key h₁ →
      (q (i, key)).Counted I R (n + h.identitySteps) h₁) :
    (ensureIdentity P g >>= q).Counted I R n h := by
  have hself : h.Untouched h := ⟨.inl rfl, rfl, rfl⟩
  refine FileProg.counted_andThen.mpr (FileProg.counted_state_bind ?_)
  rw [Host.identitySteps] at hq
  cases hi : h.identity with
  | none =>
    rw [hi] at hq
    exact FileProg.counted_andThen.mp (counted_generateIdentity (fun k _ _ => hI k h hself)
      (fun k g' _ _ hg => hI k g' ⟨.inr hi, hg.state, hg.compared⟩) (hq _ _ _ (.generated hi)))
  | some i =>
    rw [hi] at hq
    dsimp only
    cases hkey : checkIdentity P i with
    | error e => exact herror e
    | ok key => exact ⟨hI n h hself, hq i key h (.stored hi hkey)⟩

theorem counted_rejectPairing {env : Supply} {s : StoreState} {details : List (String × Json)}
    {e : Exn} (hbefore : ∀ k, n ≤ k → k < n + 5 → I k h)
    (hafter : ∀ k g, (h.withState s).Alike g → I k g) (hR : ∀ m g, R m (.error e) g) :
    (rejectPairing P env s details e : StoreProg α).Counted I R n h :=
  counted_writeJson hbefore (counted_auditLocked (fun k g _ _ hg => hafter k g hg) (hR _ _))

theorem counted_locked {body : StoreProg α} (hI : ∀ k, k < 5 → I k h)
    (hbody : body.Counted I R 5 h) : (locked body).Counted I R 0 h :=
  ⟨hI 0 (by omega), hI 1 (by omega), hI 2 (by omega), hI 3 (by omega), hI 4 (by omega), hbody⟩

end Pieces

/-! ### The operations, step by step -/

section Operations

variable {P : Platform} {h h₁ : Host} {env : Supply}

/-- What an attempt finds among the offers. -/
theorem pairings_base (now : Time) (s : StoreState) (call : Call) :
    (call.base now s).pairings = s.pairings := by
  cases call <;> rfl

variable (P h h₁ env) in
/-- What an attempt has made that succeeds without storing that: a state with the peer in place of
the offer. -/
def Unstored (call : Call) (a : Attempt) (persist : Bool) (r : Except Exn (Peer × StoreState))
    (g : Host) : Prop :=
  ∀ peer s, r = .ok (peer, s) → persist = false →
    g = h₁.withComparison a.pairingId true ∧
      (∃ pairing, h.loaded.pairings.get? a.pairingId = some pairing) ∧
      s = (call.base env.now h.loaded).enroll a.pairingId (newPeer P a.peerId a.key env.now)

/-- **An attempt on an offer**, from the state an operation has loaded. -/
theorem counted_consumePairingLocked {call : Call} {a : Attempt} {persist : Bool}
    (hattempt : Attempts P h env call a) (hh : h.Untouched h₁) :
    (consumePairingLocked P env (call.base env.now h.loaded) a persist).Counted
      (Stage P h ⟨call, env⟩) (fun _ => Unstored P h h₁ env call a persist) h.openingSteps h₁ := by
  have hself (k : ℕ) : Stage P h ⟨call, env⟩ k h₁ := .untouched hh
  have hrefused (e : Exn) (g : Host) : Unstored P h h₁ env call a persist (.error e) g := by
    rintro _ _ ⟨⟩
  rw [consumePairingLocked]
  cases hp : (call.base env.now h.loaded).pairings.get? a.pairingId with
  | none =>
    have habsent : Consumed P env (call.base env.now h.loaded) a persist h₁ _ _ :=
      .absent fun pairing hsome => by rw [hp] at hsome; cases hsome
    exact counted_rejectPairing (fun k _ _ => hself k) (fun k g hg => .refused hattempt hh habsent
      ⟨hg.identity, hg.state, hg.compared⟩) fun _ => hrefused _
  | some pairing =>
    dsimp only
    by_cases hexpired : pairing.expiresEpoch ≤ env.now
    · rw [if_pos hexpired]
      have habsent : Consumed P env (call.base env.now h.loaded) a persist h₁ _ _ :=
        .absent fun pairing' hsome => by
          rw [hp] at hsome
          exact Option.some.inj hsome ▸ hexpired
      exact counted_rejectPairing (fun k _ _ => hself k) (fun k g hg => .refused hattempt hh
        habsent ⟨hg.identity, hg.state, hg.compared⟩) fun _ => hrefused _
    rw [if_neg hexpired]
    have hlive : env.now < pairing.expiresEpoch := not_le.mp hexpired
    have hp' : h.loaded.pairings.get? a.pairingId = some pairing := pairings_base _ _ _ ▸ hp
    -- the salt and the digest are decoded before anything is compared
    rcases hsalt : b64decodeText invalidEncoded pairing.salt with e | salt
    · exact hrefused e h₁
    rcases hexpected : b64decodeText invalidEncoded pairing.codeDigest with e | expected
    · exact hrefused e h₁
    change FileProg.Counted _ _ _ (if !(candidateDigest P env a.code salt == expected) then _ else _)
      (h₁.withComparison a.pairingId (candidateDigest P env a.code salt == expected))
    by_cases hright : candidateDigest P env a.code salt = expected
    · rw [beq_iff_eq.mpr hright, Bool.not_true, if_neg Bool.false_ne_true]
      have hpending (k : ℕ) : Stage P h ⟨call, env⟩ k (h₁.withComparison a.pairingId true) :=
        .right hattempt hh (.refl _)
      have haccepts : pairing.Accepts P env a.code := ⟨salt, expected, hsalt, hexpected, hright⟩
      cases hactive : (call.base env.now h.loaded).isActive a.peerId with
      | true =>
        rw [if_pos rfl]
        have hc : Consumed P env (call.base env.now h.loaded) a persist h₁ _ _ :=
          .active hp hlive haccepts hactive
        exact counted_rejectPairing (fun k _ _ => hpending k) (fun k g hg => .refused hattempt hh hc
          ⟨hg.identity, hg.state, hg.compared⟩) fun _ => hrefused _
      | false =>
        rw [if_neg Bool.false_ne_true]
        have hpairings : ((call.base env.now h.loaded).enroll a.pairingId
            (newPeer P a.peerId a.key env.now)).pairings = h.loaded.pairings.erase a.pairingId := by
          rw [← pairings_base env.now h.loaded call]
          rfl
        cases persist with
        | true =>
          refine counted_writeJson (fun k _ _ => hpending k) (counted_auditLocked
            (fun k g _ _ hg => .enrolled hattempt hh hp' hpairings (.inl rfl) hg) ?_)
          rintro _ _ - ⟨⟩
        | false =>
          rintro _ _ hok -
          obtain ⟨-, rfl⟩ := Prod.mk.inj (Except.ok.inj hok)
          exact ⟨rfl, ⟨pairing, hp'⟩, rfl⟩
    · -- the attempt is lost while the state that counts it is being written
      rw [beq_eq_false_iff_ne.mpr hright, Bool.not_false, if_pos rfl]
      have hwrong : pairing.Refuses P env a.code := ⟨salt, expected, hsalt, hexpected, hright⟩
      have hmiss : Consumed P env (call.base env.now h.loaded) a persist h₁ _ _ :=
        .miss hp hlive hwrong.not_accepts
      exact counted_rejectPairing (fun k hfirst hlast => .wrong hattempt hh hp' hlive hwrong
        hfirst hlast (.refl _)) (fun k g hg => .refused hattempt hh hmiss
          ⟨hg.identity, hg.state, hg.compared⟩) fun _ => hrefused _

variable (P h) in
/-- A program run as part of the call `c` on the host `h`: it has come to the host `h₁` in `n`
file steps, and goes through stages of the call from there. -/
def GoesOn {α : Type} (c : Invocation) (n : ℕ) (h₁ : Host) (p : StoreProg α) : Prop :=
  p.Counted (Stage P h c) (fun _ _ _ => True) n h₁

/-- **An operation opens** by taking the lock and putting the identity in place. -/
theorem goesOn_opening {α : Type} {c : Invocation} {f : Identity × Bytes32 → StoreProg α}
    (hf : ∀ i key h₁, Identified P c.env.initial h i key h₁ →
      GoesOn P h c (5 + h.identitySteps) h₁ (f (i, key))) :
    GoesOn P h c 0 h (locked (ensureIdentity P c.env.initial >>= f)) :=
  counted_locked (fun _ _ => .untouched ⟨.inl rfl, rfl, rfl⟩)
    (counted_ensureIdentity (fun _ _ hg => .untouched hg) (fun _ => trivial) hf)

/-- And most of them go on by loading the state. -/
theorem goesOn_loaded {α : Type} {c : Invocation} {i : Identity} {key : Bytes32}
    {f : StoreState → StoreProg α} (hid : Identified P c.env.initial h i key h₁)
    (hf : GoesOn P h c h.openingSteps h₁ (f h.loaded)) :
    GoesOn P h c (5 + h.identitySteps) h₁ (loadState >>= f) := by
  have hsteps : h₁.stateSteps = h.stateSteps := by
    rw [Host.stateSteps, Host.stateSteps, hid.frame.1]
  refine counted_loadState (.untouched hid.untouched) ?_
  rw [hsteps, hid.loaded]
  exact hf

theorem goesOn_createPairing (ttl : ℤ) :
    GoesOn P h ⟨.createPairing ttl, env⟩ 0 h (createPairing P env ttl) := by
  by_cases httl : minPairingTtl ≤ ttl ∧ ttl ≤ maxPairingTtl
  · rw [createPairing, require_pos httl]
    exact goesOn_opening fun i key h₁ hid => goesOn_loaded hid <|
      counted_writeJson (fun _ _ _ => .untouched hid.untouched)
        (counted_auditLocked (fun k g _ _ hg => .created rfl hid.untouched hg) trivial)
  · rw [createPairing, require_neg httl]
    exact trivial

theorem goesOn_consumePairing (pairingId code peerId peerPublicKey : Json) :
    GoesOn P h ⟨.consumePairing pairingId code peerId peerPublicKey, env⟩ 0 h
      (consumePairing P env pairingId code peerId peerPublicKey) := by
  rw [consumePairing]
  cases ha : readAttempt P pairingId code peerId peerPublicKey with
  | error e => exact trivial
  | ok a =>
    refine goesOn_opening fun i key h₁ hid => goesOn_loaded hid ?_
    exact (counted_consumePairingLocked (.consume ha hid) hid.untouched).bind
      (fun _ _ _ _ => trivial) fun _ _ _ _ => trivial

theorem goesOn_completeLocked {document : Json} {request : EnrollmentRequest} {i : Identity}
    {key : Bytes32} {challenge : RelayChallenge}
    (hattempt : Attempts P h env (.completeRelayEnrollment document) request.toAttempt)
    (hunused : (h.loaded.pruneUsedChallenges env.now).usedChallenges.get? challenge.challengeId =
      none) (hh : h.Untouched h₁) :
    GoesOn P h ⟨.completeRelayEnrollment document, env⟩ h.openingSteps h₁
      (completeLocked P env (h.loaded.pruneUsedChallenges env.now) i key challenge request) := by
  have hconsumed : (consumePairingLocked P env (h.loaded.pruneUsedChallenges env.now)
      request.toAttempt false).Counted _ _ h.openingSteps h₁ :=
    counted_consumePairingLocked hattempt hh
  refine hconsumed.bind ?_ fun _ _ _ _ => trivial
  rintro m ⟨peer, s⟩ g hg
  obtain ⟨rfl, ⟨pairing, hp⟩, rfl⟩ := hg peer s rfl rfl
  have hstored (k : ℕ) (g : Host) (hg : ((h₁.withComparison request.pairingId true).withState
      (((h.loaded.pruneUsedChallenges env.now).enroll request.pairingId
        (newPeer P request.peerId request.key env.now)).useChallenge P challenge env.now)).Alike g) :
      Stage P h ⟨.completeRelayEnrollment document, env⟩ k g :=
    .enrolled hattempt hh hp rfl (.inr ⟨_, _, hunused, rfl⟩) hg
  -- the code was right; the state is written, and then two audit records
  refine counted_writeJson (fun _ _ _ => .right hattempt hh (.refl _))
    (counted_auditLocked (fun k g _ _ hg => hstored k g hg) ?_)
  exact counted_auditLocked (fun k g _ _ hg => hstored k g ⟨hg.identity, hg.state, hg.compared⟩)
    trivial

theorem goesOn_completeRelayEnrollment (document : Json) :
    GoesOn P h ⟨.completeRelayEnrollment document, env⟩ 0 h
      (completeRelayEnrollment P env document) := by
  rw [completeRelayEnrollment]
  cases hr : readEnrollmentRequest P document with
  | error e => exact trivial
  | ok request =>
    refine goesOn_opening fun i key h₁ hid => ?_
    dsimp only
    cases hch : validateRelayChallenge P request.challenge i.deviceId env.now with
    | error e => exact trivial
    | ok challenge =>
      refine goesOn_loaded hid ?_
      by_cases hunused : ((h.loaded.pruneUsedChallenges env.now).usedChallenges.get?
          challenge.challengeId).isNone = true
      · have hnone := Option.isNone_iff_eq_none.mp hunused
        rw [require_pos hunused]
        change GoesOn _ _ _ _ _ (if _ then _ else _)
        split_ifs with hproof
        · exact goesOn_completeLocked (.complete hr ⟨request, i, key, h₁, challenge, hr, hid, hch,
            hnone, hproof⟩) hnone hid.untouched
        · exact counted_auditLocked (fun k g _ _ hg => .untouched (hid.untouched.alike hg))
            trivial
      · rw [require_neg hunused]
        exact trivial

theorem goesOn_signRelayChallenge (challenge : Json) :
    GoesOn P h ⟨.signRelayChallenge challenge, env⟩ 0 h (signRelayChallenge P env challenge) := by
  refine goesOn_opening fun i key h₁ hid => ?_
  dsimp only
  cases hch : validateRelayChallenge P challenge i.deviceId env.now with
  | error e => exact trivial
  | ok c =>
    exact counted_auditLocked (fun k g _ _ hg => .untouched
      (hid.untouched.alike ⟨hg.identity, hg.state, hg.compared⟩)) trivial

theorem goesOn_revokePeer (peerId : Json) :
    GoesOn P h ⟨.revokePeer peerId, env⟩ 0 h (revokePeer P env peerId) := by
  refine goesOn_opening fun i key h₁ hid => goesOn_loaded hid ?_
  rcases hp : h.loaded.peerOf peerId with e | (_ | ⟨name, peer⟩)
  · exact trivial
  · exact trivial
  · refine FileProg.Counted.bind (p := liftM _) (FileProg.counted_lift (Q := fun m r g =>
      m = h.openingSteps ∧ r = .ok (some (name, peer)) ∧ g = h₁) ⟨rfl, rfl, rfl⟩) ?_
      fun _ _ _ _ => trivial
    rintro _ _ _ ⟨rfl, hfound, rfl⟩
    obtain rfl := Except.ok.inj hfound
    dsimp only
    by_cases hactive : peer.revokedAt.isNone = true
    · rw [require_pos hactive]
      exact counted_writeJson (fun _ _ _ => .untouched hid.untouched)
        (counted_auditLocked (fun k g _ _ hg => .revoked rfl hid.untouched hg) trivial)
    · rw [require_neg hactive]
      exact trivial

/-- **A rotation**: it replaces the identity, and then the state. -/
theorem goesOn_rotateIdentity (confirmed : Bool) :
    GoesOn P h ⟨.rotateIdentity confirmed, env⟩ 0 h (rotateIdentity P env confirmed) := by
  cases confirmed with
  | false => exact trivial
  | true =>
    refine goesOn_opening fun i key h₁ hid => goesOn_loaded hid ?_
    refine counted_generateIdentity (fun _ _ _ => .untouched hid.untouched)
      (fun k g hk hk' hg => .mixed rfl hid hk (by omega) hg) ?_
    exact counted_writeJson (fun k hk hk' => .mixed rfl hid (by omega) (by omega) (.refl _))
      (counted_auditLocked (fun k g _ _ hg => .rotated rfl hid hg) trivial)

/-- An operation as a call. -/
theorem GoesOn.reply {α : Type} {c : Invocation} {p : StoreProg α} {f : α → Reply}
    (hp : GoesOn P h c 0 h p) : GoesOn P h c 0 h (p >>= fun a => pure (f a)) :=
  FileProg.Counted.bind hp (fun _ _ _ _ => trivial) fun _ _ _ _ => trivial

/-- **Every call goes through its stages.** -/
theorem goesOn_call (P : Platform) (h : Host) (c : Invocation) :
    GoesOn P h c 0 h (c.call.program P c.env) := by
  obtain ⟨call, env⟩ := c
  cases call
  case createPairing ttl => exact (goesOn_createPairing ttl).reply
  case consumePairing a b c d => exact (goesOn_consumePairing a b c d).reply
  case completeRelayEnrollment d => exact (goesOn_completeRelayEnrollment d).reply
  case signRelayChallenge d => exact (goesOn_signRelayChallenge d).reply
  case listPeers =>
    exact GoesOn.reply (goesOn_opening fun _ _ _ hid => goesOn_loaded hid trivial)
  case revokePeer d => exact (goesOn_revokePeer d).reply
  case rotateIdentity b => exact (goesOn_rotateIdentity b).reply
  case identity => exact GoesOn.reply (goesOn_opening fun _ _ _ _ => trivial)
  case sign b => exact GoesOn.reply (goesOn_opening fun _ _ _ _ => trivial)

end Operations

/-! ### Stopping at the first fault -/

section Strictness

variable {P : Platform}

theorem stages_locked {α : Type} (body : StoreProg α) (h : Host) :
    (locked body).stages h = List.replicate 5 h ++ body.stages h := rfl

theorem strict_writeJson (f : Host → Host) : (writeJson f).Strict :=
  (FileProg.strict_fileStep _ _).bind fun _ => (FileProg.strict_fileStep _ _).bind fun _ =>
    (FileProg.strict_fileStep _ _).bind fun _ => (FileProg.strict_fileStep _ _).bind fun _ =>
      FileProg.strict_fileStep _ _

theorem strict_auditLocked (clock : Time) (event outcome : String)
    (details : List (String × Json)) : (auditLocked P clock event outcome details).Strict :=
  (FileProg.strict_fileStep _ _).bind fun _ => (FileProg.strict_fileStep _ _).bind fun _ =>
    (FileProg.strict_fileStep _ _).bind fun _ => FileProg.strict_fileStep _ _

theorem strict_locked {α : Type} {body : StoreProg α} (hbody : body.Strict) :
    (locked body).Strict :=
  (FileProg.strict_fileStep _ _).bind fun _ => (FileProg.strict_fileStep _ _).bind fun _ =>
    (FileProg.strict_fileStep _ _).bind fun _ => (FileProg.strict_fileStep _ _).bind fun _ =>
      (FileProg.strict_fileStep _ _).bind fun _ => hbody

theorem strict_generateIdentity (g : Generation) (generation : ℤ) :
    (generateIdentity P g generation).Strict :=
  (strict_writeJson _).bind fun _ => (strict_auditLocked _ _ _ _).bind fun _ =>
    FileProg.strict_done _

theorem strict_ensureIdentity (g : Generation) : (ensureIdentity P g).Strict := by
  refine FileProg.strict_state.bind fun h => ?_
  cases h.identity with
  | none => exact strict_generateIdentity _ _
  | some i =>
    exact (FileProg.strict_done _).bind fun _ => (FileProg.strict_fileStep _ _).bind fun _ =>
      FileProg.strict_done _

theorem strict_loadState : loadState.Strict := by
  refine FileProg.strict_state.bind fun h => ?_
  cases h.state with
  | none => exact FileProg.strict_done _
  | some s => exact (FileProg.strict_fileStep _ _).bind fun _ => FileProg.strict_done _

/-- A rotation stops at its first fault. -/
theorem strict_rotateIdentity (env : Supply) (confirmed : Bool) :
    (rotateIdentity P env confirmed).Strict :=
  (FileProg.strict_done _).bind fun _ => strict_locked <|
    (strict_ensureIdentity _).bind fun _ => strict_loadState.bind fun _ =>
      (strict_generateIdentity _ _).bind fun _ => (strict_writeJson _).bind fun _ =>
        (strict_auditLocked _ _ _ _).bind fun _ => FileProg.strict_done _

theorem stages_loadState (h : Host) : loadState.stages h = List.replicate h.stateSteps h := by
  rw [loadState, FileProg.stages_bind_ok (FileProg.exec_state h), Host.stateSteps]
  cases h.state <;> rfl

variable {env : Supply}

theorem strict_rejectPairing {α : Type} (s : StoreState) (details : List (String × Json))
    (e : Exn) : (rejectPairing P env s details e : StoreProg α).Strict :=
  (strict_writeJson _).bind fun _ => (strict_auditLocked _ _ _ _).bind fun _ =>
    FileProg.strict_done _

theorem strict_consumePairingLocked (s : StoreState) (a : Attempt) (persist : Bool) :
    (consumePairingLocked P env s a persist).Strict := by
  rw [consumePairingLocked]
  cases s.pairings.get? a.pairingId with
  | none => exact strict_rejectPairing _ _ _
  | some pairing =>
    dsimp only
    by_cases hexpired : pairing.expiresEpoch ≤ env.now
    · rw [if_pos hexpired]
      exact strict_rejectPairing _ _ _
    rw [if_neg hexpired]
    refine (FileProg.strict_done _).bind fun salt => (FileProg.strict_done _).bind fun expected => ?_
    cases hright : candidateDigest P env a.code salt == expected with
    | false => exact strict_rejectPairing _ _ _
    | true =>
      cases s.isActive a.peerId with
      | true => exact strict_rejectPairing _ _ _
      | false =>
        cases persist with
        | false => exact trivial
        | true =>
          exact (strict_writeJson _).bind fun _ => (strict_auditLocked _ _ _ _).bind fun _ =>
            FileProg.strict_done _

theorem strict_completeRelayEnrollment (document : Json) :
    (completeRelayEnrollment P env document).Strict := by
  refine (FileProg.strict_done _).bind fun request => strict_locked <|
    (strict_ensureIdentity _).bind fun identity => (FileProg.strict_done _).bind fun challenge =>
      strict_loadState.bind fun s => (FileProg.strict_done _).bind fun _ => ?_
  split_ifs
  · exact (strict_consumePairingLocked _ _ _).bind fun _ => (strict_writeJson _).bind fun _ =>
      (strict_auditLocked _ _ _ _).bind fun _ => (strict_auditLocked _ _ _ _).bind fun _ =>
        FileProg.strict_done _
  · exact (strict_auditLocked _ _ _ _).bind fun _ => FileProg.strict_done _

theorem strict_revokePeer (peerId : Json) : (revokePeer P env peerId).Strict := by
  refine strict_locked <| (strict_ensureIdentity _).bind fun _ => strict_loadState.bind fun _ =>
    (FileProg.strict_done _).bind fun found => ?_
  cases found with
  | none => exact FileProg.strict_done _
  | some entry =>
    exact (FileProg.strict_done _).bind fun _ => (strict_writeJson _).bind fun _ =>
      (strict_auditLocked _ _ _ _).bind fun _ => FileProg.strict_done _

/-- **Every operation stops at its first fault.** -/
theorem strict_call (call : Call) : (call.program P env).Strict := by
  have hreply {α : Type} {p : StoreProg α} {f : α → Reply} (hp : p.Strict) :
      (p >>= fun a => pure (f a)).Strict := hp.bind fun _ => FileProg.strict_done _
  cases call
  case createPairing ttl =>
    exact hreply <| (FileProg.strict_done _).bind fun _ => strict_locked <|
      (strict_ensureIdentity _).bind fun _ => strict_loadState.bind fun _ =>
        (strict_writeJson _).bind fun _ => (strict_auditLocked _ _ _ _).bind fun _ =>
          FileProg.strict_done _
  case consumePairing a b c d =>
    exact hreply <| (FileProg.strict_done _).bind fun _ => strict_locked <|
      (strict_ensureIdentity _).bind fun _ => strict_loadState.bind fun _ =>
        (strict_consumePairingLocked _ _ _).bind fun _ => FileProg.strict_done _
  case completeRelayEnrollment d => exact hreply (strict_completeRelayEnrollment d)
  case signRelayChallenge d =>
    exact hreply <| strict_locked <| (strict_ensureIdentity _).bind fun _ =>
      (FileProg.strict_done _).bind fun _ => (strict_auditLocked _ _ _ _).bind fun _ =>
        FileProg.strict_done _
  case listPeers =>
    exact hreply <| strict_locked <| (strict_ensureIdentity _).bind fun _ =>
      strict_loadState.bind fun _ => FileProg.strict_done _
  case revokePeer d => exact hreply (strict_revokePeer d)
  case rotateIdentity b => exact hreply (strict_rotateIdentity _ b)
  case identity =>
    exact hreply <| strict_locked <| (strict_ensureIdentity _).bind fun _ => FileProg.strict_done _
  case sign b =>
    exact hreply <| strict_locked <| (strict_ensureIdentity _).bind fun _ => trivial

/-- A call without faults. -/
theorem trialStep_none (h : Host) (c : Invocation) :
    trialStep P h ⟨c, fun _ => false⟩ = storeStep P h c := FileProg.run_no_fault _ h

/-- **How a call with faults ends**: it raises and leaves the stage before the file step that
failed first, or it is the call without them. -/
theorem trialStep_cases (h : Host) (t : Trial) :
    (∃ k e, Stage P h t.toInvocation k (trialStep P h t).2 ∧ FirstStop t.faults none k ∧
        (trialStep P h t).1 = .error e) ∨
      trialStep P h t = storeStep P h t.toInvocation := by
  rcases (strict_call t.call).run_cases t.faults h with ⟨k, e, hk, hstop, he⟩ | ⟨-, hexec⟩
  · have hstage := (goesOn_call P h t.toInvocation).stage hk
    rw [Nat.zero_add] at hstage
    exact .inl ⟨k, e, hstage, hstop, he⟩
  · exact .inr hexec

end Strictness

end PrinterHmi
