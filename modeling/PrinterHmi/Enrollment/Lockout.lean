import PrinterHmi.Enrollment.Replay

/-!
# Pairing offers are one-time, expiring and attempt-limited

The laws of the book of offers, over calls any file step of which may fail. What such a
call leaves is told as actions on the book too (`explains_stage`), with two exceptions
(`LosesTrackAt`): between comparing a wrong code and storing the attempt it cost, and
between replacing the identity and emptying the state, the book does not yet show what
has been done. A call that stops there is forgotten by the offers it was about.

In a run in which no call first stops at one of these file steps (`KeepsTrack`), the
laws of the book are the laws of the store (`pairing_offers_one_time`).
`attempts_not_limited` is a run in which six calls do, and six wrong codes are compared
with an offer that is then consumed.

Two things are assumed of the digest and of the random source: that two codes with one
digest under one salt are the same code (`Platform.CodeCollisionFree`), and that what is
drawn at random is new – the identifier of an offer, and the decoy compared in place of a
malformed code, which is never the digest of an offered one (`PairingFresh`).
-/

namespace PrinterHmi

open Tickets StoreEvent

/-! ### Where a call loses track of an offer -/

section Telling

variable (P : Platform)

/-- **The file steps at which a call loses track of an offer**, if it first stops there. -/
inductive LosesTrackAt (h : Host) (c : Invocation) (k : ℕ) : Prop
  /-- A wrong code has been compared with a live offer, and the state that counts it is being
  written. -/
  | attempt {a : Attempt} {pairing : Pairing} (hattempt : Attempts P h c.env c.call a)
      (hp : h.loaded.pairings.get? a.pairingId = some pairing)
      (hlive : c.env.now < pairing.expiresEpoch) (hwrong : pairing.Refuses P c.env a.code)
      (hfirst : h.openingSteps ≤ k) (hlast : k < h.openingSteps + 5)
  /-- The identity has been replaced, and the offers of the old one still stand. -/
  | rotation {i : Identity} {key : Bytes32} {h₁ : Host} (hcall : c.call = .rotateIdentity true)
      (hid : Identified P c.env.initial h i key h₁)
      {p : String} {pairing : Pairing} (hp : h.loaded.pairings.get? p = some pairing)
      (hfirst : h.openingSteps + 5 ≤ k) (hlast : k < h.openingSteps + 14)

/-- **The call keeps track of the offers**: it does not first stop where it would lose one. -/
def KeepsTrack (h : Host) (t : Trial) : Prop :=
  ∀ k, FirstStop t.faults none k → ¬LosesTrackAt P h t.toInvocation k

variable {P} {h g : Host} {c : Invocation} {k : ℕ}

/-- **What a call that stops leaves** is told as actions on the book, unless it loses track of
an offer there. -/
theorem explains_stage (hstage : Stage P h c k g) (hkeeps : ¬LosesTrackAt P h c k) (e : Exn) :
    ∃ as, Explains P ⟨h, c, .error e, g⟩ as := by
  have hbook {h₁ : Host} (hh : h.Untouched h₁) : h₁.book = h.book :=
    congrArg StoreState.book hh.loaded
  cases hstage with
  | untouched hg =>
    exact ⟨[], explains_quiet (hbook hg) hg.compared consumes_of_error (renews_of_error hg.identity)⟩
  | @right a h₁ hattempt hh hg =>
    have hnone : ∀ a ∈ ([] : List (Act String Terms)), ∀ p, a.issues p = false :=
      fun a ha => by cases ha
    refine ⟨[], explains_plain ?_ (fun p => ?_) hnone consumes_of_error
      (renews_of_call hattempt.not_rotate)⟩
    · have hsame : g.loaded = h₁.loaded := hg.loaded
      rw [show g.book = h.book from (congrArg StoreState.book hsame).trans (hbook hh)]
      exact .nil _
    · rw [hg.compared, Host.withComparison, hh.compared, List.count_cons]
      simp
  | wrong hattempt _ hp hlive hwrong hfirst hlast =>
    exact absurd (.attempt hattempt hp hlive hwrong hfirst hlast) hkeeps
  | refused hattempt hh hc hg => exact explains_unconsumed hattempt.not_rotate hh hc hg
  | @enrolled a pairing s h₁ hattempt hh hp hpairings _ hg =>
    refine ⟨[.redeem a.pairingId pairing.terms], explains_plain (Step.steps ?_) (fun p => ?_)
      (by simp [Act.issues]) consumes_of_error (renews_of_call hattempt.not_rotate)⟩
    · have hdrop : g.book = (h.loaded.dropPairing a.pairingId).book := by
        rw [Host.book, hg.loaded]
        funext q
        exact congrArg (fun d => (Dict.get? d q).map Pairing.ticket) hpairings
      rw [hdrop]
      exact step_redeem _ hp (newPeer P a.peerId a.key c.env.now)
    · rw [hg.compared]
      simp [Host.withState, Host.withComparison, hh.compared, Act.misses]
  | created hcall hh hg =>
    obtain ⟨call, env⟩ := c
    obtain rfl : call = _ := hcall
    exact ⟨_, explains_created hg.loaded (hg.compared.trans hh.compared)⟩
  | revoked hcall hh hg =>
    refine ⟨[], explains_quiet ?_ (hg.compared.trans hh.compared) consumes_of_error
      (renews_of_call fun _ hc => ?_)⟩
    · rw [Host.book, hg.loaded]
      rfl
    · rw [hcall] at hc
      cases hc
  | @mixed i key h₁ hcall hid hfirst hlast hg =>
    have hloaded : g.loaded = h.loaded := hg.loaded.trans hid.loaded
    refine ⟨[.clear], explains_cleared ?_ (hg.compared.trans hid.frame.2.1) consumes_of_error⟩
    -- no offer stands, as it would be lost
    funext p
    rw [Host.book, hloaded, StoreState.book]
    cases hp : h.loaded.pairings.get? p with
    | none => rfl
    | some pairing => exact absurd (.rotation hcall hid hp hfirst hlast) hkeeps
  | rotated _ hid hg =>
    exact ⟨_, explains_cleared (congrArg StoreState.book hg.loaded)
      (hg.compared.trans hid.frame.2.1) consumes_of_error⟩

/-- **A call that keeps track of the offers** is a few actions on the book, whichever file
steps fail. -/
theorem explained_trial {t : Trial} (hkeeps : KeepsTrack P h t) :
    ∃ as, Explains P
      ⟨h, t.toInvocation, (trialStep P h t).1, (trialStep P h t).2⟩ as := by
  rcases trialStep_cases (P := P) h t with ⟨k, e, hstage, hstop, he⟩ | heq
  · rw [he]
    exact explains_stage hstage (hkeeps k hstop) e
  · rw [heq]
    exact explained (storeStep_outcome h t.toInvocation)

end Telling

/-! ### The laws of a run -/

section Laws

variable (P : Platform)

/-- Codes with one digest under one salt are one code. -/
def Platform.CodeCollisionFree : Prop :=
  ∀ (code code' : PairingCode) (salt : Bytes),
    codeDigest P (String.ofList code.1) salt = codeDigest P (String.ofList code'.1) salt →
      code = code'

/-- **What is drawn at random is new**: the identifier of an offer that is about to
be made names no offer yet, and the decoy is not the digest of an offered code. -/
structure PairingFresh (es : List TrialEvent) (t : Trial) : Prop where
  pairingId : ∀ ttl, t.call = .createPairing ttl →
    ∀ e ∈ es, creates t.env.pairingId.1 e.plain = false
  decoy : ∀ e ∈ es, ∀ p, creates p e.plain = true →
    t.env.decoy.1 ≠ codeDigest P (String.ofList e.call.env.code.1) e.call.env.salt.1

/-- The actions a call stands for. -/
noncomputable def acts (e : TrialEvent) : List (Act String Terms) :=
  Classical.epsilon (Explains P e.plain)

variable {P} {es : List TrialEvent} {h : Host}

theorem explains_acts (hrun : Run (trialStep P) (PairingFresh P) .fresh es h)
    (hkeeps : ∀ e ∈ es, KeepsTrack P e.before e.call) {e : TrialEvent} (he : e ∈ es) :
    Explains P e.plain (acts P e) := by
  have hexplained := explained_trial (hkeeps e he)
  rw [hrun.step_of_mem he] at hexplained
  exact Classical.epsilon_spec hexplained

/-- An identifier is offered once. -/
theorem creates_le_one (hrun : Run (trialStep P) (PairingFresh P) .fresh es h) (p : String) :
    es.countP (fun e => creates p e.plain) ≤ 1 := by
  refine hrun.invariant
    (I := fun (es : List TrialEvent) _ => es.countP (fun e => creates p e.plain) ≤ 1) (by simp) ?_
  intro es h t _ ih hfresh
  rw [List.countP_append, List.countP_singleton]
  split_ifs with hc
  · have hnone : es.countP (fun e : TrialEvent => creates p e.plain) = 0 := by
      refine List.countP_eq_zero.mpr fun e he => ?_
      obtain ⟨⟨call, env⟩, faults⟩ := t
      cases call with
      | createPairing ttl =>
        simp only [TrialEvent.plain, creates, Bool.and_eq_true, beq_iff_eq] at hc
        rw [← hc.1, hfresh.pairingId ttl rfl e he]
        exact Bool.false_ne_true
      | _ => cases hc
    omega
  · omega

/-- **A run of the store is a trace of its book**, and the wrong codes compared are
the missed attempts. -/
theorem trace (hrun : Run (trialStep P) (PairingFresh P) .fresh es h)
    (hkeeps : ∀ e ∈ es, KeepsTrack P e.before e.call) :
    Trace pairingAttempts (es.flatMap (acts P)) h.book ∧
      ∀ p, h.compared.count (p, false) = (es.flatMap (acts P)).countP (Act.misses p) := by
  induction hrun with
  | start => exact ⟨.nil, fun p => by simp [Host.fresh]⟩
  | @next es h t hrun hfresh ih =>
    have hrun' := hrun.next hfresh
    have hex := explains_acts hrun' hkeeps (List.mem_append_right es (List.mem_singleton.mpr rfl))
    have hissues (p : String) : ((es ++ [(⟨h, t, (trialStep P h t).1, (trialStep P h t).2⟩ :
        TrialEvent)]).flatMap (acts P)).countP (Act.issues p) ≤ 1 :=
      (countP_flatMap_le fun e he => (explains_acts hrun' hkeeps he).issues p).trans
        (creates_le_one hrun' p)
    obtain ⟨htrace, hcount⟩ := ih fun e he => hkeeps e (List.mem_append_left _ he)
    rw [List.flatMap_append, List.flatMap_singleton] at hissues ⊢
    refine ⟨htrace.append hex.steps hissues, fun p => ?_⟩
    rw [List.countP_append, ← hcount p]
    exact hex.misses p

/-- What an accepted code was: the code of the offer whose salt and digest it was
compared with. -/
theorem code_of_accepts (hfree : P.CodeCollisionFree) {c env : Supply} (ttl : ℤ) {code : Json}
    (hdecoy : env.decoy.1 ≠ codeDigest P (String.ofList c.code.1) c.salt.1)
    (h : ∃ salt expected, b64decodeText invalidEncoded (newPairing P c ttl).salt = .ok salt ∧
      b64decodeText invalidEncoded (newPairing P c ttl).codeDigest = .ok expected ∧
      candidateDigest P env (normalizeCode P code).toOption salt = expected) :
    normalizeCode P code = .ok (String.ofList c.code.1) := by
  obtain ⟨salt, expected, hsalt, hexp, hcand⟩ := h
  simp only [newPairing, b64decodeText_b64encode, Except.ok.injEq] at hsalt hexp
  subst hsalt hexp
  cases hn : normalizeCode P code with
  | error e =>
    rw [hn] at hcand
    exact absurd hcand hdecoy
  | ok n =>
    rw [hn] at hcand
    obtain ⟨hlen, hmem⟩ := normalizeCode_eq_ok hn
    have hcode := hfree ⟨n.toList, hlen, hmem⟩ c.code c.salt.1
      (by rw [String.ofList_toList]; exact hcand)
    rw [← hcode, String.ofList_toList]

/-- **A success is of an offer still standing**: made earlier in the run with no
rotation since, not yet expired, under the code it was made with, and with fewer
than five wrong codes compared before. -/
theorem consumed_offer (hfree : P.CodeCollisionFree) {pre post : List TrialEvent} {e : TrialEvent}
    {p : String} (hrun : Run (trialStep P) (PairingFresh P) .fresh (pre ++ e :: post) h)
    (hkeeps : ∀ x ∈ pre ++ e :: post, KeepsTrack P x.before x.call)
    (he : consumes p e.plain = true) :
    e.before.compared.count (p, false) < 5 ∧
      ∃ pre' c mid ttl code, pre = pre' ++ c :: mid ∧ c.call.call = .createPairing ttl ∧
        creates p c.plain = true ∧ (∀ r ∈ mid, renews r.plain = false) ∧
        e.call.env.now < (newPairing P c.call.env ttl).expiresEpoch ∧
        e.call.call.presents? = some (.str p, code) ∧
        normalizeCode P code = .ok (String.ofList c.call.env.code.1) := by
  -- the consumption is a redemption in the trace, which gives the issue before it
  obtain ⟨t, code, hacts, hred⟩ := (explains_acts hrun hkeeps (by simp)).redeemed p he
  obtain ⟨hpre, hfresh, -⟩ := hrun.split
  have hkeeps' : ∀ x ∈ pre, KeepsTrack P x.before x.call := fun x hx =>
    hkeeps x (List.mem_append_left _ hx)
  have htrace := (trace hrun hkeeps).1
  rw [List.flatMap_append, List.flatMap_cons, hacts, List.singleton_append] at htrace
  obtain ⟨hmiss, -, x, y, hxy, hclear⟩ := htrace.redeem (by decide)
  obtain ⟨pre', c, mid, rfl, hc, hmid⟩ := exists_of_flatMap_eq hxy
  obtain ⟨ttl, hcall, hcreates, rfl⟩ := (explains_acts hpre hkeeps' (by simp)).issued p t hc
  have hcount := (trace hpre hkeeps').2 p
  refine ⟨?_, pre', c, mid, ttl, code, rfl, hcall, hcreates, fun r hr => ?_, hred.live,
    hred.presents, code_of_accepts hfree ttl (hfresh.decoy c (by simp) p hcreates)
      hred.accepts⟩
  · rw [hcount]
    rw [show pairingAttempts = 5 from rfl] at hmiss
    exact_mod_cast hmiss
  · -- a rotation in between would have cleared the offer
    by_contra hrot
    obtain ⟨a, ha, hca⟩ := (explains_acts hpre hkeeps' (e := r) (by simp [hr])).cleared
      (Bool.eq_true_of_not_eq_false hrot)
    exact Bool.false_ne_true ((hclear a (hmid r hr a ha)).symm.trans hca)

/-- Completing a request consumes the offer it names. -/
theorem consumes_of_completes (hrun : Run (trialStep P) (PairingFresh P) .fresh es h)
    {e : TrialEvent} (he : e ∈ es) {request : Json} (hc : completes request e.plain = true) :
    ∃ p, request.field "pairing_id" = .str p ∧ consumes p e.plain = true := by
  have hstep := hrun.step_of_mem he
  obtain ⟨before, ⟨⟨call, env⟩, faults⟩, result, after⟩ := e
  cases call with
  | completeRelayEnrollment document =>
    simp only [TrialEvent.plain, completes, Bool.and_eq_true, beq_iff_eq] at hc
    obtain ⟨hok, rfl⟩ := hc
    -- a call that returned is one without faults
    rcases trialStep_cases (P := P) before ⟨⟨.completeRelayEnrollment document, env⟩, faults⟩ with
      ⟨k, exn, -, -, hraised⟩ | heq
    · rw [hstep] at hraised
      dsimp only at hraised
      rw [hraised] at hok
      cases hok
    · have hout := storeStep_outcome (P := P) before ⟨.completeRelayEnrollment document, env⟩
      rw [← heq, hstep] at hout
      dsimp only at hout
      cases hout with
      | completed hr =>
        obtain ⟨-, -, -, hp, -⟩ := readEnrollmentRequest_eq_ok.mp hr
        refine ⟨_, hp, ?_⟩
        simp only [TrialEvent.plain, consumes, Call.presents?, hp, beq_self_eq_true, Bool.and_true]
        exact hok
      | _ => cases hok
  | _ => cases hc

/-- **Pairing offers are one-time, expiring and attempt-limited**, over both
operations that consume them, any clock readings and any file steps that fail, as
long as no call first stops where it loses track of an offer. -/
theorem pairing_offers_one_time (hfree : P.CodeCollisionFree)
    (hrun : Run (trialStep P) (PairingFresh P) .fresh es h)
    (hkeeps : ∀ e ∈ es, KeepsTrack P e.before e.call) (p : String) :
    es.countP (fun e => consumes p e.plain) ≤ 1 ∧
    (∀ pre e post, es = pre ++ e :: post → consumes p e.plain = true →
      e.before.compared.count (p, false) < 5 ∧
      ∃ pre' c mid ttl code, pre = pre' ++ c :: mid ∧ c.call.call = .createPairing ttl ∧
        creates p c.plain = true ∧ (∀ r ∈ mid, renews r.plain = false) ∧
        e.call.env.now < (newPairing P c.call.env ttl).expiresEpoch ∧
        e.call.call.presents? = some (.str p, code) ∧
        normalizeCode P code = .ok (String.ofList c.call.env.code.1)) ∧
    h.compared.count (p, false) ≤ 5 ∧
    (∀ pairing, h.loaded.pairings.get? p = some pairing →
      1 ≤ pairing.attemptsRemaining ∧ pairing.attemptsRemaining ≤ 5) ∧
    ∀ request, es.countP (fun e => completes request e.plain) ≤ 1 := by
  obtain ⟨htrace, hcount⟩ := trace hrun hkeeps
  have hone (q : String) : es.countP (fun e => consumes q e.plain) ≤ 1 := by
    refine le_trans (countP_le_flatMap fun e he hc => ?_) (htrace.redeems_le_one (by decide) q)
    obtain ⟨t, code, hacts, -⟩ := (explains_acts hrun hkeeps he).redeemed q hc
    exact ⟨.redeem q t, by simp [hacts], by simp [Act.redeems]⟩
  refine ⟨hone p, ?_, ?_, ?_, fun request => ?_⟩
  · rintro pre e post rfl he
    exact consumed_offer hfree hrun hkeeps he
  · have hle := htrace.misses_le (by decide) p
    rw [show pairingAttempts = 5 from rfl] at hle
    rw [hcount p]
    exact_mod_cast hle
  · intro pairing hp
    exact htrace.left_mem (by decide) (k := pairing.ticket)
      (by rw [Host.book, StoreState.book, hp, Option.map_some])
  · -- A request names one offer, so completing it consumes that offer.
    by_cases hany : ∃ e ∈ es, completes request e.plain = true
    · obtain ⟨e, he, hcompletes⟩ := hany
      obtain ⟨q, hq, -⟩ := consumes_of_completes hrun he hcompletes
      refine le_trans (List.countP_mono_left fun e he hc => ?_) (hone q)
      obtain ⟨q', hq', hcons⟩ := consumes_of_completes hrun he hc
      obtain rfl : q = q' := Json.str.inj (hq.symm.trans hq')
      exact hcons
    · rw [List.countP_eq_zero.mpr fun e he hc => hany ⟨e, he, hc⟩]
      exact Nat.zero_le 1

end Laws

/-! ### A wrong code, step by step -/

section Missed

variable {P : Platform} {h : Host} {env : Supply} {s : StoreState} {i : Identity} {key : Bytes32}

/-- What an attempt presented by itself goes through, to an agent that has its identity: seven
file steps change nothing before the offer is looked up. -/
theorem course_consumePairing {pairingId code peerId peerPublicKey : Json} {a : Attempt}
    {l : List Host} {e : Exn} {h' : Host}
    (ha : readAttempt P pairingId code peerId peerPublicKey = .ok a)
    (hi : h.identity = some i) (hkey : checkIdentity P i = .ok key) (hs : h.state = some s)
    (hattempt : (consumePairingLocked P env s a true).Course h l (.error e) h') :
    ((Call.consumePairing pairingId code peerId peerPublicKey).program P env).Course h
      (List.replicate 7 h ++ l) (.error e) h' := by
  have hid : Identified P env.initial h i key h := .stored hi hkey
  have hensure : (ensureIdentity P env.initial).Course h [h] (.ok (i, key)) h := by
    refine ⟨?_, hid.exec⟩
    rw [ensureIdentity, FileProg.stages_bind_ok (FileProg.exec_state h), hi]
    dsimp only
    rw [hkey]
    rfl
  have hload : loadState.Course h [h] (.ok s) h := by
    refine ⟨?_, by rw [exec_loadState, Host.loaded, hs, Option.getD_some]⟩
    rw [stages_loadState, Host.stateSteps, hs]
    rfl
  have hbody := hensure.bind (k := fun _ => loadState >>= fun state =>
    consumePairingLocked P env state a true >>= fun x => pure (publicPeer x.1))
    (hload.bind (k := fun state => consumePairingLocked P env state a true >>= fun x =>
      pure (publicPeer x.1)) (hattempt.bind_error _))
  have hprogram : (consumePairing P env pairingId code peerId peerPublicKey).Course h
      (List.replicate 7 h ++ l) (.error e) h' := by
    rw [consumePairing, ha]
    exact (FileProg.course_lift_ok rfl h).bind ⟨by rw [stages_locked, hbody.stages]; rfl,
      by rw [exec_locked, hbody.exec]⟩
  exact hprogram.bind_error _

/-- **The course of a wrong code**: the state with one attempt less is written in five file
steps, and the refusal is recorded in four. -/
theorem course_missed {a : Attempt} {pairing : Pairing} {persist : Bool}
    (hp : s.pairings.get? a.pairingId = some pairing) (hlive : env.now < pairing.expiresEpoch)
    (hwrong : pairing.Refuses P env a.code) {g g' : Host}
    (hg : g = (h.withComparison a.pairingId false).withState (s.afterMiss a.pairingId pairing))
    (hg' : g' = g.audited P env.audited "pairing.consumed" "rejected"
      [("pairing_id", .str a.pairingId)]) :
    (consumePairingLocked P env s a persist).Course h
      (List.replicate 5 (h.withComparison a.pairingId false) ++ (List.replicate 3 g ++ [g']))
      (.error invalidPairingCode) g' := by
  obtain ⟨salt, expected, hsalt, hexpected, hne⟩ := hwrong
  rw [consumePairingLocked, hp]
  dsimp only
  rw [if_neg (not_le.mpr hlive), hsalt, hexpected, hg', hg]
  change FileProg.Course (FileProg.record _ >>= fun _ =>
    if !(candidateDigest P env a.code salt == expected) then _ else _) _ _ _ _
  rw [beq_eq_false_iff_ne.mpr hne]
  exact ⟨rfl, rfl⟩

end Missed

/-! ### Two runs -/

namespace Sample

theorem codeCollisionFree : platform.CodeCollisionFree := fun _ _ _ h =>
  pbkdf2_injective (Subtype.ext h)

/-- The offer, and its code presented, with no fault. -/
def offerTrial : Trial := ⟨offer, fun _ => false⟩

/-- The code presented, with no fault. -/
def presentedTrial : Trial := ⟨presented, fun _ => false⟩

/-- Another code for the offer. -/
def guess : Invocation :=
  ⟨.consumePairing (.str pairingId.1) (.str "BBBBB-BBBBB") (.str "printerhmi-relay")
    (.str (b64encode relayPublic.1)), supply (moment 1) pairingId⟩

/-- The other code, presented while file step `k` fails. -/
def guessing (k : ℕ) : Trial := ⟨guess, fun j => j == k⟩

theorem firstStop_guessing (k : ℕ) : FirstStop (guessing k).faults none k :=
  ⟨.inl (by simp [guessing]), fun j hj => ⟨by simp [guessing, Nat.ne_of_lt hj], by simp⟩⟩

/-- The offer of the sample runs. -/
def offeredPairing : Pairing := newPairing platform (supply (moment 0) pairingId) 600

/-- The code guessed is not the one offered. -/
theorem refuses_guess : offeredPairing.Refuses platform (supply (moment 1) pairingId)
    (relayAttempt (.str "BBBBB-BBBBB")).code :=
  ⟨salt.1, codeDigest platform (String.ofList code.1) salt.1, b64decodeText_b64encode _ _,
    b64decodeText_b64encode _ _, by decide⟩

/-- The host after the offer and `n` wrong codes that were forgotten. -/
structure Guessed (h : Host) (n : ℕ) : Prop where
  identity : h.identity = some agentIdentity
  state : h.state = some offeredState
  compared : h.compared = List.replicate n (pairingId.1, false)

theorem pairings_offeredState : offeredState.pairings.get? pairingId.1 = some offeredPairing := by
  rw [offeredState, StoreState.offer, Dict.get?_insert]
  exact if_pos rfl

/-- The offer makes such a host. -/
theorem guessed_offered : ∃ r h, trialStep platform .fresh offerTrial = (.ok r, h) ∧ Guessed h 0 := by
  have hoffer : trialStep platform .fresh offerTrial = _ := (trialStep_none .fresh offer).trans
    (storeStep_document rfl (exec_createPairing (by decide) (.generated rfl)))
  exact ⟨_, _, hoffer, rfl, rfl, rfl⟩

section Steps

variable {h : Host} {n k : ℕ}

/-- The course of a guess. -/
theorem Guessed.course (hg : Guessed h n) {g g' : Host}
    (hg₁ : g = (h.withComparison pairingId.1 false).withState
      (offeredState.afterMiss pairingId.1 offeredPairing))
    (hg₂ : g' = g.audited platform (moment 1) "pairing.consumed" "rejected"
      [("pairing_id", .str pairingId.1)]) :
    (guess.call.program platform guess.env).Course h
      (List.replicate 7 h ++ (List.replicate 5 (h.withComparison pairingId.1 false) ++
        (List.replicate 3 g ++ [g']))) (.error invalidPairingCode) g' :=
  course_consumePairing (readAttempt_relay (.str "BBBBB-BBBBB")) hg.identity
    (checkIdentity_newIdentity _ _) hg.state
    (course_missed pairings_offeredState (by decide) refuses_guess hg₁ hg₂)

/-- **What a guess leaves while one of its last file steps fails**: the comparison, and the state
with an attempt less if its replacement went through. -/
theorem Guessed.stopped (hg : Guessed h n) {t : Host}
    (ht : (List.replicate 5 (h.withComparison pairingId.1 false) ++
      List.replicate 3 ((h.withComparison pairingId.1 false).withState
        (offeredState.afterMiss pairingId.1 offeredPairing)))[k]? = some t) :
    ∃ e, trialStep platform h (guessing (7 + k)) = (.error e, t) := by
  refine (hg.course rfl rfl).run_of_firstStop (strict_call _) (firstStop_guessing (7 + k)) ?_
  rw [List.getElem?_append_right (by simp), List.length_replicate, Nat.add_sub_cancel_left,
    ← List.append_assoc]
  exact (List.getElem?_append_left (List.getElem?_eq_some_iff.mp ht).1).trans ht

/-- A guess is forgotten while the temporary file cannot be opened. -/
theorem Guessed.forgotten (hg : Guessed h n) :
    ∃ e h', trialStep platform h (guessing 7) = (.error e, h') ∧ Guessed h' (n + 1) := by
  obtain ⟨e, he⟩ := hg.stopped (k := 0) rfl
  exact ⟨e, _, he, hg.identity, hg.state, by
    rw [Host.withComparison, hg.compared, List.replicate_succ]⟩

end Steps

/-- What is drawn is new after the one offer of the sample runs. -/
theorem pairingFresh_sample {es : List TrialEvent} {t : Trial}
    (ht : ∀ ttl, t.call = .createPairing ttl → es = []) (hdecoy : t.env.decoy = repeated 0)
    (hes : ∀ e ∈ es, e.call.env.code = code ∧ e.call.env.salt = salt) :
    PairingFresh platform es t := by
  refine ⟨fun ttl hcall e he => ?_, fun e he p _ => ?_⟩
  · rw [ht ttl hcall] at he
    cases he
  · rw [(hes e he).1, (hes e he).2, hdecoy]
    decide

/-- The calls of the sample runs make offers with one code. -/
theorem supplied {es : List TrialEvent} {k n : ℕ}
    (hcalls : es.map Event.call = offerTrial :: List.replicate n (guessing k)) :
    ∀ e ∈ es, e.call.env.code = code ∧ e.call.env.salt = salt := by
  intro e he
  have hcall := List.mem_map_of_mem (f := Event.call) he
  rw [hcalls, List.mem_cons, List.mem_replicate] at hcall
  rcases hcall with hcall | ⟨-, hcall⟩
  · rw [hcall]
    exact ⟨rfl, rfl⟩
  · rw [hcall]
    exact ⟨rfl, rfl⟩

/-- A call without faults keeps track of the offers. -/
theorem keepsTrack_none (h : Host) (c : Invocation) :
    KeepsTrack platform h ⟨c, fun _ => false⟩ := by
  rintro k ⟨hstop, -⟩ -
  simp at hstop

/-- A guess whose refusal cannot be recorded has been counted. -/
theorem Guessed.keepsTrack {h : Host} {n : ℕ} (hg : Guessed h n) :
    KeepsTrack platform h (guessing 12) := by
  intro k hk hloses
  obtain rfl := FileProg.firstStop_unique (firstStop_guessing 12) hk
  have hopening : h.openingSteps = 7 := by
    rw [Host.openingSteps, Host.identitySteps, Host.stateSteps, hg.identity, hg.state]
    rfl
  cases hloses with
  | attempt _ _ _ _ _ hlast =>
    rw [hopening] at hlast
    exact absurd hlast (by decide)
  | rotation hcall => cases hcall

/-- The offer, and `n` wrong codes the store forgets. -/
theorem guesses (n : ℕ) : ∃ es h, Run (trialStep platform) (PairingFresh platform) .fresh es h ∧
    es.map Event.call = offerTrial :: List.replicate n (guessing 7) ∧ Guessed h n := by
  induction n with
  | zero =>
    obtain ⟨r, h, hoffer, hg⟩ := guessed_offered
    exact ⟨_, h, Run.start.next_eq (pairingFresh_sample (fun _ _ => rfl) rfl (by simp)) hoffer,
      rfl, hg⟩
  | succ n ih =>
    obtain ⟨es, h, hrun, hcalls, hg⟩ := ih
    obtain ⟨e, h', hguess, hg'⟩ := hg.forgotten
    refine ⟨_, h', hrun.next_eq (pairingFresh_sample (fun _ hc => Call.noConfusion hc) rfl
      (supplied hcalls)) hguess, ?_, hg'⟩
    rw [List.map_append, hcalls, List.replicate_succ']
    rfl

end Sample

open Sample in
/-- **Six wrong codes, and then the right one**: while the temporary file of the state cannot be
opened, a wrong code is compared with the offer and forgotten. -/
theorem attempts_not_limited : platform.CodeCollisionFree ∧ ∃ pre e h,
    Run (trialStep platform) (PairingFresh platform) .fresh (pre ++ [e]) h ∧
    pre.map Event.call = offerTrial :: List.replicate 6 (guessing 7) ∧ e.call = presentedTrial ∧
    consumes pairingId.1 (TrialEvent.plain e) = true ∧
    e.before.compared.count (pairingId.1, false) = 6 := by
  obtain ⟨es, h, hrun, hcalls, hg⟩ := guesses 6
  have hloaded : h.loaded = offeredState := by rw [Host.loaded, hg.state, Option.getD_some]
  obtain ⟨r, h', hstep, -⟩ := storeStep_presented hg.identity (checkIdentity_newIdentity _ _)
    (by rw [hloaded]; exact pairings_offeredState) rfl (by rw [hloaded]; rfl)
  have htrial : trialStep platform h presentedTrial = (.ok r, h') :=
    (trialStep_none h presented).trans hstep
  refine ⟨codeCollisionFree, es, _, h', hrun.next_eq (pairingFresh_sample
    (fun _ hc => Call.noConfusion hc) rfl (supplied hcalls)) htrial, hcalls, rfl,
    beq_self_eq_true _, ?_⟩
  rw [hg.compared, List.count_replicate_self]

open Sample in
/-- The offer of a sample run is consumed once, although a wrong code before was not recorded. -/
theorem pairing_offers_one_time_sample : ∃ es h,
    Run (trialStep platform) (PairingFresh platform) .fresh es h ∧
    es.map Event.call = [offerTrial, guessing 12, presentedTrial] ∧
    es.countP (fun e : TrialEvent => consumes pairingId.1 e.plain) = 1 ∧
    h.compared.count (pairingId.1, false) ≤ 5 := by
  obtain ⟨r₁, h₁, hoffer, hg⟩ := guessed_offered
  obtain ⟨e, hguess⟩ := hg.stopped (k := 5) rfl
  -- the guess has cost the offer one attempt
  have hleft : (offeredState.afterMiss pairingId.1 offeredPairing).pairings.get? pairingId.1 =
      some { offeredPairing with attemptsRemaining := 4 } := by
    rw [StoreState.afterMiss, if_neg (by decide), Dict.get?_insert, if_pos rfl]
    rfl
  obtain ⟨r₃, h₃, hpresent, -⟩ := storeStep_presented (h := (h₁.withComparison pairingId.1
    false).withState (offeredState.afterMiss pairingId.1 offeredPairing)) hg.identity
    (checkIdentity_newIdentity _ _) hleft rfl rfl
  have hrun₁ := Run.start.next_eq (pairingFresh_sample (fun _ _ => rfl) rfl (by simp)) hoffer
  have hrun₂ := hrun₁.next_eq (pairingFresh_sample (fun _ hc => Call.noConfusion hc) rfl
    (supplied (k := 12) (n := 0) rfl)) hguess
  have hrun := hrun₂.next_eq (pairingFresh_sample (fun _ hc => Call.noConfusion hc) rfl
    (supplied (k := 12) (n := 1) rfl)) ((trialStep_none _ presented).trans hpresent)
  have hlaw := pairing_offers_one_time codeCollisionFree hrun (fun x hx => ?_) pairingId.1
  · exact ⟨_, h₃, hrun, rfl, le_antisymm hlaw.1 (List.countP_pos_iff.mpr
      ⟨_, List.mem_append_right _ (List.mem_singleton.mpr rfl), beq_self_eq_true _⟩), hlaw.2.2.1⟩
  · simp only [List.nil_append, List.cons_append, List.mem_cons, List.not_mem_nil, or_false] at hx
    rcases hx with rfl | rfl | rfl
    · exact keepsTrack_none _ _
    · exact hg.keepsTrack
    · exact keepsTrack_none _ _

end PrinterHmi
