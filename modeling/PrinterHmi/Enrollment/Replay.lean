import PrinterHmi.Enrollment.Acceptance

/-!
# A challenge and its reuse

A challenge that completed an enrollment is written down with the expiry it
carried, and a challenge whose identifier is written down completes no other one.
What is written down is forgotten once that expiry has passed. A challenge carries
no signature of the relay, and the peer's proof covers its identifier and nonce but
not its dates: presented again with later dates, after the recorded expiry, the
same identifier is fresh.

So an identifier is used once as long as no valid challenge is presented under it
once the recorded expiry has passed (`NotRedated`, `challenge_used_once`), and
`challenge_reused` is a run in which one is.
-/

namespace PrinterHmi

open StoreEvent

/-! ### What a completion presents -/

/-- The identifier of the challenge in a request. -/
def presentedId (request : Json) : Json := (request.field "challenge").field "challenge_id"

/-- The expiry of the challenge in a request. -/
def presentedExpiry (P : Platform) (request : Json) : Except Exn Time :=
  parseTimestamp P invalidChallengeTimestamp ((request.field "challenge").field "expires_at")

/-- The call completed an enrollment over the challenge `id`. -/
def StoreEvent.completesChallenge (id : Json) (e : StoreEvent) : Bool :=
  match e.call.call with
  | .completeRelayEnrollment request => e.result.isOk && presentedId request == id
  | _ => false

theorem completesChallenge_iff {id : Json} {e : StoreEvent} :
    completesChallenge id e = true ↔ ∃ request, e.call.call = .completeRelayEnrollment request ∧
      e.result.isOk = true ∧ presentedId request = id := by
  rw [completesChallenge]
  cases e.call.call with
  | completeRelayEnrollment request => simp
  | _ => simp

/-- The clock does not go back. -/
def ClockMonotone (es : List TrialEvent) (t : Trial) : Prop :=
  ∀ e ∈ es, e.call.env.now ≤ t.env.now

/-- **The challenge presented is not an old one with new dates**: if a well-formed request
presents one that is valid for the present identity, and its identifier completed an
enrollment under that identity, then the expiry recorded there has not passed. -/
def NotRedated (P : Platform) (es : List TrialEvent) (t : Trial) : Prop :=
  ∀ document request, t.call = .completeRelayEnrollment document →
    readEnrollmentRequest P document = .ok request →
    ∀ pre e post, es = pre ++ e :: post → (∀ r ∈ post, renews r.plain = false) →
      ∀ i challenge, e.after.identity = some i →
        validateRelayChallenge P request.challenge i.deviceId t.env.now = .ok challenge →
        ∀ used, e.call.call = .completeRelayEnrollment used → e.result.isOk = true →
          presentedId used = .str challenge.challengeId →
          ∀ recorded, presentedExpiry P used = .ok recorded → t.env.now < recorded

/-- A challenge presented before any recorded expiry is not one with new dates. -/
theorem notRedated_of_forall {P : Platform} {es : List TrialEvent} {t : Trial}
    (h : ∀ e ∈ es, ∀ used, e.call.call = .completeRelayEnrollment used →
      ∀ recorded, presentedExpiry P used = .ok recorded → t.env.now < recorded) :
    NotRedated P es t := by
  rintro document request - - pre e post rfl - i challenge - - used hused - - recorded hrecorded
  exact h e (by simp) used hused recorded hrecorded

section Effect

variable {P : Platform}

/-- What a completed enrollment read, and what it did to the used challenges: its own, with the
expiry it presented, is new among those that have not expired. -/
def Completion (P : Platform) (h : Host) (env : Supply) (document : Json) (h' : Host) : Prop :=
  ∃ request i key h₁ challenge, readEnrollmentRequest P document = .ok request ∧
    Identified P env.initial h i key h₁ ∧ h'.identity = some i ∧
    validateRelayChallenge P request.challenge i.deviceId env.now = .ok challenge ∧
    (h.loaded.pruneUsedChallenges env.now).usedChallenges.get? challenge.challengeId = none ∧
    h'.loaded.usedChallenges = (h.loaded.pruneUsedChallenges env.now).usedChallenges.insert
      challenge.challengeId ⟨challenge.relayId, challenge.expires, P.timestamp env.now⟩

/-- A valid challenge is presented under its identifier, with its expiry. -/
theorem presented_of_valid {document : Json} {request : EnrollmentRequest} {deviceId : String}
    {now : Time} {c : RelayChallenge} (hr : readEnrollmentRequest P document = .ok request)
    (hc : validateRelayChallenge P request.challenge deviceId now = .ok c) :
    presentedId document = .str c.challengeId ∧ presentedExpiry P document = .ok c.expires := by
  obtain ⟨-, -, -, -, -, -, -, -, -, -, hchallenge⟩ := readEnrollmentRequest_eq_ok.mp hr
  rw [hchallenge] at hc
  obtain ⟨-, -, -, hid, -, -, -, -, -, -, hexp, -⟩ := validateRelayChallenge_eq_ok.mp hc
  exact ⟨hid, hexp⟩

/-- The used challenges that have not expired are still there. -/
def Kept (h : Host) (now : Time) (h' : Host) : Prop :=
  ∀ id used, h.loaded.usedChallenges.get? id = some used → now < used.expiresEpoch →
    h'.loaded.usedChallenges.get? id = some used

theorem kept_of_eq {h h' : Host} {now : Time}
    (heq : h'.loaded.usedChallenges = h.loaded.usedChallenges) : Kept h now h' := by
  intro id used hid _
  rw [heq]
  exact hid

theorem kept_of_pruned {h h' : Host} {now : Time}
    (heq : h'.loaded.usedChallenges = (h.loaded.pruneUsedChallenges now).usedChallenges) :
    Kept h now h' := by
  intro id used hid hlive
  rw [heq]
  exact Dict.get?_filter_eq_some.mpr ⟨hid, decide_eq_true hlive⟩

/-- The used challenges an attempt works on are those stored, pruned or not. -/
theorem kept_of_base {h h' : Host} {now : Time} {call : Call}
    (heq : h'.loaded.usedChallenges = (call.base now h.loaded).usedChallenges) :
    Kept h now h' := by
  cases call with
  | completeRelayEnrollment request => exact kept_of_pruned heq
  | _ => exact kept_of_eq heq

theorem kept_of_consumed {h h₁ h₂ : Host} {c : Invocation} {a : Attempt} {persist : Bool}
    {e : Exn} (hh : h.Untouched h₁)
    (hc : Consumed P c.env (c.call.base c.env.now h.loaded) a persist h₁ (.error e) h₂) :
    Kept h c.env.now h₂ := by
  cases hc with
  | absent => exact kept_of_base rfl
  | undecodable => exact kept_of_eq (by rw [hh.loaded])
  | miss => exact kept_of_base rfl
  | active => exact kept_of_base rfl

/-- A challenge that is new among those an attempt works on leaves them as they were. -/
theorem kept_of_insert {h h' : Host} {now : Time} {call : Call} {id : String}
    {used : UsedChallenge} (hnew : (call.base now h.loaded).usedChallenges.get? id = none)
    (heq : h'.loaded.usedChallenges = (call.base now h.loaded).usedChallenges.insert id used) :
    Kept h now h' := by
  intro id' used' hid hlive
  have hkept : Kept h now { h with state := some (call.base now h.loaded) } := kept_of_base rfl
  have hbase : (call.base now h.loaded).usedChallenges.get? id' = some used' :=
    hkept id' used' hid hlive
  have hne : id ≠ id' := by
    rintro rfl
    exact absurd (hbase.symm.trans hnew) (Option.some_ne_none _)
  rw [heq, Dict.get?_insert, if_neg hne]
  exact hbase

/-- **A stage keeps the identity and the used challenges that have not expired**, unless the
identity has been replaced. -/
theorem kept_of_stage {h g : Host} {c : Invocation} {k : ℕ} (hstage : Stage P h c k g) {i : Identity}
    (hi : h.identity = some i) : (c.call = .rotateIdentity true ∧ g.identity ≠ some i) ∨
      (g.identity = some i ∧ Kept h c.env.now g) := by
  have hsame {h₁ : Host} (hh : h.Untouched h₁) (hg : g.identity = h₁.identity) :
      g.identity = some i := by
    rcases hh.identity with hsame | hnone
    · exact hg.trans (hsame.trans hi)
    · rw [hnone] at hi
      cases hi
  have hreplaced {i' : Identity} {key : Bytes32} {h₁ : Host}
      (hid : Identified P c.env.initial h i' key h₁) :
      some (newIdentity P c.env.rotated (i'.generation + 1)) ≠ some i := by
    obtain rfl := hid.of_identity hi
    intro hc
    have hg := congrArg Identity.generation (Option.some.inj hc)
    simp [newIdentity] at hg
  cases hstage with
  | untouched hg => exact .inr ⟨hsame hg rfl, kept_of_eq (by rw [hg.loaded])⟩
  | right _ hh hg =>
    refine .inr ⟨hsame hh hg.identity, kept_of_eq ?_⟩
    rw [hg.loaded]
    exact congrArg StoreState.usedChallenges hh.loaded
  | wrong _ hh _ _ _ _ _ hg =>
    refine .inr ⟨hsame hh hg.identity, kept_of_eq ?_⟩
    rw [hg.loaded]
    exact congrArg StoreState.usedChallenges hh.loaded
  | refused _ hh hc hg =>
    refine .inr ⟨hsame hh (hg.identity.trans (identity_of_consumed hc)), ?_⟩
    intro id used hid hlive
    rw [hg.loaded]
    exact kept_of_consumed hh hc id used hid hlive
  | enrolled _ hh _ _ hused hg =>
    refine .inr ⟨hsame hh hg.identity, ?_⟩
    have hloaded := congrArg StoreState.usedChallenges hg.loaded
    rcases hused with hused | ⟨id, used, hnew, hused⟩
    · exact kept_of_base (hloaded.trans hused)
    · exact kept_of_insert hnew (hloaded.trans hused)
  | created _ hh hg =>
    exact .inr ⟨hsame hh hg.identity, kept_of_eq (by rw [hg.loaded]; rfl)⟩
  | revoked _ hh hg =>
    exact .inr ⟨hsame hh hg.identity, kept_of_eq (by rw [hg.loaded]; rfl)⟩
  | mixed hcall hid _ _ hg => exact .inl ⟨hcall, hg.identity ▸ hreplaced hid⟩
  | rotated hcall hid hg => exact .inl ⟨hcall, hg.identity ▸ hreplaced hid⟩

/-- **A call keeps the used challenges that have not expired**, unless it rotates the
identity; completing an enrollment adds one that was not there. -/
theorem used_of_outcome {h h' : Host} {c : Invocation} {r : Except Exn Reply}
    (hout : Outcome P h c.env c.call r h') :
    rotates ⟨h, c, r, h'⟩ = true ∨
      (∃ document, c.call = .completeRelayEnrollment document ∧ r.isOk = true ∧
        Completion P h c.env document h') ∨
      (Kept h c.env.now h' ∧ ∀ id, completesChallenge id ⟨h, c, r, h'⟩ = false) := by
  obtain ⟨call, env⟩ := c
  have hraised (e : Exn) (id : Json) :
      completesChallenge id ⟨h, ⟨call, env⟩, .error e, h'⟩ = false := by
    cases call <;> rfl
  cases hout with
  | raised => exact .inr (.inr ⟨kept_of_eq rfl, hraised _⟩)
  | refused hid => exact .inr (.inr ⟨kept_of_eq (by rw [hid.loaded]), hraised _⟩)
  | created => exact .inr (.inr ⟨kept_of_eq rfl, fun _ => rfl⟩)
  | unconsumed _ hid hc =>
    exact .inr (.inr ⟨kept_of_consumed (c := ⟨call, env⟩) hid.untouched hc, hraised _⟩)
  | consumed _ _ hc =>
    refine .inr (.inr ⟨kept_of_eq ?_, fun _ => rfl⟩)
    cases hc
    rfl
  | unproved _ hid => exact .inr (.inr ⟨kept_of_eq (by rw [← hid.loaded]; rfl), hraised _⟩)
  | @completed document request challenge i key h₁ _ _ _ hr hid hch hunused _ hc =>
    refine .inr (.inl ⟨document, rfl, rfl, request, i, key, h₁, challenge, hr, hid, ?_, hch,
      hunused, ?_⟩)
    · exact (identity_of_consumed hc).trans hid.identity
    · cases hc
      rfl
  | signedChallenge hid => exact .inr (.inr ⟨kept_of_eq (by rw [← hid.loaded]; rfl), fun _ => rfl⟩)
  | listed hid => exact .inr (.inr ⟨kept_of_eq (by rw [hid.loaded]), fun _ => rfl⟩)
  | revoked => exact .inr (.inr ⟨kept_of_eq rfl, fun _ => rfl⟩)
  | rotated => exact .inl rfl
  | identified hid => exact .inr (.inr ⟨kept_of_eq (by rw [hid.loaded]), fun _ => rfl⟩)
  | signed hid => exact .inr (.inr ⟨kept_of_eq (by rw [← hid.loaded]; rfl), fun _ => rfl⟩)

/-- **What a call does to the used challenges**, whichever of its file steps fail: it completes
an enrollment, or under the identity that was there it keeps those that have not expired. -/
theorem used_of_trial (h : Host) (t : Trial) :
    (∃ document, t.call = .completeRelayEnrollment document ∧ (trialStep P h t).1.isOk = true ∧
      Completion P h t.env document (trialStep P h t).2) ∨
    ((∀ id, completesChallenge id
        ⟨h, t.toInvocation, (trialStep P h t).1, (trialStep P h t).2⟩ = false) ∧
      ∀ i, h.identity = some i →
        renews ⟨h, t.toInvocation, (trialStep P h t).1, (trialStep P h t).2⟩ = true ∨
          ((trialStep P h t).2.identity = some i ∧ Kept h t.env.now (trialStep P h t).2)) := by
  obtain ⟨⟨call, env⟩, faults⟩ := t
  rcases trialStep_cases (P := P) h ⟨⟨call, env⟩, faults⟩ with ⟨k, e, hstage, -, he⟩ | heq
  · -- a call that raised completes nothing
    rw [he]
    refine .inr ⟨fun id => by cases call <;> rfl, fun i hi => ?_⟩
    refine (kept_of_stage hstage hi).imp_left ?_
    rintro ⟨hcall, hne⟩
    obtain rfl : call = .rotateIdentity true := hcall
    simp [renews, hi, hne]
  · have hstep := storeStep_outcome (P := P) h ⟨call, env⟩
    rw [heq]
    rcases used_of_outcome hstep with hrot | ⟨document, hcall, hok, hcomp⟩ | ⟨hkept, hnot⟩
    · refine .inr ⟨fun id => ?_, fun i _ => .inl ?_⟩
      · cases call with
        | rotateIdentity confirmed => rfl
        | _ => cases hrot
      · cases call with
        | rotateIdentity confirmed => exact Bool.or_eq_true_iff.mpr (.inl hrot)
        | _ => cases hrot
    · exact .inl ⟨document, hcall, hok, hcomp⟩
    · refine .inr ⟨hnot, fun i hi => ?_⟩
      rcases identity_of_outcome hstep hi with ⟨hrot, -⟩ | hsame
      · cases call with
        | rotateIdentity confirmed => exact .inl (Bool.or_eq_true_iff.mpr (.inl hrot))
        | _ => cases hrot
      · exact .inr ⟨hsame, hkept⟩

end Effect

/-! ### Runs -/

section Law

variable {P : Platform} {es : List TrialEvent} {h : Host}

/-- The discipline under which an identifier is used once. -/
def OnceDated (P : Platform) (es : List TrialEvent) (t : Trial) : Prop :=
  ClockMonotone es t ∧ NotRedated P es t

/-- **What is remembered of the completions under the present identity**: the identity is the
one they left, and the recorded expiry has passed, or the challenge is written down with it. -/
def Remembered (P : Platform) (es : List TrialEvent) (h : Host) : Prop :=
  ∀ pre e post, es = pre ++ e :: post → (∀ r ∈ post, renews r.plain = false) →
    ∀ document, e.call.call = .completeRelayEnrollment document → e.result.isOk = true →
      ∃ i id expires, e.after.identity = some i ∧ h.identity = some i ∧
        presentedId document = .str id ∧ presentedExpiry P document = .ok expires ∧
        ((∃ r ∈ es, expires ≤ r.call.env.now) ∨
          ∃ used, h.loaded.usedChallenges.get? id = some used ∧ used.expiresEpoch = expires)

/-- Under the discipline, a completion finds no earlier one of its challenge. -/
theorem fresh_of_completion {t : Trial} {document used : Json} {h' : Host}
    (hrem : Remembered P es h) (hdisc : OnceDated P es t)
    (hcall : t.call = .completeRelayEnrollment document)
    (hcomp : Completion P h t.env document h') {pre post : List TrialEvent} {e : TrialEvent}
    (hes : es = pre ++ e :: post) (hpost : ∀ r ∈ post, renews r.plain = false)
    (hused : e.call.call = .completeRelayEnrollment used) (hok : e.result.isOk = true) :
    presentedId used ≠ presentedId document := by
  intro hsame
  obtain ⟨i, id, expires, hafter, hi, hid, hexp, hpast⟩ := hrem pre e post hes hpost used hused hok
  obtain ⟨request, i', key, h₁, challenge, hr, hplaced, -, hch, hnone, -⟩ := hcomp
  obtain rfl := hplaced.of_identity hi
  have hid' : presentedId used = .str challenge.challengeId :=
    hsame.trans (presented_of_valid hr hch).1
  obtain rfl : id = challenge.challengeId := Json.str.inj (hid.symm.trans hid')
  have hlive : t.env.now < expires := hdisc.2 document request hcall hr pre e post hes hpost _
    challenge hafter hch used hused hok hid' expires hexp
  -- it was remembered, and is so still, as it has not expired
  rcases hpast with ⟨r, hr, hle⟩ | ⟨u, hu, rfl⟩
  · exact absurd (hle.trans (hdisc.1 r hr)) (not_le.mpr hlive)
  · have hkept : (h.loaded.pruneUsedChallenges t.env.now).usedChallenges.get?
        challenge.challengeId = some u :=
      Dict.get?_filter_eq_some.mpr ⟨hu, decide_eq_true hlive⟩
    rw [hkept] at hnone
    cases hnone

/-- What a completion is remembered by. -/
theorem remembered_completion {t : Trial} {document : Json} {h' : Host}
    (hcomp : Completion P h t.env document h') :
    ∃ i id expires, h'.identity = some i ∧ presentedId document = .str id ∧
      presentedExpiry P document = .ok expires ∧
      ∃ used, h'.loaded.usedChallenges.get? id = some used ∧ used.expiresEpoch = expires := by
  obtain ⟨request, i, key, h₁, challenge, hr, -, hafter, hch, -, hins⟩ := hcomp
  obtain ⟨hid, hexp⟩ := presented_of_valid hr hch
  exact ⟨i, challenge.challengeId, challenge.expires, hafter, hid, hexp, _,
    by rw [hins, Dict.get?_insert, if_pos rfl], rfl⟩

/-- A completion keeps the used challenges that have not expired, and the identity. -/
theorem kept_of_completion {t : Trial} {document : Json} {h' : Host} {i : Identity}
    (hcomp : Completion P h t.env document h') (hi : h.identity = some i) :
    h'.identity = some i ∧ Kept h t.env.now h' := by
  obtain ⟨request, i', key, h₁, challenge, -, hplaced, hafter, -, hnone, hins⟩ := hcomp
  obtain rfl := hplaced.of_identity hi
  have hnew : ((Call.completeRelayEnrollment document).base t.env.now
      h.loaded).usedChallenges.get? challenge.challengeId = none := hnone
  exact ⟨hafter, kept_of_insert hnew hins⟩

/-- Every run under the discipline remembers its completions. -/
theorem remembered (hrun : Run (trialStep P) (OnceDated P) .fresh es h) : Remembered P es h := by
  refine hrun.invariant (fun pre e post hes => by simp at hes) ?_
  intro es h t hrun ih hdisc pre e post hes hpost document hreq hok
  have hout := used_of_trial (P := P) h t
  rcases List.eq_nil_or_concat post with rfl | ⟨post', r, rfl⟩
  · -- The completion is the call just made.
    obtain ⟨rfl, heq⟩ := List.append_inj' hes rfl
    obtain rfl := List.head_eq_of_cons_eq heq
    rcases hout with ⟨document', hreq', -, hcomp⟩ | ⟨hnot, -⟩
    · obtain rfl : document' = document := Call.completeRelayEnrollment.inj (hreq'.symm.trans hreq)
      obtain ⟨i, id, expires, hafter, hid, hexp, hused⟩ := remembered_completion hcomp
      exact ⟨i, id, expires, hafter, hafter, hid, hexp, .inr hused⟩
    · have hyes := completesChallenge_iff (e := ⟨h, t.toInvocation, (trialStep P h t).1,
        (trialStep P h t).2⟩).mpr ⟨document, hreq, hok, rfl⟩
      exact absurd (hyes.symm.trans (hnot _)) (by decide)
  · -- The completion is an earlier one, and the call just made renews no identity.
    rw [List.concat_eq_append, ← List.cons_append, ← List.append_assoc] at hes
    obtain ⟨rfl, heq⟩ := List.append_inj' hes rfl
    obtain rfl := List.head_eq_of_cons_eq heq
    have hpost' : ∀ r ∈ post', renews r.plain = false := fun r hr => hpost r (by simp [hr])
    obtain ⟨i, id, expires, hafter, hi, hid, hexp, hpast⟩ :=
      ih pre e post' rfl hpost' document hreq hok
    have hkept : (trialStep P h t).2.identity = some i ∧ Kept h t.env.now (trialStep P h t).2 := by
      rcases hout with ⟨_, -, -, hcomp⟩ | ⟨-, hkept⟩
      · exact kept_of_completion hcomp hi
      · rcases hkept i hi with hrenews | hkept
        · exact absurd (hrenews.symm.trans
            (hpost ⟨h, t, (trialStep P h t).1, (trialStep P h t).2⟩ (by simp))) (by decide)
        · exact hkept
    refine ⟨i, id, expires, hafter, hkept.1, hid, hexp, ?_⟩
    rcases hpast with ⟨r, hr, hle⟩ | ⟨used, hused, rfl⟩
    · exact .inl ⟨r, List.mem_append_left _ hr, hle⟩
    · by_cases hlive : t.env.now < used.expiresEpoch
      · exact .inr ⟨used, hkept.2 id used hused hlive, rfl⟩
      · exact .inl ⟨_, List.mem_append_right _ (List.mem_singleton.mpr rfl), not_lt.mp hlive⟩

/-- **A challenge identifier completes one enrollment**, in every run whose clock
does not go back and in which no old challenge is presented with new dates, whichever file
steps fail: two completions under one identity carry different ones. -/
theorem challenge_used_once {pre mid post : List TrialEvent} {e e' : TrialEvent}
    (hrun : Run (trialStep P) (OnceDated P) .fresh (pre ++ e :: (mid ++ e' :: post)) h)
    (hmid : ∀ r ∈ mid, renews r.plain = false) {id : Json}
    (he : completesChallenge id e.plain = true) : completesChallenge id e'.plain = false := by
  rw [← List.cons_append, ← List.append_assoc] at hrun
  obtain ⟨hpre, hdisc, hstep⟩ := hrun.split
  have hout := used_of_trial (P := P) e'.before e'.call
  rw [hstep] at hout
  obtain ⟨used, hused, hok, rfl⟩ := completesChallenge_iff.mp he
  rcases hout with ⟨document, hreq, -, hcomp⟩ | ⟨hnot, -⟩
  · have hne := fresh_of_completion (remembered hpre) hdisc hreq hcomp rfl hmid hused hok
    by_contra hc
    obtain ⟨document', hreq', -, hsame⟩ :=
      completesChallenge_iff.mp (Bool.eq_true_of_not_eq_false hc)
    obtain rfl := Call.completeRelayEnrollment.inj (hreq.symm.trans hreq')
    exact hne hsame.symm
  · exact hnot _

end Law

/-! ### Two runs -/

namespace Sample

/-- The agent's identity. -/
def agentIdentity : Identity := newIdentity platform (supply (moment 0) pairingId).initial 1

/-- The host has the agent's identity and the state `s`. -/
structure Standing (h : Host) (s : StoreState) : Prop where
  identity : h.identity = some agentIdentity
  loaded : h.loaded = s

section Steps

variable {h : Host} {s : StoreState} {now : Time} {pid : Uuid}

theorem Standing.identified (hs : Standing h s) :
    Identified platform (supply now pid).initial h agentIdentity agentKey h :=
  .stored hs.identity (checkIdentity_newIdentity _ _)

/-- The call succeeds, and leaves a host with the agent's identity and the state `s`. -/
def Reaches (h : Host) (c : Invocation) (s : StoreState) : Prop :=
  ∃ r h', storeStep platform h c = (.ok r, h') ∧ Standing h' s

/-- A first offer. -/
theorem reaches_offered :
    Reaches .fresh offer (StoreState.empty.offer platform (supply (moment 0) pairingId) 600) := by
  exact ⟨_, _, storeStep_document rfl (exec_createPairing (by decide) (.generated rfl)), rfl, rfl⟩

/-- An offer of an agent that has its identity. -/
theorem Standing.offered (hs : Standing h s) :
    Reaches h ⟨.createPairing 600, supply now pid⟩ (s.offer platform (supply now pid) 600) := by
  refine ⟨_, _, storeStep_document rfl (exec_createPairing (by decide) hs.identified),
    hs.identity, ?_⟩
  rw [hs.loaded]
  rfl

/-- The sample challenge, as the agent reads it. -/
def readChallenge (issuedText expiresText : String) (issued expires : Time) : RelayChallenge :=
  ⟨challenge issuedText expiresText, challengeId.1, "relay-1", issued, expires⟩

/-- The state after an enrollment over the sample challenge. -/
def enrolledState (s : StoreState) (c : RelayChallenge) (now : Time) (pid : Uuid)
    (peerId : String) : StoreState :=
  ((s.pruneUsedChallenges now).enroll pid.1 (newPeer platform peerId relayPublic now)).useChallenge
    platform c now

/-- What a request for an offer of the sample runs tries. -/
def attempted (pid : Uuid) (peerId : String) : Attempt :=
  ⟨pid.1, some (String.ofList code.1), peerId, relayPublic⟩

/-- The call enrolls: it returns the signed receipt, and leaves a host with the agent's
identity and the state `s`. -/
def Enrolls (h : Host) (c : Invocation) (s : StoreState) (challenge : RelayChallenge)
    (a : Attempt) : Prop :=
  ∃ h', storeStep platform h c = (.ok (.document
      (signedReceipt platform c.env agentIdentity agentKey challenge a)), h') ∧ Standing h' s ∧
    (agentKey, enrollmentReceiptDomain ++
      canonical (receiptOf platform c.env agentIdentity challenge a)) ∈ h'.signed

theorem Enrolls.reaches {c : Invocation} {challenge : RelayChallenge} {a : Attempt}
    (h' : Enrolls h c s challenge a) : Reaches h c s := by
  obtain ⟨after, hstep, hs, -⟩ := h'
  exact ⟨_, after, hstep, hs⟩

/-- An enrollment over the sample challenge on given dates. -/
theorem Standing.completed (hs : Standing h s) {issuedText expiresText peerId : String}
    {issued expires : Time} {proof : Signature} (made : Time)
    (hissued : parseTimestamp platform invalidChallengeTimestamp (.str issuedText) = .ok issued)
    (hexpires : parseTimestamp platform invalidChallengeTimestamp (.str expiresText) = .ok expires)
    (hdates : issued < expires ∧ expires - issued ≤ maxChallengeLifetime ∧
      issued ≤ now + challengeClockSkew ∧ now < expires)
    (hunused : (s.pruneUsedChallenges now).usedChallenges.get? challengeId.1 = none)
    (hproof : sign relayKey (peerProofPayload relayChallenge pid.1 peerId device) = proof)
    (hp : s.pairings.get? pid.1 = some (newPairing platform (supply made pid) 600))
    (hlive : now < made + seconds 600) (hinactive : s.isActive peerId = false)
    (hpeer : peerIdPattern peerId = true) :
    Enrolls h ⟨.completeRelayEnrollment
        (request pid peerId (challenge issuedText expiresText) proof), supply now pid⟩
      (enrolledState s (readChallenge issuedText expiresText issued expires) now pid peerId)
      (readChallenge issuedText expiresText issued expires) (attempted pid peerId) := by
  have hr : readEnrollmentRequest platform
      (request pid peerId (challenge issuedText expiresText) proof) =
        .ok ⟨attempted pid peerId, challenge issuedText expiresText, proof⟩ := by
    rw [request, readEnrollmentRequest_enrollmentRequest pid.2 hpeer, normalizeCode_displayCode]
    rfl
  have hdevice : agentIdentity.deviceId = device := by decide
  have hch : validateRelayChallenge platform (challenge issuedText expiresText)
      agentIdentity.deviceId now = .ok (readChallenge issuedText expiresText issued expires) := by
    rw [hdevice]
    exact validateRelayChallenge_eq_ok.mpr ⟨rfl, rfl, rfl, rfl, challengeId.2, rfl,
      (by decide : relayIdPattern "relay-1" = true),
      ⟨nonce.1, b64decode_str_b64encode _ _, nonce.2⟩, rfl, hissued, hexpires, hdates.1, hdates.2.1,
      hdates.2.2.1, hdates.2.2.2, rfl⟩
  have hverify : platform.verify relayPublic (peerProofPayload
      (challenge issuedText expiresText) pid.1 peerId agentIdentity.deviceId) proof = true := by
    rw [hdevice]
    exact verify_relay hproof
  -- every check of the request passes
  have hexec : (completeRelayEnrollment platform (supply now pid)
      (request pid peerId (challenge issuedText expiresText) proof)).exec h = _ :=
    exec_completeRelayEnrollment (newPairing platform (supply made pid) 600) hr hs.identified hch
      (by rw [hs.loaded]; exact hunused) hverify (by rw [hs.loaded]; exact hp) hlive
      (newPairing_accepts _ _ _) (by rw [hs.loaded]; exact hinactive)
  refine ⟨_, storeStep_document rfl hexec, ⟨hs.identity, ?_⟩, List.mem_cons_self⟩
  rw [hs.loaded]
  rfl

end Steps

/-- The first request, while its challenge is fresh. -/
def enrolling : Invocation := ⟨.completeRelayEnrollment firstRequest, supply (moment 2) pairingId⟩

/-- The first request once more. -/
def replaying : Invocation := ⟨.completeRelayEnrollment firstRequest, supply (moment 3) pairingId⟩

/-- Another offer, made after the first challenge expired. -/
def offering : Invocation := ⟨.createPairing 600, supply (moment 305) pairingId'⟩

/-- The second request: the challenge of the first, with later dates. -/
def redating : Invocation := ⟨.completeRelayEnrollment secondRequest, supply (moment 320) pairingId'⟩

/-- The state after the first offer. -/
def offeredState : StoreState := StoreState.empty.offer platform (supply (moment 0) pairingId) 600

/-- The first challenge, as the agent reads it. -/
def firstChallenge : RelayChallenge :=
  readChallenge "2023-11-14T22:13:21Z" "2023-11-14T22:18:21Z" (moment 1) (moment 301)

/-- The state after the first enrollment. -/
def firstState : StoreState :=
  enrolledState offeredState firstChallenge (moment 2) pairingId "printerhmi-relay"

/-- The state after the second offer. -/
def reofferedState : StoreState :=
  firstState.offer platform (supply (moment 305) pairingId') 600

/-- The first enrollment. -/
theorem Standing.enrolled {h : Host} (hs : Standing h offeredState) :
    Enrolls h enrolling firstState firstChallenge (attempted pairingId "printerhmi-relay") :=
  hs.completed (moment 0) (by decide) (by decide) (by decide) rfl sign_proof
    (by decide) (by decide) (by decide) (by decide)

/-- The challenge with later dates. -/
def secondChallenge : RelayChallenge :=
  readChallenge "2023-11-14T22:18:30Z" "2023-11-14T22:20:00Z" (moment 310) (moment 400)

/-- The state after the second enrollment. -/
def secondState : StoreState :=
  enrolledState reofferedState secondChallenge (moment 320) pairingId' "printerhmi-relay-2"

/-- The second enrollment. -/
theorem Standing.reenrolled {h : Host} (hs : Standing h reofferedState) :
    Enrolls h redating secondState secondChallenge (attempted pairingId' "printerhmi-relay-2") :=
  hs.completed (moment 305) (by decide) (by decide) (by decide)
    (by decide) sign_proof' (by decide) (by decide) (by decide) (by decide)

/-- A call whose file steps go through. -/
def faultless (c : Invocation) : Trial := ⟨c, fun _ => false⟩

/-- An enrollment, another offer, and an enrollment over the same challenge with
later dates. -/
def redated : List Trial := [offer, enrolling, offering, redating].map faultless

end Sample

open Sample in
/-- **One challenge identifier, two enrollments**: in this run no file step fails, the clock does
not go back, nothing is rotated, and both requests complete. -/
theorem challenge_reused : ∃ es h, Run (trialStep platform) ClockMonotone .fresh es h ∧
    es.map Event.call = redated ∧ (∀ e ∈ es, renews (TrialEvent.plain e) = false) ∧
    es.countP (fun e => completesChallenge (.str challengeId.1) (TrialEvent.plain e)) = 2 := by
  obtain ⟨r₁, h₁, hoffer, hs₁⟩ := reaches_offered
  obtain ⟨r₂, h₂, henroll, hs₂⟩ := hs₁.enrolled.reaches
  obtain ⟨r₃, h₃, hreoffer, hs₃⟩ : Reaches h₂ offering reofferedState := hs₂.offered
  obtain ⟨r₄, h₄, hreenroll, -⟩ := hs₃.reenrolled.reaches
  have hstep {h h' : Host} {c : Invocation} {r : Except Exn Reply}
      (hc : storeStep platform h c = (r, h')) : trialStep platform h (faultless c) = (r, h') :=
    (trialStep_none h c).trans hc
  refine ⟨[⟨_, _, _, _⟩, ⟨_, _, _, _⟩, ⟨_, _, _, _⟩, ⟨_, _, _, _⟩], h₄,
    (((Run.start.next_eq ?_ (hstep hoffer)).next_eq ?_ (hstep henroll)).next_eq ?_
      (hstep hreoffer)).next_eq ?_ (hstep hreenroll), rfl, ?_, ?_⟩
  · exact fun e he => (nomatch he)
  · simp only [ClockMonotone, List.nil_append, List.forall_mem_singleton]
    decide
  · simp only [ClockMonotone, List.nil_append, List.cons_append, List.forall_mem_cons]
    decide
  · simp only [ClockMonotone, List.nil_append, List.cons_append, List.forall_mem_cons]
    decide
  · simp only [List.forall_mem_cons]
    exact ⟨rfl, rfl, rfl, rfl, fun e he => (nomatch he)⟩
  · rfl

open Sample in
/-- The request of the sample runs, presented again, does not complete. -/
theorem challenge_used_once_sample : ∃ e₀ e e' h,
    Run (trialStep platform) (OnceDated platform) .fresh [e₀, e, e'] h ∧
      [e₀, e, e'].map Event.call = [offer, enrolling, replaying].map faultless ∧
      completesChallenge (.str challengeId.1) (TrialEvent.plain e) = true ∧
      completesChallenge (.str challengeId.1) (TrialEvent.plain e') = false := by
  obtain ⟨r₁, h₁, hoffer, hs₁⟩ := reaches_offered
  obtain ⟨r₂, h₂, henroll, hs₂⟩ := hs₁.enrolled.reaches
  rcases hreplay : trialStep platform h₂ (faultless replaying) with ⟨r₃, h₃⟩
  have hrun : Run (trialStep platform) (OnceDated platform) .fresh
      ([⟨_, faultless offer, _, _⟩] ++ ⟨_, faultless enrolling, _, _⟩ ::
        ([] ++ ⟨_, _, _, _⟩ :: [])) h₃ :=
    ((Run.start.next_eq ?_ ((trialStep_none _ offer).trans hoffer)).next_eq ?_
      ((trialStep_none _ enrolling).trans henroll)).next_eq ?_ hreplay
  -- what is left are the two disciplines of the run, step by step
  refine ⟨_, _, _, h₃, hrun, rfl, rfl, challenge_used_once hrun (fun _ hr => (nomatch hr)) rfl⟩
  · exact ⟨fun e he => (nomatch he), notRedated_of_forall fun e he => (nomatch he)⟩
  · refine ⟨?_, notRedated_of_forall fun e he used hused => ?_⟩
    · simp only [ClockMonotone, List.nil_append, List.forall_mem_singleton]
      decide
    · obtain rfl := List.mem_singleton.mp he
      cases hused
  · refine ⟨?_, notRedated_of_forall ?_⟩
    · simp only [ClockMonotone, List.nil_append, List.cons_append, List.forall_mem_cons]
      decide
    · simp only [List.nil_append, List.cons_append, List.forall_mem_cons]
      refine ⟨fun used hused => (nomatch hused), ?_, fun e he => (nomatch he)⟩
      rintro used ⟨⟩ recorded hrecorded
      have hexpires : presentedExpiry platform firstRequest = .ok (moment 301) := by decide
      obtain rfl := Except.ok.inj (hexpires.symm.trans hrecorded)
      decide

end PrinterHmi
