import PrinterHmi.Enrollment.Trials
import PrinterHmi.Lib.Tickets
import PrinterHmi.Sample

/-!
# Pairing offers as a book of tickets

The offers of a store are a book of one-time tickets (`Host.book`): creating an
offer issues a ticket on its expiry and code digest, a wrong code is a missed
attempt, a right one redeems it, a rotation clears the book, and everything else
only ever drops tickets. `Explains` is that reading of one call, over both
operations that consume an offer, and `explained` says every call whose file steps
go through has one.
-/

namespace PrinterHmi

open Tickets

/-! ### The book of offers -/

/-- What an offer was made on. -/
structure Terms where
  expiresEpoch : Time
  salt : String
  codeDigest : String

/-- The terms of a stored offer. -/
def Pairing.terms (pairing : Pairing) : Terms :=
  ⟨pairing.expiresEpoch, pairing.salt, pairing.codeDigest⟩

/-- A stored offer as a ticket. -/
def Pairing.ticket (pairing : Pairing) : Ticket Terms :=
  ⟨pairing.terms, pairing.attemptsRemaining⟩

/-- The offers of a state, as a book. -/
def StoreState.book (s : StoreState) : Book String Terms := fun p =>
  (s.pairings.get? p).map Pairing.ticket

/-- **The offers of a store, as a book.** -/
def Host.book (h : Host) : Book String Terms := h.loaded.book

section Book

variable {s : StoreState} {p : String} {pairing : Pairing}

theorem book_insert (s : StoreState) (p : String) (pairing : Pairing) :
    StoreState.book { s with pairings := s.pairings.insert p pairing } =
      Function.update s.book p (some pairing.ticket) := by
  funext q
  rw [StoreState.book, Dict.get?_insert]
  by_cases hq : p = q
  · rw [if_pos hq, ← hq, Function.update_self, Option.map_some]
  · rw [if_neg hq, Function.update_of_ne (Ne.symm hq), StoreState.book]

theorem book_dropPairing (s : StoreState) (p : String) :
    (s.dropPairing p).book = Function.update s.book p none := by
  funext q
  rw [StoreState.book, StoreState.dropPairing, Dict.get?_erase]
  by_cases hq : p = q
  · rw [if_pos hq, ← hq, Function.update_self, Option.map_none]
  · rw [if_neg hq, Function.update_of_ne (Ne.symm hq), StoreState.book]

theorem book_afterMiss (s : StoreState) (p : String) (pairing : Pairing) :
    (s.afterMiss p pairing).book = Function.update s.book p pairing.ticket.afterMiss := by
  by_cases hle : pairing.attemptsRemaining - 1 ≤ 0
  · have hs : s.afterMiss p pairing = s.dropPairing p := by
      rw [StoreState.afterMiss, if_pos hle, StoreState.dropPairing]
    have hk : pairing.ticket.afterMiss = none := if_pos hle
    rw [hs, book_dropPairing, hk]
  · have hk : pairing.ticket.afterMiss =
        some { pairing.ticket with left := pairing.ticket.left - 1 } := if_neg hle
    rw [StoreState.afterMiss, if_neg hle, book_insert, hk]
    rfl

/-- Dropping one offer. -/
theorem step_dropPairing (n : ℤ) (s : StoreState) (p : String) :
    Step n s.book .drop (s.dropPairing p).book := by
  refine .drop fun q => ?_
  rw [book_dropPairing]
  by_cases hq : q = p
  · exact .inr (by rw [hq, Function.update_self])
  · exact .inl (Function.update_of_ne hq _ _)

/-- Dropping the expired offers. -/
theorem step_pruneExpired (n : ℤ) (s : StoreState) (now : Time) :
    Step n s.book .drop (s.pruneExpired now).book := by
  refine .drop fun q => ?_
  rw [StoreState.book, StoreState.pruneExpired, Dict.get?_filter]
  rcases Option.eq_none_or_eq_some ((s.pairings.get? q).filter
    fun pairing => decide (now < pairing.expiresEpoch)) with h | ⟨pairing, h⟩
  · exact .inr (by rw [h, Option.map_none])
  · refine .inl ?_
    rw [h, StoreState.book, (Option.filter_eq_some_iff.mp h).1]

/-- A new offer. -/
theorem step_offer (P : Platform) (s : StoreState) (env : Supply) (ttl : ℤ) :
    Step pairingAttempts (s.pruneExpired env.now).book
      (.issue env.pairingId.1 (newPairing P env ttl).terms) (s.offer P env ttl).book := by
  rw [StoreState.offer, book_insert]
  exact .issue _ _ _

/-- A wrong code. -/
theorem step_miss (n : ℤ) (hp : s.pairings.get? p = some pairing) :
    Step n s.book (.miss p) (s.afterMiss p pairing).book := by
  rw [book_afterMiss]
  exact .miss (by rw [StoreState.book, hp, Option.map_some])

/-- A right code. -/
theorem step_redeem (n : ℤ) (hp : s.pairings.get? p = some pairing) (peer : Peer) :
    Step n s.book (.redeem p pairing.terms) (s.enroll p peer).book := by
  have hb : s.book p = some pairing.ticket := by rw [StoreState.book, hp, Option.map_some]
  have hs : (s.enroll p peer).book = (s.dropPairing p).book := rfl
  rw [hs, book_dropPairing]
  exact .redeem hb

end Book

/-! ### What a call says about offers -/

/-- The pairing identifier and the code a call presents, if it presents any. -/
def Call.presents? : Call → Option (Json × Json)
  | consumePairing pairingId code _ _ => some (pairingId, code)
  | completeRelayEnrollment request => some (request.field "pairing_id", request.field "code")
  | _ => none

namespace StoreEvent

/-- The call created the offer `p`: it drew that identifier, and left an offer under it. -/
def creates (p : String) (e : StoreEvent) : Bool :=
  match e.call.call with
  | .createPairing _ =>
    e.call.env.pairingId.1 == p && (e.after.loaded.pairings.get? p).isSome
  | _ => false

/-- The call consumed the offer `p`: one of the two that consume, naming `p`, and
it succeeded. -/
def consumes (p : String) (e : StoreEvent) : Bool :=
  match e.call.call.presents? with
  | some (pairingId, _) => e.result.isOk && pairingId == .str p
  | none => false

/-- The call rotated the identity. -/
def rotates (e : StoreEvent) : Bool :=
  match e.call.call with
  | .rotateIdentity _ => e.result.isOk
  | _ => false

/-- The call put another identity in the place of one: a rotation, whether it returned or not. -/
def renews (e : StoreEvent) : Bool :=
  match e.call.call with
  | .rotateIdentity _ => e.result.isOk ||
    (e.before.identity.isSome && decide (e.after.identity ≠ e.before.identity))
  | _ => false

/-- The call completed the enrollment a request document asks for. -/
def completes (request : Json) (e : StoreEvent) : Bool :=
  match e.call.call with
  | .completeRelayEnrollment document => e.result.isOk && document == request
  | _ => false

end StoreEvent

open StoreEvent

section Reading

variable {P : Platform}

/-- What a well-formed code normalizes to. -/
theorem normalizeCode_eq_ok {code : Json} {n : String} (h : normalizeCode P code = .ok n) :
    n.toList.length = pairingCodeLength ∧ ∀ c ∈ n.toList, c ∈ pairingAlphabet := by
  cases code with
  | str text =>
    simp only [normalizeCode, Except.bind_eq_ok, require_eq_ok, exists_const] at h
    obtain ⟨hlen, hmem, hn⟩ := h
    obtain rfl := Except.ok.inj hn
    exact ⟨hlen, hmem⟩
  | _ => cases h

/-- What a call to `consume_pairing` tries. -/
theorem readAttempt_eq_ok {pairingId code peerId peerPublicKey : Json} {a : Attempt}
    (h : readAttempt P pairingId code peerId peerPublicKey = .ok a) :
    pairingId = .str a.pairingId ∧ a.code = (normalizeCode P code).toOption ∧
      peerId = .str a.peerId := by
  simp only [readAttempt, Except.bind_eq_ok, uuidText_eq_ok, patternText_eq_ok, keyBytes_eq_ok] at h
  obtain ⟨pid, ⟨hpid, -⟩, peer, ⟨hpeer, -⟩, kb, -, key, -, ha⟩ := h
  obtain rfl := Except.ok.inj ha
  exact ⟨hpid, rfl, hpeer⟩

/-- What an enrollment request says. -/
theorem readEnrollmentRequest_eq_ok {document : Json} {r : EnrollmentRequest} :
    readEnrollmentRequest P document = .ok r ↔
      document.hasFields enrollmentRequestFields = true ∧
      document.fieldEq "schema_version" schemaVersion = true ∧
      document.field "type" = .str "relay.enrollment-request" ∧
      document.field "pairing_id" = .str r.pairingId ∧ isUuidText r.pairingId = true ∧
      document.field "peer_id" = .str r.peerId ∧ peerIdPattern r.peerId = true ∧
      b64decode invalidEncoded (document.field "peer_public_key") = .ok r.key.1 ∧
      b64decode invalidEncoded (document.field "peer_signature") = .ok r.signature.1 ∧
      r.code = (normalizeCode P (document.field "code")).toOption ∧
      r.challenge = document.field "challenge" := by
  simp only [readEnrollmentRequest, Except.bind_eq_ok, require_eq_ok, exists_const,
    Json.fieldEq_str_iff, uuidText_eq_ok, patternText_eq_ok, keyBytes_eq_ok, signatureBytes_eq_ok,
    and_assoc]
  constructor
  · rintro ⟨hfields, hversion, htype, pid, hpid, hpid', peer, hpeer, hpeer', _, hkey, _, hsig, key,
      rfl, signature, rfl, hr⟩
    obtain rfl := Except.ok.inj hr
    exact ⟨hfields, hversion, htype, hpid, hpid', hpeer, hpeer', hkey, hsig, rfl, rfl⟩
  · rintro ⟨hfields, hversion, htype, hpid, hpid', hpeer, hpeer', hkey, hsig, hcode, hch⟩
    refine ⟨hfields, hversion, htype, _, hpid, hpid', _, hpeer, hpeer', _, hkey, _, hsig, _, rfl,
      _, rfl, ?_⟩
    rw [← hcode, ← hch]
    rfl

/-- What a call tries is what it presents. -/
theorem presents_of_attempt {call : Call} {a : Attempt} (h : call.attempt? P = some a) :
    ∃ code, call.presents? = some (.str a.pairingId, code) ∧
      a.code = (normalizeCode P code).toOption := by
  cases call with
  | consumePairing pairingId code peerId peerPublicKey =>
    rw [Call.attempt?] at h
    cases hr : readAttempt P pairingId code peerId peerPublicKey with
    | error e =>
      rw [hr] at h
      cases h
    | ok a' =>
      rw [hr] at h
      obtain rfl : a' = a := Option.some.inj h
      obtain ⟨rfl, hcode, -⟩ := readAttempt_eq_ok hr
      exact ⟨code, rfl, hcode⟩
  | completeRelayEnrollment document =>
    rw [Call.attempt?] at h
    cases hr : readEnrollmentRequest P document with
    | error e =>
      rw [hr] at h
      cases h
    | ok r =>
      rw [hr] at h
      obtain rfl : r.toAttempt = a := Option.some.inj h
      obtain ⟨-, -, -, hp, -, -, -, -, -, hcode, -⟩ := readEnrollmentRequest_eq_ok.mp hr
      exact ⟨document.field "code", by rw [Call.presents?, hp], hcode⟩
  -- no other call makes an attempt
  | _ => cases h

end Reading

/-! ### Every call is a few actions on the book -/

section Explaining

variable (P : Platform)

/-- What a redemption knew: the code it was given, that the offer had not expired,
and that what was compared with its digest equalled it. -/
structure Redeemed (e : StoreEvent) (p : String) (t : Terms) (code : Json) : Prop where
  presents : e.call.call.presents? = some (.str p, code)
  live : e.call.env.now < t.expiresEpoch
  accepts : ∃ salt expected, b64decodeText invalidEncoded t.salt = .ok salt ∧
    b64decodeText invalidEncoded t.codeDigest = .ok expected ∧
    candidateDigest P e.call.env (normalizeCode P code).toOption salt = expected

/-- **A call as actions on the book of offers**, with everything the laws need of
them. -/
structure Explains (e : StoreEvent) (as : List (Act String Terms)) : Prop where
  steps : Steps pairingAttempts e.before.book as e.after.book
  misses : ∀ p, e.after.compared.count (p, false) =
    e.before.compared.count (p, false) + as.countP (Act.misses p)
  issues : ∀ p, as.countP (Act.issues p) ≤ if creates p e = true then 1 else 0
  issued : ∀ p t, Act.issue p t ∈ as → ∃ ttl, e.call.call = .createPairing ttl ∧
    creates p e = true ∧ t = (newPairing P e.call.env ttl).terms
  redeemed : ∀ p, consumes p e = true → ∃ t code, as = [.redeem p t] ∧ Redeemed P e p t code
  cleared : renews e = true → ∃ a ∈ as, a.clears = true

variable {P}

section Calls

variable {h h' : Host} {c : Invocation} {r : Except Exn Reply} {as : List (Act String Terms)}

/-- A call that raised consumed nothing. -/
theorem consumes_of_error {e : Exn} (p : String) : consumes p ⟨h, c, .error e, h'⟩ = false := by
  obtain ⟨call, env⟩ := c
  cases call <;> rfl

/-- Only a rotation renews the identity. -/
theorem renews_of_call (hc : ∀ confirmed, c.call ≠ .rotateIdentity confirmed) :
    renews ⟨h, c, r, h'⟩ = false := by
  obtain ⟨call, env⟩ := c
  cases call with
  | rotateIdentity confirmed => exact absurd rfl (hc confirmed)
  | _ => rfl

/-- A call that raised and left the identity it found has renewed none. -/
theorem renews_of_error {e : Exn} (hidentity : h'.identity = h.identity ∨ h.identity = none) :
    renews ⟨h, c, .error e, h'⟩ = false := by
  obtain ⟨call, env⟩ := c
  cases call with
  | rotateIdentity confirmed =>
    rcases hidentity with hsame | hnone
    · simp [renews, Except.isOk, Except.toBool, hsame]
    · simp [renews, Except.isOk, Except.toBool, hnone]
  | _ => rfl

/-- **A call that neither makes, consumes nor clears offers**, told as actions that do not
either. -/
theorem explains_plain (hsteps : Steps pairingAttempts h.book as h'.book)
    (hmisses : ∀ p, h'.compared.count (p, false) =
      h.compared.count (p, false) + as.countP (Act.misses p))
    (hplain : ∀ a ∈ as, ∀ p, a.issues p = false)
    (hconsumes : ∀ p, consumes p ⟨h, c, r, h'⟩ = false) (hrenews : renews ⟨h, c, r, h'⟩ = false) :
    Explains P ⟨h, c, r, h'⟩ as where
  steps := hsteps
  misses := hmisses
  issues p := by
    rw [List.countP_eq_zero.mpr fun a ha => by simp [hplain a ha p]]
    exact Nat.zero_le _
  issued p t ht := by
    have hno := hplain _ ht p
    simp [Act.issues] at hno
  redeemed p hp := by
    rw [hconsumes] at hp
    cases hp
  cleared hr := by
    rw [hrenews] at hr
    cases hr

/-- A call that has nothing to do with offers. -/
theorem explains_quiet (hbook : h'.book = h.book) (hcompared : h'.compared = h.compared)
    (hconsumes : ∀ p, consumes p ⟨h, c, r, h'⟩ = false) (hrenews : renews ⟨h, c, r, h'⟩ = false) :
    Explains P ⟨h, c, r, h'⟩ [] :=
  explains_plain (hbook ▸ Steps.nil _) (by simp [hcompared]) (by simp) hconsumes hrenews

end Calls

/-- The offers an attempt finds are those that were stored. -/
theorem book_base (now : Time) (s : StoreState) (call : Call) : (call.base now s).book = s.book := by
  cases call <;> rfl

/-- A call that attempts an offer is no rotation. -/
theorem not_rotate_of_attempt {call : Call} {a : Attempt} (ha : call.attempt? P = some a)
    (confirmed : Bool) : call ≠ .rotateIdentity confirmed := by
  rintro rfl
  cases ha

/-- **An offer made**, whatever the call answers: those that have expired are dropped, and a
ticket is issued. -/
theorem explains_created {h h' : Host} {env : Supply} {ttl : ℤ} {r : Except Exn Reply}
    (hloaded : h'.loaded = h.loaded.offer P env ttl) (hcompared : h'.compared = h.compared) :
    Explains P ⟨h, ⟨.createPairing ttl, env⟩, r, h'⟩
      [.drop, .issue env.pairingId.1 (newPairing P env ttl).terms] where
  steps := by
    have hissue := step_offer P h.loaded env ttl
    rw [← hloaded] at hissue
    exact .cons (step_pruneExpired _ _ env.now) hissue.steps
  misses p := by simp [hcompared, Act.misses]
  issues p := by
    by_cases hp : env.pairingId.1 = p
    · subst hp
      have hstored : (h'.loaded.pairings.get? env.pairingId.1).isSome = true := by
        rw [hloaded, StoreState.offer, Dict.get?_insert, if_pos rfl]
        rfl
      simp [creates, hstored, Act.issues]
    · simp [Act.issues, hp]
  issued p t ht := by
    simp only [List.mem_cons, reduceCtorEq, Act.issue.injEq, List.not_mem_nil, or_false,
      false_or] at ht
    obtain ⟨rfl, rfl⟩ := ht
    refine ⟨ttl, rfl, ?_, rfl⟩
    rw [creates, hloaded, StoreState.offer, Dict.get?_insert, if_pos rfl]
    simp
  redeemed p hp := by simp [consumes, Call.presents?] at hp
  cleared hr := by cases hr

/-- **No offer left**, whatever the call answers: the book is cleared. -/
theorem explains_cleared {h h' : Host} {c : Invocation} {r : Except Exn Reply}
    (hbook : h'.book = fun _ => none) (hcompared : h'.compared = h.compared)
    (hconsumes : ∀ p, consumes p ⟨h, c, r, h'⟩ = false) :
    Explains P ⟨h, c, r, h'⟩ [.clear] where
  steps := by
    have hclear : Step pairingAttempts h.book .clear h'.book := hbook ▸ .clear _
    exact hclear.steps
  misses p := by simp [hcompared, Act.misses]
  issues p := by simp [Act.issues]
  issued p t ht := by simp at ht
  redeemed p hp := by
    rw [hconsumes] at hp
    cases hp
  cleared _ := ⟨.clear, by simp, rfl⟩

/-- **A failed attempt** is a missed ticket, a dropped one, or nothing. -/
theorem explains_unconsumed {h h₁ h₂ g : Host} {c : Invocation} {a : Attempt} {persist : Bool}
    {e e' : Exn} (hc : ∀ confirmed, c.call ≠ .rotateIdentity confirmed) (hh : h.Untouched h₁)
    (hconsumed : Consumed P c.env (c.call.base c.env.now h.loaded) a persist h₁ (.error e) h₂)
    (hg : h₂.Alike g) : ∃ as, Explains P ⟨h, c, .error e', g⟩ as := by
  have hbook : (c.call.base c.env.now h.loaded).book = h.book := book_base _ _ _
  have hbook' : g.book = h₂.book := congrArg StoreState.book hg.loaded
  have hcomp := hh.compared
  have hcomp' := hg.compared
  have hrenews : renews ⟨h, c, .error e', g⟩ = false := renews_of_call hc
  -- an offer that is refused is dropped, or loses an attempt, or stands as it was
  cases hconsumed with
  | absent =>
    refine ⟨[.drop], explains_plain (Step.steps ?_) (fun p => ?_) ?_ consumes_of_error hrenews⟩
    · exact hbook ▸ hbook' ▸ step_dropPairing _ _ _
    · simp [hcomp', Host.afterRefusal, Host.audited, hcomp, Act.misses]
    · simp [Act.issues]
  | undecodable =>
    refine ⟨[], explains_quiet ?_ (hcomp'.trans hcomp) consumes_of_error hrenews⟩
    rw [hbook', Host.book, Host.book, hh.loaded]
  | miss hp =>
    refine ⟨[.miss a.pairingId],
      explains_plain (Step.steps ?_) (fun p => ?_) ?_ consumes_of_error hrenews⟩
    · exact hbook ▸ hbook' ▸ step_miss _ hp
    · simp only [hcomp', Host.afterRefusal, Host.audited, Host.withComparison, hcomp,
        List.count_cons, List.countP_singleton, Act.misses, beq_iff_eq, Prod.mk.injEq, and_true]
    · simp [Act.issues]
  | active hp =>
    refine ⟨[.drop], explains_plain (Step.steps ?_) (fun p => ?_) ?_ consumes_of_error hrenews⟩
    · exact hbook ▸ hbook' ▸ step_dropPairing _ _ _
    · simp [hcomp', Host.afterRefusal, Host.audited, Host.withComparison, hcomp, Act.misses]
    · simp [Act.issues]

/-- **A successful attempt** redeems the ticket of the offer it names, knowing what
a redemption must know. -/
theorem explains_consumed {h h₁ h₂ h' : Host} {c : Invocation} {a : Attempt} {persist : Bool}
    {peer : Peer} {s : StoreState} {d : Json} {i : Identity} {k : Bytes32}
    (ha : c.call.attempt? P = some a) (hid : Identified P c.env.initial h i k h₁)
    (hc : Consumed P c.env (c.call.base c.env.now h.loaded) a persist h₁ (.ok (peer, s)) h₂)
    (hbook' : h'.book = s.book) (hcompared : h'.compared = h₂.compared) :
    ∃ as, Explains P ⟨h, c, .ok (.document d), h'⟩ as := by
  obtain ⟨code, hpresents, hcode⟩ := presents_of_attempt ha
  have hbook : (c.call.base c.env.now h.loaded).book = h.book := book_base _ _ _
  have hconsumes (p : String) :
      consumes p ⟨h, c, .ok (.document d), h'⟩ = (a.pairingId == p) := by
    have hstr : (Json.str a.pairingId == Json.str p) = (a.pairingId == p) := by
      rw [Bool.eq_iff_iff, beq_iff_eq, beq_iff_eq, Json.str.injEq]
    rw [consumes, hpresents]
    exact hstr
  have hcount (p : String) : h'.compared.count (p, false) = h.compared.count (p, false) := by
    have hcomp : h₂.compared = (a.pairingId, true) :: h₁.compared := by
      cases hc
      cases persist <;> rfl
    rw [hcompared, hcomp, hid.frame.2.1, List.count_cons]
    simp
  cases hc with
  | @success pairing hp hlive hright =>
    refine ⟨[.redeem a.pairingId pairing.terms], Step.steps ?_, fun p => ?_, fun p => ?_,
      fun p t ht => ?_, fun p hp' => ?_, fun hr => ?_⟩
    · exact hbook ▸ hbook' ▸ step_redeem _ hp _
    · simp [hcount, Act.misses]
    · simp [Act.issues]
    · simp at ht
    · rw [hconsumes, beq_iff_eq] at hp'
      subst hp'
      refine ⟨pairing.terms, code, rfl, hpresents, hlive, ?_⟩
      rw [← hcode]
      exact hright
    · rw [renews_of_call (not_rotate_of_attempt ha)] at hr
      cases hr

/-- **Every call whose file steps go through is a few actions on the book of offers.** -/
theorem explained {h h' : Host} {c : Invocation} {r : Except Exn Reply}
    (hout : Outcome P h c.env c.call r h') : ∃ as, Explains P ⟨h, c, r, h'⟩ as := by
  obtain ⟨call, env⟩ := c
  -- calls that leave offers and comparisons alone are explained by no act
  have hquiet {h₁ : Host} {i : Identity} {k : Bytes32}
      (hid : Identified P env.initial h i k h₁) : h₁.book = h.book ∧ h₁.compared = h.compared :=
    ⟨by rw [Host.book, Host.book, hid.loaded], hid.frame.2.1⟩
  cases hout with
  | raised =>
    exact ⟨[], explains_quiet rfl rfl consumes_of_error (renews_of_error (.inl rfl))⟩
  | refused hid =>
    obtain ⟨hbook, hcomp⟩ := hquiet hid
    exact ⟨[], explains_quiet hbook hcomp consumes_of_error (renews_of_error hid.unrotated)⟩
  | created httl hid => exact ⟨_, explains_created rfl (hquiet hid).2⟩
  | unconsumed ha hid hc =>
    exact explains_unconsumed (c := ⟨call, env⟩) (not_rotate_of_attempt ha) hid.untouched hc
      (.refl _)
  | consumed ha hid hc =>
    refine explains_consumed (by rw [Call.attempt?, ha]; rfl) hid hc ?_ rfl
    cases hc
    rfl
  | unproved hr hid =>
    obtain ⟨hbook, hcomp⟩ := hquiet hid
    exact ⟨[], explains_quiet hbook hcomp consumes_of_error rfl⟩
  | completed hr hid _ _ _ hc =>
    exact explains_consumed (by rw [Call.attempt?, hr]; rfl) hid hc rfl rfl
  | signedChallenge hid =>
    obtain ⟨hbook, hcomp⟩ := hquiet hid
    exact ⟨[], explains_quiet hbook hcomp (fun _ => rfl) rfl⟩
  | listed hid =>
    obtain ⟨hbook, hcomp⟩ := hquiet hid
    exact ⟨[], explains_quiet hbook hcomp (fun _ => rfl) rfl⟩
  | revoked hid => exact ⟨[], explains_quiet rfl (hquiet hid).2 (fun _ => rfl) rfl⟩
  | rotated hid => exact ⟨_, explains_cleared rfl (hquiet hid).2 fun _ => rfl⟩
  | identified hid =>
    obtain ⟨hbook, hcomp⟩ := hquiet hid
    exact ⟨[], explains_quiet hbook hcomp (fun _ => rfl) rfl⟩
  | signed hid =>
    obtain ⟨hbook, hcomp⟩ := hquiet hid
    exact ⟨[], explains_quiet hbook hcomp (fun _ => rfl) rfl⟩

end Explaining

/-! ### The identity -/

section Identity

variable {P : Platform}

/-- An attempt on an offer leaves the identity alone. -/
theorem identity_of_consumed {env : Supply} {st : StoreState} {a : Attempt} {persist : Bool}
    {h₁ h₂ : Host} {res : Except Exn (Peer × StoreState)}
    (hc : Consumed P env st a persist h₁ res h₂) : h₂.identity = h₁.identity := by
  cases hc with
  | success => cases persist <;> rfl
  | _ => rfl

/-- A call that finds an identity leaves it, unless it rotates it; there is one after it
in any case. -/
theorem identity_of_outcome {h h' : Host} {c : Invocation} {r : Except Exn Reply} {i : Identity}
    (hout : Outcome P h c.env c.call r h') (hi : h.identity = some i) :
    (rotates ⟨h, c, r, h'⟩ = true ∧ ∃ j, h'.identity = some j) ∨ h'.identity = some i := by
  obtain ⟨call, env⟩ := c
  dsimp only at hout
  have hplaced {j : Identity} {k : Bytes32} {h₁ : Host}
      (hid : Identified P env.initial h j k h₁) : h₁.identity = some i := by
    cases hid with
    | stored => exact hi
    | generated hnone =>
      rw [hnone] at hi
      cases hi
  cases hout with
  | raised => exact .inr hi
  | rotated => exact .inl ⟨rfl, _, rfl⟩
  | unconsumed _ hid hc => exact .inr ((identity_of_consumed hc).trans (hplaced hid))
  | consumed _ hid hc => exact .inr ((identity_of_consumed hc).trans (hplaced hid))
  | completed _ hid _ _ _ hc => exact .inr ((identity_of_consumed hc).trans (hplaced hid))
  | refused hid => exact .inr (hplaced hid :)
  | created _ hid => exact .inr (hplaced hid :)
  | unproved _ hid => exact .inr (hplaced hid :)
  | signedChallenge hid => exact .inr (hplaced hid :)
  | listed hid => exact .inr (hplaced hid :)
  | revoked hid => exact .inr (hplaced hid :)
  | identified hid => exact .inr (hplaced hid :)
  | signed hid => exact .inr (hplaced hid :)

end Identity

/-! ### A run -/

namespace Sample

/-- An offer, and its code presented two seconds later. -/
def offer : Invocation := ⟨.createPairing 600, supply (moment 0) pairingId⟩

/-- The code presented. -/
def presented : Invocation :=
  ⟨.consumePairing (.str pairingId.1) (.str "23456-789ab") (.str "printerhmi-relay")
    (.str (b64encode relayPublic.1)), supply (moment 2) pairingId⟩

/-- The host with the offer. -/
def offered : Except Exn Reply × Host := storeStep platform .fresh offer

/-- The host with the peer. -/
def paired : Except Exn Reply × Host := storeStep platform offered.2 presented

/-- What the offer leaves. -/
theorem offered_spec : ∃ r, offered.1 = .ok r ∧
    offered.2.identity = some (newIdentity platform (supply (moment 0) pairingId).initial 1) ∧
    offered.2.loaded = StoreState.empty.offer platform (supply (moment 0) pairingId) 600 := by
  have hoffer : offered = _ := storeStep_document (c := offer) rfl
    (exec_createPairing (by decide) (.generated rfl))
  rw [hoffer]
  exact ⟨_, rfl, rfl, rfl⟩

/-- What is tried when the relay presents a code for the offer. -/
def relayAttempt (c : Json) : Attempt :=
  ⟨pairingId.1, (normalizeCode platform c).toOption, "printerhmi-relay", relayPublic⟩

theorem readAttempt_relay (c : Json) : readAttempt platform (.str pairingId.1) c
    (.str "printerhmi-relay") (.str (b64encode relayPublic.1)) = .ok (relayAttempt c) := by
  simp only [readAttempt, Except.bind_eq_ok, uuidText_eq_ok, patternText_eq_ok, keyBytes_eq_ok]
  exact ⟨_, ⟨rfl, pairingId.2⟩, _, ⟨rfl, by decide⟩, _, b64decode_str_b64encode _ _, relayPublic,
    rfl, rfl⟩

/-- The code presented is the one offered, in another spelling. -/
theorem code_relayAttempt : (relayAttempt (.str "23456-789ab")).code =
    some (String.ofList code.1) := by
  decide

/-- **The code presented enrolls the relay** on any host with an identity and the offer, whatever
attempts it has left. -/
theorem storeStep_presented {h : Host} {i : Identity} {key : Bytes32} {pairing : Pairing}
    (hi : h.identity = some i) (hkey : checkIdentity platform i = .ok key)
    (hp : h.loaded.pairings.get? pairingId.1 = some pairing)
    (hterms : pairing.terms = (newPairing platform (supply (moment 0) pairingId) 600).terms)
    (hinactive : h.loaded.isActive "printerhmi-relay" = false) :
    ∃ r h', storeStep platform h presented = (.ok r, h') ∧ h'.loaded =
      h.loaded.enroll pairingId.1 (newPeer platform "printerhmi-relay" relayPublic (moment 2)) := by
  obtain ⟨hexpires, hsalt, hdigest⟩ := Terms.mk.inj hterms
  have hlive : (supply (moment 2) pairingId).now < pairing.expiresEpoch := by
    rw [hexpires]
    decide
  have haccepts : pairing.Accepts platform (supply (moment 2) pairingId)
      (relayAttempt (.str "23456-789ab")).code := by
    refine ⟨salt.1, codeDigest platform (String.ofList code.1) salt.1, ?_, ?_, ?_⟩
    · rw [hsalt]
      exact b64decodeText_b64encode _ _
    · rw [hdigest]
      exact b64decodeText_b64encode _ _
    · rw [code_relayAttempt]
      rfl
  have hstep : storeStep platform h presented = _ := storeStep_document (c := presented) rfl
    (exec_consumePairing pairing (readAttempt_relay _) (.stored hi hkey) hp hlive haccepts hinactive)
  rw [hstep]
  exact ⟨_, _, rfl, rfl⟩

/-- What the presentation leaves: the peer of the key presented. -/
theorem paired_spec : ∃ r, paired.1 = .ok r ∧
    paired.2.loaded = offered.2.loaded.enroll pairingId.1
      (newPeer platform "printerhmi-relay" relayPublic (moment 2)) := by
  obtain ⟨-, -, hidentity, hloaded⟩ := offered_spec
  obtain ⟨r, h', hstep, hleft⟩ := storeStep_presented hidentity (checkIdentity_newIdentity _ _)
    (by rw [hloaded, StoreState.offer, Dict.get?_insert]; exact if_pos rfl) rfl
    (by rw [hloaded]; rfl)
  have hpaired : paired = (.ok r, h') := hstep
  rw [hpaired]
  exact ⟨r, rfl, hleft⟩

/-- The run that made them. -/
theorem paired_run : Run (storeStep platform) (fun _ _ => True) .fresh
    [⟨.fresh, offer, offered.1, offered.2⟩, ⟨offered.2, presented, paired.1, paired.2⟩]
    paired.2 :=
  (Run.start.next trivial).next trivial

end Sample

end PrinterHmi
