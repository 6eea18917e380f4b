import PrinterHmi.Enrollment.Pairing

/-!
# Peers and their bindings

The peers of a store are written by two enrollments, by a revocation and by a
rotation. Each of these is read off the outcome of a call once
(`Outcome.peersChange`), and what is said about peers follows from the four cases:
a record is of its own identifier and key (`Peer.Canonical`), an active peer keeps
its record until it is revoked or the identity rotated, and a peer that was not
active is so only after an offer has been consumed for it (`peer_binding_stable`).

The rule behind the second is that an enrollment refuses an active peer, so no call
ever writes over one.
-/

namespace PrinterHmi

/-- The record a peer is kept as: under its own identifier, with the canonical text
of a key and the fingerprint of that key. -/
def Peer.Canonical (P : Platform) (peerId : String) (peer : Peer) : Prop :=
  peer.peerId = peerId ∧
    ∃ key : Bytes32, peer.publicKey = b64encode key.1 ∧
      peer.fingerprint = PrinterHmi.fingerprint P key.1

/-- The call names the peer it enrolls. -/
def Call.Names (peerId : String) : Call → Prop
  | consumePairing _ _ peer _ => peer = .str peerId
  | completeRelayEnrollment request => request.field "peer_id" = .str peerId
  | _ => False

/-- The call revoked the peer, or rotated the identity. -/
def StoreEvent.EndsBinding (peerId : String) (e : StoreEvent) : Prop :=
  e.result.isOk = true ∧
    (e.call.call = .revokePeer (.str peerId) ∨ ∃ confirmed, e.call.call = .rotateIdentity confirmed)

/-- **The call consumed an offer for a peer**: it named the peer and succeeded, on an
offer that was there, had not expired and was made with the code presented, and that
is gone. -/
def StoreEvent.ConsumesFor (P : Platform) (peerId : String) (e : StoreEvent) : Prop :=
  e.call.call.Names peerId ∧ e.result.isOk = true ∧
    ∃ attempt pairing, e.call.call.attempt? P = some attempt ∧ attempt.peerId = peerId ∧
      e.before.loaded.pairings.get? attempt.pairingId = some pairing ∧
      e.call.env.now < pairing.expiresEpoch ∧ pairing.Accepts P e.call.env attempt.code ∧
      e.after.loaded.pairings.get? attempt.pairingId = none

section Change

variable {P : Platform}

/-- **What a call does to the peers.** -/
inductive PeersChange (P : Platform) (e : StoreEvent) : Prop
  | unchanged (hpeers : e.after.loaded.peers = e.before.loaded.peers)
  | revoked {peerId : String} {peer : Peer} (hcall : e.call.call = .revokePeer (.str peerId))
      (hok : e.result.isOk = true) (hpeer : e.before.loaded.peers.get? peerId = some peer)
      (hpeers : e.after.loaded.peers =
        e.before.loaded.peers.insert peerId (peer.revoked P e.call.env.now))
  | rotated {confirmed : Bool} (hcall : e.call.call = .rotateIdentity confirmed)
      (hok : e.result.isOk = true) (hpeers : e.after.loaded.peers = ∅)
  | enrolled {attempt : Attempt} (hconsumes : e.ConsumesFor P attempt.peerId)
      (hinactive : e.before.loaded.isActive attempt.peerId = false)
      (hpeers : e.after.loaded.peers = e.before.loaded.peers.insert attempt.peerId
        (newPeer P attempt.peerId attempt.key e.call.env.now))

/-- The peers an attempt works on are those stored. -/
theorem base_peers (call : Call) (now : Time) (s : StoreState) : (call.base now s).peers = s.peers := by
  cases call <;> rfl

/-- A failed attempt leaves the peers alone. -/
theorem peers_of_unconsumed {h h₁ h₂ : Host} {env : Supply} {call : Call} {a : Attempt}
    {persist : Bool} {e : Exn} {i : Identity} {k : Bytes32}
    (hid : Identified P env.initial h i k h₁)
    (hc : Consumed P env (call.base env.now h.loaded) a persist h₁ (.error e) h₂) :
    h₂.loaded.peers = h.loaded.peers := by
  have hbase := base_peers call env.now h.loaded
  cases hc with
  | absent => exact hbase
  | undecodable => rw [hid.loaded]
  | miss => exact hbase
  | active => exact hbase

/-- A successful attempt was made on an offer that stood, and removes it. -/
theorem offer_of_consumed {h₁ h₂ : Host} {env : Supply} {s s' : StoreState} {a : Attempt}
    {persist : Bool} {peer : Peer}
    (hc : Consumed P env s a persist h₁ (.ok (peer, s')) h₂) :
    ∃ pairing, s.pairings.get? a.pairingId = some pairing ∧ env.now < pairing.expiresEpoch ∧
      pairing.Accepts P env a.code ∧ s.isActive a.peerId = false ∧
      peer = newPeer P a.peerId a.key env.now ∧ s' = s.enroll a.pairingId peer ∧
      s'.pairings.get? a.pairingId = none := by
  cases hc with
  | success hp hlive hright hinactive =>
    refine ⟨_, hp, hlive, hright, hinactive, rfl, rfl, ?_⟩
    exact Dict.get?_erase.trans (if_pos rfl)

/-- **Every call changes the peers in one of four ways.** -/
theorem Outcome.peersChange {h h' : Host} {c : Invocation} {r : Except Exn Reply}
    (hout : Outcome P h c.env c.call r h') : PeersChange P ⟨h, c, r, h'⟩ := by
  obtain ⟨call, env⟩ := c
  cases hout with
  | raised => exact .unchanged rfl
  | refused hid => exact .unchanged (by rw [hid.loaded])
  | created => exact .unchanged rfl
  | unconsumed _ hid hc => exact .unchanged (peers_of_unconsumed hid hc)
  | @consumed pairingId code peerId peerPublicKey a i k h₁ h₂ peer s ha hid hc =>
    obtain ⟨pairing, hp, hlive, hright, hinactive, rfl, rfl, hgone⟩ := offer_of_consumed hc
    have hnames := (readAttempt_eq_ok ha).2.2
    have hattempt : (Call.consumePairing pairingId code peerId peerPublicKey).attempt? P =
        some a := by
      rw [Call.attempt?, ha]
      rfl
    -- what was written is the state with the peer in it
    cases hc
    exact .enrolled ⟨hnames, rfl, a, pairing, hattempt, rfl, hp, hlive, hright, hgone⟩ hinactive rfl
  | unproved _ hid => exact .unchanged (by rw [← hid.loaded]; rfl)
  | @completed document request challenge i k h₁ h₂ peer s hr hid hch hunused hproof hc =>
    obtain ⟨pairing, hp, hlive, hright, hinactive, rfl, rfl, hgone⟩ := offer_of_consumed hc
    have hnames : document.field "peer_id" = .str request.peerId :=
      (readEnrollmentRequest_eq_ok.mp hr).2.2.2.2.2.1
    have hattempt : (Call.completeRelayEnrollment document).attempt? P =
        some request.toAttempt := by
      rw [Call.attempt?, hr]
      rfl
    exact .enrolled
      ⟨hnames, rfl, request.toAttempt, pairing, hattempt, rfl, hp, hlive, hright, hgone⟩ hinactive rfl
  | signedChallenge hid => exact .unchanged (by rw [← hid.loaded]; rfl)
  | listed hid => exact .unchanged (by rw [hid.loaded])
  | revoked _ hpeer => exact .revoked rfl rfl hpeer rfl
  | rotated => exact .rotated rfl rfl rfl
  | identified hid => exact .unchanged (by rw [hid.loaded])
  | signed hid => exact .unchanged (by rw [← hid.loaded]; rfl)

end Change

/-! ### Runs -/

section Law

variable {P : Platform} {es : List StoreEvent} {h : Host}

/-- A run of the store on which nothing is imposed. -/
abbrev StoreRun (P : Platform) : Host → List StoreEvent → Host → Prop :=
  Run (storeStep P) fun _ _ => True

/-- An event of a run changes the peers in one of the four ways. -/
theorem peersChange_of_mem {h₀ : Host} (hrun : StoreRun P h₀ es h) {e : StoreEvent} (he : e ∈ es) :
    PeersChange P e := by
  have hout := storeStep_outcome (P := P) e.before e.call
  rw [hrun.step_of_mem he] at hout
  exact hout.peersChange

/-- **Every record is of its own identifier and key.** -/
theorem canonical_of_run (hrun : StoreRun P .fresh es h) :
    ∀ p peer, h.loaded.peers.get? p = some peer → peer.Canonical P p := by
  refine hrun.invariant_state (I := fun h => ∀ p peer, h.loaded.peers.get? p = some peer →
    peer.Canonical P p) (fun p peer hp => by cases hp) ?_
  intro h c hcanonical p peer hp
  rcases (storeStep_outcome (P := P) h c).peersChange with
    hpeers | ⟨-, -, hold, hpeers⟩ | ⟨-, -, hpeers⟩ | ⟨-, -, hpeers⟩
  · exact hcanonical p peer (hpeers ▸ hp)
  · rw [hpeers, Dict.get?_insert] at hp
    split_ifs at hp with hq
    · -- the revoked record differs from the one before it in its revocation only
      obtain rfl := Option.some.inj hp
      exact hq ▸ (hcanonical _ _ hold :)
    · exact hcanonical p peer hp
  · rw [hpeers] at hp
    cases hp
  · rw [hpeers, Dict.get?_insert] at hp
    split_ifs at hp with hq
    · obtain rfl := Option.some.inj hp
      exact ⟨hq, _, rfl, rfl⟩
    · exact hcanonical p peer hp

/-- **One call keeps an active peer**, unless it ends the binding. -/
theorem PeersChange.keeps {e : StoreEvent} {p : String} {peer : Peer} (hchange : PeersChange P e)
    (hpeer : e.before.loaded.peers.get? p = some peer) (hactive : peer.revokedAt = none)
    (hkeep : ¬e.EndsBinding p) : e.after.loaded.peers.get? p = some peer := by
  rcases hchange with hpeers | ⟨hcall, hok, -, hpeers⟩ | ⟨hcall, hok, -⟩ | ⟨-, hinactive, hpeers⟩
  · rw [hpeers]
    exact hpeer
  · rw [hpeers, Dict.get?_insert, if_neg]
    · exact hpeer
    · rintro rfl
      exact hkeep ⟨hok, .inl hcall⟩
  · exact absurd ⟨hok, .inr ⟨_, hcall⟩⟩ hkeep
  · rw [hpeers, Dict.get?_insert, if_neg]
    · exact hpeer
    · -- an enrollment refuses an active peer
      rintro rfl
      simp [StoreState.isActive, hpeer, hactive] at hinactive

/-- **A peer that was not active is so only after an offer was consumed for it.** -/
theorem PeersChange.activates {e : StoreEvent} {p : String} (hchange : PeersChange P e)
    (hinactive : e.before.loaded.isActive p = false) (hactive : e.after.loaded.isActive p = true) :
    e.ConsumesFor P p := by
  rcases hchange with hpeers | ⟨-, -, -, hpeers⟩ | ⟨-, -, hpeers⟩ | ⟨hconsumes, -, hpeers⟩
  · rw [StoreState.isActive, hpeers] at hactive
    exact absurd (hinactive.symm.trans hactive) (by simp)
  · rw [StoreState.isActive, hpeers, Dict.get?_insert] at hactive
    split_ifs at hactive with hq
    · cases hactive
    · exact absurd (hinactive.symm.trans hactive) (by simp)
  · rw [StoreState.isActive, hpeers] at hactive
    cases hactive
  · rw [StoreState.isActive, hpeers, Dict.get?_insert] at hactive
    split_ifs at hactive with hq
    · exact hq ▸ hconsumes
    · exact absurd (hinactive.symm.trans hactive) (by simp)

/-- **Peer bindings are stable**, over any run and through both enrollments: a peer
that is active keeps its record until a successful revocation of it or a rotation; a
peer whose record is revoked is active again only by a call that names it and consumes
a valid offer; and every record is of its own identifier and key. -/
theorem peer_binding_stable (hrun : StoreRun P .fresh es h) :
    (∀ es' h', StoreRun P h es' h' → ∀ p peer, h.loaded.peers.get? p = some peer →
      peer.revokedAt = none → (∀ e ∈ es', ¬StoreEvent.EndsBinding p e) →
        h'.loaded.peers.get? p = some peer) ∧
    (∀ e ∈ es, ∀ p, e.before.loaded.isActive p = false → e.after.loaded.isActive p = true →
      StoreEvent.ConsumesFor P p e) ∧
    ∀ p peer, h.loaded.peers.get? p = some peer → peer.Canonical P p := by
  refine ⟨fun es' h' hrun' p peer hpeer hactive => ?_, fun e he p => ?_, canonical_of_run hrun⟩
  · refine hrun'.invariant (I := fun es' h' => (∀ e ∈ es', ¬StoreEvent.EndsBinding p e) →
      h'.loaded.peers.get? p = some peer) (fun _ => hpeer) ?_
    intro es' h' c _ ih _ hkeep
    rw [List.forall_mem_append, List.forall_mem_singleton] at hkeep
    exact (storeStep_outcome (P := P) h' c).peersChange.keeps (ih hkeep.1) hactive hkeep.2
  · exact (peersChange_of_mem hrun he).activates

namespace Sample

/-- No peer is there when the offer is made. -/
theorem isActive_offered : offered.2.loaded.isActive "printerhmi-relay" = false := by
  obtain ⟨-, -, -, hoffered⟩ := offered_spec
  rw [hoffered]
  rfl

/-- The peer is there when its code has been presented. -/
theorem isActive_paired : paired.2.loaded.isActive "printerhmi-relay" = true := by
  obtain ⟨-, -, -, hoffered⟩ := offered_spec
  obtain ⟨-, -, hpaired⟩ := paired_spec
  rw [hpaired, hoffered]
  rfl

end Sample

/-- In a sample run a peer is enrolled over an offer, and its binding is stable. -/
theorem peer_binding_stable_sample :
    Sample.paired.2.loaded.isActive "printerhmi-relay" = true ∧
      StoreEvent.ConsumesFor Sample.platform "printerhmi-relay"
        ⟨Sample.offered.2, Sample.presented, Sample.paired.1, Sample.paired.2⟩ := by
  -- the hosts are named, so that they are not computed
  have hconsumes (h₁ h₂ : Host) (c r) (hmem : _)
      (hinactive : h₁.loaded.isActive "printerhmi-relay" = false)
      (hactive : h₂.loaded.isActive "printerhmi-relay" = true) :=
    (peer_binding_stable Sample.paired_run).2.1 ⟨h₁, c, r, h₂⟩ hmem
      "printerhmi-relay" hinactive hactive
  exact ⟨Sample.isActive_paired, hconsumes _ _ _ _
    (List.mem_cons_of_mem _ (List.mem_singleton.mpr rfl)) Sample.isActive_offered
    Sample.isActive_paired⟩

end Law

end PrinterHmi
