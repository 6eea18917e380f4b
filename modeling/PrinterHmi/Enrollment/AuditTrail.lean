import PrinterHmi.Enrollment.Replay

/-!
# The audit log explains the peers

Every change of the peers leaves a record in the audit log, and no record tells of a
change that was not made. So the log can be read back: `replayAudit` goes through its
records in order, and what it ends with are the active peers of the stored state, each
with its fingerprint (`audit_explains_peers`).

Of the records only three kinds speak of the peers, and of these only the ones of a
success: a refused code is recorded under the event of a consumed one, and an identity
that is generated in the course of a rotation is recorded before the rotation is.
-/

namespace PrinterHmi

/-! ### Reading the log -/

/-- The text of a detail of a record. -/
def AuditRecord.detail (record : AuditRecord) (name : String) : Option String :=
  (Entries.get? name record.details).bind Json.str?

/-- **What a record tells of the active peers**, whose fingerprints are kept under their
identifiers. -/
def replayRecord (peers : Dict String String) (record : AuditRecord) : Dict String String :=
  if record.outcome ≠ "success" then peers
  else if record.event = "pairing.consumed" then
    match record.detail "peer_id", record.detail "peer_fingerprint" with
    | some peerId, some fingerprint => peers.insert peerId fingerprint
    | _, _ => peers
  else if record.event = "peer.revoked" then
    match record.detail "peer_id" with
    | some peerId => peers.erase peerId
    | none => peers
  else if record.event = "identity.rotated" then ∅
  else peers

/-- The active peers a log tells of. -/
def replayAudit (log : List AuditRecord) : Dict String String := log.foldl replayRecord ∅

/-- The fingerprint of a peer, if it is active. -/
def StoreState.activeFingerprint (s : StoreState) (peerId : String) : Option String :=
  (s.peers.get? peerId).bind fun peer =>
    if peer.revokedAt = none then some peer.fingerprint else none

/-- **The log of a host explains its peers.** -/
def Host.Explained (h : Host) : Prop :=
  ∀ peerId, (replayAudit h.audit).get? peerId = h.loaded.activeFingerprint peerId

/-- A record that says nothing of the peers. -/
def Silent (event outcome : String) : Prop :=
  outcome ≠ "success" ∨ event ∉ ["pairing.consumed", "peer.revoked", "identity.rotated"]

instance (event outcome : String) : Decidable (Silent event outcome) :=
  inferInstanceAs (Decidable (_ ∨ _))

section Trail

variable {P : Platform} {h h₁ h₂ : Host} {s s' : StoreState} {clock : Time}
  {event outcome : String} {details : List (String × Json)}

/-! ### One record -/

theorem replayAudit_audited : replayAudit (h.audited P clock event outcome details).audit =
    replayRecord (replayAudit h.audit) ⟨P.timestamp clock, event, outcome, details⟩ := by
  rw [Host.audited, replayAudit, List.foldl_append]
  rfl

theorem replayRecord_silent (hsilent : Silent event outcome) (peers : Dict String String)
    (timestamp : String) : replayRecord peers ⟨timestamp, event, outcome, details⟩ = peers := by
  rw [replayRecord]
  rcases hsilent with hout | hevent
  · rw [if_pos hout]
  · simp only [List.mem_cons, List.not_mem_nil, or_false, not_or] at hevent
    rw [if_neg hevent.1, if_neg hevent.2.1, if_neg hevent.2.2, ite_self]

/-- The peers a state has in common with another are as active in both. -/
theorem activeFingerprint_congr (hpeers : s'.peers = s.peers) (peerId : String) :
    s'.activeFingerprint peerId = s.activeFingerprint peerId := by
  rw [StoreState.activeFingerprint, StoreState.activeFingerprint, hpeers]

/-- **A silent record**, beside a state with the same peers. -/
theorem Host.Explained.silent (hh : h.Explained) (hsilent : Silent event outcome)
    (haudit : h₁.audit = h.audit) (hpeers : h₁.loaded.peers = h.loaded.peers) :
    (h₁.audited P clock event outcome details).Explained := by
  intro peerId
  rw [replayAudit_audited, replayRecord_silent hsilent, haudit, hh peerId]
  exact (activeFingerprint_congr hpeers peerId).symm

/-- A log stays true as long as neither it nor the peers change. -/
theorem Host.Explained.frame (hh : h.Explained) (haudit : h₁.audit = h.audit)
    (hpeers : h₁.loaded.peers = h.loaded.peers) : h₁.Explained := by
  intro peerId
  rw [haudit, hh peerId, activeFingerprint_congr hpeers]

/-- The log explains the peers of a host whose identity has been put in place. -/
theorem Host.Explained.identified {g : Generation} {i : Identity} {k : Bytes32}
    (hh : h.Explained) (hid : Identified P g h i k h₁) : h₁.Explained := by
  cases hid with
  | stored => exact hh
  | generated => exact hh.silent (by decide) rfl rfl

/-! ### The records of a success -/

/-- The record of a consumed pairing adds its peer. -/
theorem replayRecord_consumed (peers : Dict String String) (timestamp pairingId : String)
    (peer : Peer) : replayRecord peers ⟨timestamp, "pairing.consumed", "success",
      [("pairing_id", .str pairingId), ("peer_fingerprint", .str peer.fingerprint),
        ("peer_id", .str peer.peerId)]⟩ = peers.insert peer.peerId peer.fingerprint := rfl

/-- The record of a revocation takes its peer away. -/
theorem replayRecord_revoked (peers : Dict String String) (timestamp peerId fingerprint : String) :
    replayRecord peers ⟨timestamp, "peer.revoked", "success",
      [("peer_fingerprint", .str fingerprint), ("peer_id", .str peerId)]⟩ = peers.erase peerId :=
  rfl

theorem activeFingerprint_enroll (pairingId : String) (a : Attempt) (now : Time) (peerId : String) :
    (s.enroll pairingId (newPeer P a.peerId a.key now)).activeFingerprint peerId =
      if a.peerId = peerId then some (newPeer P a.peerId a.key now).fingerprint
      else s.activeFingerprint peerId := by
  have hget : (s.enroll pairingId (newPeer P a.peerId a.key now)).peers.get? peerId =
      if a.peerId = peerId then some (newPeer P a.peerId a.key now) else s.peers.get? peerId :=
    Dict.get?_insert
  rw [StoreState.activeFingerprint, hget]
  by_cases hid : a.peerId = peerId
  · rw [if_pos hid, if_pos hid]
    rfl
  · rw [if_neg hid, if_neg hid]
    rfl

theorem activeFingerprint_revoke (peer : Peer) (now : Time) (revoked peerId : String) :
    (s.revoke P revoked peer now).activeFingerprint peerId =
      if revoked = peerId then none else s.activeFingerprint peerId := by
  rw [StoreState.activeFingerprint, StoreState.revoke, Dict.get?_insert]
  by_cases hid : revoked = peerId
  · rw [if_pos hid, if_pos hid]
    rfl
  · rw [if_neg hid, if_neg hid]
    rfl

/-- **A consumed pairing is explained**, whatever else its state keeps. -/
theorem Host.Explained.consumption {env : Supply} {pairingId : String} {a : Attempt} {now : Time}
    (hh : h.Explained) (haudit : h₁.audit = h.audit) (hs : s.peers = h.loaded.peers)
    (hpeers : h₁.loaded.peers = (s.enroll pairingId (newPeer P a.peerId a.key now)).peers) :
    (h₁.afterConsumption P env pairingId (newPeer P a.peerId a.key now)).Explained := by
  intro peerId
  have hstate : (h₁.afterConsumption P env pairingId (newPeer P a.peerId a.key now)).loaded.peers =
      (s.enroll pairingId (newPeer P a.peerId a.key now)).peers := hpeers
  rw [activeFingerprint_congr hstate, activeFingerprint_enroll, Host.afterConsumption,
    replayAudit_audited, replayRecord_consumed, haudit, Dict.get?_insert, hh peerId,
    activeFingerprint_congr hs]
  rfl

/-! ### One call -/

/-- An attempt that fails leaves the peers as they are, and no record of a change. -/
theorem Host.Explained.unconsumed {env : Supply} {a : Attempt} {persist : Bool} {e : Exn}
    (hh : h.Explained) (hs : s.peers = h.loaded.peers)
    (hc : Consumed P env s a persist h (.error e) h₁) : h₁.Explained := by
  have hrefused : Silent "pairing.consumed" "rejected" := by decide
  cases hc with
  | absent => exact hh.silent hrefused rfl hs
  | undecodable => exact hh
  | miss => exact hh.silent hrefused rfl hs
  | active => exact hh.silent hrefused rfl hs

/-- **Every call keeps the log true.** -/
theorem explained_of_outcome {env : Supply} {call : Call} {r : Except Exn Reply}
    (hh : h.Explained) (hout : Outcome P h env call r h₂) : h₂.Explained := by
  cases hout with
  | raised => exact hh
  | refused hid => exact hh.identified hid
  | created httl hid =>
    refine (hh.identified hid).silent (by decide) rfl ?_
    rw [hid.loaded]
    rfl
  | @unconsumed call a persist e i k h₁ h₂ ha hid hc =>
    refine (hh.identified hid).unconsumed ?_ hc
    rw [hid.loaded]
    cases call <;> rfl
  | consumed ha hid hc =>
    cases hc with
    | success =>
      refine (hh.identified hid).consumption rfl ?_ rfl
      rw [hid.loaded]
  | unproved hr hid => exact (hh.identified hid).silent (by decide) rfl rfl
  | completed hr hid hch hunused hproof hc =>
    cases hc with
    | success =>
      -- the consumption is recorded first, and the enrollment after it
      refine Host.Explained.silent (h := Host.afterConsumption P _ env _ _) ?_ (by decide) rfl rfl
      refine (hh.identified hid).consumption rfl ?_ rfl
      rw [hid.loaded]
      rfl
  | signedChallenge hid hch => exact (hh.identified hid).silent (by decide) rfl rfl
  | listed hid => exact hh.identified hid
  | @revoked peerId peer i k h₁ hid hpeer hactive =>
    intro other
    have hidentified := hh.identified hid other
    rw [hid.loaded] at hidentified
    rw [replayAudit_audited, replayRecord_revoked, Dict.get?_erase]
    refine Eq.trans ?_ (activeFingerprint_revoke (P := P) (s := h.loaded) peer env.now peerId
      other).symm
    exact congrArg (ite _ none) hidentified
  | rotated hid =>
    intro peerId
    rw [replayAudit_audited]
    rfl
  | identified hid => exact hh.identified hid
  | signed hid => exact (hh.identified hid).frame rfl rfl

/-- **The audit log explains the peer set**: after any run of operations, accepted or
refused, reading the log back gives exactly the active peers of the stored state, with
their fingerprints. -/
theorem audit_explains_peers {es : List StoreEvent}
    (hrun : Run (storeStep P) (fun _ _ => True) .fresh es h) (peerId : String) :
    (replayAudit h.audit).get? peerId = h.loaded.activeFingerprint peerId :=
  hrun.invariant_state (I := Host.Explained) (fun _ => rfl)
    (fun h c hh => explained_of_outcome hh (storeStep_outcome h c)) peerId

end Trail

open Sample in
/-- After a sample enrollment, the log tells of one active peer. -/
theorem audit_explains_peers_sample : ∃ es h,
    Run (storeStep platform) (fun _ _ => True) .fresh es h ∧
    es.map Event.call = [offer, enrolling] ∧
    (replayAudit h.audit).get? "printerhmi-relay" =
      some (newPeer platform "printerhmi-relay" relayPublic (moment 2)).fingerprint := by
  obtain ⟨r₁, h₁, hoffer, hs₁⟩ := reaches_offered
  obtain ⟨r₂, h₂, henroll, hs₂⟩ := hs₁.enrolled.reaches
  have hrun : Run (storeStep platform) (fun _ _ => True) .fresh _ h₂ :=
    (Run.start.next_eq trivial hoffer).next_eq trivial henroll
  refine ⟨_, h₂, hrun, rfl, ?_⟩
  rw [audit_explains_peers hrun, hs₂.loaded]
  rfl

end PrinterHmi
