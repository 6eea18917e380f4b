import PrinterHmi.Enrollment.Pairing

/-!
# What the honest parties write is accepted

The documents of an enrollment are written in one module and checked in another,
each with its own patterns, decoders and clock windows. Here is that the checks
accept what the writers write: an offered code reads back as the code it was made
with (`newPairing_accepts`), a challenge is valid for as long as it says
(`validateRelayChallenge_createRelayChallenge`), and a request for an offer has
the form of one (`readEnrollmentRequest_enrollmentRequest`).
-/

namespace PrinterHmi

section Acceptance

variable {P : Platform}

/-! ### Codes -/

/-- The pairing alphabet has no dash, no space and no lower-case letter. -/
theorem pairingAlphabet_plain : ∀ c ∈ pairingAlphabet,
    c ≠ '-' ∧ c ≠ ' ' ∧ c.toNat < 128 ∧ c.toUpper = c := by
  decide

/-- **A code as it is handed out normalizes to the code drawn.** -/
theorem normalizeCode_displayCode (code : PairingCode) :
    normalizeCode P (.str (displayCode code)) = .ok (String.ofList code.1) := by
  obtain ⟨t, hlen, hmem⟩ := code
  -- the dash is stripped, and upper case is kept
  have hfilter : ∀ l : List Char, (∀ c ∈ l, c ∈ pairingAlphabet) →
      (l.filter fun c => c != '-' && c != ' ') = l := by
    intro l hl
    refine List.filter_eq_self.mpr fun c hc => ?_
    obtain ⟨hdash, hspace, -⟩ := pairingAlphabet_plain c (hl c hc)
    simp [hdash, hspace]
  have hstrip : ((displayCode ⟨t, hlen, hmem⟩).toList.filter fun c => c != '-' && c != ' ') = t := by
    have hdash : (('-' :: t.drop 5).filter fun c => c != '-' && c != ' ') =
        (t.drop 5).filter fun c => c != '-' && c != ' ' := rfl
    rw [displayCode, String.toList_ofList, List.filter_append, hdash,
      hfilter _ fun c hc => hmem c (List.mem_of_mem_take hc),
      hfilter _ fun c hc => hmem c (List.mem_of_mem_drop hc), List.take_append_drop]
  have hupper : P.upper (String.ofList t) = String.ofList t := by
    have hascii : IsAscii (String.ofList t) := fun c hc =>
      (pairingAlphabet_plain c (hmem c (by simpa using hc))).2.2.1
    have hmap : t.map Char.toUpper = t :=
      (List.map_congr_left fun c hc => (pairingAlphabet_plain c (hmem c hc)).2.2.2).trans
        (List.map_id' t)
    rw [P.upper_ascii _ hascii, String.toList_ofList, hmap]
  rw [normalizeCode, hstrip]
  dsimp only
  rw [hupper, String.toList_ofList, require_pos hlen, require_pos hmem]
  rfl

/-- **The code of an offer is accepted for it.** -/
theorem newPairing_accepts (made env : Supply) (ttl : ℤ) :
    (newPairing P made ttl).Accepts P env (some (String.ofList made.code.1)) :=
  ⟨made.salt.1, codeDigest P (String.ofList made.code.1) made.salt.1,
    b64decodeText_b64encode _ _, b64decodeText_b64encode _ _, rfl⟩

/-! ### Challenges -/

/-- **A challenge is accepted by the device it is for**, from half a minute before
it was made until it expires. -/
theorem validateRelayChallenge_createRelayChallenge {deviceId relayId : String} {ttl : ℤ}
    {challengeId : Uuid} {nonce : Bytes32} {made now : Time} {d : Json}
    (hd : createRelayChallenge P deviceId relayId ttl challengeId nonce made = .ok d)
    (hskew : made ≤ now + challengeClockSkew) (hlive : now < made + seconds ttl) :
    validateRelayChallenge P d deviceId now =
      .ok ⟨d, challengeId.1, relayId, made, made + seconds ttl⟩ := by
  simp only [createRelayChallenge, Except.bind_eq_ok, require_eq_ok, exists_const] at hd
  obtain ⟨-, hrelay, ⟨hone, hmax⟩, hd⟩ := hd
  obtain rfl := Except.ok.inj hd
  refine validateRelayChallenge_eq_ok.mpr ⟨rfl, rfl, rfl, rfl, challengeId.2, rfl, hrelay,
    ⟨nonce.1, b64decode_str_b64encode _ _, nonce.2⟩, rfl, ?_, ?_, ?_, ?_, hskew, hlive, rfl⟩
  · exact parseTimestamp_timestamp P _ made
  · exact parseTimestamp_timestamp P _ (made + seconds ttl)
  · exact lt_add_of_pos_right made (seconds_pos hone)
  · exact (add_sub_cancel_left made (seconds ttl)).trans_le hmax

/-! ### Requests -/

/-- **A request for an offer has the form of one**, and says what it was made of. -/
theorem readEnrollmentRequest_enrollmentRequest {challenge code : Json} {pairingId peerId : String}
    {key : Bytes32} {signature : Signature} (hpairing : isUuidText pairingId = true)
    (hpeer : peerIdPattern peerId = true) :
    readEnrollmentRequest P
        (enrollmentRequest challenge code pairingId peerId (b64encode key.1) signature) =
      .ok ⟨⟨pairingId, (normalizeCode P code).toOption, peerId, key⟩, challenge, signature⟩ :=
  readEnrollmentRequest_eq_ok.mpr ⟨rfl, rfl, rfl, rfl, hpairing, rfl, hpeer,
    b64decode_str_b64encode _ _, b64decode_str_b64encode _ _, rfl, rfl⟩

end Acceptance

end PrinterHmi
