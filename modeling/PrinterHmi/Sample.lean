import Mathlib.Logic.Equiv.Basic
import PrinterHmi.Transport.Session

/-!
# A sample platform

A platform on which the program can be run: three Ed25519 keys, an offered pairing
code, and the digests, signatures and timestamps of one enrollment and one
session, each the value the real function has. Away from these points its
functions are simple stand-ins that keep the laws of a platform – a key is its own
public key, a digest is its input cut or padded to thirty-two bytes, a signature
names its key, a moment is written as a count of microseconds.
-/

namespace PrinterHmi

namespace Sample

/-! ### Tables -/

section Tables

variable {α β : Type} [DecidableEq α]

/-- A function overridden at the points of a table. -/
def override (table : List (α × β)) (f : α → β) (a : α) : β :=
  match table.find? fun e => e.1 = a with
  | some e => e.2
  | none => f a

theorem override_cons (a x : α) (b : β) (table : List (α × β)) (f : α → β) :
    override ((a, b) :: table) f x = if a = x then b else override table f x := by
  by_cases h : a = x
  · simp [override, List.find?, h]
  · simp [override, List.find?, h]

/-- A value that is in the table at one point only, and is not one of the function, is
the value at that point. -/
theorem eq_of_override {table : List (α × β)} {f : α → β} {x a : α} {b : β}
    (h : override table f x = b) (htable : ∀ e ∈ table, e.2 = b → e.1 = a) (hf : f x ≠ b) :
    x = a := by
  rw [override] at h
  cases hfind : table.find? fun e => e.1 = x with
  | some e =>
    rw [hfind] at h
    have hx : e.1 = x := by simpa using List.find?_some hfind
    exact hx.symm.trans (htable e (List.mem_of_find?_eq_some hfind) h)
  | none =>
    rw [hfind] at h
    exact absurd h hf

/-- A value the table has, and has alone for a point. -/
theorem override_of_mem {table : List (α × β)} {f : α → β} {a : α} {b : β}
    (hmem : (a, b) ∈ table) (htable : ∀ e ∈ table, e.1 = a → e.2 = b) : override table f a = b := by
  rw [override]
  cases hfind : table.find? fun e => e.1 = a with
  | some e => exact htable e (List.mem_of_find?_eq_some hfind) (by simpa using List.find?_some hfind)
  | none => exact absurd (decide_eq_true rfl) (List.find?_eq_none.mp hfind (a, b) hmem)

/-- A value of an overridden function is one of the table or one of the function. -/
theorem override_cases (table : List (α × β)) (f : α → β) (x : α) :
    (∃ e ∈ table, e.1 = x ∧ override table f x = e.2) ∨ override table f x = f x := by
  rw [override]
  cases hfind : table.find? fun e => e.1 = x with
  | some e =>
    exact .inl ⟨e, List.mem_of_find?_eq_some hfind, by simpa using List.find?_some hfind, rfl⟩
  | none => exact .inr rfl

theorem override_nil (x : α) (f : α → β) : override [] f x = f x := rfl

end Tables

/-- A byte string cut or padded to `n` bytes. -/
def fit (n : ℕ) (b : Bytes) : Bytes := (b ++ List.replicate n 0).take n

theorem length_fit (n : ℕ) (b : Bytes) : (fit n b).length = n := by
  simp [fit]

/-! ### Keys and digests -/

/-- Thirty-two equal bytes. -/
def repeated (b : UInt8) : Bytes32 := ⟨List.replicate 32 b, List.length_replicate⟩

/-- The agent's private key. -/
def agentKey : Bytes32 := repeated 17

/-- The relay's private key, as a peer. -/
def relayKey : Bytes32 := repeated 34

/-- The private key the agent rotates to. -/
def rotatedKey : Bytes32 := repeated 51

/-- The offered pairing code. -/
def code : PairingCode := ⟨"23456789AB".toList, by decide⟩

/-- Its salt. -/
def salt : { b : Bytes // b.length = 16 } := ⟨List.replicate 16 51, List.length_replicate⟩

/-- The public key of `agentKey`. -/
def agentPublic : Bytes32 :=
  ⟨[208, 74, 178, 50, 116, 43, 180, 171, 58, 19, 104, 189, 70, 21, 228, 230, 208, 34, 74, 183, 26,
   1, 107, 175, 133, 32, 163, 50, 201, 119, 135, 55], rfl⟩

/-- The public key of `relayKey`. -/
def relayPublic : Bytes32 :=
  ⟨[160, 154, 165, 244, 122, 103, 89, 128, 47, 249, 85, 248, 220, 45, 42, 20, 165, 201, 157, 35,
   190, 151, 248, 100, 18, 127, 249, 56, 52, 85, 164, 240], rfl⟩

/-- The public key of `rotatedKey`. -/
def rotatedPublic : Bytes32 :=
  ⟨[23, 203, 121, 251, 43, 65, 32, 242, 177, 236, 101, 228, 25, 141, 110, 8, 178, 142, 129, 63,
   235, 1, 228, 164, 0, 131, 155, 133, 225, 128, 128, 206], rfl⟩

/-- The SHA-256 digest of `agentPublic`. -/
def agentDigest : Bytes32 :=
  ⟨[16, 186, 104, 44, 138, 209, 53, 19, 151, 30, 139, 86, 136, 26, 171, 139, 215, 2, 187, 128, 119,
   150, 236, 168, 25, 50, 199, 53, 169, 77, 110, 109], rfl⟩

/-- The SHA-256 digest of `relayPublic`. -/
def relayDigest : Bytes32 :=
  ⟨[19, 37, 184, 80, 194, 135, 25, 22, 234, 226, 3, 240, 239, 195, 200, 152, 127, 100, 229, 227,
   205, 178, 118, 121, 230, 209, 250, 151, 128, 131, 87, 230], rfl⟩

/-- The SHA-256 digest of `rotatedPublic`. -/
def rotatedDigest : Bytes32 :=
  ⟨[108, 143, 134, 7, 219, 232, 112, 119, 166, 42, 41, 144, 206, 7, 217, 74, 175, 116, 157, 247,
   111, 135, 185, 142, 183, 134, 166, 209, 15, 3, 7, 101], rfl⟩

/-- The PBKDF2 digest of `code` under `salt`. -/
def codeHash : Bytes32 :=
  ⟨[233, 189, 177, 59, 244, 57, 103, 228, 179, 42, 31, 46, 61, 90, 32, 73, 111, 87, 199, 105, 64,
   36, 118, 74, 32, 91, 246, 119, 63, 217, 79, 19], rfl⟩

/-- The public key of a private key. -/
def keys : Bytes32 ≃ Bytes32 :=
  (Equiv.swap rotatedKey rotatedPublic).trans
    ((Equiv.swap relayKey relayPublic).trans (Equiv.swap agentKey agentPublic))

/-- A byte string cut or padded to a digest. -/
def fitDigest (b : Bytes) : Bytes32 := ⟨fit 32 b, length_fit 32 b⟩

/-- A short byte string is padded without loss. -/
theorem fitDigest_eq {b : Bytes} (h : b.length = 10) :
    (fitDigest b).1 = b ++ List.replicate 22 0 := by
  have hsplit : b ++ List.replicate 32 0 = (b ++ List.replicate 22 0) ++ List.replicate 10 0 := by
    rw [List.append_assoc, List.replicate_append_replicate]
  change (b ++ List.replicate 32 0).take 32 = _
  rw [hsplit, List.take_left' (by simp [h])]

/-- `sha256`, at the three public keys. -/
def sha256 (b : Bytes) : Bytes32 :=
  override [(agentPublic.1, agentDigest), (relayPublic.1, relayDigest),
    (rotatedPublic.1, rotatedDigest)] fitDigest b

/-- `pbkdf2`, at the offered code. -/
def pbkdf2 (password salt' : Bytes) : Bytes32 :=
  override [((utf8 (String.ofList code.1), salt.1), codeHash)] (fun x => fitDigest x.1)
    (password, salt')

/-- A pairing code is ten bytes. -/
theorem length_utf8_code (c : PairingCode) : (utf8 (String.ofList c.1)).length = 10 := by
  have hascii : ∀ x ∈ pairingAlphabet, x.toNat < 128 := by decide
  rw [utf8_ascii fun x hx => hascii x (c.2.2 x hx), List.length_map, c.2.1]
  rfl

theorem utf8_code_injective {c c' : PairingCode}
    (h : utf8 (String.ofList c.1) = utf8 (String.ofList c'.1)) : c = c' :=
  Subtype.ext (String.ofList_injective (utf8_injective h))

/-- **The digests of two codes differ.** -/
theorem pbkdf2_injective {c c' : PairingCode} {salt' : Bytes}
    (h : pbkdf2 (utf8 (String.ofList c.1)) salt' = pbkdf2 (utf8 (String.ofList c'.1)) salt') :
    c = c' := by
  have hne (c : PairingCode) : codeHash ≠ fitDigest (utf8 (String.ofList c.1)) := by
    intro hc
    have hfit : (fitDigest (utf8 (String.ofList c.1))).1.getLast? = some 0 := by
      rw [fitDigest_eq (length_utf8_code c), List.getLast?_append]
      rfl
    have hhash : codeHash.1.getLast? ≠ some 0 := by decide
    exact hhash (hc ▸ hfit)
  rw [pbkdf2, pbkdf2, override_cons, override_nil, override_cons, override_nil] at h
  split_ifs at h with h1 h2 h2
  · exact (utf8_code_injective (Prod.mk.inj h1).1).symm.trans
      (utf8_code_injective (Prod.mk.inj h2).1)
  · exact absurd h (hne c')
  · exact absurd h.symm (hne c)
  · have hfit := congrArg Subtype.val h
    rw [fitDigest_eq (length_utf8_code c), fitDigest_eq (length_utf8_code c')] at hfit
    exact utf8_code_injective (List.append_cancel_right hfit)

/-! ### Time -/

/-- A moment some seconds into the sample run, which starts on 2023-11-14 at
22:13:20. -/
def moment (n : ℤ) : Time := seconds (1700000000 + n)

/-- The moments of the sample runs, as `isoformat` writes them. -/
def calendar : List (Time × String) :=
  [(moment 0, "2023-11-14T22:13:20"), (moment 1, "2023-11-14T22:13:21"),
    (moment 2, "2023-11-14T22:13:22"), (moment 3, "2023-11-14T22:13:23"),
    (moment 4, "2023-11-14T22:13:24"), (moment 63, "2023-11-14T22:14:23"),
    (moment 301, "2023-11-14T22:18:21"), (moment 305, "2023-11-14T22:18:25"),
    (moment 310, "2023-11-14T22:18:30"), (moment 320, "2023-11-14T22:18:40"),
    (moment 400, "2023-11-14T22:20:00"), (moment 600, "2023-11-14T22:23:20"),
    (moment 905, "2023-11-14T22:28:25")]

/-- `isoformat`, without the offset. -/
def stem (t : Time) : String := override calendar (fun t => String.ofList ('t' :: Json.intText t)) t

/-- `fromisoformat`. -/
def fromisoformat (text : String) : Option Stamp :=
  let t := text.toList
  if "+00:00".toList <:+ t then
    let body := t.take (t.length - 6)
    match calendar.find? fun e => e.2.toList = body with
    | some e => some ⟨e.1, true⟩
    | none =>
      match body with
      | 't' :: digits => some ⟨Json.intValue digits, true⟩
      | _ => none
  else none

theorem fromisoformat_append (body : String) :
    fromisoformat (body ++ "+00:00") =
      match calendar.find? fun e => e.2.toList = body.toList with
      | some e => some ⟨e.1, true⟩
      | none =>
        match body.toList with
        | 't' :: digits => some ⟨Json.intValue digits, true⟩
        | _ => none := by
  have hsuffix : "+00:00".toList <:+ (body ++ "+00:00").toList := by
    rw [String.toList_append]
    exact List.suffix_append _ _
  have htake : (body ++ "+00:00").toList.take ((body ++ "+00:00").toList.length - 6) =
      body.toList := by
    rw [String.toList_append, List.length_append]
    exact List.take_left' (by simp)
  rw [fromisoformat, if_pos hsuffix, htake]

/-- A moment reads back. -/
theorem fromisoformat_stem (t : Time) : fromisoformat (stem t ++ "+00:00") = some ⟨t, true⟩ := by
  rw [fromisoformat_append, stem, override]
  cases hfind : calendar.find? fun e => e.1 = t with
  | some e =>
    have hmem := List.mem_of_find?_eq_some hfind
    have ht : e.1 = t := by simpa using List.find?_some hfind
    have hall : ∀ e ∈ calendar, (calendar.find? fun e' => e'.2.toList = e.2.toList) = some e := by
      decide
    rw [hall e hmem, ← ht]
  | none =>
    have hhead : ∀ e ∈ calendar, e.2.toList.head? ≠ some 't' := by decide
    have hnone : (calendar.find? fun e => e.2.toList =
        (String.ofList ('t' :: Json.intText t)).toList) = none := by
      refine List.find?_eq_none.mpr fun e he hc => hhead e he ?_
      rw [of_decide_eq_true hc, String.toList_ofList]
      rfl
    have hparse : some (⟨Json.intValue (Json.intText t), true⟩ : Stamp) = some ⟨t, true⟩ := by
      rw [Json.intValue_intText]
    dsimp only
    rw [hnone, String.toList_ofList]
    exact hparse

/-! ### Documents and their signatures -/

/-- The agent's device identifier. -/
def device : String := "phm_cc5gqlek2e2rhfy6rnliqgvlrp"

/-- The identifiers of the two offers. -/
def pairingId : Uuid := ⟨"6f1c1c5e-7d0e-4c5e-9a34-0d2f6b1a7c01", by decide⟩

/-- The identifier of the second offer. -/
def pairingId' : Uuid := ⟨"a47c9b16-2f83-4e0d-b5d1-7c90e2f4a8b3", by decide⟩

/-- The identifier of the enrollment challenge. -/
def challengeId : Uuid := ⟨"0b9d3f52-4a61-4f0e-8f4c-2f9a54d7be10", by decide⟩

/-- The identifier of the session. -/
def sessionId : Uuid := ⟨"c3a8e0f4-91d2-4b7a-8c55-6e1b0a9f2d33", by decide⟩

/-- The nonce of the enrollment challenge. -/
def nonce : Bytes32 := repeated 68

/-- The nonce of the session challenge. -/
def sessionNonce : Bytes32 := repeated 85

/-- The enrollment challenge, on given dates. -/
def challenge (issued expires : String) : Json :=
  .obj [("audience", .str device), ("challenge_id", .str challengeId.1),
    ("expires_at", .str expires), ("issued_at", .str issued), ("nonce", .str (b64encode nonce.1)),
    ("relay_id", .str "relay-1"), ("schema_version", schemaVersion),
    ("type", .str "relay.challenge")]

/-- The challenge the relay makes. -/
def relayChallenge : Json := challenge "2023-11-14T22:13:21Z" "2023-11-14T22:18:21Z"

/-- The receipt of an enrollment. -/
def receipt (pairingId : Uuid) (peerId enrolledAt : String) : Json :=
  enrollmentReceipt challengeId.1 "relay-1" pairingId.1 device (b64encode agentPublic.1) peerId
    (b64encode relayPublic.1) enrolledAt

/-- The session challenge. -/
def session : Json :=
  .obj [("audience", .str device), ("expires_at", .str "2023-11-14T22:14:23Z"),
    ("issued_at", .str "2023-11-14T22:13:23Z"), ("nonce", .str (b64encode sessionNonce.1)),
    ("protocol_version", protocolVersion), ("relay_id", .str "relay-1"),
    ("session_id", .str sessionId.1), ("type", .str "relay.session-challenge")]

/-- The relay's signature of the first peer proof. -/
def proofSignature : Signature :=
  ⟨[243, 234, 94, 55, 128, 46, 141, 149, 230, 127, 228, 138, 131, 37, 4, 220, 59, 252, 114, 226,
   65, 208, 171, 185, 197, 11, 4, 104, 83, 157, 71, 11, 178, 193, 220, 25, 48, 182, 46, 27, 45,
   133, 126, 178, 199, 74, 14, 160, 190, 95, 96, 250, 121, 1, 165, 171, 136, 229, 173, 194, 164,
   139, 232, 14], rfl⟩

/-- The relay's signature of the second peer proof. -/
def proofSignature' : Signature :=
  ⟨[120, 83, 58, 106, 147, 187, 132, 251, 142, 59, 13, 47, 123, 243, 34, 215, 176, 118, 40, 112,
   45, 56, 53, 240, 93, 149, 136, 179, 7, 137, 70, 43, 23, 250, 56, 125, 173, 68, 78, 154, 92, 26,
   46, 83, 8, 143, 46, 18, 216, 62, 123, 160, 16, 136, 70, 21, 38, 46, 32, 136, 145, 252, 139, 6], rfl⟩

/-- The agent's signature of the first receipt. -/
def receiptSignature : Signature :=
  ⟨[233, 128, 0, 77, 14, 20, 82, 162, 116, 193, 147, 223, 25, 218, 189, 38, 88, 58, 188, 105, 17,
   153, 44, 193, 192, 168, 180, 252, 243, 57, 69, 229, 68, 211, 194, 206, 220, 125, 211, 155, 48,
   252, 210, 87, 2, 215, 87, 151, 150, 207, 168, 157, 227, 105, 145, 82, 28, 252, 68, 12, 19, 198,
   190, 8], rfl⟩

/-- The agent's signature of the second receipt. -/
def receiptSignature' : Signature :=
  ⟨[209, 93, 57, 174, 248, 96, 148, 104, 73, 101, 63, 209, 62, 34, 172, 5, 64, 74, 3, 120, 198,
   133, 146, 176, 211, 78, 174, 98, 152, 82, 223, 116, 176, 101, 74, 164, 233, 244, 94, 202, 167,
   229, 180, 77, 67, 170, 44, 93, 20, 230, 205, 254, 148, 52, 212, 24, 246, 228, 51, 214, 3, 228,
   161, 5], rfl⟩

/-- The agent's signature of the challenge response. -/
def responseSignature : Signature :=
  ⟨[24, 82, 3, 222, 38, 57, 251, 25, 175, 200, 160, 44, 178, 65, 218, 62, 0, 203, 56, 16, 179, 122,
   222, 181, 105, 194, 145, 109, 46, 106, 108, 201, 133, 129, 239, 24, 17, 26, 229, 87, 113, 22,
   76, 190, 230, 39, 45, 174, 136, 76, 248, 94, 114, 166, 125, 128, 237, 64, 214, 136, 202, 25,
   183, 15], rfl⟩

/-- The agent's signature of the session authentication. -/
def authSignature : Signature :=
  ⟨[134, 92, 48, 112, 242, 13, 118, 240, 49, 215, 184, 90, 2, 79, 255, 131, 46, 165, 172, 74, 205,
   110, 249, 140, 142, 201, 177, 73, 217, 139, 17, 254, 143, 171, 214, 116, 37, 77, 188, 54, 107,
   239, 129, 11, 81, 139, 88, 112, 226, 26, 101, 210, 239, 199, 107, 74, 251, 228, 182, 147, 189,
   211, 162, 13], rfl⟩

/-- The signatures of the sample runs. -/
def signatures : List ((Bytes32 × Bytes) × Signature) :=
  [((relayKey, peerProofPayload relayChallenge pairingId.1 "printerhmi-relay" device),
      proofSignature),
    ((relayKey, peerProofPayload relayChallenge pairingId'.1 "printerhmi-relay-2" device),
      proofSignature'),
    ((agentKey, enrollmentReceiptDomain ++
        canonical (receipt pairingId "printerhmi-relay" "2023-11-14T22:13:22Z")),
      receiptSignature),
    ((agentKey, enrollmentReceiptDomain ++
        canonical (receipt pairingId' "printerhmi-relay-2" "2023-11-14T22:18:40Z")),
      receiptSignature'),
    ((agentKey, challengeSignatureDomain ++ canonical (challengeResponse relayChallenge device
        (b64encode agentPublic.1) "2023-11-14T22:13:22Z")), responseSignature),
    ((agentKey, sessionSignatureDomain ++ canonical (sessionAuth session (.str device)
        (.str (b64encode agentPublic.1)) (.str "2023-11-14T22:13:24Z"))), authSignature)]

/-- `sign`. -/
def sign (key : Bytes32) (payload : Bytes) : Signature :=
  override signatures (fun x => ⟨fit 64 x.1.1, length_fit 64 _⟩) (key, payload)

theorem sign_proof : sign relayKey (peerProofPayload relayChallenge pairingId.1
    "printerhmi-relay" device) = proofSignature := by
  rw [sign, signatures, override_cons]
  exact if_pos rfl

theorem sign_proof' : sign relayKey (peerProofPayload relayChallenge pairingId'.1
    "printerhmi-relay-2" device) = proofSignature' := by
  have hne : peerProofPayload relayChallenge pairingId.1 "printerhmi-relay" device ≠
      peerProofPayload relayChallenge pairingId'.1 "printerhmi-relay-2" device := by
    intro hc
    have hdoc := canonical_injective rfl rfl (List.append_cancel_left hc)
    exact absurd (congrArg (fun d => d.field "peer_id") hdoc) (by decide)
  rw [sign, signatures, override_cons, if_neg fun hc => hne (Prod.mk.inj hc).2, override_cons]
  exact if_pos rfl

/-- **The sample platform.** -/
def platform : Platform where
  sha256 b := (sha256 b).1
  length_sha256 b := (sha256 b).2
  pbkdf2 password salt' := (pbkdf2 password salt').1
  length_pbkdf2 password salt' := (pbkdf2 password salt').2
  publicKey := keys
  sign := sign
  verify key payload signature := signature == sign (keys.symm key) payload
  verify_sign key payload := by simp
  lower s := String.ofList (s.toList.map Char.toLower)
  lower_ascii _ _ := rfl
  upper s := String.ofList (s.toList.map Char.toUpper)
  upper_ascii _ _ := rfl
  stem := stem
  fromisoformat := fromisoformat
  fromisoformat_stem := fromisoformat_stem
  isLoopback s := if s = "127.0.0.1" ∨ s = "::1" then some true else none
  isLoopback_localhost := rfl
  limits := ⟨some 4300, 900⟩
  digits_limits _ hn := Option.some.inj hn ▸ by decide
  depth_limits := by decide

/-- What the relay signed verifies under its public key. -/
theorem verify_relay {payload : Bytes} {signature : Signature}
    (h : sign relayKey payload = signature) :
    platform.verify relayPublic payload signature = true := by
  have hkey : relayPublic = platform.publicKey relayKey := by decide
  rw [hkey, ← h]
  exact platform.verify_sign relayKey payload

/-- What the agent signed verifies under its public key. -/
theorem verify_agent {payload : Bytes} {signature : Signature}
    (h : sign agentKey payload = signature) :
    platform.verify agentPublic payload signature = true := by
  have hkey : agentPublic = platform.publicKey agentKey := by decide
  rw [hkey, ← h]
  exact platform.verify_sign agentKey payload

/-- Only what a key signed verifies under its public key. -/
theorem sign_of_verify {key : Bytes32} {payload : Bytes} {signature : Signature}
    (h : platform.verify key payload signature = true) :
    sign (keys.symm key) payload = signature :=
  (beq_iff_eq.mp (show (signature == sign (keys.symm key) payload) = true from h)).symm

/-- The stand-in signature of a key is the key and as many zeros. -/
theorem fit_key (key : Bytes32) : fit 64 key.1 = key.1 ++ List.replicate 32 0 := by
  have hsplit : key.1 ++ List.replicate 64 0 = (key.1 ++ List.replicate 32 0) ++
      List.replicate 32 (0 : UInt8) := by
    rw [List.append_assoc, List.replicate_append_replicate]
  rw [fit, hsplit, List.take_left' (by simp [key.2])]

/-- A signature of the table is none of the stand-ins. -/
theorem fit_ne {signature : Signature} (h : signature.1.getLast? ≠ some 0) (key : Bytes32) :
    (⟨fit 64 key.1, length_fit 64 _⟩ : Signature) ≠ signature := by
  rintro rfl
  refine h ?_
  change (fit 64 key.1).getLast? = some 0
  rw [fit_key, List.getLast?_append]
  rfl

/-- An enrollment request of the relay, under one of its names as a peer. -/
def request (pairingId : Uuid) (peerId : String) (challenge : Json) (proof : Signature) : Json :=
  enrollmentRequest challenge (.str (displayCode code)) pairingId.1 peerId
    (b64encode relayPublic.1) proof

/-- The first enrollment request. -/
def firstRequest : Json := request pairingId "printerhmi-relay" relayChallenge proofSignature

/-- The second one: the same challenge, with later dates. -/
def secondRequest : Json :=
  request pairingId' "printerhmi-relay-2"
    (challenge "2023-11-14T22:18:30Z" "2023-11-14T22:20:00Z") proofSignature'

/-- What an operation of the sample runs takes from outside. -/
def supply (now : Time) (pairingId : Uuid) : Supply where
  initial := ⟨agentKey, moment 0, moment 0⟩
  rotated := ⟨rotatedKey, moment 400, moment 400⟩
  now := now
  audited := now
  completed := now
  pairingId := pairingId
  code := code
  salt := salt
  decoy := repeated 0

end Sample

end PrinterHmi
