import PrinterHmi.Receiver.Handler
import PrinterHmi.Transport.Interleaving

/-!
# Which enrolled keys can be used

An operator enrols a device by its public key, an encoded text. Loading the configuration judges
the text by the bytes it decodes to; the handler of a connection compares it with the text that
the agent sends, which is the encoding of the agent's key. A text of 43 digits leaves two bits
that no byte has a share in, and loading does not look at them: an entry in which they are not
zeros is accepted, and the agent it names is turned away each time (`entry_usable_iff`).
-/

namespace PrinterHmi

/-- **An agent that keeps to the program**: its store has an identity, which is that of its
key. -/
structure HonestAgent (P : Platform) where
  host : Host
  identity : Identity
  key : Bytes32
  stored : host.identity = some identity
  checked : checkIdentity P identity = .ok key

/-- **In time**: the agent's clock, when it signs, and the receiver's, when it verifies, are
within the window of the challenge, made at `made`. -/
structure AnsweredInTime (made signed verified : Time) : Prop where
  early : made ≤ signed + clockSkew
  live : signed < made + seconds sessionLifetime
  window : InWindow made (made + seconds sessionLifetime) verified

section Usability

variable {P : Platform}

/-- **The checks of `_handle_agent` on an authentication**: the key is the enrolled one, and
`verify_session_auth` returns. -/
def Passes (P : Platform) (enrolledKey : String) (challenge authentication : Json) (now : Time) :
    Prop :=
  authentication.fieldEq "device_public_key" (.str enrolledKey) = true ∧
    ∃ r, verifySessionAuth P authentication challenge now = .ok r

/-- They are what the step of the handler asks of the frame it reads. -/
theorem readAuthentication_iff_passes {enrolledKey : String} {challenge authentication : Json}
    {env : HandlerSupply} {raw : Bytes} (hread : readFrame raw = .ok authentication) :
    readAuthentication P enrolledKey challenge env raw = .ok () ↔
      Passes P enrolledKey challenge authentication env.now := by
  rw [readAuthentication_eq_ok, Passes, Json.fieldEq_str_iff]
  constructor
  · rintro ⟨d, hd, hkey, hverified⟩
    obtain rfl := Except.ok.inj (hread.symm.trans hd)
    exact ⟨hkey, hverified⟩
  · rintro ⟨hkey, hverified⟩
    exact ⟨authentication, hread, hkey, hverified⟩

/-- **The agent is let in** under an entry of the configuration: whenever it answers a challenge
of the receiver in time, its authentication passes. -/
def LetIn (config : ReceiverConfig) (id publicKey : String) (agent : HonestAgent P) : Prop :=
  ∀ (env : Supply) (sessionId : Uuid) (nonce : Bytes32) (made signed verified : Time),
    AnsweredInTime made signed verified → ∃ challenge authentication h,
      createSessionChallenge P id config.relayId sessionLifetime sessionId nonce made =
        .ok challenge ∧
      (signSessionChallenge P env challenge config.relayId signed).exec agent.host =
        (.ok authentication, h) ∧
      Passes P publicKey challenge authentication verified

/-! ### What is loaded -/

/-- A device that loading accepts. -/
def LoadedDevice (P : Platform) (id publicKey : String) : Prop :=
  publicKeyPattern publicKey = true ∧ ∃ key : Bytes32,
    b64decodeText invalidDeviceKey publicKey = .ok key.1 ∧ id = deviceId P key.1

/-- The devices of the loop are such, if those it starts with are. -/
theorem loadedDevice_of_readDevices {items : List Json} {devices r : Dict String String}
    (h : readDevices P items devices = .ok r)
    (hdevices : ∀ id publicKey, devices.get? id = some publicKey → LoadedDevice P id publicKey) :
    ∀ id publicKey, r.get? id = some publicKey → LoadedDevice P id publicKey := by
  induction items generalizing devices with
  | nil =>
    obtain rfl := Except.ok.inj h
    exact hdevices
  | cons item items ih =>
    simp only [readDevices, Except.bind_eq_ok, require_eq_ok, exists_const] at h
    obtain ⟨⟨id', key'⟩, hitem, -, hrest⟩ := h
    obtain ⟨-, -, -, hpattern, hdecoded⟩ := readDevice_eq_ok.mp hitem
    refine ih hrest fun id publicKey hget => ?_
    rw [Dict.get?_insert] at hget
    split_ifs at hget with hid
    · obtain rfl := Option.some.inj hget
      exact hid ▸ ⟨hpattern, hdecoded⟩
    · exact hdevices id publicKey hget

/-- **What an entry of a configuration that loads is.** -/
theorem loadedDevice_of_load {paths : Paths} {d : Json} {config : ReceiverConfig}
    (hload : ReceiverConfig.load P paths d = .ok config) {id publicKey : String}
    (hentry : config.devices.get? id = some publicKey) : LoadedDevice P id publicKey := by
  obtain ⟨-, -, -, -, -, -, -, -, -, -, -, -, -, ⟨items, -, -, -, hitems⟩, -⟩ :=
    ReceiverConfig.load_eq_ok.mp hload
  refine loadedDevice_of_readDevices hitems (fun id publicKey hget => ?_) id publicKey hentry
  cases hget

/-! ### The session -/

variable (agent : HonestAgent P) {config : ReceiverConfig} {made signed verified : Time}

/-- **What the agent answers in time**: the receiver makes its challenge, the agent signs it,
and what the receiver verifies it accepts; so the authentication passes exactly if the agent's
key is the enrolled text. -/
theorem passes_iff (hrelay : relayIdPattern config.relayId = true) (publicKey : String)
    (env : Supply) (sessionId : Uuid) (nonce : Bytes32) (htime : AnsweredInTime made signed verified) :
    ∃ challenge authentication h,
      createSessionChallenge P agent.identity.deviceId config.relayId sessionLifetime sessionId
        nonce made = .ok challenge ∧
      (signSessionChallenge P env challenge config.relayId signed).exec agent.host =
        (.ok authentication, h) ∧
      (Passes P publicKey challenge authentication verified ↔
        publicKey = agent.identity.publicKey) := by
  obtain ⟨hpublic, hdevice⟩ := checkIdentity_eq_ok agent.checked
  have hid : Identified P env.initial agent.host agent.identity agent.key agent.host :=
    .stored agent.stored agent.checked
  have hpattern : deviceIdPattern agent.identity.deviceId = true :=
    hdevice ▸ deviceIdPattern_deviceId P _
  have hmade : createSessionChallenge P agent.identity.deviceId config.relayId sessionLifetime
      sessionId nonce made = .ok (sessionChallenge P agent.identity.deviceId config.relayId
        sessionLifetime sessionId nonce made) := by
    rw [createSessionChallenge, require_pos hpattern, require_pos hrelay, require_pos (by decide)]
    rfl
  have hvalid : validateSessionChallenge P (sessionChallenge P agent.identity.deviceId
      config.relayId sessionLifetime sessionId nonce made) (.str agent.identity.deviceId)
      (.str config.relayId) signed = .ok ⟨_, sessionId.1, made, made + seconds sessionLifetime⟩ :=
    validateSessionChallenge_eq_ok.mpr ⟨rfl, rfl, rfl, rfl, sessionId.2, Json.pyEq_refl _,
      Json.pyEq_refl _, ⟨_, b64decode_str_b64encode _ _, nonce.2⟩, parseTimestamp_timestamp P _ _,
      parseTimestamp_timestamp P _ _, lt_add_of_pos_right _ (by decide),
      (add_sub_cancel_left made _).trans_le (by decide), htime.early, htime.live, rfl⟩
  refine ⟨_, _, _, hmade, exec_signSessionChallenge hid hvalid, ?_⟩
  -- the answer verifies whatever the entry says; what is left is the comparison of the key
  have hverified := (verifySessionAuth_iff hpublic hdevice hvalid).mpr ⟨rfl, htime.window⟩
  rw [Passes, Json.fieldEq_str_iff]
  constructor
  · rintro ⟨hkey, -⟩
    exact (Json.str.inj hkey).symm
  · rintro rfl
    exact ⟨rfl, _, hverified⟩

/-- **Which entries can be used.** The agent whose key an accepted entry decodes to has the
identifier of the entry, and is let in exactly if the unused bits in the text of the key are
zeros. -/
theorem entry_usable_iff {paths : Paths} {d : Json}
    (hload : ReceiverConfig.load P paths d = .ok config) {id publicKey : String}
    (hentry : config.devices.get? id = some publicKey)
    (hkey : b64decodeText invalidDeviceKey publicKey = .ok (P.publicKey agent.key).1) :
    agent.identity.deviceId = id ∧
      (LetIn config id publicKey agent ↔ Base64.SpareZero publicKey.toList) := by
  obtain ⟨hpublic, hdevice⟩ := checkIdentity_eq_ok agent.checked
  obtain ⟨hpattern, key, hdecoded, rfl⟩ := loadedDevice_of_load hload hentry
  obtain rfl : P.publicKey agent.key = key :=
    Subtype.ext (Except.ok.inj (hkey.symm.trans hdecoded))
  obtain ⟨-, -, -, -, hrelay, -⟩ := ReceiverConfig.load_eq_ok.mp hload
  -- the text is the agent's exactly if it is the one that is written
  have hspelling : publicKey = agent.identity.publicKey ↔ Base64.SpareZero publicKey.toList := by
    have hplain : Base64.Plain publicKey.toList := by
      rw [publicKeyPattern, matchesClass, Bool.and_eq_true, List.all_eq_true] at hpattern
      exact Base64.plain_of_mem_alphabet fun c hc => of_decide_eq_true (hpattern.2 c hc)
    rw [hpublic, eq_b64encode_iff hkey]
    exact and_iff_right hplain
  rw [← hspelling, ← hdevice]
  refine ⟨rfl, fun hlet => ?_, fun heq env sessionId nonce made signed verified htime => ?_⟩
  · have htime : AnsweredInTime 0 0 0 := ⟨by decide, by decide, by decide⟩
    obtain ⟨challenge, authentication, h, hmade, hsigned, hpasses⟩ :=
      hlet default default default 0 0 0 htime
    obtain ⟨challenge', authentication', h', hmade', hsigned', hiff⟩ :=
      passes_iff agent hrelay publicKey default default default htime
    obtain rfl := Except.ok.inj (hmade.symm.trans hmade')
    obtain ⟨hauth, -⟩ := Prod.mk.inj (hsigned.symm.trans hsigned')
    obtain rfl := Except.ok.inj hauth
    exact hiff.mp hpasses
  · obtain ⟨challenge, authentication, h, hmade, hsigned, hiff⟩ :=
      passes_iff agent hrelay publicKey env sessionId nonce htime
    exact ⟨challenge, authentication, h, hmade, hsigned, hiff.mpr heq⟩

end Usability

/-! ### Samples -/

namespace Sample

/-- A receiver configuration that enrols the agent under a spelling of its key. -/
def receiverDocument (publicKey : String) : Json :=
  .obj [("api_socket", .str "receiver.sock"), ("cert_file", .str "cert.pem"),
    ("devices", .arr [.obj [("device_id", .str device), ("public_key", .str publicKey)]]),
    ("enabled", .bool true), ("key_file", .str "key.pem"), ("listen_host", .str "127.0.0.1"),
    ("listen_port", .int 8443), ("relay_id", .str "relay-1"), ("schema_version", schemaVersion),
    ("stale_after", .int 30), ("state_file", .str "latest.json")]

/-- Every path is there. -/
def somePaths : Paths := ⟨fun path => path, fun _ => true⟩

/-- What it is read as. -/
def enrolledUnder (publicKey : String) : ReceiverConfig :=
  ⟨true, "relay-1", "127.0.0.1", 8443, "receiver.sock", "latest.json", "cert.pem", "key.pem", 30,
    (∅ : Dict String String).insert device publicKey⟩

/-- It loads under any spelling with 43 digits. -/
theorem load_receiverDocument (publicKey : String) (hpattern : publicKeyPattern publicKey = true)
    (hkey : b64decodeText invalidDeviceKey publicKey = .ok agentPublic.1) :
    ReceiverConfig.load platform somePaths (receiverDocument publicKey) =
      .ok (enrolledUnder publicKey) := by
  have hdevice : device = deviceId platform agentPublic.1 := by decide
  have hitem : readDevice platform (.obj [("device_id", .str device),
      ("public_key", .str publicKey)]) = .ok (device, publicKey) :=
    readDevice_eq_ok.mpr ⟨rfl, rfl, rfl, hpattern, agentPublic, hkey, hdevice⟩
  have hitems : [.obj [("device_id", .str device), ("public_key", .str publicKey)]].map
      (readDevice platform) = [(device, publicKey)].map Except.ok := by
    rw [List.map_singleton, hitem, List.map_singleton]
  have hdevices : readDevices platform _ ∅ = .ok _ :=
    readDevices_eq_ok hitems (List.nodup_singleton _) fun _ _ => rfl
  have hpath (path label : String) (present : Bool) (h : path ≠ "") :
      configPath somePaths (.str path) label present = .ok path :=
    configPath_eq_ok.mpr ⟨path, rfl, h, fun _ => rfl, rfl⟩
  exact ReceiverConfig.load_eq_ok.mpr ⟨rfl, rfl, rfl, rfl, (by decide :
    relayIdPattern "relay-1" = true), rfl, platform.isLoopback_localhost, rfl,
    (by decide : (1 : ℤ) ≤ 8443), (by decide : (8443 : ℤ) ≤ 65535), rfl,
    (by decide : (5 : ℚ) ≤ 30), (by decide : (30 : ℚ) ≤ 3600),
    ⟨_, rfl, by simp, fun _ => List.cons_ne_nil _ _, hdevices⟩,
    hpath _ _ _ (by decide), hpath _ _ _ (by decide), hpath _ _ _ (by decide),
    hpath _ _ _ (by decide)⟩

/-- The sample agent. -/
def agent : HonestAgent platform :=
  ⟨agentHost, agentIdentity, agentKey, rfl, checkIdentity_newIdentity _ _⟩

/-- The agent's key, spelled with a one among the unused bits. -/
def respelledKey : String := "0EqyMnQrtKs6E2i9RhXk5tAiSrcaAWuvhSCjMsl3hzd"

/-- The agent's key, as the agent writes it. -/
def writtenKey : String := "0EqyMnQrtKs6E2i9RhXk5tAiSrcaAWuvhSCjMsl3hzc"

end Sample

open Sample in
/-- The receiver that enrols the sample agent under the respelled key loads, and never lets the
agent in. -/
theorem entry_unusable : ¬ ∀ (paths : Paths) (d : Json) (config : ReceiverConfig) (id : String)
    (publicKey : String) (agent : HonestAgent platform),
    ReceiverConfig.load platform paths d = .ok config →
      config.devices.get? id = some publicKey →
        b64decodeText invalidDeviceKey publicKey = .ok (platform.publicKey agent.key).1 →
          LetIn config id publicKey agent := by
  intro h
  have hload := load_receiverDocument respelledKey (by decide) (by decide)
  have hlet := h somePaths _ _ device respelledKey agent hload rfl (by decide)
  have htime : AnsweredInTime (moment 3) (moment 4) (moment 5) := ⟨by decide, by decide, by decide⟩
  obtain ⟨challenge, authentication, h₁, hmade, hsigned, hpasses⟩ :=
    hlet (supply (moment 4) pairingId) sessionId sessionNonce _ _ _ htime
  obtain ⟨challenge', authentication', h₂, hmade', hsigned', hiff⟩ :=
    passes_iff agent (by decide : relayIdPattern (enrolledUnder respelledKey).relayId = true)
      respelledKey (supply (moment 4) pairingId) sessionId sessionNonce htime
  have hdevice : agent.identity.deviceId = device := by decide
  rw [hdevice] at hmade'
  obtain rfl := Except.ok.inj (hmade.symm.trans hmade')
  obtain rfl := Except.ok.inj (Prod.mk.inj (hsigned.symm.trans hsigned')).1
  exact absurd (hiff.mp hpasses) (by decide)

open Sample in
/-- Under its own spelling the sample agent is let in. -/
theorem entry_usable_iff_sample : agent.identity.deviceId = device ∧
    LetIn (enrolledUnder writtenKey) device writtenKey agent := by
  have hload := load_receiverDocument writtenKey (by decide) (by decide)
  have hentry : (enrolledUnder writtenKey).devices.get? device = some writtenKey := rfl
  obtain ⟨hdevice, hiff⟩ := entry_usable_iff agent hload hentry (by decide)
  exact ⟨hdevice, hiff.mpr (by decide)⟩

end PrinterHmi
