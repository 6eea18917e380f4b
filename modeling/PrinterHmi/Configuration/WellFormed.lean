import PrinterHmi.Configuration.Outcomes
import PrinterHmi.Sample

/-!
# The configuration stays well formed

What an initialization writes and every operation keeps (`Manager.Founded`): both
documents load, they are of the relay that was founded, with its names, its keys and its
listener, and the devices are in the strict order of their identifiers. Each operation
guards a part of this. That an enabled receiver has a device, that no identifier is there
twice and belongs to its key, and that there are at most ten thousand, is what a candidate
must satisfy to load; the order is kept by sorting what is appended and by filtering what
is removed; the rest nothing writes.

The invariant is one of whole runs (`Manager.ManagerRun`), whichever file steps of the
calls fail: a call that breaks off leaves a directory of its course.
-/

namespace PrinterHmi

open FileProg

namespace Manager

section Founded

variable (P : Platform) (resolve : String → String)

/-- Runs of a manager. -/
abbrev ManagerRun := Run (managerStep P resolve) (fun _ _ => True)

/-- **The directory of a relay**, well formed, with documents `s` and `c`. -/
structure Founded (env : Founding) (relayId peerId : String) (listenPort : ℤ) (d : Directory)
    (s : RelayState) (c : ReceiverDocument) : Prop where
  loads : d.Loads P resolve s c
  relayId : s.relayId = relayId
  peerId : s.peerId = peerId
  peerPublicKey : s.peerPublicKey = b64encode (P.publicKey env.key).1
  peerPrivateKey : s.peerPrivateKey = b64encode env.key.1
  listenHost : c.listenHost = "127.0.0.1"
  listenPort : c.listenPort = listenPort
  sorted : c.devices.Pairwise fun a b => a.deviceId < b.deviceId

variable {P resolve} {env : Founding} {relayId peerId : String} {listenPort : ℤ}
  {d : Directory} {s : RelayState} {c : ReceiverDocument}

/-! ### The start -/

/-- The directory a relay is founded in. -/
def foundingDirectory (P : Platform) (env : Founding) (relayId peerId : String) (listenPort : ℤ) :
    Directory :=
  ⟨some (foundingState P env relayId peerId), some (foundingConfig relayId listenPort),
    [caName, caKeyName, certName, keyName], ∅⟩

theorem founded_foundingDirectory (env : Founding) (hrelay : relayIdPattern relayId = true)
    (hpeer : peerIdPattern peerId = true) (hport : 1 ≤ listenPort ∧ listenPort ≤ 65535) :
    Founded P resolve env relayId peerId listenPort
      (foundingDirectory P env relayId peerId listenPort)
      (foundingState P env relayId peerId) (foundingConfig relayId listenPort) := by
  have hstate : checkRelayState P (foundingState P env relayId peerId).json = .ok () :=
    checkRelayState_json.mpr ⟨hrelay, hpeer, env.key, b64decodeText_b64encode _ _,
      b64decodeText_b64encode _ _⟩
  have hfile {name : String} (h : name ∈ [caName, caKeyName, certName, keyName]) :
      decide (resolve name ∈ [caName, caKeyName, certName, keyName].map resolve) = true :=
    decide_eq_true (List.mem_map_of_mem h)
  have hnamed : certName ≠ "" ∧ keyName ≠ "" ∧
      certName ∈ [caName, caKeyName, certName, keyName] ∧
      keyName ∈ [caName, caKeyName, certName, keyName] := by decide
  obtain ⟨hcert, hkey, hcert', hkey'⟩ := hnamed
  have hplaces : "runtime/receiver.sock" ≠ "" ∧ "runtime/latest.json" ≠ "" := by decide
  have hstale : (5 : ℤ) ≤ 30 ∧ (30 : ℤ) ≤ 3600 := by decide
  have hvalid : (foundingConfig relayId listenPort).Valid P
      ((foundingDirectory P env relayId peerId listenPort).paths resolve) :=
    { enabled := ⟨false, rfl, nofun⟩
      relayId := hrelay
      listenHost := P.isLoopback_localhost
      listenPort := hport
      staleAfter := hstale
      count := Nat.zero_le _
      derived := fun device hdevice => (List.not_mem_nil hdevice).elim
      nodup := List.nodup_nil
      apiSocket := hplaces.1
      stateFile := hplaces.2
      certFile := ⟨hcert, hfile hcert'⟩
      keyFile := ⟨hkey, hfile hkey'⟩ }
  exact ⟨⟨rfl, rfl, hstate, hvalid, rfl⟩, rfl, rfl, rfl, rfl, rfl, rfl, List.Pairwise.nil⟩

/-- **The course of an initialization**: the certificates and keys, the state, the configuration. -/
theorem course_initializeDirectory (env : Founding) (hrelay : relayIdPattern relayId = true)
    (hpeer : peerIdPattern peerId = true) (hport : 1 ≤ listenPort ∧ listenPort ≤ 65535) :
    (initializeDirectory P resolve env (.str relayId) (.str peerId) (.int listenPort)).Course .fresh
      (List.replicate 8 .fresh ++ List.replicate 4 ⟨none, none, [caName], ∅⟩ ++
        List.replicate 4 ⟨none, none, [caName, caKeyName], ∅⟩ ++
        List.replicate 4 ⟨none, none, [caName, caKeyName, certName], ∅⟩ ++
        List.replicate 10 ⟨none, none, [caName, caKeyName, certName, keyName], ∅⟩ ++
        List.replicate 7 ⟨some (foundingState P env relayId peerId), none,
          [caName, caKeyName, certName, keyName], ∅⟩ ++
        List.replicate 3 (foundingDirectory P env relayId peerId listenPort))
      (.ok (statusDocument resolve (foundingState P env relayId peerId)
        (foundingConfig relayId listenPort)))
      (foundingDirectory P env relayId peerId listenPort) := by
  have hfounded : Founded P resolve env relayId peerId listenPort _ _ _ :=
    founded_foundingDirectory env hrelay hpeer hport
  -- no document is there when it is written
  have hstate : Directory.fresh.state.isSome = true → false = true := id
  have hconfig : Directory.fresh.config.isSome = true → false = true := id
  have hwritten : (initializeLocked P resolve env relayId peerId listenPort).Course .fresh _
      (.ok (statusDocument resolve (foundingState P env relayId peerId)
        (foundingConfig relayId listenPort)))
      (foundingDirectory P env relayId peerId listenPort) :=
    (course_writeFile _ _).bind ((course_writeFile _ _).bind ((course_writeFile _ _).bind
      ((course_writeFile _ _).bind ((course_writePrivateJson hstate _ _).bind
        ((course_writePrivateJson hconfig _ _).bind (course_statusUnlocked hfounded.loads))))))
  have hempty : Directory.fresh.state.isNone = true ∧ Directory.fresh.config.isNone = true ∧
      Directory.fresh.certificates = [] := ⟨rfl, rfl, rfl⟩
  have hbody : (do
      let d ← FileProg.state
      require (d.state.isNone ∧ d.config.isNone ∧ d.certificates = [])
        (configurationError "refusing to initialize a non-empty directory")
      initializeLocked P resolve env relayId peerId listenPort : ManagerProg Json).Course
      .fresh _ _ _ :=
    course_state_bind ((course_require hempty _ _).bind hwritten)
  have hcourse : (initializeDirectory P resolve env (.str relayId) (.str peerId)
      (.int listenPort)).Course .fresh _ _ _ :=
    (course_lift_ok (patternText_eq_ok.mpr ⟨rfl, hrelay⟩) _).bind
      ((course_lift_ok (patternText_eq_ok.mpr ⟨rfl, hpeer⟩) _).bind
        ((course_lift_ok (orRaise_eq_ok.mpr (Json.int?_eq_some.mpr rfl)) _).bind
          ((course_require hport _ _).bind
            ((course_fileStep _ id _).bind ((course_fileStep _ id _).bind (course_locked hbody))))))
  exact ⟨hcourse.stages.trans rfl, hcourse.exec⟩

/-- **An initialization founds a directory.** -/
theorem exec_initializeDirectory (env : Founding) (hrelay : relayIdPattern relayId = true)
    (hpeer : peerIdPattern peerId = true) (hport : 1 ≤ listenPort ∧ listenPort ≤ 65535) :
    (initializeDirectory P resolve env (.str relayId) (.str peerId) (.int listenPort)).exec .fresh =
      (.ok (statusDocument resolve (foundingState P env relayId peerId)
        (foundingConfig relayId listenPort)),
        foundingDirectory P env relayId peerId listenPort) :=
  (course_initializeDirectory env hrelay hpeer hport).exec

/-- **An initialization that succeeds** was given names and a port, and has founded a
directory. -/
theorem founded_of_initialized {relayName peerName port : Json}
    (h : Initialized P resolve env relayName peerName port d) :
    ∃ relayId peerId listenPort, relayName = .str relayId ∧ peerName = .str peerId ∧
      port = .int listenPort ∧
      Founded P resolve env relayId peerId listenPort d (foundingState P env relayId peerId)
        (foundingConfig relayId listenPort) := by
  obtain ⟨r, hr⟩ := h
  have hargs : ∃ relayId peerId listenPort, relayName = .str relayId ∧ peerName = .str peerId ∧
      port = .int listenPort ∧ relayIdPattern relayId = true ∧ peerIdPattern peerId = true ∧
      1 ≤ listenPort ∧ listenPort ≤ 65535 := by
    -- arguments that are refused leave no reply
    rw [initializeDirectory] at hr
    rcases hrelay : patternText (configurationError "invalid relay identifier") relayIdPattern
      relayName with e | relayId
    · rw [hrelay, exec_bind_error (exec_lift _ _)] at hr
      cases hr
    rw [hrelay, exec_bind_ok (exec_lift _ _)] at hr
    rcases hpeer : patternText (configurationError "invalid relay peer identifier") peerIdPattern
      peerName with e | peerId
    · rw [hpeer, exec_bind_error (exec_lift _ _)] at hr
      cases hr
    rw [hpeer, exec_bind_ok (exec_lift _ _)] at hr
    rcases hport : orRaise port.int? (configurationError "invalid relay listener port") with
      e | listenPort
    · rw [hport, exec_bind_error (exec_lift _ _)] at hr
      cases hr
    rw [hport, exec_bind_ok (exec_lift _ _)] at hr
    by_cases hrange : 1 ≤ listenPort ∧ listenPort ≤ 65535
    · obtain ⟨rfl, hrelay'⟩ := patternText_eq_ok.mp hrelay
      obtain ⟨rfl, hpeer'⟩ := patternText_eq_ok.mp hpeer
      exact ⟨relayId, peerId, listenPort, rfl, rfl, Json.int?_eq_some.mp (orRaise_eq_ok.mp hport),
        hrelay', hpeer', hrange⟩
    · rw [require_neg hrange, exec_bind_error (exec_lift _ _)] at hr
      cases hr
  obtain ⟨relayId, peerId, listenPort, rfl, rfl, rfl, hrelay, hpeer, hport⟩ := hargs
  rw [exec_initializeDirectory env hrelay hpeer hport] at hr
  obtain rfl := (Prod.mk.inj hr).2
  exact ⟨relayId, peerId, listenPort, rfl, rfl, rfl,
    founded_foundingDirectory env hrelay hpeer hport⟩

/-! ### The steps -/

/-- The device that is looked up is in the list, or none of its identifier is. -/
theorem findDevice_eq_none {id : String} :
    findDevice c id = none ↔ ∀ device ∈ c.devices, device.deviceId ≠ id := by
  simp [findDevice]

theorem mem_of_findDevice {id : String} {device : EnrolledDevice}
    (h : findDevice c id = some device) : device ∈ c.devices :=
  List.mem_reverse.mp (List.mem_of_find?_eq_some h)

theorem mem_withDevice {device other : EnrolledDevice} :
    other ∈ (withDevice c device).devices ↔ other ∈ c.devices ∨ other = device := by
  rw [withDevice, List.mem_insertionSort, List.mem_append, List.mem_singleton]

/-- Appending and sorting keeps the order, strict as no identifier is there twice. -/
theorem sorted_withDevice {device : EnrolledDevice} {paths : Paths}
    (h : (withDevice c device).Valid P paths) :
    (withDevice c device).devices.Pairwise fun a b => a.deviceId < b.deviceId := by
  have hle : (withDevice c device).devices.Pairwise fun a b => a.deviceId ≤ b.deviceId :=
    List.pairwise_insertionSort _ _
  have hne : (withDevice c device).devices.Pairwise fun a b => a.deviceId ≠ b.deviceId :=
    List.pairwise_map.mp h.nodup
  exact (hle.and hne).imp fun hab => lt_of_le_of_ne hab.1 hab.2

/-- A directory whose documents load stays founded if the names, the keys and the listener
are the same. -/
theorem Founded.change {t : Directory} {s' : RelayState} {c' : ReceiverDocument}
    (h : Founded P resolve env relayId peerId listenPort d s c) (ht : t.Loads P resolve s' c')
    (hs : s'.relayId = s.relayId ∧ s'.peerId = s.peerId ∧ s'.peerPublicKey = s.peerPublicKey ∧
      s'.peerPrivateKey = s.peerPrivateKey)
    (hc : c'.listenHost = c.listenHost ∧ c'.listenPort = c.listenPort)
    (hsorted : c'.devices.Pairwise fun a b => a.deviceId < b.deviceId) :
    Founded P resolve env relayId peerId listenPort t s' c' where
  loads := ht
  relayId := hs.1.trans h.relayId
  peerId := hs.2.1.trans h.peerId
  peerPublicKey := hs.2.2.1.trans h.peerPublicKey
  peerPrivateKey := hs.2.2.2.trans h.peerPrivateKey
  listenHost := hc.1.trans h.listenHost
  listenPort := hc.2.trans h.listenPort
  sorted := hsorted

/-- The course of a call that makes one replacement at a time. -/
theorem forall_mem_course {p : Directory → Prop} {a b e : Directory} {n m : ℕ} (ha : p a)
    (hb : p b) (he : p e) : ∀ t ∈ e :: (List.replicate n a ++ List.replicate m b), p t := by
  rw [List.forall_mem_cons]
  refine ⟨he, fun t ht => ?_⟩
  rcases List.mem_append.mp ht with ht | ht
  · exact List.eq_of_mem_replicate ht ▸ ha
  · exact List.eq_of_mem_replicate ht ▸ hb

/-- **One call keeps a directory founded**, in every state of its course. -/
theorem Founded.outcome {supply : ManagerSupply} {action : ManagerAction} {l : List Directory}
    {r : Except Exn Json} {d' : Directory}
    (h : Founded P resolve env relayId peerId listenPort d s c)
    (hout : Outcome P resolve d s c supply action l r d') :
    ∀ t ∈ d' :: l, ∃ s c, Founded P resolve env relayId peerId listenPort t s c := by
  have hpending (pending : Dict String PendingChallenge) :=
    checkRelayState_pending h.loads.stateOk pending
  -- one case per outcome: each state of the course is founded with the documents it has then
  cases hout with
  | refused hl =>
    rw [List.forall_mem_cons]
    exact ⟨⟨s, c, h⟩, fun t ht => hl t ht ▸ ⟨s, c, h⟩⟩
  | reported hl =>
    rw [List.forall_mem_cons]
    exact ⟨⟨s, c, h⟩, fun t ht => hl t ht ▸ ⟨s, c, h⟩⟩
  | requested hfile hoffer hbuild =>
    have hwritten (output : String) (request : Json) := h.loads.withOutput output request
    refine forall_mem_course ⟨s, c, h⟩ ⟨s, c, h.change (hwritten _ _) ⟨rfl, rfl, rfl, rfl⟩
      ⟨rfl, rfl⟩ h.sorted⟩ ⟨_, c, h.change ((hwritten _ _).withState (hpending _) rfl)
        ⟨rfl, rfl, rfl, rfl⟩ ⟨rfl, rfl⟩ h.sorted⟩
  | enrolled hfile hmatch hnew hvalid =>
    have hsaved := h.loads.withConfig hvalid rfl
    have hsorted := sorted_withDevice hvalid
    refine forall_mem_course ⟨s, c, h⟩ ⟨s, _, h.change hsaved ⟨rfl, rfl, rfl, rfl⟩ ⟨rfl, rfl⟩
      hsorted⟩ ⟨_, _, h.change (hsaved.withState (hpending _) rfl) ⟨rfl, rfl, rfl, rfl⟩
        ⟨rfl, rfl⟩ hsorted⟩
  | reenrolled hfile hmatch hfound =>
    rw [List.forall_mem_cons]
    refine ⟨⟨_, c, h.change (h.loads.withState (hpending _) rfl) ⟨rfl, rfl, rfl, rfl⟩ ⟨rfl, rfl⟩
      h.sorted⟩, fun t ht => List.eq_of_mem_replicate ht ▸ ⟨s, c, h⟩⟩
  | switched hvalid =>
    have hsaved := h.change (h.loads.withConfig hvalid rfl) ⟨rfl, rfl, rfl, rfl⟩ ⟨rfl, rfl⟩ h.sorted
    exact forall_mem_course ⟨s, c, h⟩ ⟨s, _, hsaved⟩ ⟨s, _, hsaved⟩
  | removed hvalid =>
    have hsaved := h.change (h.loads.withConfig hvalid rfl) ⟨rfl, rfl, rfl, rfl⟩ ⟨rfl, rfl⟩
      (h.sorted.sublist List.filter_sublist)
    exact forall_mem_course ⟨s, c, h⟩ ⟨s, _, hsaved⟩ ⟨s, _, hsaved⟩

/-- One call keeps a directory founded, whichever of its file steps fail. -/
theorem Founded.step (h : Founded P resolve env relayId peerId listenPort d s c)
    (call : ManagerCall) : ∃ s c, Founded P resolve env relayId peerId listenPort
      (managerStep P resolve d call).2 s c := by
  obtain ⟨l, r, d', hout, ⟨k, e, hstage, -, -⟩ | ⟨-, hstep⟩⟩ := managerStep_cases h.loads call
  · exact h.outcome hout _ (List.mem_cons_of_mem _ (List.mem_of_getElem? hstage))
  · rw [hstep]
    exact h.outcome hout _ List.mem_cons_self

/-- **Every run from a founded directory ends in one**, of the same relay. -/
theorem founded_of_run {allowed : List ManagerEvent → ManagerCall → Prop} {d₀ : Directory}
    {events : List ManagerEvent}
    (h : ∃ s c, Founded P resolve env relayId peerId listenPort d₀ s c)
    (hrun : Run (PrinterHmi.managerStep P resolve) allowed d₀ events d) :
    ∃ s c, Founded P resolve env relayId peerId listenPort d s c := by
  refine hrun.invariant_state (I := fun d => ∃ s c,
    Founded P resolve env relayId peerId listenPort d s c) h fun _ call hd => ?_
  obtain ⟨s, c, hfounded⟩ := hd
  exact hfounded.step call

/-! ### What is kept -/

/-- **A well-formed directory** of the relay that was initialized with these arguments, with
documents `s` and `c`. -/
structure WellFormed (P : Platform) (resolve : String → String) (env : Founding)
    (relayName peerName port : Json) (d : Directory) (s : RelayState) (c : ReceiverDocument) :
    Prop where
  state : d.state = some s
  config : d.config = some c
  stateLoads : (loadState P).exec d = (.ok s, d)
  configLoads : ∃ parsed, ReceiverConfig.load P (d.paths resolve) c.json = .ok parsed ∧
    parsed.relayId = s.relayId
  relayId : relayName = .str s.relayId
  peerId : peerName = .str s.peerId
  peerKeys : s.peerPublicKey = b64encode (P.publicKey env.key).1 ∧
    s.peerPrivateKey = b64encode env.key.1
  listener : c.listenHost = "127.0.0.1" ∧ port = .int c.listenPort
  sorted : c.devices.Pairwise fun a b => a.deviceId < b.deviceId
  derived : ∀ device ∈ c.devices, ∃ key : Bytes32,
    b64decodeText invalidDeviceKey device.publicKey = .ok key.1 ∧
      device.deviceId = PrinterHmi.deviceId P key.1
  enabled : c.enabled = .bool true → c.devices ≠ []

/-- **The configuration stays well formed**: in every state a manager reaches from an
initialization, by calls with any arguments and files, whether they return or raise and
whichever of their file steps fail. -/
theorem documents_well_formed {relayName peerName port : Json} {d₀ : Directory}
    {events : List ManagerEvent} (hinit : Initialized P resolve env relayName peerName port d₀)
    (hrun : ManagerRun P resolve d₀ events d) :
    ∃ s c, WellFormed P resolve env relayName peerName port d s c := by
  obtain ⟨relayId, peerId, listenPort, rfl, rfl, rfl, hstart⟩ := founded_of_initialized hinit
  obtain ⟨s, c, h⟩ := founded_of_run ⟨_, _, hstart⟩ hrun
  obtain ⟨parsed, hparsed⟩ := h.loads.valid.load
  obtain ⟨enabled, henabled, hdevices⟩ := h.loads.valid.enabled
  refine ⟨s, c, h.loads.state, h.loads.config,
    (course_loadState h.loads.state h.loads.stateOk).exec, ?_, ?_, ?_,
    ⟨h.peerPublicKey, h.peerPrivateKey⟩, ⟨h.listenHost, ?_⟩, h.sorted, ?_, ?_⟩
  · exact ⟨parsed, load_eq_ok.mp hparsed, (valid_of_load hparsed).2.trans h.loads.same⟩
  · rw [h.relayId]
  · rw [h.peerId]
  · rw [h.listenPort]
  · intro device hdevice
    exact (h.loads.valid.derived device hdevice).2
  · intro htrue
    exact hdevices (Json.bool.inj (henabled.symm.trans htrue))

end Founded

end Manager

namespace Sample

open Manager

/-- What the sample relay is founded with. -/
def founding : Founding := ⟨relayKey, moment 0⟩

/-- Where the files of the sample relay are. -/
def relayPath (name : String) : String := "/srv/relay/" ++ name

/-- The directory the sample relay starts with. -/
def relayDirectory : Directory := foundingDirectory platform founding "relay-1" "printerhmi-relay" 8443

/-- It is the directory of an initialization. -/
theorem initialized_relayDirectory : Initialized platform relayPath founding (.str "relay-1")
    (.str "printerhmi-relay") (.int 8443) relayDirectory :=
  ⟨_, exec_initializeDirectory founding (by decide) (by decide) (by decide)⟩

/-- What a call of the sample relay takes from outside: it is made a second after the
offer. -/
def relaySupply : ManagerSupply := ⟨moment 1, moment 1, challengeId, nonce, true, false⟩

/-- Enabling the receiver. -/
def enabling : ManagerCall := ⟨.setEnabled (.bool true) true, relaySupply, fun _ => false⟩

end Sample

end PrinterHmi
