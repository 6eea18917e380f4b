import PrinterHmi.Configuration.Enroll
import PrinterHmi.Lib.Since
import PrinterHmi.Receiver.Publication

/-!
# A relay in operation

On the host of a relay the operator uses the manager on a directory, and a receiver is started on the
configuration in it. A receiver reads the configuration when it starts and not again, so a change of
the allowlist matters from the next start on; and it starts without records, whatever is in its state
file.

The two sides are put together here as one machine (`siteStep`), in which calls of the manager, starts
and stops of the receiver and steps of its handlers come in any order. What a running receiver has
goes back, by what the manager has done and what its connections have received, to an enrollment
(`served_since_enrolled`); and a device that has been removed is not served by any receiver that is
started after that (`removed_not_served`).
-/

namespace PrinterHmi

/-- A receiver that is running, with the configuration it was started with. -/
structure RunningReceiver where
  config : ReceiverConfig
  receiver : Receiver

/-- **The host of a relay**: the directory of its manager, and the receiver that runs on it. -/
structure RelaySite where
  directory : Directory
  running : Option RunningReceiver

/-- What can happen on the host. -/
inductive SiteAction : Type where
  | manage (call : ManagerCall)
  /-- The receiver is started, and its sockets can be opened or not. -/
  | serve (opens : Bool)
  /-- The receiver ends, or is ended. -/
  | stop
  | handle (connection : ℕ) (input : Input) (env : HandlerSupply)

/-- What comes of it. -/
inductive SiteAnswer : Type where
  | managed (r : Except Exn Json)
  | served (r : Except Exn Unit)
  | stopped
  | wrote (out : Option Bytes)

/-- An event on the host. -/
abbrev SiteEvent := Event RelaySite SiteAction SiteAnswer

section Machine

variable (P : Platform) (resolve : String → String)

/-- What `main` of the receiver starts it with. -/
def serveConfig (d : Directory) : Except Exn ReceiverConfig := do
  let document ← orRaise d.config (receiverError "receiver configuration could not be read")
  let config ← ReceiverConfig.load P (d.paths resolve) document.json
  require (config.enabled) (receiverError "relay receiver is disabled")
  pure config

/-- **One step of the host.** A receiver that is started beside another finds its port taken. -/
def siteStep (s : RelaySite) : SiteAction → SiteAnswer × RelaySite
  | .manage call =>
    let (r, d) := managerStep P resolve s.directory call
    (.managed r, { s with directory := d })
  | .serve opens =>
    match serveConfig P resolve s.directory with
    | .error e => (.served (.error e), s)
    | .ok config =>
      if opens = true ∧ s.running.isNone then
        (.served (.ok ()), { s with running := some ⟨config, .start config⟩ })
      else (.served (.error (osError "bind")), s)
  | .stop => (.stopped, { s with running := none })
  | .handle c input env =>
    match s.running with
    | none => (.wrote none, s)
    | some rr =>
      let (out, r) := rr.receiver.step P rr.config c input env
      (.wrote out, { s with running := some { rr with receiver := r } })

/-- **What can happen in a step of the host.** -/
inductive Happens (s : RelaySite) : SiteAction → SiteAnswer → RelaySite → Prop
  | manages {call : ManagerCall} : Happens s (.manage call)
      (.managed (managerStep P resolve s.directory call).1)
      { s with directory := (managerStep P resolve s.directory call).2 }
  | starts {opens : Bool} {config : ReceiverConfig} (hnone : s.running = none)
      (hconfig : serveConfig P resolve s.directory = .ok config) :
      Happens s (.serve opens) (.served (.ok ())) { s with running := some ⟨config, .start config⟩ }
  | fails {opens : Bool} {e : Exn} : Happens s (.serve opens) (.served (.error e)) s
  | stops : Happens s .stop .stopped { s with running := none }
  | handles {c : ℕ} {input : Input} {env : HandlerSupply} {rr : RunningReceiver} {out : Option Bytes}
      {r : Receiver} (hrunning : s.running = some rr)
      (hstep : rr.receiver.step P rr.config c input env = (out, r)) :
      Happens s (.handle c input env) (.wrote out) { s with running := some { rr with receiver := r } }
  | idles {c : ℕ} {input : Input} {env : HandlerSupply} (hnone : s.running = none) :
      Happens s (.handle c input env) (.wrote none) s

theorem happens_step (s : RelaySite) (a : SiteAction) :
    Happens P resolve s a (siteStep P resolve s a).1 (siteStep P resolve s a).2 := by
  cases a with
  | manage call => exact .manages
  | stop => exact .stops
  | serve opens =>
    rw [siteStep]
    split
    case h_1 => exact .fails
    case h_2 config hconfig =>
      split_ifs with hfree
      · exact .starts (Option.isNone_iff_eq_none.mp hfree.2) hconfig
      · exact .fails
  | handle c input env =>
    rw [siteStep]
    split
    case h_1 hnone => exact .idles hnone
    case h_2 rr hrunning => exact .handles hrunning rfl

/-! ### What is said of an event -/

/-- The step of a handler, as one of the receiver alone. -/
def handled? (e : SiteEvent) : Option (ReceiverEvent Unit) :=
  match e.call, e.before.running with
  | .handle c input env, some rr =>
    let (out, r) := rr.receiver.step P rr.config c input env
    some ⟨fun _ => rr.receiver, ⟨(), c, input, env⟩, out, fun _ => r⟩
  | _, _ => none

/-- **The receiver is started**, with this configuration. -/
structure Starts (config : ReceiverConfig) (e : SiteEvent) : Prop where
  served : e.result = .served (.ok ())
  config : serveConfig P resolve e.before.directory = .ok config

/-- **A device is enrolled**: a receipt for it is imported, over a challenge that is pending, and
the device is in the allowlist then, where it was not. -/
inductive Enrolls (relayId peerId peerKey : String) (device : EnrolledDevice) (e : SiteEvent) : Prop
  | mk {call : ManagerCall} {file : Option Bytes} {receipt : Json} {id : String} {state : RelayState}
      {pending : PendingChallenge} (hcall : e.call = .manage call)
      (haction : call.action = .addReceipt file)
      (hfile : readJson P file "enrollment receipt" = .ok receipt)
      (hreceipt : ReceiptFor P relayId peerId peerKey id device receipt)
      (hstate : e.before.directory.state = some state)
      (hpending : state.pendingChallenges.get? id = some pending)
      (hdevice : pending.deviceId = device.deviceId ∧ pending.devicePublicKey = device.publicKey)
      (hnew : device ∉ e.before.directory.devices)
      (hmem : device ∈ e.after.directory.devices) : Enrolls relayId peerId peerKey device e

/-- **A device is removed.** -/
inductive Removes (id : String) (e : SiteEvent) : Prop
  | mk {call : ManagerCall} {confirmed : Bool} {reply : Json} (hcall : e.call = .manage call)
      (haction : call.action = .removeDevice (.str id) confirmed)
      (hresult : e.result = .managed (.ok reply)) : Removes id e

end Machine

/-! ### What a call does to the allowlist -/

namespace Manager

section Allowlist

variable {P : Platform} {resolve : String → String} {env : Founding} {relayId peerId : String}
  {listenPort : ℤ} {d : Directory} {s : RelayState} {c : ReceiverDocument}

/-- The directory a call leaves is one of its course. -/
theorem course_of_step (h : d.Loads P resolve s c) (call : ManagerCall) :
    ∃ l r d', Outcome P resolve d s c call.env call.action l r d' ∧
      ((managerStep P resolve d call).2 ∈ l ∧ (managerStep P resolve d call).1.isOk = false ∨
        managerStep P resolve d call = (r, d')) := by
  obtain ⟨l, r, d', hout, ⟨k, e, hstage, -, herror⟩ | ⟨-, hstep⟩⟩ := managerStep_cases h call
  · exact ⟨l, r, d', hout, .inl ⟨List.mem_of_getElem? hstage, by rw [herror]; rfl⟩⟩
  · exact ⟨l, r, d', hout, .inr hstep⟩

/-- **A device gets into the allowlist by a receipt only**, whichever file steps of the call fail. -/
theorem matched_of_mem_devices (h : d.Loads P resolve s c) {call : ManagerCall}
    {device : EnrolledDevice} (hnew : device ∉ d.devices)
    (hmem : device ∈ (managerStep P resolve d call).2.devices) :
    ∃ file receipt id, call.action = .addReceipt file ∧
      readJson P file "enrollment receipt" = .ok receipt ∧
      matchReceipt P s receipt = .ok (id, device) := by
  have hdevices : d.devices = c.devices := by rw [Directory.devices, h.config]
  obtain ⟨l, r, d', hout, hcourse⟩ := course_of_step h call
  have hleft : (managerStep P resolve d call).2 ∈ d' :: l := by
    rcases hcourse with ⟨hl, -⟩ | hstep
    · exact List.mem_cons_of_mem _ hl
    · rw [hstep]
      exact List.mem_cons_self
  generalize (managerStep P resolve d call).2 = left at hleft hmem
  -- a directory of the course that has the allowlist it had is none
  have hsame (hkept : left.devices = d.devices) : False := hnew (hkept ▸ hmem)
  generalize haction : call.action = action at hout
  cases hout with
  | refused hl =>
    rcases List.mem_cons.mp hleft with rfl | hleft
    · exact absurd rfl hsame
    · exact absurd (congrArg Directory.devices (hl _ hleft)) hsame
  | reported hl =>
    rcases List.mem_cons.mp hleft with rfl | hleft
    · exact absurd rfl hsame
    · exact absurd (congrArg Directory.devices (hl _ hleft)) hsame
  | requested =>
    simp only [List.mem_cons, List.mem_append, List.mem_replicate] at hleft
    rcases hleft with rfl | ⟨-, rfl⟩ | ⟨-, rfl⟩
    · exact absurd rfl hsame
    · exact absurd rfl hsame
    · exact absurd rfl hsame
  | reenrolled =>
    simp only [List.mem_cons, List.mem_replicate] at hleft
    rcases hleft with rfl | ⟨-, rfl⟩
    · exact absurd rfl hsame
    · exact absurd rfl hsame
  | switched =>
    simp only [List.mem_cons, List.mem_append, List.mem_replicate] at hleft
    rcases hleft with rfl | ⟨-, rfl⟩ | ⟨-, rfl⟩
    · exact absurd hdevices.symm hsame
    · exact absurd rfl hsame
    · exact absurd hdevices.symm hsame
  | removed =>
    have hgone {config : ReceiverDocument} {id : Json}
        (hin : device ∈ (withoutDevice config id).devices) : device ∈ config.devices :=
      List.mem_of_mem_filter hin
    simp only [List.mem_cons, List.mem_append, List.mem_replicate] at hleft
    rcases hleft with rfl | ⟨-, rfl⟩ | ⟨-, rfl⟩
    · exact absurd (hdevices ▸ hgone hmem) hnew
    · exact absurd rfl hsame
    · exact absurd (hdevices ▸ hgone hmem) hnew
  | @enrolled file receipt id new hfile hmatch =>
    have hadded (hin : device ∈ (withDevice c new).devices) : device = new := by
      rcases mem_withDevice.mp hin with hold | rfl
      · exact absurd (hdevices ▸ hold) hnew
      · rfl
    simp only [List.mem_cons, List.mem_append, List.mem_replicate] at hleft
    rcases hleft with rfl | ⟨-, rfl⟩ | ⟨-, rfl⟩
    · obtain rfl := hadded hmem
      exact ⟨file, receipt, id, rfl, hfile, hmatch⟩
    · exact absurd rfl hsame
    · obtain rfl := hadded hmem
      exact ⟨file, receipt, id, rfl, hfile, hmatch⟩

/-- **A device that has been removed is out of the allowlist.** -/
theorem notMem_devices_of_removed (h : d.Loads P resolve s c) {call : ManagerCall} {id : String}
    {confirmed : Bool} (haction : call.action = .removeDevice (.str id) confirmed) {reply : Json}
    (hok : (managerStep P resolve d call).1 = .ok reply) :
    ∀ device ∈ (managerStep P resolve d call).2.devices, device.deviceId ≠ id := by
  obtain ⟨l, r, d', hout, hcourse⟩ := course_of_step h call
  rcases hcourse with ⟨-, hfailed⟩ | hstep
  · rw [hok] at hfailed
    cases hfailed
  rw [hstep] at hok ⊢
  dsimp only at hok
  rw [haction] at hout
  cases hout with
  | refused => cases hok
  | removed =>
    rintro device hmem rfl
    obtain ⟨-, hother⟩ := List.mem_filter.mp hmem
    rw [Json.pyEq_refl] at hother
    cases hother

end Allowlist

end Manager

/-! ### The receiver that runs -/

section Serving

variable {P : Platform} {resolve : String → String} {s₀ s : RelaySite} {es : List SiteEvent}

variable (P resolve) in
/-- **What a running receiver has behind it**: it was started by an event of the history, and what
its handlers have done since is a run of it. -/
inductive Serving (es : List SiteEvent) (rr : RunningReceiver) : Prop
  | mk {pre : List SiteEvent} {starting : SiteEvent} {post : List SiteEvent}
      (hes : es = pre ++ starting :: post) (hstarts : Starts P resolve rr.config starting)
      (hlast : ∀ e ∈ post, e.result ≠ .served (.ok ()))
      (hrun : Run (receiversStep P fun _ : Unit => rr.config) (fun _ _ => True)
        (receiversStart fun _ => rr.config) (post.filterMap (handled? P)) fun _ => rr.receiver) :
      Serving es rr

/-- An event that starts nothing, and in which no handler takes a step. -/
theorem Serving.rest {rr : RunningReceiver} {e : SiteEvent} (h : Serving P resolve es rr)
    (hanswer : e.result ≠ .served (.ok ())) (hnone : handled? P e = none) :
    Serving P resolve (es ++ [e]) rr := by
  cases h with
  | @mk pre starting post hes hstarts hlast hrun =>
    have hhistory : (post ++ [e]).filterMap (handled? P) = post.filterMap (handled? P) := by
      rw [List.filterMap_append, List.filterMap_cons_none hnone]
      exact List.append_nil _
    refine .mk (by rw [hes, List.append_assoc, List.cons_append]) hstarts (fun e' he' => ?_)
      (hhistory ▸ hrun)
    rcases List.mem_append.mp he' with he' | he'
    · exact hlast e' he'
    · rw [List.mem_singleton.mp he']
      exact hanswer

/-- An event in which a handler takes a step. -/
theorem Serving.handle {rr : RunningReceiver} {e : SiteEvent} {a : ReceiverAction Unit}
    {out : Option Bytes} {r : Receiver} (h : Serving P resolve es rr)
    (hanswer : e.result ≠ .served (.ok ()))
    (hhandled : handled? P e = some ⟨fun _ => rr.receiver, a, out, fun _ => r⟩)
    (hstep : rr.receiver.step P rr.config a.connection a.input a.env = (out, r)) :
    Serving P resolve (es ++ [e]) { rr with receiver := r } := by
  cases h with
  | @mk pre starting post hes hstarts hlast hrun =>
    have hhistory : (post ++ [e]).filterMap (handled? P) =
        post.filterMap (handled? P) ++ [⟨fun _ => rr.receiver, a, out, fun _ => r⟩] := by
      rw [List.filterMap_append, List.filterMap_cons_some hhandled]
      rfl
    have hreceivers : receiversStep P (fun _ : Unit => rr.config) (fun _ => rr.receiver) a =
        (out, fun _ => r) :=
      (receiversStep_of_step hstep).trans (congrArg _ (funext fun _ => Function.update_self ..))
    refine .mk (by rw [hes, List.append_assoc, List.cons_append]) hstarts (fun e' he' => ?_)
      (hhistory ▸ hrun.next_eq trivial hreceivers)
    rcases List.mem_append.mp he' with he' | he'
    · exact hlast e' he'
    · rw [List.mem_singleton.mp he']
      exact hanswer

/-- **A running receiver was started, and has taken the steps of its handlers since.** -/
theorem serving_of_run {allowed : List SiteEvent → SiteAction → Prop}
    (hrun : Run (siteStep P resolve) allowed s₀ es s) (hstart : s₀.running = none) :
    ∀ rr, s.running = some rr → Serving P resolve es rr := by
  refine hrun.invariant (I := fun es s => ∀ rr, s.running = some rr → Serving P resolve es rr)
    (fun rr hrr => ?_) fun es s a _ ih _ rr hrr => ?_
  · rw [hstart] at hrr
    cases hrr
  have hhappens := happens_step P resolve s a
  generalize (siteStep P resolve s a).1 = answer at hhappens ⊢
  generalize (siteStep P resolve s a).2 = s' at hhappens hrr ⊢
  cases hhappens with
  | manages => exact (ih rr hrr).rest (by rintro ⟨⟩) rfl
  | starts hnone hconfig =>
    obtain rfl := Option.some.inj hrr
    exact .mk rfl ⟨rfl, hconfig⟩ (fun _ he => absurd he List.not_mem_nil) .start
  | fails => exact (ih rr hrr).rest (by rintro ⟨⟩) rfl
  | stops => cases hrr
  | @handles c input env rr₀ out r hrunning hstep =>
    obtain rfl := Option.some.inj hrr
    refine (ih rr₀ hrunning).handle (a := ⟨(), c, input, env⟩) (by rintro ⟨⟩) ?_ hstep
    rw [handled?]
    dsimp only
    rw [hrunning]
    dsimp only
    rw [hstep]
  | idles hnone =>
    rw [hnone] at hrr
    cases hrr

/-- A record of a receiver goes back to an authenticated session of its device. -/
theorem authenticated_of_record {config : ReceiverConfig}
    {allowed : List (ReceiverEvent Unit) → ReceiverAction Unit → Prop}
    {es : List (ReceiverEvent Unit)} {s : Unit → Receiver}
    (hrun : Run (receiversStep P fun _ => config) allowed (receiversStart fun _ => config) es s)
    {d : String} (hrecord : (s ()).registry.records.get? d ≠ none) :
    ∃ c challenge auth, Authenticated P (fun _ => config) es () c d challenge auth := by
  refine hrun.invariant (I := fun es s => (s ()).registry.records.get? d ≠ none →
    ∃ c challenge auth, Authenticated P (fun _ => config) es () c d challenge auth)
    (fun hrecord => absurd rfl hrecord) (fun es s a hrun ih _ hrecord => ?_) hrecord
  by_cases hsame : ((receiversStep P (fun _ => config) s a).2 ()).registry.records.get? d =
      (s ()).registry.records.get? d
  · obtain ⟨c, challenge, auth, hauth⟩ := ih (hsame ▸ hrecord)
    exact ⟨c, challenge, auth, hauth.mono (List.sublist_append_left _ _)⟩
  · -- the record is changed by telemetry of an open session
    have hstep : receiversStep P (fun _ => config) s a = (_, _) := rfl
    obtain ⟨-, -, challenge, -, -, hphase, -⟩ := changed_record (e := ⟨s, a, _, _⟩) hstep hsame
    have hbacked := backed hrun () a.connection
    dsimp only at hphase
    rw [hphase] at hbacked
    obtain ⟨auth, hauth⟩ := hbacked
    exact ⟨a.connection, challenge, auth, hauth.mono (List.sublist_append_left _ _)⟩

end Serving

/-! ### Going into operation -/

namespace Manager

section Operation

open FileProg

variable {P : Platform} {resolve : String → String} {env : Founding} {relayId peerId : String}
  {listenPort : ℤ} {d : Directory} {s : RelayState} {c : ReceiverDocument}

/-- **A device can be removed** from a configuration that is not enabled. -/
theorem Founded.removes (h : Founded P resolve env relayId peerId listenPort d s c)
    (call : ManagerCall) (hcall : call.Faultless) {device : EnrolledDevice}
    (haction : call.action = .removeDevice (.str device.deviceId) true) (hmem : device ∈ c.devices)
    (henabled : c.enabled = .bool false) :
    ∃ reply, managerStep P resolve d call =
        (.ok reply, d.withConfig (withoutDevice c (.str device.deviceId))) ∧
      Founded P resolve env relayId peerId listenPort
        (d.withConfig (withoutDevice c (.str device.deviceId))) s
        (withoutDevice c (.str device.deviceId)) := by
  have hsublist : (withoutDevice c (.str device.deviceId)).devices.Sublist c.devices :=
    List.filter_sublist
  have hfewer : (withoutDevice c (.str device.deviceId)).devices.length ≠ c.devices.length := by
    intro hlength
    obtain ⟨-, hother⟩ := List.mem_filter.mp (hsublist.eq_of_length hlength ▸ hmem)
    rw [Json.pyEq_refl] at hother
    cases hother
  have hoff : c.enabled.truthy = true → (withoutDevice c (.str device.deviceId)).devices ≠ [] := by
    rw [henabled]
    rintro ⟨⟩
  have hvalid : (withoutDevice c (.str device.deviceId)).Valid P (d.paths resolve) :=
    { h.loads.valid with
      enabled := ⟨false, henabled, by rintro ⟨⟩⟩
      count := hsublist.length_le.trans h.loads.valid.count
      derived := fun other hother => h.loads.valid.derived other (hsublist.subset hother)
      nodup := h.loads.valid.nodup.sublist (hsublist.map _) }
  have hcourse : (removeDevice P resolve (.str device.deviceId) true).Course d _ _ _ :=
    course_locked ((course_require rfl _ d).bind ((course_loadConfig h.loads).bind
      ((course_require hfewer _ d).bind ((course_require hoff _ d).bind
        (course_reconfigure h.loads hvalid rfl)))))
  exact ⟨_, managerStep_of_course hcall haction hcourse,
    h.change (h.loads.withConfig hvalid rfl) ⟨rfl, rfl, rfl, rfl⟩ ⟨rfl, rfl⟩
      (h.sorted.sublist hsublist)⟩

/-- **An enabled receiver is started with the devices of the allowlist.** -/
theorem Founded.serves (h : Founded P resolve env relayId peerId listenPort d s c)
    (henabled : c.enabled = .bool true) :
    ∃ config, serveConfig P resolve d = .ok config ∧ config.relayId = relayId ∧
      ∀ device ∈ c.devices, config.devices.get? device.deviceId = some device.publicKey := by
  obtain ⟨config, hload⟩ := h.loads.valid.load
  have hparsed := load_eq_ok.mp hload
  obtain ⟨-, -, hflag, -⟩ := ReceiverConfig.load_eq_ok.mp hparsed
  have hon : config.enabled = true :=
    (Json.bool.inj (henabled.symm.trans (show c.enabled = .bool config.enabled from hflag))).symm
  refine ⟨config, ?_, (valid_of_load hload).2.trans (h.loads.same.trans h.relayId),
    fun device hdevice => get?_of_load hload hdevice⟩
  rw [serveConfig, Except.ok_bind_eq (orRaise_eq_ok.mpr h.loads.config), Except.ok_bind_eq hparsed,
    require_pos hon]
  rfl

end Operation

end Manager

/-! ### What the directory has behind it -/

section Enrollment

open Manager

variable {P : Platform} {resolve : String → String} {env : Founding} {relayId peerId : String}
  {listenPort : ℤ} {s₀ s : RelaySite} {es : List SiteEvent}
  {allowed : List SiteEvent → SiteAction → Prop}

/-- Only the manager writes in its directory. -/
theorem directory_of_step (s : RelaySite) {a : SiteAction} (ha : ∀ call, a ≠ .manage call) :
    (siteStep P resolve s a).2.directory = s.directory := by
  have hhappens := happens_step P resolve s a
  generalize (siteStep P resolve s a).1 = answer at hhappens
  generalize (siteStep P resolve s a).2 = s' at hhappens ⊢
  cases hhappens with
  | manages => exact absurd rfl (ha _)
  | _ => rfl

/-- **The directory of the host stays well formed.** -/
theorem founded_of_siteRun
    (hstart : ∃ st c, Founded P resolve env relayId peerId listenPort s₀.directory st c)
    (hrun : Run (siteStep P resolve) allowed s₀ es s) :
    ∃ st c, Founded P resolve env relayId peerId listenPort s.directory st c := by
  refine hrun.invariant_state (I := fun s => ∃ st c,
    Founded P resolve env relayId peerId listenPort s.directory st c) hstart fun s a hs => ?_
  cases a with
  | manage call =>
    obtain ⟨st, c, hfounded⟩ := hs
    exact hfounded.step call
  | _ => rwa [directory_of_step s (by rintro call ⟨⟩)]

/-- **A device that gets into the allowlist is enrolled.** -/
theorem enrolls_of_step {a : SiteAction} {st : RelayState} {c : ReceiverDocument}
    (hfounded : Founded P resolve env relayId peerId listenPort s.directory st c)
    {device : EnrolledDevice} (hnew : device ∉ s.directory.devices)
    (hmem : device ∈ (siteStep P resolve s a).2.directory.devices) :
    Enrolls P relayId peerId (b64encode (P.publicKey env.key).1) device
      ⟨s, a, (siteStep P resolve s a).1, (siteStep P resolve s a).2⟩ := by
  cases a with
  | manage call =>
    obtain ⟨file, receipt, id, haction, hfile, hmatch⟩ :=
      matched_of_mem_devices hfounded.loads hnew hmem
    obtain ⟨hreceipt, pending, hpending, hdevice⟩ := matchReceipt_eq_ok.mp hmatch
    rw [hfounded.relayId, hfounded.peerId, hfounded.peerPublicKey] at hreceipt
    exact .mk rfl haction hfile hreceipt hfounded.loads.state hpending hdevice hnew hmem
  | _ =>
    rw [directory_of_step s (by rintro call ⟨⟩)] at hmem
    exact absurd hmem hnew

/-- **A device that is removed is out of the allowlist.** -/
theorem notMem_of_removes {a : SiteAction} {st : RelayState} {c : ReceiverDocument}
    (hfounded : Founded P resolve env relayId peerId listenPort s.directory st c) {id : String}
    (hremoves : Removes id ⟨s, a, (siteStep P resolve s a).1, (siteStep P resolve s a).2⟩) :
    ∀ device ∈ (siteStep P resolve s a).2.directory.devices, device.deviceId ≠ id := by
  cases hremoves with
  | mk hcall haction hresult =>
    dsimp only at hcall hresult
    subst hcall
    exact notMem_devices_of_removed hfounded.loads haction (SiteAnswer.managed.inj hresult)

/-- **A device of the allowlist has been enrolled, and not removed since.** -/
theorem enrolled_of_mem_devices
    (hstart : ∃ st c, Founded P resolve env relayId peerId listenPort s₀.directory st c)
    (hempty : s₀.directory.devices = []) (hrun : Run (siteStep P resolve) allowed s₀ es s)
    {device : EnrolledDevice} (hmem : device ∈ s.directory.devices) :
    Since (Enrolls P relayId peerId (b64encode (P.publicKey env.key).1) device)
      (Removes device.deviceId) es := by
  refine hrun.since (I := fun s => device ∈ s.directory.devices) ?_ ?_ ?_ hmem
  · rw [hempty]
    exact List.not_mem_nil
  · intro es s a hrun hnew hmem
    obtain ⟨st, c, hfounded⟩ := founded_of_siteRun hstart hrun
    exact enrolls_of_step hfounded hnew hmem
  · intro es s a hrun hremoves hmem
    obtain ⟨st, c, hfounded⟩ := founded_of_siteRun hstart hrun
    exact notMem_of_removes hfounded hremoves device hmem rfl

/-- The devices of a receiver are those of the allowlist, when it was started. -/
theorem mem_devices_of_starts {e : SiteEvent} {config : ReceiverConfig}
    (hstarts : Starts P resolve config e) {d key : String}
    (hget : config.devices.get? d = some key) : ⟨d, key⟩ ∈ e.before.directory.devices := by
  obtain ⟨document, hdocument, hload⟩ := Except.bind_eq_ok.mp hstarts.config
  obtain ⟨parsed, hparsed, hserved⟩ := Except.bind_eq_ok.mp hload
  obtain ⟨-, -, hr⟩ := Except.bind_eq_ok.mp hserved
  obtain rfl := Except.ok.inj hr
  rw [Directory.devices, orRaise_eq_ok.mp hdocument]
  exact mem_of_get?_of_load (load_eq_ok.mpr hparsed) hget

/-- **What is served goes back to an enrollment.** Whenever the running receiver has a record of a
device, however the manager and the receiver have been used and whichever file steps have failed,
the history tells why: a receipt for the device was imported, signed with its key for this relay over
a challenge that was pending, which put it into the allowlist, and the device has not been removed
since; then the receiver was started, and none since; and then the same key has authenticated a
session on one of its connections, over the challenge issued there. -/
theorem served_since_enrolled {relayName peerName port : Json} {d₀ : Directory}
    (hinit : Initialized P resolve env relayName peerName port d₀)
    (hrun : Run (siteStep P resolve) allowed ⟨d₀, none⟩ es s) {rr : RunningReceiver}
    (hrunning : s.running = some rr) {d : String}
    (hrecord : rr.receiver.registry.records.get? d ≠ none) :
    ∃ relayId peerId key pre starting post, relayName = .str relayId ∧ peerName = .str peerId ∧
      es = pre ++ starting :: post ∧
      Since (Enrolls P relayId peerId (b64encode (P.publicKey env.key).1) ⟨d, key⟩) (Removes d)
        pre ∧
      Starts P resolve rr.config starting ∧ (∀ e ∈ post, e.result ≠ .served (.ok ())) ∧
      ∃ c challenge auth, auth.field "device_public_key" = .str key ∧ Authenticated P
        (fun _ => rr.config) (post.filterMap (handled? P)) () c d challenge auth := by
  obtain ⟨relayId, peerId, listenPort, rfl, rfl, rfl, hstart⟩ := founded_of_initialized hinit
  cases serving_of_run hrun rfl rr hrunning with
  | @mk pre starting post hes hstarts hlast hsince =>
    subst hes
    obtain ⟨c, challenge, auth, hauth⟩ := authenticated_of_record hsince hrecord
    cases hauth with
    | @mk opening verifying key verified horder hissued hreceived henrolled hkey hverified =>
      -- the key was in the configuration the receiver was started with
      obtain ⟨hbefore, -, -⟩ := hrun.split
      have hmem := mem_devices_of_starts hstarts henrolled
      have hempty : d₀.devices = [] := by
        rw [Directory.devices, hstart.loads.config]
        rfl
      exact ⟨relayId, peerId, key, pre, starting, post, rfl, rfl, rfl,
        enrolled_of_mem_devices ⟨_, _, hstart⟩ hempty hbefore hmem, hstarts, hlast, c, challenge,
        auth, hkey, .mk horder hissued hreceived henrolled hkey hverified⟩

/-! ### Removed devices -/

/-- The device that a handler is concerned with. -/
def Phase.device? : Phase → Option String
  | .challenged id _ _ | .opened id _ | .acknowledging id => some id
  | .hello | .closed => none

/-- **A receiver has nothing to do with a device.** -/
structure RunningReceiver.Spares (rr : RunningReceiver) (d : String) : Prop where
  entry : rr.config.devices.get? d = none
  record : rr.receiver.registry.records.get? d = none
  handlers : ∀ c, (rr.receiver.connections c).device? ≠ some d

/-- **A handler does not take up a device that is not in the configuration.** -/
theorem RunningReceiver.Spares.step {rr : RunningReceiver} {d : String} {c : ℕ} {input : Input}
    {supply : HandlerSupply} {out : Option Bytes} {r : Receiver} (h : rr.Spares d)
    (hstep : rr.receiver.step P rr.config c input supply = (out, r)) :
    ({ rr with receiver := r } : RunningReceiver).Spares d := by
  have hhandled := Receiver.handled_step P rr.config rr.receiver c input supply
  rw [hstep] at hhandled
  dsimp only at hhandled
  have hupdate {phase : Phase} (hphase : phase.device? ≠ some d)
      (hconnections : r.connections = Function.update rr.receiver.connections c phase) (c' : ℕ) :
      (r.connections c').device? ≠ some d := by
    rw [hconnections]
    by_cases hc : c' = c
    · subst hc
      rwa [Function.update_self]
    · rw [Function.update_of_ne hc]
      exact h.handlers c'
  cases hhandled with
  | waits => exact h
  | ends hconnections _ hrecords =>
    exact ⟨h.entry, hrecords ▸ h.record, hupdate (by rintro ⟨⟩) hconnections⟩
  | @challenges raw _ id enrolled challenge payload hphase hread hwrite =>
    obtain ⟨-, hkey, -⟩ := readHello_eq_ok.mp hread
    refine ⟨h.entry, h.record, hupdate ?_ rfl⟩
    rintro ⟨⟩
    rw [h.entry] at hkey
    cases hkey
  | @opens raw _ id enrolled challenge payload _ hphase hread hconnections _ hrecords =>
    have hid : (Phase.opened id challenge).device? ≠ some d := by
      have hid := h.handlers c
      rwa [hphase] at hid
    exact ⟨h.entry, hrecords ▸ h.record, hupdate hid hconnections⟩
  | @publishes raw _ id challenge snapshot _ phase _ hphase hread hconnections hended _ hrecords =>
    have hid : some id ≠ some d := by
      have hid := h.handlers c
      rwa [hphase] at hid
    refine ⟨h.entry, ?_, hupdate ?_ hconnections⟩
    · dsimp only
      rw [hrecords]
      split_ifs
      · rw [Dict.get?_insert, if_neg fun hc => hid (congrArg some hc)]
        exact h.record
      · exact h.record
    · rcases hended with rfl | rfl
      · exact hid
      · rintro ⟨⟩

/-- A receiver that is started without a device. -/
theorem spares_start {config : ReceiverConfig} {d : String} (hentry : config.devices.get? d = none) :
    (⟨config, .start config⟩ : RunningReceiver).Spares d :=
  ⟨hentry, rfl, fun _ => by rintro ⟨⟩⟩

/-- **A step after the removal**: the receiver that is started has nothing to do with the device, and
a running one that has nothing to do with it goes on so. -/
theorem spares_of_step {a : SiteAction} {d : String}
    (hout : ∀ device ∈ s.directory.devices, device.deviceId ≠ d) {rr' : RunningReceiver}
    (hrunning' : (siteStep P resolve s a).2.running = some rr')
    (hspares : (siteStep P resolve s a).1 = .served (.ok ()) ∨
      ∀ rr, s.running = some rr → rr.Spares d) : rr'.Spares d := by
  have hhappens := happens_step P resolve s a
  generalize (siteStep P resolve s a).1 = answer at hhappens hspares
  generalize (siteStep P resolve s a).2 = s' at hhappens hrunning'
  cases hhappens with
  | manages => exact (hspares.resolve_left (by rintro ⟨⟩)) rr' hrunning'
  | @starts opens config hnone hconfig =>
    obtain rfl := Option.some.inj hrunning'
    refine spares_start ?_
    by_contra hentry
    obtain ⟨key, hkey⟩ := Option.ne_none_iff_exists'.mp hentry
    have hstarts : Starts P resolve config ⟨s, .serve opens, .served (.ok ()), s⟩ := ⟨rfl, hconfig⟩
    exact hout _ (mem_devices_of_starts hstarts hkey) rfl
  | fails => exact (hspares.resolve_left (by rintro ⟨⟩)) rr' hrunning'
  | stops => cases hrunning'
  | handles hrunning hstep =>
    obtain rfl := Option.some.inj hrunning'
    exact ((hspares.resolve_left (by rintro ⟨⟩)) _ hrunning).step hstep
  | idles hnone =>
    rw [hnone] at hrunning'
    cases hrunning'

/-- **A device that has been removed is not served.** Once `remove_device` has returned, a receiver
that is started has no entry and no record of the device, and no handler of it gets as far as a
challenge for it, as long as the import of a receipt does not put it into the allowlist again – whatever else is done with
the manager and whatever arrives at the receiver. -/
theorem removed_not_served {port : Json} {d₀ : Directory} {s₁ s₂ : RelaySite}
    {es' : List SiteEvent} {allowed' : List SiteEvent → SiteAction → Prop} {call : ManagerCall}
    {d : String} {confirmed : Bool} {reply : Json}
    (hinit : Initialized P resolve env (.str relayId) (.str peerId) port d₀)
    (hbefore : Run (siteStep P resolve) allowed ⟨d₀, none⟩ es s)
    (haction : call.action = .removeDevice (.str d) confirmed)
    (hremoved : siteStep P resolve s (.manage call) = (.managed (.ok reply), s₁))
    (hafter : Run (siteStep P resolve) allowed' s₁ es' s₂)
    (hnone : ∀ e ∈ es', ∀ key,
      ¬Enrolls P relayId peerId (b64encode (P.publicKey env.key).1) ⟨d, key⟩ e)
    (hstarted : ∃ e ∈ es', e.result = .served (.ok ())) {rr : RunningReceiver}
    (hrunning : s₂.running = some rr) : rr.Spares d := by
  obtain ⟨relay, peer, listenPort, hrelay, hpeer, -, hstart⟩ := founded_of_initialized hinit
  obtain rfl := Json.str.inj hrelay
  obtain rfl := Json.str.inj hpeer
  -- the directory after the removal
  obtain ⟨st, c, hfounded⟩ := founded_of_siteRun ⟨_, _, hstart⟩ hbefore
  have hcall : (managerStep P resolve s.directory call).1 = .ok reply :=
    SiteAnswer.managed.inj (congrArg Prod.fst hremoved)
  have hdirectory : s₁.directory = (managerStep P resolve s.directory call).2 :=
    congrArg RelaySite.directory (congrArg Prod.snd hremoved).symm
  have hfounded₁ : ∃ st c, Founded P resolve env relayId peerId listenPort s₁.directory st c := by
    rw [hdirectory]
    exact hfounded.step call
  have hout₁ : ∀ device ∈ s₁.directory.devices, device.deviceId ≠ d := by
    rw [hdirectory]
    exact notMem_devices_of_removed hfounded.loads haction hcall
  -- it stays out of the allowlist, and out of a receiver that is started
  refine (hafter.invariant (I := fun es s => (∀ e ∈ es, ∀ key,
      ¬Enrolls P relayId peerId (b64encode (P.publicKey env.key).1) ⟨d, key⟩ e) →
        (∀ device ∈ s.directory.devices, device.deviceId ≠ d) ∧
          ((∃ e ∈ es, e.result = .served (.ok ())) → ∀ rr, s.running = some rr → rr.Spares d))
    (fun _ => ⟨hout₁, by rintro ⟨_, he, -⟩; exact absurd he List.not_mem_nil⟩) ?_ hnone).2 hstarted
      rr hrunning
  intro es s a hrun ih _ hnone
  obtain ⟨hout, hspares⟩ := ih fun e he => hnone e (List.mem_append_left _ he)
  refine ⟨fun device hdevice hid => ?_, fun hstarted rr hrunning => ?_⟩
  · obtain ⟨st, c, hfounded⟩ := founded_of_siteRun hfounded₁ hrun
    subst hid
    exact hnone _ (List.mem_append_right _ (List.mem_singleton_self _)) device.publicKey
      (enrolls_of_step hfounded (fun hmem => hout device hmem rfl) hdevice)
  · refine spares_of_step hout hrunning ?_
    obtain ⟨e, he, hserved⟩ := hstarted
    rcases List.mem_append.mp he with he | he
    · exact .inr (hspares ⟨e, he, hserved⟩)
    · rw [List.mem_singleton.mp he] at hserved
      exact .inl hserved

end Enrollment

/-! ### A sample relay in operation -/

/-- What is done with the manager is done on the host. -/
theorem siteRun_of_managerRun {P : Platform} {resolve : String → String} {s₀ s : RelaySite}
    {es : List SiteEvent} {allowed : List ManagerEvent → ManagerCall → Prop}
    {calls : List ManagerEvent} {d : Directory}
    (hrun : Run (siteStep P resolve) (fun _ _ => True) s₀ es s)
    (hmanager : Run (managerStep P resolve) allowed s.directory calls d) :
    ∃ es', Run (siteStep P resolve) (fun _ _ => True) s₀ es' { s with directory := d } := by
  induction hmanager with
  | start => exact ⟨es, hrun⟩
  | @next _ _ call _ _ ih =>
    obtain ⟨es', hrun'⟩ := ih
    exact ⟨_, hrun'.next (c := .manage call) trivial⟩

namespace Sample

open Manager

/-- The runs of the sample host. -/
abbrev HostRun (es : List SiteEvent) (s : RelaySite) : Prop :=
  Run (siteStep platform relayPath) (fun _ _ => True) ⟨relayDirectory, none⟩ es s

/-- A call of the manager. -/
theorem siteStep_manage {d d' : Directory} {call : ManagerCall} {r : Except Exn Json}
    (hstep : managerStep platform relayPath d call = (r, d')) :
    siteStep platform relayPath ⟨d, none⟩ (.manage call) = (.managed r, ⟨d', none⟩) := by
  simp only [siteStep, hstep]

/-- A step of a handler of a running receiver. -/
theorem siteStep_handle {d : Directory} {config : ReceiverConfig} {r r' : Receiver} {c : ℕ}
    {input : Input} {env : HandlerSupply} {out : Option Bytes}
    (hstep : r.step platform config c input env = (out, r')) :
    siteStep platform relayPath ⟨d, some ⟨config, r⟩⟩ (.handle c input env) =
      (.wrote out, ⟨d, some ⟨config, r'⟩⟩) := by
  simp only [siteStep, hstep]

/-- The receiver is started. -/
theorem siteStep_serve {d : Directory} {config : ReceiverConfig}
    (hconfig : serveConfig platform relayPath d = .ok config) :
    siteStep platform relayPath ⟨d, none⟩ (.serve true) =
      (.served (.ok ()), ⟨d, some ⟨config, .start config⟩⟩) := by
  simp only [siteStep, hconfig, Option.isNone_none, and_self, if_true]

/-- The sample session, at a receiver that has the name of the sample relay and the device. -/
theorem hosts_session {es : List SiteEvent} {d : Directory} {config : ReceiverConfig}
    (hrun : HostRun es ⟨d, some ⟨config, .start config⟩⟩) (hrelay : config.relayId = "relay-1")
    (hkey : config.devices.get? device = some (b64encode agentPublic.1)) :
    ∃ es' r, HostRun es' ⟨d, some ⟨config, r⟩⟩ ∧ r.registry.records.get? device ≠ none := by
  obtain ⟨hgreeted, -, hch⟩ := readHello_eq_ok.mp readHello_sample
  have hread : readHello platform config (handlerSupply sessionNonce (moment 3))
      (canonical (agentHello device) ++ [newline]) = .ok (device, b64encode agentPublic.1, session) :=
    readHello_eq_ok.mpr ⟨hgreeted, hkey, hrelay ▸ hch⟩
  obtain ⟨r₁, hstep₁, hphase₁, hids₁⟩ : ∃ r₁, (Receiver.start config).step platform config 0
      (.line (canonical (agentHello device) ++ [newline])) (handlerSupply sessionNonce (moment 3)) =
        (some (canonical session ++ [newline]), r₁) ∧
      r₁.connections 0 = .challenged device (b64encode agentPublic.1) session ∧
      device ∈ r₁.registry.deviceIds := by
    refine ⟨_, Receiver.step_hello rfl hread (writeFrame_of_lengthBound (by decide)), ?_,
      List.mem_map_of_mem (Dict.mem_entries_iff.mpr hkey)⟩
    rw [Receiver.move_connections, Function.update_self]
  obtain ⟨r₂, hstep₂, hphase₂, hids₂⟩ : ∃ r₂, r₁.step platform config 0
      (.line (canonical authentication ++ [newline])) (handlerSupply (repeated 86) (moment 4)) =
        (some (canonical ready ++ [newline]), r₂) ∧
      r₂.connections 0 = .opened device session ∧ device ∈ r₂.registry.deviceIds := by
    have hwrite : writeFrame (sessionReady platform session config.relayId (moment 4)) =
        .ok (canonical ready ++ [newline]) := by
      rw [hrelay]
      exact writeFrame_of_lengthBound (by decide)
    refine ⟨_, Receiver.step_challenged hphase₁ readAuthentication_sample hwrite, ?_, hids₁⟩
    rw [Receiver.move_connections, Function.update_self]
  have hpublish : (Registry.publish platform device 1 snapshot (moment 4)).run (fun _ => false)
      r₂.registry = _ := (FileProg.run_no_fault _ _).trans (exec_publish hids₂ 1 snapshot (moment 4))
  obtain ⟨r₃, hstep₃, hrecords⟩ : ∃ r₃, r₂.step platform config 0
      (.line (canonical telemetry ++ [newline])) (handlerSupply (repeated 87) (moment 4)) =
        (some (canonical (telemetryAck session) ++ [newline]), r₃) ∧
      r₃.registry.records = r₂.registry.records.insert device
        (newRecord platform device 1 snapshot (moment 4)) :=
    ⟨_, Receiver.step_opened hphase₂ readTelemetry_sample hpublish
      (writeFrame_of_lengthBound (by decide)), rfl⟩
  refine ⟨_, r₃, ((hrun.next_eq trivial (siteStep_handle hstep₁)).next_eq trivial
    (siteStep_handle hstep₂)).next_eq trivial (siteStep_handle hstep₃), ?_⟩
  rw [hrecords, Dict.get?_insert, if_pos rfl]
  exact Option.some_ne_none _

/-- The relay is enabled, and its receiver is started. -/
theorem hosts_receiver {s₀ : RelaySite} {es : List SiteEvent} {d : Directory} {s : RelayState}
    {c : ReceiverDocument} (hrun : Run (siteStep platform relayPath) (fun _ _ => True) s₀ es ⟨d, none⟩)
    (hkept : Kept d s c) (hdevices : c.devices ≠ []) :
    ∃ enabled starting d' config, Run (siteStep platform relayPath) (fun _ _ => True) s₀
        (es ++ [enabled, starting]) ⟨d', some ⟨config, .start config⟩⟩ ∧
      enabled.call = .manage enabling ∧ starting.call = .serve true ∧
      starting.result = .served (.ok ()) ∧ config.relayId = "relay-1" ∧
      ∀ device ∈ c.devices, config.devices.get? device.deviceId = some device.publicKey := by
  obtain ⟨reply, henable, hkept'⟩ := hkept.enables enabling (fun _ => rfl) rfl hdevices
  obtain ⟨config, hserve, hrelay, hlisted⟩ := hkept'.serves rfl
  have hserved := (hrun.next_eq trivial (siteStep_manage henable)).next_eq trivial
    (siteStep_serve hserve)
  rw [List.append_assoc] at hserved
  exact ⟨_, _, _, config, hserved, rfl, rfl, rfl, hrelay, hlisted⟩

/-- The agent's device is removed. -/
def removing : ManagerCall := ⟨.removeDevice (.str device) true, relaySupply, fun _ => false⟩

/-- The agent's device, as an enrollment lists it. -/
theorem device_agentIdentity : agentIdentity.device = ⟨device, b64encode agentPublic.1⟩ := by
  have hdevice : agentIdentity.deviceId = device := by decide
  have hpublic : agentIdentity.publicKey = b64encode agentPublic.1 := by decide
  rw [Identity.device, hdevice, hpublic]

end Sample

open Sample in
/-- The record of the sample session goes back to the enrollment of the agent. -/
theorem served_since_enrolled_sample : ∃ es d config r,
    HostRun es ⟨d, some ⟨config, r⟩⟩ ∧ r.registry.records.get? device ≠ none ∧
      ∃ relayId peerId key pre starting post, es = pre ++ starting :: post ∧
        Since (Enrolls platform relayId peerId
          (b64encode (platform.publicKey founding.key).1) ⟨device, key⟩) (Removes device) pre ∧
        Starts platform relayPath config starting := by
  obtain ⟨d, s, c, hkept, -, hmem, hmanager, hrun⟩ := enrolls_fresh founded_relayDirectory
    (supply (moment 0) pairingId).initial (by decide) (fun _ hother => (List.not_mem_nil hother).elim)
  have hstart : HostRun [] ⟨relayDirectory, none⟩ := .start
  obtain ⟨es, hhost⟩ := siteRun_of_managerRun hstart hrun
  have hdevice : agentIdentity.device ∈ c.devices := (hmem _).mpr (.inr rfl)
  obtain ⟨enabled, starting, d', config, hhost', -, -, -, hrelay, hlisted⟩ :=
    hosts_receiver hhost hkept (List.ne_nil_of_mem hdevice)
  have hkey := hlisted _ hdevice
  rw [device_agentIdentity] at hkey
  obtain ⟨es', r, hsession, hrecord⟩ := hosts_session hhost' hrelay hkey
  obtain ⟨relayId, peerId, key, pre, starting', post, -, -, hes, hsince, hstarts, -⟩ :=
    served_since_enrolled initialized_relayDirectory hsession rfl hrecord
  exact ⟨es', d', config, r, hsession, hrecord, relayId, peerId, key, pre, starting', post, hes,
    hsince, hstarts⟩

open Sample in
/-- Two agents are enrolled at the sample relay, one of them is removed, and the receiver is started
for the other. -/
theorem removed_not_served_sample : ∃ es d s₁ es' d' config reply, HostRun es ⟨d, none⟩ ∧
    siteStep platform relayPath ⟨d, none⟩ (.manage removing) = (.managed (.ok reply), s₁) ∧
    Run (siteStep platform relayPath) (fun _ _ => True) s₁ es'
      ⟨d', some ⟨config, .start config⟩⟩ ∧
    (⟨config, .start config⟩ : RunningReceiver).Spares device := by
  obtain ⟨d₁, s₁, c₁, hkept₁, hoff₁, hmem₁, calls₁, hrun₁⟩ := enrolls_fresh founded_relayDirectory
    (supply (moment 0) pairingId).initial (by decide) (fun _ hother => (List.not_mem_nil hother).elim)
  have hsingle : c₁.devices ⊆ [agentIdentity.device] := fun other hother =>
    List.mem_singleton.mpr (((hmem₁ other).mp hother).resolve_left List.not_mem_nil)
  have hcount : c₁.devices.length < 10000 :=
    (List.subperm_of_subset (hkept₁.loads.valid.nodup.of_map _) hsingle).length_le.trans_lt (by decide)
  obtain ⟨d₂, s₂, c₂, hkept₂, hoff₂, hmem₂, calls₂, hrun₂⟩ := enrolls_fresh hkept₁
    ⟨rotatedKey, moment 0, moment 0⟩ hcount fun other hother => by
      rw [List.mem_singleton.mp (hsingle hother), device_agentIdentity]
      decide
  have hstart : HostRun [] ⟨relayDirectory, none⟩ := .start
  obtain ⟨es₁, hhost₁⟩ := siteRun_of_managerRun hstart hrun₁
  obtain ⟨es₂, hhost₂⟩ := siteRun_of_managerRun hhost₁ hrun₂
  -- the first of them is removed
  have hdevice : agentIdentity.device ∈ c₂.devices := (hmem₂ _).mpr (.inl ((hmem₁ _).mpr (.inr rfl)))
  rw [device_agentIdentity] at hdevice
  obtain ⟨reply, hremove, hkept₃⟩ := hkept₂.removes removing (fun _ => rfl) rfl hdevice
    (hoff₂.trans hoff₁)
  have hother : (newIdentity platform ⟨rotatedKey, moment 0, moment 0⟩ 1).device ∈
      (Manager.withoutDevice c₂ (.str device)).devices :=
    List.mem_filter.mpr ⟨(hmem₂ _).mpr (.inr rfl), by decide⟩
  -- and the receiver is started for the second
  obtain ⟨enabled, starting, d', config, hhost', henabled, hstarting, hserved, -⟩ :=
    hosts_receiver .start hkept₃ (List.ne_nil_of_mem hother)
  have hnone : ∀ e ∈ [enabled, starting], ∀ key, ¬Enrolls platform "relay-1" "printerhmi-relay"
      (b64encode (platform.publicKey founding.key).1) ⟨device, key⟩ e := by
    rintro e he key ⟨hcall, haction, -⟩
    rcases List.mem_pair.mp he with rfl | rfl
    · obtain rfl := SiteAction.manage.inj (henabled.symm.trans hcall)
      cases haction
    · rw [hstarting] at hcall
      cases hcall
  exact ⟨_, _, _, _, d', config, reply, hhost₂, siteStep_manage hremove, hhost',
    removed_not_served initialized_relayDirectory hhost₂ rfl (siteStep_manage hremove) hhost' hnone
      ⟨starting, List.mem_cons_of_mem _ (List.mem_singleton_self _), hserved⟩ rfl⟩

end PrinterHmi
