import PrinterHmi.Configuration.Manager

/-!
# What an operation of the manager can do

In a directory whose documents load (`Directory.Loads`), a call goes one of a few ways:
it is refused and changes nothing, or its arguments are in order and it makes one or two
replacements. `Manager.Outcome` lists them, each with the states before the file steps of
the call, its answer and the directory it leaves when no step fails, and
`managerStep_cases` says that every call takes one of these courses, or breaks off at the
first of its file steps that fails.
-/

namespace PrinterHmi

open FileProg

/-! ### Changes of a directory -/

/-- The directory with a document replaced. -/
def Directory.withState (d : Directory) (s : RelayState) : Directory := { d with state := some s }

/-- The directory with its configuration replaced. -/
def Directory.withConfig (d : Directory) (c : ReceiverDocument) : Directory :=
  { d with config := some c }

/-- The directory with a request written. -/
def Directory.withOutput (d : Directory) (output : String) (request : Json) : Directory :=
  { d with outputs := d.outputs.insert output request }

/-- What has been written is at its path. -/
theorem get?_outputs_withOutput (d : Directory) (output : String) (request : Json) :
    (d.withOutput output request).outputs.get? output = some request :=
  (Dict.get?_insert ..).trans (if_pos rfl)

/-- **Both documents load**, and are of one relay. -/
structure Directory.Loads (P : Platform) (resolve : String → String) (d : Directory)
    (s : RelayState) (c : ReceiverDocument) : Prop where
  state : d.state = some s
  config : d.config = some c
  stateOk : checkRelayState P s.json = .ok ()
  valid : c.Valid P (d.paths resolve)
  same : c.relayId = s.relayId

section Loads

variable {P : Platform} {resolve : String → String} {d : Directory} {s s' : RelayState}
  {c c' : ReceiverDocument}

theorem Directory.Loads.withState (h : d.Loads P resolve s c)
    (hok : checkRelayState P s'.json = .ok ()) (hsame : s'.relayId = s.relayId) :
    (d.withState s').Loads P resolve s' c :=
  ⟨rfl, h.config, hok, h.valid, h.same.trans hsame.symm⟩

theorem Directory.Loads.withConfig (h : d.Loads P resolve s c)
    (hvalid : c'.Valid P (d.paths resolve)) (hsame : c'.relayId = c.relayId) :
    (d.withConfig c').Loads P resolve s c' :=
  ⟨h.state, rfl, h.stateOk, hvalid, hsame.trans h.same⟩

theorem Directory.Loads.withOutput (h : d.Loads P resolve s c) (output : String)
    (request : Json) : (d.withOutput output request).Loads P resolve s c :=
  ⟨h.state, h.config, h.stateOk, h.valid, h.same⟩

end Loads

namespace Manager

section Pieces

variable (P : Platform) (resolve : String → String)

/-! ### No operation handles a fault -/

theorem strict_writeTemporary (f : Directory → Directory) : (writeTemporary f).Strict := by
  refine (strict_fileStep _ _).bind fun _ => ?_
  refine (strict_fileStep _ _).bind fun _ => ?_
  refine (strict_fileStep _ _).bind fun _ => ?_
  refine (strict_fileStep _ _).bind fun _ => ?_
  exact strict_fileStep _ _

theorem strict_writePrivateJson (path : String) (overwrite : Bool) (present : Directory → Bool)
    (f : Directory → Directory) : (writePrivateJson path overwrite present f).Strict := by
  refine (strict_fileStep _ _).bind fun _ => ?_
  refine (strict_fileStep _ _).bind fun _ => ?_
  refine strict_state.bind fun d => ?_
  exact (strict_done _).bind fun _ => strict_writeTemporary f

theorem strict_writeOutput (env : ManagerSupply) (output : String) (request : Json) :
    (writeOutput env output request).Strict := by
  refine (strict_done _).bind fun _ => ?_
  exact (strict_done _).bind fun _ => strict_writeTemporary _

theorem strict_locked {α : Type} {body : ManagerProg α} (h : body.Strict) :
    (locked body).Strict := by
  refine (strict_fileStep _ _).bind fun _ => ?_
  refine (strict_fileStep _ _).bind fun _ => ?_
  refine (strict_fileStep _ _).bind fun _ => ?_
  refine (strict_fileStep _ _).bind fun _ => ?_
  exact (strict_fileStep _ _).bind fun _ => h

theorem strict_loadState : (loadState P).Strict := by
  refine strict_state.bind fun d => ?_
  refine (strict_done _).bind fun state => ?_
  refine (strict_done _).bind fun _ => ?_
  exact (strict_fileStep _ _).bind fun _ => strict_done _

theorem strict_loadConfig : (loadConfig P resolve).Strict := by
  refine strict_state.bind fun d => ?_
  refine (strict_done _).bind fun config => ?_
  refine (strict_done _).bind fun parsed => ?_
  refine (strict_loadState P).bind fun state => ?_
  refine (strict_done _).bind fun _ => ?_
  exact (strict_fileStep _ _).bind fun _ => strict_done _

theorem strict_validateConfig (allowDisabled : Bool) :
    (validateConfig P resolve allowDisabled).Strict := by
  refine strict_state.bind fun d => ?_
  refine (strict_done _).bind fun config => ?_
  exact (strict_done _).bind fun parsed => strict_done _

theorem strict_installConfig (document : ReceiverDocument) :
    (installConfig P resolve document).Strict := by
  refine (strict_writePrivateJson _ _ _ _).bind fun _ => ?_
  refine strict_state.bind fun d => ?_
  refine (strict_done _).bind fun parsed => ?_
  refine (strict_loadState P).bind fun state => ?_
  refine (strict_done _).bind fun _ => ?_
  exact (strict_fileStep _ _).bind fun _ => strict_fileStep _ _

theorem strict_saveConfig (document : ReceiverDocument) :
    (saveConfig P resolve document).Strict :=
  (strict_installConfig P resolve document).tryFinally _

theorem strict_statusUnlocked : (statusUnlocked P resolve).Strict := by
  refine (strict_loadState P).bind fun state => ?_
  exact (strict_loadConfig P resolve).bind fun config => strict_done _

theorem strict_createEnrollmentRequest (env : ManagerSupply) (offerFile : Option Bytes)
    (output : String) : (createEnrollmentRequest P resolve env offerFile output).Strict := by
  refine strict_locked ((strict_loadState P).bind fun state => ?_)
  refine (strict_done _).bind fun document => ?_
  refine (strict_done _).bind fun offer => ?_
  refine (strict_done _).bind fun built => ?_
  refine (strict_writeOutput _ _ _).bind fun _ => ?_
  exact (strict_writePrivateJson _ _ _ _).bind fun _ => strict_done _

theorem strict_enrollDevice (state : RelayState) (config : ReceiverDocument)
    (challengeId : String) (device : EnrolledDevice) :
    (enrollDevice P resolve state config challengeId device).Strict := by
  rw [enrollDevice]
  cases findDevice config device.deviceId with
  | some existing =>
    refine (strict_done _).bind fun _ => ?_
    refine (strict_writePrivateJson _ _ _ _).bind fun _ => ?_
    exact (strict_validateConfig P resolve _).bind fun _ => strict_done _
  | none =>
    refine (strict_saveConfig P resolve _).bind fun _ => ?_
    refine (strict_writePrivateJson _ _ _ _).bind fun _ => ?_
    exact (strict_validateConfig P resolve _).bind fun _ => strict_done _

theorem strict_addReceipt (receiptFile : Option Bytes) :
    (addReceipt P resolve receiptFile).Strict := by
  refine strict_locked ((strict_loadState P).bind fun state => ?_)
  refine (strict_loadConfig P resolve).bind fun config => ?_
  refine (strict_done _).bind fun receipt => ?_
  exact (strict_done _).bind fun matched => strict_enrollDevice P resolve _ _ _ _

theorem strict_setEnabled (enabled : Json) (confirmed : Bool) :
    (setEnabled P resolve enabled confirmed).Strict := by
  refine strict_locked ((strict_done _).bind fun _ => ?_)
  refine (strict_loadConfig P resolve).bind fun config => ?_
  refine (strict_done _).bind fun _ => ?_
  exact (strict_saveConfig P resolve _).bind fun _ => strict_statusUnlocked P resolve

theorem strict_removeDevice (id : Json) (confirmed : Bool) :
    (removeDevice P resolve id confirmed).Strict := by
  refine strict_locked ((strict_done _).bind fun _ => ?_)
  refine (strict_loadConfig P resolve).bind fun config => ?_
  refine (strict_done _).bind fun _ => ?_
  refine (strict_done _).bind fun _ => ?_
  exact (strict_saveConfig P resolve _).bind fun _ => strict_statusUnlocked P resolve

theorem strict_writeFile (name : String) : (writeFile name).Strict := by
  refine (strict_fileStep _ _).bind fun _ => (strict_fileStep _ _).bind fun _ => ?_
  exact (strict_fileStep _ _).bind fun _ => strict_fileStep _ _

theorem strict_initializeDirectory (env : Founding) (relayId peerId listenPort : Json) :
    (initializeDirectory P resolve env relayId peerId listenPort).Strict := by
  refine (strict_done _).bind fun _ => (strict_done _).bind fun _ => (strict_done _).bind fun _ => ?_
  refine (strict_done _).bind fun _ => (strict_fileStep _ _).bind fun _ => ?_
  refine (strict_fileStep _ _).bind fun _ => strict_locked ?_
  refine strict_state.bind fun d => (strict_done _).bind fun _ => ?_
  refine (strict_writeFile _).bind fun _ => (strict_writeFile _).bind fun _ => ?_
  refine (strict_writeFile _).bind fun _ => (strict_writeFile _).bind fun _ => ?_
  refine (strict_writePrivateJson _ _ _ _).bind fun _ => ?_
  exact (strict_writePrivateJson _ _ _ _).bind fun _ => strict_statusUnlocked P resolve

/-! ### The courses of the pieces -/

variable {P resolve} {d d' : Directory} {s : RelayState} {c : ReceiverDocument}
  {l : List Directory}

/-- **A document is written**, where there is none or it may be replaced. -/
theorem course_writePrivateJson {overwrite : Bool} {present : Directory → Bool}
    (hmay : present d = true → overwrite = true) (path : String) (f : Directory → Directory) :
    (writePrivateJson path overwrite present f).Course d (List.replicate 7 d) (.ok ()) (f d) := by
  have hrest : (do
      let d ← FileProg.state
      require (present d = true → overwrite = true)
        (configurationError ("refusing to overwrite " ++ path))
      writeTemporary f : ManagerProg Unit).Course d (List.replicate 5 d) (.ok ()) (f d) :=
    course_state_bind ((course_require hmay _ d).bind ⟨rfl, rfl⟩)
  exact (course_fileStep _ id d).bind ((course_fileStep _ id d).bind hrest)

/-- A certificate or key is there from its second file step on. -/
theorem course_writeFile (name : String) (d : Directory) :
    (writeFile name).Course d
      (d :: List.replicate 3 { d with certificates := d.certificates ++ [name] }) (.ok ())
      { d with certificates := d.certificates ++ [name] } := ⟨rfl, rfl⟩

theorem course_writeOutput {env : ManagerSupply} (hparent : env.parentExists = true)
    (hfree : env.occupied = false) (output : String) (request : Json) (d : Directory) :
    (writeOutput env output request).Course d (List.replicate 5 d) (.ok ())
      (d.withOutput output request) :=
  (course_require hparent _ d).bind
    ((course_require hfree _ d).bind ⟨rfl, rfl⟩)

theorem course_locked {α : Type} {body : ManagerProg α} {r : Except Exn α}
    (h : body.Course d l r d') : (locked body).Course d (List.replicate 5 d ++ l) r d' := by
  refine ⟨?_, h.exec⟩
  change List.replicate 5 d ++ body.stages d = _
  rw [h.stages]

theorem course_loadState (hs : d.state = some s) (hok : checkRelayState P s.json = .ok ()) :
    (loadState P).Course d [d] (.ok s) d := by
  refine course_state_bind ((course_lift_ok (orRaise_eq_ok.mpr hs) d).bind ?_)
  exact (course_lift_ok hok d).bind ((course_fileStep _ id d).bind (course_pure s d))

theorem course_loadConfig (h : d.Loads P resolve s c) :
    (loadConfig P resolve).Course d [d, d] (.ok c) d := by
  obtain ⟨parsed, hparsed⟩ := h.valid.load
  have hrelay : parsed.relayId = s.relayId := (valid_of_load hparsed).2.trans h.same
  refine course_state_bind ((course_lift_ok (orRaise_eq_ok.mpr h.config) d).bind ?_)
  refine (course_lift_ok hparsed d).bind ((course_loadState h.state h.stateOk).bind ?_)
  refine (course_require hrelay _ d).bind ?_
  exact (course_fileStep _ id d).bind (course_pure c d)

theorem course_validateConfig (h : d.Loads P resolve s c) :
    (validateConfig P resolve true).Course d [] (.ok ()) d := by
  obtain ⟨parsed, hparsed⟩ := h.valid.load
  refine course_state_bind ((course_lift_ok (orRaise_eq_ok.mpr h.config) d).bind ?_)
  exact (course_lift_ok hparsed d).bind (course_require (.inl rfl) _ d)

theorem course_statusUnlocked (h : d.Loads P resolve s c) :
    (statusUnlocked P resolve).Course d [d, d, d] (.ok (statusDocument resolve s c)) d :=
  (course_loadState h.state h.stateOk).bind ((course_loadConfig h).bind (course_pure _ d))

/-- **A configuration is saved**, if it loads. -/
theorem course_saveConfig (h : d.Loads P resolve s c) {c' : ReceiverDocument}
    (hvalid : c'.Valid P (d.paths resolve)) (hsame : c'.relayId = c.relayId) :
    (saveConfig P resolve c').Course d
      (List.replicate 9 d ++ List.replicate 2 (d.withConfig c')) (.ok ()) (d.withConfig c') := by
  obtain ⟨parsed, hparsed⟩ := hvalid.load
  have hrelay : parsed.relayId = s.relayId :=
    (valid_of_load hparsed).2.trans (hsame.trans h.same)
  have hinstall : (installConfig P resolve c').Course d
      (List.replicate 9 d ++ [d.withConfig c']) (.ok ()) (d.withConfig c') := by
    refine (course_writePrivateJson (fun _ => rfl) _ _).bind (course_state_bind ?_)
    refine (course_lift_ok hparsed d).bind ((course_loadState h.state h.stateOk).bind ?_)
    refine (course_require hrelay _ d).bind ?_
    exact (course_fileStep _ _ d).bind (course_fileStep _ id _)
  exact hinstall.tryFinally _

/-- A configuration that does not load is not saved. -/
theorem course_saveConfig_error {c' : ReceiverDocument} {e : Exn}
    (h : c'.load P (d.paths resolve) = .error e) :
    (saveConfig P resolve c').Course d (List.replicate 8 d) (.error e) d := by
  have hinstall : (installConfig P resolve c').Course d (List.replicate 7 d) (.error e) d := by
    refine (course_writePrivateJson (fun _ => rfl) _ _).bind (course_state_bind ?_)
    exact (course_lift_error h d).bind_error _
  exact hinstall.tryFinally _

end Pieces

/-! ### The outcomes of a call -/

section Outcomes

variable (P : Platform) (resolve : String → String)

/-- **What a call can do** in a directory whose documents are `s` and `c`, case by case:
the states before its file steps, its answer, and the directory it leaves. -/
inductive Outcome (d : Directory) (s : RelayState) (c : ReceiverDocument)
    (env : ManagerSupply) : ManagerAction → List Directory → Except Exn Json → Directory → Prop
  /-- It raised and changed nothing. -/
  | refused {action : ManagerAction} {l : List Directory} {e : Exn} (hl : ∀ t ∈ l, t = d) :
      Outcome d s c env action l (.error e) d
  | reported {l : List Directory} (hl : ∀ t ∈ l, t = d) :
      Outcome d s c env .status l (.ok (statusDocument resolve s c)) d
  | requested {offerFile : Option Bytes} {output : String} {document challenge request : Json}
      {offer : RelayOffer} (hfile : readJson P offerFile "pairing offer" = .ok document)
      (hoffer : readOffer P env.checked document = .ok offer)
      (hbuild : buildRequest P env s offer = .ok (challenge, request)) :
      Outcome d s c env (.createEnrollmentRequest offerFile output)
        (List.replicate 11 d ++ List.replicate 7 (d.withOutput output request))
        (.ok (requestReply env output offer challenge))
        ((d.withOutput output request).withState (withPending s env offer challenge))
  /-- A receipt of a new device. -/
  | enrolled {receiptFile : Option Bytes} {receipt : Json} {challengeId : String}
      {device : EnrolledDevice} (hfile : readJson P receiptFile "enrollment receipt" = .ok receipt)
      (hmatch : matchReceipt P s receipt = .ok (challengeId, device))
      (hnew : findDevice c device.deviceId = none)
      (hvalid : (withDevice c device).Valid P (d.paths resolve)) :
      Outcome d s c env (.addReceipt receiptFile)
        (List.replicate 17 d ++ List.replicate 9 (d.withConfig (withDevice c device)))
        (.ok (receiptReply (withDevice c device) device false))
        ((d.withConfig (withDevice c device)).withState (withoutPending s challengeId))
  /-- A receipt of a device that is enrolled already. -/
  | reenrolled {receiptFile : Option Bytes} {receipt : Json} {challengeId : String}
      {device : EnrolledDevice} (hfile : readJson P receiptFile "enrollment receipt" = .ok receipt)
      (hmatch : matchReceipt P s receipt = .ok (challengeId, device))
      (hfound : findDevice c device.deviceId = some device) :
      Outcome d s c env (.addReceipt receiptFile) (List.replicate 15 d)
        (.ok (receiptReply c device true)) (d.withState (withoutPending s challengeId))
  | switched {enabled : Json} {confirmed : Bool}
      (hvalid : ReceiverDocument.Valid P (d.paths resolve) { c with enabled := enabled }) :
      Outcome d s c env (.setEnabled enabled confirmed)
        (List.replicate 16 d ++ List.replicate 5 (d.withConfig { c with enabled := enabled }))
        (.ok (statusDocument resolve s { c with enabled := enabled }))
        (d.withConfig { c with enabled := enabled })
  | removed {id : Json} {confirmed : Bool}
      (hvalid : (withoutDevice c id).Valid P (d.paths resolve)) :
      Outcome d s c env (.removeDevice id confirmed)
        (List.replicate 16 d ++ List.replicate 5 (d.withConfig (withoutDevice c id)))
        (.ok (statusDocument resolve s (withoutDevice c id))) (d.withConfig (withoutDevice c id))

variable {P resolve} {d : Directory} {s : RelayState} {c : ReceiverDocument}
  {l : List Directory}

/-- A call that takes its course and raises changes nothing. -/
theorem Outcome.eq_of_error {env : ManagerSupply} {action : ManagerAction} {e : Exn} {d' : Directory}
    (h : Outcome P resolve d s c env action l (.error e) d') : d' = d := by
  cases h
  rfl

/-- The course of a call, and that it is one of the outcomes. -/
def HasCourse (P : Platform) (resolve : String → String) (d : Directory) (s : RelayState)
    (c : ReceiverDocument) (env : ManagerSupply) (action : ManagerAction)
    (p : ManagerProg Json) : Prop :=
  ∃ l r d', p.Course d l r d' ∧ Outcome P resolve d s c env action l r d'

/-- A call refused under the lock. -/
theorem HasCourse.refused {env : ManagerSupply} {action : ManagerAction} {p : ManagerProg Json}
    {e : Exn} (h : p.Course d l (.error e) d) (hl : ∀ t ∈ l, t = d) :
    HasCourse P resolve d s c env action (locked p) := by
  refine ⟨_, _, _, course_locked h, .refused fun t ht => ?_⟩
  rcases List.mem_append.mp ht with ht | ht
  · exact List.eq_of_mem_replicate ht
  · exact hl t ht

/-- A request made of an offer, at a path that is free. -/
theorem course_createEnrollmentRequest (h : d.Loads P resolve s c) {env : ManagerSupply}
    {offerFile : Option Bytes} {document challenge request : Json} {offer : RelayOffer}
    (hfile : readJson P offerFile "pairing offer" = .ok document)
    (hoffer : readOffer P env.checked document = .ok offer)
    (hbuild : buildRequest P env s offer = .ok (challenge, request))
    (hparent : env.parentExists = true) (hfree : env.occupied = false) (output : String) :
    (createEnrollmentRequest P resolve env offerFile output).Course d
      (List.replicate 11 d ++ List.replicate 7 (d.withOutput output request))
      (.ok (requestReply env output offer challenge))
      ((d.withOutput output request).withState (withPending s env offer challenge)) := by
  have hload := course_loadState h.state h.stateOk
  have hwritten := course_writeOutput hparent hfree output request d
  exact course_locked (hload.bind ((course_lift_ok hfile d).bind ((course_lift_ok hoffer d).bind
    ((course_lift_ok hbuild d).bind (hwritten.bind
      ((course_writePrivateJson (fun _ => rfl) _ _).bind (course_pure _ _)))))))

theorem createEnrollmentRequest_course (h : d.Loads P resolve s c) (env : ManagerSupply)
    (offerFile : Option Bytes) (output : String) :
    HasCourse P resolve d s c env (.createEnrollmentRequest offerFile output)
      (createEnrollmentRequest P resolve env offerFile output) := by
  have hload := course_loadState h.state h.stateOk
  rcases hfile : readJson P offerFile "pairing offer" with e | document
  · exact .refused (hload.bind ((course_lift_error hfile d).bind_error _)) (by simp)
  have hfile' := course_lift_ok hfile d
  rcases hoffer : readOffer P env.checked document with e | offer
  · exact .refused (hload.bind (hfile'.bind ((course_lift_error hoffer d).bind_error _))) (by simp)
  have hoffer' := course_lift_ok hoffer d
  rcases hbuild : buildRequest P env s offer with e | ⟨challenge, request⟩
  · exact .refused (hload.bind (hfile'.bind (hoffer'.bind
      ((course_lift_error hbuild d).bind_error _)))) (by simp)
  have hbuild' := course_lift_ok hbuild d
  by_cases hparent : env.parentExists = true
  · by_cases hfree : env.occupied = false
    · exact ⟨_, _, _, course_createEnrollmentRequest h hfile hoffer hbuild hparent hfree output,
        .requested hfile hoffer hbuild⟩
    · have hwrite : (writeOutput env output request).Course d [] (.error _) d :=
        (course_require hparent _ d).bind
          ((course_require_error hfree _ d).bind_error _)
      exact .refused (hload.bind (hfile'.bind (hoffer'.bind (hbuild'.bind
        (hwrite.bind_error _))))) (by simp)
  · have hwrite : (writeOutput env output request).Course d [] (.error _) d :=
      (course_require_error hparent _ d).bind_error _
    exact .refused (hload.bind (hfile'.bind (hoffer'.bind (hbuild'.bind
      (hwrite.bind_error _))))) (by simp)

/-- A new device, if the configuration with it loads. -/
theorem course_enrollDevice_new (h : d.Loads P resolve s c) {device : EnrolledDevice}
    (hnew : findDevice c device.deviceId = none)
    (hvalid : (withDevice c device).Valid P (d.paths resolve)) (challengeId : String) :
    (enrollDevice P resolve s c challengeId device).Course d
      (List.replicate 9 d ++ List.replicate 9 (d.withConfig (withDevice c device)))
      (.ok (receiptReply (withDevice c device) device false))
      ((d.withConfig (withDevice c device)).withState (withoutPending s challengeId)) := by
  have hloads := (h.withConfig hvalid rfl).withState
    (checkRelayState_pending h.stateOk (s.pendingChallenges.erase challengeId)) rfl
  rw [enrollDevice, hnew]
  exact (course_saveConfig h hvalid rfl).bind ((course_writePrivateJson (fun _ => rfl) _ _).bind
    ((course_validateConfig hloads).bind (course_pure _ _)))

/-- A device that is enrolled already. -/
theorem course_enrollDevice_found (h : d.Loads P resolve s c) {device : EnrolledDevice}
    (hfound : findDevice c device.deviceId = some device) (challengeId : String) :
    (enrollDevice P resolve s c challengeId device).Course d (List.replicate 7 d)
      (.ok (receiptReply c device true)) (d.withState (withoutPending s challengeId)) := by
  have hloads := h.withState
    (checkRelayState_pending h.stateOk (s.pendingChallenges.erase challengeId)) rfl
  rw [enrollDevice, hfound]
  exact (course_require rfl _ d).bind ((course_writePrivateJson (fun _ => rfl) _ _).bind
    ((course_validateConfig hloads).bind (course_pure _ _)))

/-- A device that cannot be enrolled: the configuration with it does not load, or another
key has its identifier. -/
theorem course_enrollDevice_error {device : EnrolledDevice}
    (hnew : findDevice c device.deviceId = none →
      ∃ e, (withDevice c device).load P (d.paths resolve) = .error e)
    (hfound : findDevice c device.deviceId ≠ some device) (challengeId : String) :
    ∃ l e, (enrollDevice P resolve s c challengeId device).Course d l (.error e) d ∧
      ∀ t ∈ l, t = d := by
  rw [enrollDevice]
  cases hcase : findDevice c device.deviceId with
  | none =>
    obtain ⟨e, he⟩ := hnew hcase
    exact ⟨_, e, (course_saveConfig_error he).bind_error _, by simp⟩
  | some existing =>
    have hne : existing ≠ device := fun hc => hfound (hc ▸ hcase)
    exact ⟨_, _, (course_require_error hne _ d).bind_error _, by simp⟩

/-- A receipt that is accepted: what becomes of the device is what becomes of the call. -/
theorem course_addReceipt (h : d.Loads P resolve s c) {receiptFile : Option Bytes} {receipt : Json}
    {challengeId : String} {device : EnrolledDevice} {r : Except Exn Json} {d' : Directory}
    (hfile : readJson P receiptFile "enrollment receipt" = .ok receipt)
    (hmatch : matchReceipt P s receipt = .ok (challengeId, device))
    (henroll : (enrollDevice P resolve s c challengeId device).Course d l r d') :
    (addReceipt P resolve receiptFile).Course d (List.replicate 8 d ++ l) r d' :=
  course_locked ((course_loadState h.state h.stateOk).bind ((course_loadConfig h).bind
    ((course_lift_ok hfile d).bind ((course_lift_ok hmatch d).bind henroll))))

theorem addReceipt_course (h : d.Loads P resolve s c) (env : ManagerSupply)
    (receiptFile : Option Bytes) :
    HasCourse P resolve d s c env (.addReceipt receiptFile) (addReceipt P resolve receiptFile) := by
  have hload := course_loadState h.state h.stateOk
  have hconfig := course_loadConfig h
  rcases hfile : readJson P receiptFile "enrollment receipt" with e | receipt
  · exact .refused (hload.bind (hconfig.bind ((course_lift_error hfile d).bind_error _))) (by simp)
  have hfile' := course_lift_ok hfile d
  rcases hmatch : matchReceipt P s receipt with e | ⟨challengeId, device⟩
  · exact .refused (hload.bind (hconfig.bind (hfile'.bind
      ((course_lift_error hmatch d).bind_error _)))) (by simp)
  by_cases hfound : findDevice c device.deviceId = some device
  · exact ⟨_, _, _, course_addReceipt h hfile hmatch (course_enrollDevice_found h hfound _),
      .reenrolled hfile hmatch hfound⟩
  by_cases hnew : findDevice c device.deviceId = none ∧
      ∃ parsed, (withDevice c device).load P (d.paths resolve) = .ok parsed
  · obtain ⟨hnew, parsed, hvalid⟩ := hnew
    have hvalid' := (valid_of_load hvalid).1
    exact ⟨_, _, _, course_addReceipt h hfile hmatch (course_enrollDevice_new h hnew hvalid' _),
      .enrolled hfile hmatch hnew hvalid'⟩
  · -- a conflict, or a configuration that would not load: nothing is written that stays
    have herror (hnone : findDevice c device.deviceId = none) :
        ∃ e, (withDevice c device).load P (d.paths resolve) = .error e := by
      cases hload : (withDevice c device).load P (d.paths resolve) with
      | ok parsed => exact absurd ⟨hnone, parsed, hload⟩ hnew
      | error e => exact ⟨e, rfl⟩
    obtain ⟨l, e, hcourse, hl⟩ := course_enrollDevice_error (s := s) herror hfound challengeId
    refine ⟨_, _, _, course_addReceipt h hfile hmatch hcourse, .refused fun t ht => ?_⟩
    rcases List.mem_append.mp ht with ht | ht
    · exact List.eq_of_mem_replicate ht
    · exact hl t ht

/-- A new configuration of the same relay, saved and reported. -/
theorem course_reconfigure (h : d.Loads P resolve s c) {c' : ReceiverDocument}
    (hvalid : c'.Valid P (d.paths resolve)) (hsame : c'.relayId = c.relayId) :
    (do
      saveConfig P resolve c'
      statusUnlocked P resolve : ManagerProg Json).Course d
        (List.replicate 9 d ++ List.replicate 5 (d.withConfig c'))
        (.ok (statusDocument resolve s c')) (d.withConfig c') :=
  (course_saveConfig h hvalid hsame).bind (course_statusUnlocked (h.withConfig hvalid hsame))

theorem setEnabled_course (h : d.Loads P resolve s c) (env : ManagerSupply) (enabled : Json)
    (confirmed : Bool) :
    HasCourse P resolve d s c env (.setEnabled enabled confirmed)
      (setEnabled P resolve enabled confirmed) := by
  have hconfig := course_loadConfig h
  by_cases hconfirmed : enabled.truthy = true → confirmed = true
  · by_cases hdevices : enabled.truthy = true → c.devices ≠ []
    · rcases hvalid : ReceiverDocument.load P (d.paths resolve) { c with enabled := enabled } with
        e | parsed
      · exact .refused ((course_require hconfirmed _ d).bind (hconfig.bind
          ((course_require hdevices _ d).bind ((course_saveConfig_error hvalid).bind_error _))))
          (by simp)
      · have hvalid' := (valid_of_load hvalid).1
        exact ⟨_, _, _, course_locked ((course_require hconfirmed _ d).bind (hconfig.bind
          ((course_require hdevices _ d).bind (course_reconfigure h hvalid' rfl)))),
          .switched hvalid'⟩
    · exact .refused ((course_require hconfirmed _ d).bind (hconfig.bind
        ((course_require_error hdevices _ d).bind_error _))) (by simp)
  · exact .refused ((course_require_error hconfirmed _ d).bind_error _) (by simp)

theorem removeDevice_course (h : d.Loads P resolve s c) (env : ManagerSupply) (id : Json)
    (confirmed : Bool) :
    HasCourse P resolve d s c env (.removeDevice id confirmed)
      (removeDevice P resolve id confirmed) := by
  have hconfig := course_loadConfig h
  by_cases hconfirmed : confirmed = true
  · by_cases hfound : (withoutDevice c id).devices.length ≠ c.devices.length
    · by_cases hfinal : c.enabled.truthy = true → (withoutDevice c id).devices ≠ []
      · rcases hvalid : (withoutDevice c id).load P (d.paths resolve) with e | parsed
        · exact .refused ((course_require hconfirmed _ d).bind (hconfig.bind
            ((course_require hfound _ d).bind ((course_require hfinal _ d).bind
              ((course_saveConfig_error hvalid).bind_error _))))) (by simp)
        · have hvalid' := (valid_of_load hvalid).1
          exact ⟨_, _, _, course_locked ((course_require hconfirmed _ d).bind (hconfig.bind
            ((course_require hfound _ d).bind ((course_require hfinal _ d).bind
              (course_reconfigure h hvalid' rfl))))), .removed hvalid'⟩
      · exact .refused ((course_require hconfirmed _ d).bind (hconfig.bind
          ((course_require hfound _ d).bind ((course_require_error hfinal _ d).bind_error _))))
          (by simp)
    · exact .refused ((course_require hconfirmed _ d).bind (hconfig.bind
        ((course_require_error hfound _ d).bind_error _))) (by simp)
  · exact .refused ((course_require_error hconfirmed _ d).bind_error _) (by simp)

theorem status_course (h : d.Loads P resolve s c) (env : ManagerSupply) :
    HasCourse P resolve d s c env .status (status P resolve) :=
  ⟨_, _, _, course_locked (course_statusUnlocked h), .reported (by simp)⟩

/-- **Every call takes one of the courses.** -/
theorem exists_course (h : d.Loads P resolve s c) (env : ManagerSupply) (action : ManagerAction) :
    HasCourse P resolve d s c env action (action.program P resolve env) := by
  cases action with
  | createEnrollmentRequest offerFile output =>
    exact createEnrollmentRequest_course h env offerFile output
  | addReceipt receiptFile => exact addReceipt_course h env receiptFile
  | setEnabled enabled confirmed => exact setEnabled_course h env enabled confirmed
  | removeDevice id confirmed => exact removeDevice_course h env id confirmed
  | status => exact status_course h env

theorem strict_program (env : ManagerSupply) (action : ManagerAction) :
    (action.program P resolve env).Strict := by
  cases action with
  | createEnrollmentRequest offerFile output =>
    exact strict_createEnrollmentRequest P resolve env offerFile output
  | addReceipt receiptFile => exact strict_addReceipt P resolve receiptFile
  | setEnabled enabled confirmed => exact strict_setEnabled P resolve enabled confirmed
  | removeDevice id confirmed => exact strict_removeDevice P resolve id confirmed
  | status => exact strict_locked (strict_statusUnlocked P resolve)

/-- **How a call ends**: it takes its course, or raises where a file step first failed. -/
theorem managerStep_cases (h : d.Loads P resolve s c) (call : ManagerCall) :
    ∃ l r d', Outcome P resolve d s c call.env call.action l r d' ∧
      ((∃ k e, l[k]? = some (managerStep P resolve d call).2 ∧ FirstStop call.faults none k ∧
          (managerStep P resolve d call).1 = .error e) ∨
        ((∀ k < l.length, call.faults k = false) ∧ managerStep P resolve d call = (r, d'))) := by
  obtain ⟨l, r, d', hcourse, hout⟩ := exists_course h call.env call.action
  exact ⟨l, r, d', hout, hcourse.run_cases (strict_program call.env call.action) call.faults⟩

end Outcomes

end Manager

end PrinterHmi
