import PrinterHmi.Configuration.WellFormed

/-!
# Initializing a directory again

`initialize` creates six files one after the other, in a directory that holds nothing but the
lock file, and it refuses any other directory. So what a failed call has left decides whether it
can be repeated. Here the directory is modelled file by file (`Files`): with the lock file, with
the temporary files, and with files that have been opened and not written.

A call has forty file steps. If it fails at one of the first eight, up to the opening of the first
certificate, nothing is there that counts and a later call succeeds. At one of the last three, of
the status that is read at the end, the configuration is complete. In between a part of the files
is there, and every later call is refused (`initialization_repeated`): the directory has to be
emptied, or another one taken.

The manager's other operations are modelled over a `Directory`, which knows neither the lock file
nor temporary files. What a call leaves here is, seen as a `Directory`, what it leaves there
(`directory_initialize`).
-/

namespace PrinterHmi

open FileProg

/-! ### The files -/

/-- What a file of the directory holds. -/
inductive Held : Type where
  /-- Nothing, in the lock file. -/
  | lock
  /-- What has been written of something, the file having been opened. -/
  | begun
  /-- A certificate or a key. -/
  | pem
  | state (s : RelayState)
  | config (c : ReceiverDocument)

/-- The files of a directory, by their names. -/
abbrev Files := Dict String Held

/-- A program over the files of a directory. -/
abbrev FilesProg := FileProg Files Exn

namespace Manager

/-- The lock file. -/
def lockName : String := ".configuration.lock"

/-- `path.with_name(path.name + ".tmp")`. -/
def temporaryName (name : String) : String := name ++ ".tmp"

end Manager

namespace Files

open Manager

/-- `path.exists()`. -/
def has (files : Files) (name : String) : Bool := (files.get? name).isSome

/-- The state, if it has been written. -/
def state? (files : Files) : Option RelayState :=
  match files.get? stateName with
  | some (.state s) => some s
  | _ => none

/-- The configuration, if it has been written. -/
def config? (files : Files) : Option ReceiverDocument :=
  match files.get? configName with
  | some (.config c) => some c
  | _ => none

/-- The files as the other operations see them. -/
def directory (files : Files) : Directory :=
  ⟨files.state?, files.config?, [caName, caKeyName, certName, keyName].filter files.has, ∅⟩

end Files

/-! ### Initialization -/

namespace Initialization

open Manager

section Programs

variable (P : Platform) (resolve : String → String)

/-- A file step that changes no file. -/
def idle (step : String) : FilesProg Unit := fileStep (osError step) id

/-- `_write_file`. The file must not be there when it is opened. -/
def writeFile (name : String) : FilesProg Unit := do
  let files ← FileProg.state
  require (files.has name = false) (osError "open")
  fileStep (osError "open") fun files => files.insert name .begun
  fileStep (osError "write") fun files => files.insert name .pem
  idle "fsync"
  idle "chmod"

/-- `_write_private_json(path, document, overwrite=False)`. -/
def writePrivateJson (name : String) (document : Held) : FilesProg Unit := do
  idle "mkdir"
  idle "chmod"
  let files ← FileProg.state
  require (files.has name = false) (configurationError ("refusing to overwrite " ++ resolve name))
  fileStep (osError "open") fun files => files.insert (temporaryName name) .begun
  fileStep (osError "write") fun files => files.insert (temporaryName name) document
  idle "fsync"
  idle "chmod"
  fileStep (osError "replace") fun files =>
    (files.erase (temporaryName name)).insert name document

/-- The files with a lock file. -/
def locking (files : Files) : Files :=
  if files.has lockName then files else files.insert lockName .lock

/-- `_locked`. The lock file is made if it is not there, and stays. -/
def locked {α : Type} (body : FilesProg α) : FilesProg α := do
  idle "mkdir"
  idle "chmod"
  fileStep (osError "open") locking
  idle "chmod"
  idle "flock"
  body

/-- `_initialize_locked`. -/
def initializeLocked (env : Founding) (relayId peerId : String) (listenPort : ℤ) :
    FilesProg Json := do
  writeFile caName
  writeFile caKeyName
  writeFile certName
  writeFile keyName
  writePrivateJson resolve stateName (.state (foundingState P env relayId peerId))
  writePrivateJson resolve configName (.config (foundingConfig relayId listenPort))
  (statusUnlocked P resolve).onView Files.directory

/-- What a directory with files in it raises. -/
def notEmpty : Exn := configurationError "refusing to initialize a non-empty directory"

/-- `initialize`, from the directory on. -/
def initializeFiles (env : Founding) (relayId peerId : String) (listenPort : ℤ) :
    FilesProg Json := do
  idle "mkdir"
  idle "chmod"
  locked do
    let files ← FileProg.state
    require (files.entries.all fun e => e.1 = lockName) notEmpty
    initializeLocked P resolve env relayId peerId listenPort

/-- `initialize`. -/
def initializeDirectory (env : Founding) (relayId peerId listenPort : Json) :
    FilesProg Json := do
  let relayId ← patternText (configurationError "invalid relay identifier") relayIdPattern relayId
  let peerId ← patternText (configurationError "invalid relay peer identifier") peerIdPattern peerId
  let listenPort ← orRaise listenPort.int? (configurationError "invalid relay listener port")
  require (1 ≤ listenPort ∧ listenPort ≤ 65535) (configurationError "invalid relay listener port")
  initializeFiles P resolve env relayId peerId listenPort

end Programs

/-! ### Strictness -/

section Strict

variable (P : Platform) (resolve : String → String)

theorem strict_writeFile (name : String) : (writeFile name).Strict := by
  refine strict_state.bind fun files => (strict_done _).bind fun _ => ?_
  refine (strict_fileStep _ _).bind fun _ => (strict_fileStep _ _).bind fun _ => ?_
  exact (strict_fileStep _ _).bind fun _ => strict_fileStep _ _

theorem strict_writePrivateJson (name : String) (document : Held) :
    (writePrivateJson resolve name document).Strict := by
  refine (strict_fileStep _ _).bind fun _ => (strict_fileStep _ _).bind fun _ => ?_
  refine strict_state.bind fun files => (strict_done _).bind fun _ => ?_
  refine (strict_fileStep _ _).bind fun _ => (strict_fileStep _ _).bind fun _ => ?_
  refine (strict_fileStep _ _).bind fun _ => (strict_fileStep _ _).bind fun _ => ?_
  exact strict_fileStep _ _

theorem strict_locked {α : Type} {body : FilesProg α} (h : body.Strict) : (locked body).Strict := by
  refine (strict_fileStep _ _).bind fun _ => (strict_fileStep _ _).bind fun _ => ?_
  refine (strict_fileStep _ _).bind fun _ => (strict_fileStep _ _).bind fun _ => ?_
  exact (strict_fileStep _ _).bind fun _ => h

theorem strict_initializeFiles (env : Founding) (relayId peerId : String) (listenPort : ℤ) :
    (initializeFiles P resolve env relayId peerId listenPort).Strict := by
  refine (strict_fileStep _ _).bind fun _ => (strict_fileStep _ _).bind fun _ => strict_locked ?_
  refine strict_state.bind fun files => (strict_done _).bind fun _ => ?_
  refine (strict_writeFile _).bind fun _ => (strict_writeFile _).bind fun _ => ?_
  refine (strict_writeFile _).bind fun _ => (strict_writeFile _).bind fun _ => ?_
  refine (strict_writePrivateJson resolve _ _).bind fun _ => ?_
  refine (strict_writePrivateJson resolve _ _).bind fun _ => ?_
  exact (strict_statusUnlocked P resolve).onView

end Strict

/-! ### Names -/

section Names

variable {files : Files} {name n : String} {held : Held}

/-- The files with some more. -/
def put (files : Files) (new : List (String × Held)) : Files :=
  new.foldl (fun files e => files.insert e.1 e.2) files

theorem has_insert :
    Files.has (files.insert name held) n = (decide (name = n) || files.has n) := by
  by_cases h : name = n <;> simp [Files.has, h]

/-- Other names are there if they were. -/
theorem has_put {new : List (String × Held)} (h : n ∉ new.map Prod.fst) :
    (put files new).has n = files.has n := by
  induction new generalizing files with
  | nil => rfl
  | cons e new ih =>
    rw [List.map_cons, List.mem_cons, not_or] at h
    rw [put, List.foldl_cons]
    refine (ih h.2).trans ?_
    rw [has_insert, decide_eq_false (Ne.symm h.1), Bool.false_or]

/-- Writing a name twice. -/
theorem insert_insert (files : Files) (name : String) (held held' : Held) :
    (files.insert name held).insert name held' = files.insert name held' := by
  ext n
  by_cases h : name = n <;> simp [h]

/-- A temporary file that replaces its document is gone. -/
theorem replace_temporary (h : files.has (temporaryName name) = false) (held : Held) :
    ((files.insert (temporaryName name) held).erase (temporaryName name)).insert name held =
      files.insert name held := by
  ext n
  by_cases hn : name = n
  · simp [hn]
  · by_cases ht : temporaryName name = n
    · have hnone : files.get? n = none := by
        rw [← ht]
        exact Option.isNone_iff_eq_none.mp (Option.isSome_eq_false_iff.mp h)
      simp [hn, ht, hnone]
    · simp [hn, ht]

end Names

/-! ### Courses -/

section Courses

variable {P : Platform} {resolve : String → String} {files : Files} {name : String}

theorem course_writeFile (h : files.has name = false) :
    (writeFile name).Course files
      [files, files.insert name .begun, files.insert name .pem, files.insert name .pem] (.ok ())
      (files.insert name .pem) := by
  have hcourse : (writeFile name).Course files
      [files, files.insert name .begun, (files.insert name .begun).insert name .pem,
        (files.insert name .begun).insert name .pem] (.ok ())
      ((files.insert name .begun).insert name .pem) :=
    course_state_bind ((course_require h _ _).bind ⟨rfl, rfl⟩)
  rwa [insert_insert] at hcourse

theorem course_writePrivateJson (h : files.has name = false)
    (htemporary : files.has (temporaryName name) = false) (document : Held) :
    (writePrivateJson resolve name document).Course files
      (List.replicate 3 files ++ files.insert (temporaryName name) .begun ::
        List.replicate 3 (files.insert (temporaryName name) document)) (.ok ())
      (files.insert name document) := by
  have hrest : (do
      let files ← FileProg.state
      require (files.has name = false)
        (configurationError ("refusing to overwrite " ++ resolve name))
      fileStep (osError "open") fun files => files.insert (temporaryName name) .begun
      fileStep (osError "write") fun files => files.insert (temporaryName name) document
      idle "fsync"
      idle "chmod"
      fileStep (osError "replace") fun files =>
        (files.erase (temporaryName name)).insert name document : FilesProg Unit).Course files
      (files :: files.insert (temporaryName name) .begun :: List.replicate 3
        ((files.insert (temporaryName name) .begun).insert (temporaryName name) document)) (.ok ())
      ((((files.insert (temporaryName name) .begun).insert (temporaryName name) document).erase
        (temporaryName name)).insert name document) :=
    course_state_bind ((course_require h _ _).bind ⟨rfl, rfl⟩)
  rw [insert_insert, replace_temporary htemporary] at hrest
  exact (course_fileStep _ id files).bind ((course_fileStep _ id files).bind hrest)

theorem course_locked {α : Type} {body : FilesProg α} {l : List Files} {r : Except Exn α}
    {files' : Files} (h : body.Course (locking files) l r files') :
    (locked body).Course files (List.replicate 3 files ++ (List.replicate 2 (locking files) ++ l)) r
      files' := by
  refine ⟨?_, h.exec⟩
  change files :: files :: files :: locking files :: locking files :: body.stages (locking files) = _
  rw [h.stages]
  rfl

end Courses

/-! ### The lock file -/

section Lock

variable {files : Files} {n : String}

/-- Nothing is there but the lock file, if that is. -/
def Bare (files : Files) : Prop := ∀ name, files.has name = true → name = lockName

/-- What the directory is searched for. -/
theorem bare_iff : (files.entries.all fun e => e.1 = lockName) = true ↔ Bare files := by
  rw [List.all_eq_true]
  constructor
  · intro h name hname
    obtain ⟨held, hheld⟩ := Option.isSome_iff_exists.mp hname
    exact of_decide_eq_true (h (name, held) (Dict.mem_entries_iff.mpr hheld))
  · rintro h ⟨name, held⟩ hmem
    refine decide_eq_true (h name ?_)
    exact Option.isSome_iff_exists.mpr ⟨held, Dict.mem_entries_iff.mp hmem⟩

theorem has_locking : (locking files).has n = (decide (lockName = n) || files.has n) := by
  rw [locking]
  by_cases h : files.has lockName
  · rw [if_pos h]
    by_cases hn : lockName = n
    · rw [decide_eq_true hn, ← hn, h, Bool.true_or]
    · rw [decide_eq_false hn, Bool.false_or]
  · rw [if_neg h, has_insert]

theorem locking_of_has (h : files.has lockName = true) : locking files = files := if_pos h

theorem Bare.locking (h : Bare files) : Bare (locking files) := by
  intro name hname
  rw [has_locking, Bool.or_eq_true, decide_eq_true_eq] at hname
  exact hname.elim Eq.symm (h name)

theorem Bare.not_has (h : Bare files) (hn : n ≠ lockName) : files.has n = false := by
  rw [← Bool.not_eq_true]
  exact fun hc => hn (h n hc)

end Lock

/-! ### The course of an initialization -/

section Course

variable (P : Platform) (resolve : String → String) (env : Founding) (relayId peerId : String)
  (listenPort : ℤ)

/-- The certificates and keys, by how many there are. -/
def withPem (files : Files) (count : ℕ) : Files :=
  put files (([caName, caKeyName, certName, keyName].take count).map fun name => (name, .pem))

/-- The files with the state. -/
def withState (files : Files) : Files :=
  (withPem files 4).insert stateName (.state (foundingState P env relayId peerId))

/-- **The files of an initialized directory.** -/
def complete (files : Files) : Files :=
  (withState P env relayId peerId files).insert configName
    (.config (foundingConfig relayId listenPort))

/-- The states before the file steps that follow the opening of the first certificate, up to the
last replacement. -/
def partway (files : Files) : List Files :=
  ([files.insert caName .begun, withPem files 1, withPem files 1] ++
    [withPem files 1, (withPem files 1).insert caKeyName .begun, withPem files 2, withPem files 2] ++
    [withPem files 2, (withPem files 2).insert certName .begun, withPem files 3, withPem files 3] ++
    [withPem files 3, (withPem files 3).insert keyName .begun, withPem files 4, withPem files 4]) ++
  (List.replicate 3 (withPem files 4) ++ (withPem files 4).insert (temporaryName stateName) .begun ::
    List.replicate 3 ((withPem files 4).insert (temporaryName stateName)
      (.state (foundingState P env relayId peerId)))) ++
  (List.replicate 3 (withState P env relayId peerId files) ++
    (withState P env relayId peerId files).insert (temporaryName configName) .begun ::
      List.replicate 3 ((withState P env relayId peerId files).insert (temporaryName configName)
        (.config (foundingConfig relayId listenPort))))

variable {P env relayId peerId listenPort resolve} {files : Files}

/-- What the other operations see of an initialized directory. -/
theorem directory_complete (files : Files) :
    (complete P env relayId peerId listenPort files).directory =
      foundingDirectory P env relayId peerId listenPort := by
  simp [Files.directory, Files.state?, Files.config?, Files.has, complete, withState, withPem, put,
    foundingDirectory, stateName, configName, caName, caKeyName, certName, keyName]

theorem idle_statusUnlocked : (statusUnlocked P resolve).Idle := by
  have hload : (Manager.loadState P).Idle :=
    idle_state.bind fun d => (idle_done _).bind fun state => (idle_done _).bind fun _ =>
      (idle_fileStep _).bind fun _ => idle_done _
  refine hload.bind fun state => Idle.bind ?_ fun config => idle_done _
  refine idle_state.bind fun d => (idle_done _).bind fun config => (idle_done _).bind fun parsed => ?_
  exact hload.bind fun state => (idle_done _).bind fun _ => (idle_fileStep _).bind fun _ => idle_done _

/-- **The course of an initialization** where nothing is there but the lock file. -/
theorem course_initializeFiles (h : Bare files) (hrelay : relayIdPattern relayId = true)
    (hpeer : peerIdPattern peerId = true) (hport : 1 ≤ listenPort ∧ listenPort ≤ 65535) :
    (initializeFiles P resolve env relayId peerId listenPort).Course files
      (List.replicate 5 files ++ (List.replicate 3 (locking files) ++
        (partway P env relayId peerId listenPort (locking files) ++
          List.replicate 3 (complete P env relayId peerId listenPort (locking files)))))
      (.ok (statusDocument resolve (foundingState P env relayId peerId)
        (foundingConfig relayId listenPort)))
      (complete P env relayId peerId listenPort (locking files)) := by
  have hbare := h.locking
  -- each file is new when its turn comes
  have hca : (locking files).has caName = false := hbare.not_has (by decide)
  have hcaKey : (withPem (locking files) 1).has caKeyName = false :=
    (has_put (by decide)).trans (hbare.not_has (by decide))
  have hcert : (withPem (locking files) 2).has certName = false :=
    (has_put (by decide)).trans (hbare.not_has (by decide))
  have hkey : (withPem (locking files) 3).has keyName = false :=
    (has_put (by decide)).trans (hbare.not_has (by decide))
  have hnew {name : String} (hname : name ∉ [caName, caKeyName, certName, keyName])
      (hlock : name ≠ lockName) : (withPem (locking files) 4).has name = false :=
    (has_put hname).trans (hbare.not_has hlock)
  have hnew' {name : String} (hname : name ∉ [caName, caKeyName, certName, keyName])
      (hlock : name ≠ lockName) (hstate : stateName ≠ name) :
      (withState P env relayId peerId (locking files)).has name = false := by
    rw [withState, has_insert, decide_eq_false hstate, Bool.false_or]
    exact hnew hname hlock
  have hstate : (writePrivateJson resolve stateName (.state (foundingState P env relayId
      peerId))).Course (withPem (locking files) 4) _ (.ok ())
        (withState P env relayId peerId (locking files)) :=
    course_writePrivateJson (hnew (by decide) (by decide)) (hnew (by decide) (by decide)) _
  have hconfig : (writePrivateJson resolve configName (.config (foundingConfig relayId
      listenPort))).Course (withState P env relayId peerId (locking files)) _ (.ok ())
        (complete P env relayId peerId listenPort (locking files)) :=
    course_writePrivateJson (hnew' (by decide) (by decide) (by decide))
      (hnew' (by decide) (by decide) (by decide)) _
  have hfounded : Founded P resolve env relayId peerId listenPort
      (complete P env relayId peerId listenPort (locking files)).directory
      (foundingState P env relayId peerId) (foundingConfig relayId listenPort) := by
    rw [directory_complete]
    exact founded_foundingDirectory env hrelay hpeer hport
  have hstatus := idle_statusUnlocked.course_onView (course_statusUnlocked hfounded.loads)
  have hwritten : (initializeLocked P resolve env relayId peerId listenPort).Course (locking files) _
      (.ok (statusDocument resolve (foundingState P env relayId peerId)
        (foundingConfig relayId listenPort)))
      (complete P env relayId peerId listenPort (locking files)) :=
    (course_writeFile hca).bind ((course_writeFile hcaKey).bind ((course_writeFile hcert).bind
      ((course_writeFile hkey).bind (hstate.bind (hconfig.bind hstatus)))))
  have hbody : (do
      let files ← FileProg.state
      require (files.entries.all fun e => e.1 = lockName) notEmpty
      initializeLocked P resolve env relayId peerId listenPort : FilesProg Json).Course
      (locking files) _ _ _ :=
    course_state_bind ((course_require (bare_iff.mpr hbare) notEmpty _).bind hwritten)
  have hcourse : (initializeFiles P resolve env relayId peerId listenPort).Course files _ _ _ :=
    (course_fileStep _ id files).bind ((course_fileStep _ id files).bind (course_locked hbody))
  exact ⟨hcourse.stages.trans rfl, hcourse.exec⟩

/-- Every state of it has the certificate, and the lock file. -/
theorem has_partway {t : Files} (ht : t ∈ partway P env relayId peerId listenPort (locking files)) :
    t.has caName = true ∧ t.has lockName = true := by
  have hlock : (locking files).has lockName = true := by
    rw [has_locking, decide_eq_true rfl, Bool.true_or]
  have hall : ∀ t ∈ partway P env relayId peerId listenPort (locking files),
      t.has caName = true ∧ t.has lockName = true := by
    simp [partway, withState, withPem, put, has_insert, hlock]
  exact hall t ht

/-- The course of an initialization where something else is there. -/
theorem course_initializeFiles_refused (h : ¬Bare files) :
    (initializeFiles P resolve env relayId peerId listenPort).Course files
      (List.replicate 5 files ++ List.replicate 2 (locking files)) (.error notEmpty)
      (locking files) := by
  have hbare : ¬(locking files).entries.all (fun e => e.1 = lockName) = true := by
    intro hc
    refine h fun name hname => bare_iff.mp hc name ?_
    rw [has_locking, hname, Bool.or_true]
  have hbody : (do
      let files ← FileProg.state
      require (files.entries.all fun e => e.1 = lockName) notEmpty
      initializeLocked P resolve env relayId peerId listenPort : FilesProg Json).Course
      (locking files) [] (.error notEmpty) (locking files) :=
    course_state_bind ((course_require_error hbare notEmpty _).bind_error _)
  exact (course_fileStep _ id files).bind ((course_fileStep _ id files).bind (course_locked hbody))

/-- Arguments in order are passed on. -/
theorem initializeDirectory_eq (hrelay : relayIdPattern relayId = true)
    (hpeer : peerIdPattern peerId = true) (hport : 1 ≤ listenPort ∧ listenPort ≤ 65535) :
    initializeDirectory P resolve env (.str relayId) (.str peerId) (.int listenPort) =
      initializeFiles P resolve env relayId peerId listenPort := by
  rw [initializeDirectory, patternText_eq_ok.mpr ⟨rfl, hrelay⟩, patternText_eq_ok.mpr ⟨rfl, hpeer⟩]
  change (do
    require (1 ≤ listenPort ∧ listenPort ≤ 65535) (configurationError "invalid relay listener port")
    initializeFiles P resolve env relayId peerId listenPort : FilesProg Json) = _
  rw [require_pos hport]
  rfl

/-! ### What is seen of it -/

/-- A file that is not there. -/
theorem Bare.get? {n : String} (h : Bare files) (hn : n ≠ lockName) : files.get? n = none :=
  Option.isNone_iff_eq_none.mp (Option.isSome_eq_false_iff.mp (h.not_has hn))

/-- The directory with some certificates and keys. -/
def seen (count : ℕ) : Directory := ⟨none, none, [caName, caKeyName, certName, keyName].take count, ∅⟩

theorem directory_bare (h : Bare files) : files.directory = .fresh := by
  have hnone : ∀ name ∈ [caName, caKeyName, certName, keyName], ¬files.has name = true := by
    intro name hname hc
    have hlock : lockName ∉ [caName, caKeyName, certName, keyName] := by decide
    exact hlock (h name hc ▸ hname)
  have hstate : files.state? = none := by
    rw [Files.state?, h.get? (by decide)]
  have hconfig : files.config? = none := by
    rw [Files.config?, h.get? (by decide)]
  rw [Files.directory, hstate, hconfig, List.filter_eq_nil_iff.mpr hnone]
  rfl

/-- What is seen of the files an initialization goes through. -/
theorem directory_partway (h : Bare files) :
    (partway P env relayId peerId listenPort files).map Files.directory =
      List.replicate 4 (seen 1) ++ List.replicate 4 (seen 2) ++ List.replicate 4 (seen 3) ++
        List.replicate 10 (seen 4) ++
        List.replicate 7 { seen 4 with state := some (foundingState P env relayId peerId) } := by
  have hca := h.get? (show caName ≠ lockName by decide)
  have hcaKey := h.get? (show caKeyName ≠ lockName by decide)
  have hcert := h.get? (show certName ≠ lockName by decide)
  have hkey := h.get? (show keyName ≠ lockName by decide)
  have hstate := h.get? (show stateName ≠ lockName by decide)
  have hconfig := h.get? (show configName ≠ lockName by decide)
  simp only [stateName, configName, caName, caKeyName, certName, keyName] at *
  simp [partway, withState, withPem, put, seen, Files.directory, Files.state?, Files.config?,
    Files.has, temporaryName, stateName, configName, caName, caKeyName, certName, keyName, *]

/-- **The two models of an initialization agree**: what a call leaves, wherever it stops, is seen as
a directory what the same call leaves there. -/
theorem directory_initialize (hbare : Bare files) (hrelay : relayIdPattern relayId = true)
    (hpeer : peerIdPattern peerId = true) (hport : 1 ≤ listenPort ∧ listenPort ≤ 65535)
    (o : ℕ → Bool) (ending : Option ℕ) :
    Files.directory ((initializeDirectory P resolve env (.str relayId) (.str peerId)
        (.int listenPort)).leftBy o ending files) =
      (Manager.initializeDirectory P resolve env (.str relayId) (.str peerId)
        (.int listenPort)).leftBy o ending .fresh := by
  rw [initializeDirectory_eq hrelay hpeer hport]
  have hfiles : (initializeFiles P resolve env relayId peerId listenPort).Course files _ _ _ :=
    course_initializeFiles hbare hrelay hpeer hport
  have hseen : (Manager.initializeDirectory P resolve env (.str relayId) (.str peerId)
      (.int listenPort)).Course .fresh _ _ _ := course_initializeDirectory env hrelay hpeer hport
  have hstrict : (Manager.initializeDirectory P resolve env (.str relayId) (.str peerId)
      (.int listenPort)).Strict := strict_initializeDirectory P resolve env _ _ _
  refine (strict_initializeFiles P resolve env relayId peerId listenPort).view_leftBy hstrict ?_ ?_ o
    ending
  · rw [hfiles.stages, hseen.stages]
    simp only [List.map_append, List.map_replicate, directory_partway hbare.locking,
      directory_bare hbare, directory_bare hbare.locking, directory_complete]
    rfl
  · rw [hfiles.exec, hseen.exec]
    exact directory_complete _

/-! ### What a failed call has left -/

variable (P resolve) in
/-- **A complete configuration that loads.** -/
def Loadable (files : Files) : Prop :=
  (∃ s c, files.directory.Loads P resolve s c) ∧
    ∀ name ∈ [caName, caKeyName, certName, keyName], files.get? name = some .pem

variable (P resolve) in
/-- **A later call succeeds**, whatever relay it is for, if its file steps go through. -/
def Repeatable (files : Files) : Prop :=
  ∀ env relayId peerId (listenPort : ℤ), relayIdPattern relayId = true →
    peerIdPattern peerId = true → 1 ≤ listenPort ∧ listenPort ≤ 65535 →
      ∃ reply files', (initializeDirectory P resolve env (.str relayId) (.str peerId)
        (.int listenPort)).exec files = (.ok reply, files') ∧ Loadable P resolve files'

variable (P resolve) in
/-- **Every later call is refused** and changes nothing. -/
def Refused (files : Files) : Prop :=
  ∀ env relayId peerId (listenPort : ℤ), relayIdPattern relayId = true →
    peerIdPattern peerId = true → 1 ≤ listenPort ∧ listenPort ≤ 65535 →
      (initializeDirectory P resolve env (.str relayId) (.str peerId) (.int listenPort)).exec files =
        (.error notEmpty, files)

theorem loadable_complete (hrelay : relayIdPattern relayId = true)
    (hpeer : peerIdPattern peerId = true) (hport : 1 ≤ listenPort ∧ listenPort ≤ 65535)
    (files : Files) : Loadable P resolve (complete P env relayId peerId listenPort files) := by
  refine ⟨⟨foundingState P env relayId peerId, foundingConfig relayId listenPort, ?_⟩, ?_⟩
  · rw [directory_complete]
    exact (founded_foundingDirectory env hrelay hpeer hport).loads
  · simp [complete, withState, withPem, put, stateName, configName, caName, caKeyName, certName,
      keyName]

theorem repeatable_of_bare (h : Bare files) : Repeatable P resolve files := by
  intro env relayId peerId listenPort hrelay hpeer hport
  rw [initializeDirectory_eq hrelay hpeer hport]
  exact ⟨_, _, (course_initializeFiles h hrelay hpeer hport).exec,
    loadable_complete hrelay hpeer hport _⟩

theorem refused_of_not_bare (h : ¬Bare files) (hlock : files.has lockName = true) :
    Refused P resolve files := by
  intro env relayId peerId listenPort hrelay hpeer hport
  rw [initializeDirectory_eq hrelay hpeer hport, (course_initializeFiles_refused h).exec,
    locking_of_has hlock]

/-- What a call leaves that stops before a file step. -/
theorem leftBy_initializeDirectory (hbare : Bare files) (hrelay : relayIdPattern relayId = true)
    (hpeer : peerIdPattern peerId = true) (hport : 1 ≤ listenPort ∧ listenPort ≤ 65535)
    {o : ℕ → Bool} {ending : Option ℕ} {k : ℕ} (hstop : FirstStop o ending k) {t : Files}
    (ht : ((List.replicate 5 files ++ List.replicate 3 (locking files)) ++
      (partway P env relayId peerId listenPort (locking files) ++
        List.replicate 3 (complete P env relayId peerId listenPort (locking files))))[k]? = some t) :
    (initializeDirectory P resolve env (.str relayId) (.str peerId) (.int listenPort)).leftBy o ending
      files = t := by
  have hcourse : (initializeFiles P resolve env relayId peerId listenPort).Course files _ _ _ :=
    course_initializeFiles hbare hrelay hpeer hport
  rw [initializeDirectory_eq hrelay hpeer hport]
  refine (strict_initializeFiles P resolve env relayId peerId listenPort).leftBy_of_firstStop hstop ?_
  rw [hcourse.stages, ← List.append_assoc]
  exact ht

/-- **What a failed initialization has left**, by the file step that fails or that the process does
not come to. Up to the opening of the first certificate the directory is bare and a later call
succeeds; from the reading of the status on the configuration is complete; in between the first
certificate at least is left, and a later call is refused. -/
theorem initialization_repeated (hbare : Bare files) (hrelay : relayIdPattern relayId = true)
    (hpeer : peerIdPattern peerId = true) (hport : 1 ≤ listenPort ∧ listenPort ≤ 65535)
    {o : ℕ → Bool} {ending : Option ℕ} {k : ℕ} (hstop : FirstStop o ending k) (hk : k < 40) :
    let left := (initializeDirectory P resolve env (.str relayId) (.str peerId)
      (.int listenPort)).leftBy o ending files
    (k < 8 ∧ Bare left ∧ Repeatable P resolve left) ∨
      (8 ≤ k ∧ k < 37 ∧ left.has caName = true ∧ Refused P resolve left) ∨
      (37 ≤ k ∧ Loadable P resolve left) := by
  intro left
  have hfirst : (List.replicate 5 files ++ List.replicate 3 (locking files)).length = 8 := rfl
  have hsecond : (partway P env relayId peerId listenPort (locking files)).length = 29 := rfl
  have hlength : (List.replicate 3 (complete P env relayId peerId listenPort
    (locking files))).length = 3 := rfl
  -- what is left is the state before the step where the call stopped
  obtain ⟨t, ht⟩ : ∃ t, ((List.replicate 5 files ++ List.replicate 3 (locking files)) ++
      (partway P env relayId peerId listenPort (locking files) ++
        List.replicate 3 (complete P env relayId peerId listenPort (locking files))))[k]? = some t := by
    refine ⟨_, List.getElem?_eq_getElem ?_⟩
    rw [List.length_append, hfirst, List.length_append, hsecond, hlength]
    exact hk
  have hleft : left = t := leftBy_initializeDirectory hbare hrelay hpeer hport hstop ht
  rw [hleft]
  rcases Nat.lt_or_ge k 8 with hbefore | hafter
  · rw [List.getElem?_append_left hbefore] at ht
    have ht' : Bare t := by
      rcases List.mem_append.mp (List.mem_of_getElem? ht) with hmem | hmem
      · exact List.eq_of_mem_replicate hmem ▸ hbare
      · exact List.eq_of_mem_replicate hmem ▸ hbare.locking
    exact .inl ⟨hbefore, ht', repeatable_of_bare ht'⟩
  rw [List.getElem?_append_right hafter, hfirst] at ht
  rcases Nat.lt_or_ge k 37 with hwithin | hend
  · rw [List.getElem?_append_left (by omega)] at ht
    obtain ⟨hca, hlock⟩ := has_partway (List.mem_of_getElem? ht)
    refine .inr (.inl ⟨hafter, hwithin, hca, refused_of_not_bare (fun hc => ?_) hlock⟩)
    exact absurd (hc caName hca) (by decide)
  · rw [List.getElem?_append_right (by omega)] at ht
    refine .inr (.inr ⟨hend, ?_⟩)
    rw [List.eq_of_mem_replicate (List.mem_of_getElem? ht)]
    exact loadable_complete hrelay hpeer hport _

end Course

end Initialization

open Initialization Sample in
/-- The lock file cannot be opened: nothing is left, and the directory is initialized by a later
call. -/
theorem Initialization.initialization_repeated_sample :
    let left := (Initialization.initializeDirectory platform relayPath founding (.str "relay-1")
      (.str "printerhmi-relay") (.int 8443)).leftBy (fun k => k == 4) none ∅
    Bare left ∧ ∃ reply files', (Initialization.initializeDirectory platform relayPath founding
      (.str "relay-1") (.str "printerhmi-relay") (.int 8443)).exec left = (.ok reply, files') ∧
      Loadable platform relayPath files' := by
  intro left
  have hbare : Bare ∅ := fun name hname => nomatch hname
  have hstop : FirstStop (fun k => k == 4) none 4 :=
    ⟨.inl rfl, fun j hj => ⟨beq_eq_false_iff_ne.mpr hj.ne, nofun⟩⟩
  have hargs : relayIdPattern "relay-1" = true ∧ peerIdPattern "printerhmi-relay" = true ∧
      ((1 : ℤ) ≤ 8443 ∧ (8443 : ℤ) ≤ 65535) := by decide
  obtain ⟨hrelay, hpeer, hport⟩ := hargs
  have hcases : (4 < 8 ∧ Bare left ∧ Repeatable platform relayPath left) ∨
      (8 ≤ 4 ∧ 4 < 37 ∧ left.has Manager.caName = true ∧ Refused platform relayPath left) ∨
        (37 ≤ 4 ∧ Loadable platform relayPath left) :=
    Initialization.initialization_repeated hbare hrelay hpeer hport hstop (by decide)
  rcases hcases with ⟨-, hleft, h⟩ | ⟨hc, -⟩ | ⟨hc, -⟩
  · exact ⟨hleft, h founding "relay-1" "printerhmi-relay" 8443 hrelay hpeer hport⟩
  · exact absurd hc (by decide)
  · exact absurd hc (by decide)

open Initialization Manager Sample in
/-- **An initialization that cannot be repeated**: the first certificate has been opened, and is not
written. The configuration is not there, and a later call is refused. -/
theorem Initialization.initialization_not_repeatable :
    ¬ ∀ (o : ℕ → Bool) (k : ℕ), FirstStop o none k → k < 40 →
      let left := (Initialization.initializeDirectory platform relayPath founding (.str "relay-1")
        (.str "printerhmi-relay") (.int 8443)).leftBy o none ∅
      Loadable platform relayPath left ∨ Repeatable platform relayPath left := by
  intro h
  have hbare : Bare ∅ := fun name hname => nomatch hname
  have hstop : FirstStop (fun k => k == 8) none 8 :=
    ⟨.inl rfl, fun j hj => ⟨beq_eq_false_iff_ne.mpr hj.ne, nofun⟩⟩
  have hargs : relayIdPattern "relay-1" = true ∧ peerIdPattern "printerhmi-relay" = true ∧
      ((1 : ℤ) ≤ 8443 ∧ (8443 : ℤ) ≤ 65535) := by decide
  obtain ⟨hrelay, hpeer, hport⟩ := hargs
  have hleft : (initializeDirectory platform relayPath founding (.str "relay-1")
      (.str "printerhmi-relay") (.int 8443)).leftBy (fun k => k == 8) none ∅ =
        (locking ∅).insert caName .begun :=
    leftBy_initializeDirectory hbare hrelay hpeer hport hstop rfl
  have hca : Files.has ((locking ∅).insert caName .begun) caName = true := by
    rw [has_insert, decide_eq_true rfl, Bool.true_or]
  have hlock : Files.has ((locking ∅).insert caName .begun) lockName = true := by
    rw [has_insert, has_locking, decide_eq_true rfl, Bool.true_or, Bool.or_true]
  have hrefused : Refused platform relayPath ((locking ∅).insert caName .begun) :=
    refused_of_not_bare (fun hc => absurd (hc caName hca) (by decide)) hlock
  have hclaim := h _ 8 hstop (by decide)
  rw [hleft] at hclaim
  rcases hclaim with ⟨-, hpems⟩ | hrepeatable
  · have hpem := hpems caName (by simp)
    rw [Dict.get?_insert, if_pos rfl] at hpem
    nomatch hpem
  · obtain ⟨reply, files', hok, -⟩ :=
      hrepeatable founding "relay-1" "printerhmi-relay" 8443 hrelay hpeer hport
    rw [hrefused founding "relay-1" "printerhmi-relay" 8443 hrelay hpeer hport] at hok
    nomatch hok

end PrinterHmi
