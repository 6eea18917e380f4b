import PrinterHmi.Enrollment.Messages
import PrinterHmi.Lib.FileProg

/-!
# The registry of snapshots

The receiver keeps the latest snapshot of each enrolled device, with a count of the
sessions the device has open, and writes all snapshots to its state file whenever one
changes. The record is replaced before the file is, so a publication whose file step
fails has changed the record already (`publish_spec`).
-/

namespace PrinterHmi

/-- What the registry keeps of one publication. -/
structure Record where
  deviceId : String
  sequence : ℤ
  receivedAt : String
  receivedEpoch : Time
  snapshot : Json

/-- `RelaySnapshotRegistry`, with the file it writes. -/
structure Registry where
  /-- The enrolled devices. -/
  deviceIds : List String
  records : Dict String Record
  activeSessions : Dict String ℤ
  /-- The state file, if it exists. -/
  stateFile : Option Json

/-- A program over a registry. -/
abbrev RegistryProg := FileProg Registry Exn

/-- A registry for these devices, before anything is published. -/
def Registry.start (deviceIds : List String) : Registry := ⟨deviceIds, ∅, ∅, none⟩

/-- `session_opened`. -/
def Registry.sessionOpened (r : Registry) (deviceId : String) : Registry :=
  { r with activeSessions :=
      r.activeSessions.insert deviceId ((r.activeSessions.get? deviceId).getD 0 + 1) }

/-- `session_closed`. -/
def Registry.sessionClosed (r : Registry) (deviceId : String) : Registry :=
  { r with activeSessions :=
      r.activeSessions.insert deviceId (max 0 ((r.activeSessions.get? deviceId).getD 0 - 1)) }

/-- A record as the state file has it, without its epoch. -/
def Record.document (record : Record) : Json :=
  .obj [("device_id", .str record.deviceId), ("received_at", .str record.receivedAt),
    ("sequence", .int record.sequence), ("snapshot", record.snapshot)]

/-- `snapshot`: what the registry has of a device. -/
def Registry.snapshot (r : Registry) (deviceId : String) : Option Json :=
  (r.records.get? deviceId).map fun record =>
    .obj [("device_id", .str deviceId), ("received_at", .str record.receivedAt),
      ("sequence", .int record.sequence), ("snapshot", record.snapshot)]

/-- The entry of a device in the overview; `staleAfter` is how long after its last
publication the device still counts as online. -/
def Registry.deviceDocument (staleAfter : Time) (r : Registry) (now : Time) (deviceId : String) :
    Json :=
  let record := r.records.get? deviceId
  .obj [("active_sessions", .int ((r.activeSessions.get? deviceId).getD 0)),
    ("device_id", .str deviceId),
    ("last_seen", (record.map fun record => Json.str record.receivedAt).getD .null),
    ("online", .bool (record.any fun record => now - record.receivedEpoch ≤ staleAfter)),
    ("sequence", (record.map fun record => Json.int record.sequence).getD .null)]

/-- `document`: the overview of the enrolled devices. -/
def Registry.document (P : Platform) (staleAfter : Time) (r : Registry) (now : Time) : Json :=
  let devices : Dict String Json := r.deviceIds.foldl
    (fun devices deviceId => devices.insert deviceId (r.deviceDocument staleAfter now deviceId)) ∅
  .obj [("devices", .obj devices.entries), ("generated_at", .str (P.timestamp now)),
    ("schema_version", schemaVersion)]

/-- What the state file holds of these records. -/
def recordsDocument (records : Dict String Record) : Json :=
  .obj [("records", .obj (records.entries.map fun e => (e.1, e.2.document))),
    ("schema_version", schemaVersion)]

/-- `_write_locked`. The temporary file is removed in any case; that it is gone already
is no error. -/
def Registry.writeLocked : RegistryProg Unit := do
  let r ← FileProg.state
  FileProg.fileStep (osError "mkdir") id
  FileProg.fileStep (osError "chmod") id
  FileProg.fileStep (osError "open") id
  FileProg.tryFinally
    (do
      FileProg.fileStep (osError "write") id
      FileProg.fileStep (osError "fsync") id
      FileProg.fileStep (osError "replace") fun s =>
        { s with stateFile := some (recordsDocument r.records) }
      FileProg.fileStep (osError "chmod") id)
    (FileProg.fileStep (osError "unlink") id)

section Publish

variable (P : Platform)

/-- The record of a publication. -/
def newRecord (deviceId : String) (sequence : ℤ) (snapshot : Json) (now : Time) : Record where
  deviceId := deviceId
  sequence := sequence
  receivedAt := P.timestamp now
  receivedEpoch := now
  snapshot := snapshot

/-- `publish`. -/
def Registry.publish (deviceId : String) (sequence : ℤ) (snapshot : Json) (now : Time) :
    RegistryProg Unit := do
  let r ← FileProg.state
  require (deviceId ∈ r.deviceIds) (⟨.valueError, "device is not enrolled"⟩ : Exn)
  FileProg.record fun r =>
    { r with records := r.records.insert deviceId (newRecord P deviceId sequence snapshot now) }
  Registry.writeLocked

variable {P}

/-- Writing the file changes the file only. -/
theorem writeLocked_spec {I : Registry → Prop} {r : Registry} (hr : I r)
    (hfile : I { r with stateFile := some (recordsDocument r.records) }) :
    Registry.writeLocked.Spec I (fun _ => I) r := by
  refine FileProg.Spec.bind ⟨hr, ?_⟩ fun _ _ h => h
  refine FileProg.Spec.bind (FileProg.spec_fileStep hr hr ?_ hr) fun _ _ h => h
  refine FileProg.Spec.bind (FileProg.spec_fileStep hr hr ?_ hr) fun _ _ h => h
  refine FileProg.Spec.bind (FileProg.spec_fileStep hr hr ?_ hr) fun _ _ h => h
  -- the body keeps `I`, and so does the removal of the temporary file after it
  refine FileProg.Spec.andThen (FileProg.Spec.mono (Q := fun _ => I) ?_ fun res s hs => ?_)
  · refine FileProg.Spec.bind (FileProg.spec_fileStep hr hr ?_ hr) fun _ _ h => h
    refine FileProg.Spec.bind (FileProg.spec_fileStep hr hr ?_ hr) fun _ _ h => h
    refine FileProg.Spec.bind (FileProg.spec_fileStep hr hfile ?_ hr) fun _ _ h => h
    exact FileProg.spec_fileStep hfile hfile hfile hfile
  · exact FileProg.Spec.andThen (FileProg.spec_fileStep hs hs ⟨hs, hs⟩ ⟨hs, hs⟩)

/-- **What a publication does**, whichever of its file steps fail: nothing if the device
is not enrolled, and else it replaces the record of the device. -/
theorem publish_spec (deviceId : String) (sequence : ℤ) (snapshot : Json) (now : Time)
    (r : Registry) :
    (Registry.publish P deviceId sequence snapshot now).Spec (fun _ => True)
      (fun _ s => s.deviceIds = r.deviceIds ∧ s.activeSessions = r.activeSessions ∧
        s.records = if deviceId ∈ r.deviceIds then
          r.records.insert deviceId (newRecord P deviceId sequence snapshot now)
        else r.records) r := by
  refine FileProg.Spec.bind ⟨trivial, ?_⟩ fun _ _ _ => trivial
  dsimp only
  by_cases h : deviceId ∈ r.deviceIds
  · rw [require_pos h, if_pos h]
    refine FileProg.Spec.bind ⟨trivial, ?_⟩ fun _ _ _ => trivial
    refine FileProg.Spec.bind ⟨trivial, ?_⟩ fun _ _ _ => trivial
    refine (writeLocked_spec (I := fun s => s.deviceIds = r.deviceIds ∧
      s.activeSessions = r.activeSessions ∧ s.records =
        r.records.insert deviceId (newRecord P deviceId sequence snapshot now))
      ?_ ?_).mono_inv fun _ _ => trivial
    · exact ⟨rfl, rfl, rfl⟩
    · exact ⟨rfl, rfl, rfl⟩
  · rw [require_neg h, if_neg h]
    exact FileProg.Spec.bind ⟨trivial, rfl, rfl, rfl⟩ fun _ _ _ => trivial

/-- A publication of an enrolled device whose file steps go through. -/
theorem exec_publish {deviceId : String} {r : Registry} (h : deviceId ∈ r.deviceIds)
    (sequence : ℤ) (snapshot : Json) (now : Time) :
    (Registry.publish P deviceId sequence snapshot now).exec r =
      (.ok (), { r with
        records := r.records.insert deviceId (newRecord P deviceId sequence snapshot now)
        stateFile := some (recordsDocument
          (r.records.insert deviceId (newRecord P deviceId sequence snapshot now))) }) := by
  rw [Registry.publish, FileProg.exec_bind_ok (FileProg.exec_state r), require_pos h]
  rfl

end Publish

end PrinterHmi
