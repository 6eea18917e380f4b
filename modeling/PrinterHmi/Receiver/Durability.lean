import PrinterHmi.Lib.Faults
import PrinterHmi.Lib.Runs
import PrinterHmi.Receiver.Registry
import PrinterHmi.Sample

/-!
# What a publication that fails leaves

A publication replaces the record of the device and then the state file, in eight
file steps. The record is replaced first: a publication whose file step fails raises,
and its snapshot is in the registry all the same.

A run of publications (`PublishRun`) is compared with the view the registry ought to
give (`ViewFollows`): a publication that raises leaves every report as it was, one
that returns shows in the report of its device and no other, and memory and file agree
afterwards. `registry_view` says which runs give that view: those in which no file step
of an enrolled device's publication fails, unless the record it sets is the one that was
in place.
-/

namespace PrinterHmi

/-! ### The file steps of a publication -/

/-- The records the state file holds; no file holds none. -/
def Registry.savedRecords (r : Registry) : Json :=
  match r.stateFile with
  | none => .obj []
  | some document => document.field "records"

/-- The records in memory, as the file has them. -/
def Registry.heldRecords (r : Registry) : Json :=
  .obj (r.records.entries.map fun e => (e.1, e.2.document))

/-- The registry with its records in the file. -/
def Registry.saved (r : Registry) : Registry :=
  { r with stateFile := some (recordsDocument r.records) }

theorem strict_writeLocked : Registry.writeLocked.Strict := by
  refine FileProg.strict_state.bind fun r => ?_
  refine (FileProg.strict_fileStep _ _).bind fun _ => ?_
  refine (FileProg.strict_fileStep _ _).bind fun _ => ?_
  refine (FileProg.strict_fileStep _ _).bind fun _ => ?_
  refine FileProg.Strict.tryFinally ?_ _
  refine (FileProg.strict_fileStep _ _).bind fun _ => ?_
  refine (FileProg.strict_fileStep _ _).bind fun _ => ?_
  refine (FileProg.strict_fileStep _ _).bind fun _ => ?_
  exact FileProg.strict_fileStep _ _

/-- The file is replaced at the sixth of eight file steps. -/
theorem stages_writeLocked (r : Registry) :
    Registry.writeLocked.stages r = List.replicate 6 r ++ List.replicate 2 r.saved := rfl

theorem exec_writeLocked (r : Registry) : Registry.writeLocked.exec r = (.ok (), r.saved) := rfl

/-! ### Publishing -/

/-- One publication: its arguments, the clock, and which of its file steps fail. -/
structure PublishCall where
  deviceId : String
  sequence : ℤ
  snapshot : Json
  now : Time
  faults : ℕ → Bool

section View

variable (P : Platform)

/-- The registry after one publication, with what the caller gets. -/
def publishStep (r : Registry) (c : PublishCall) : Except Exn Unit × Registry :=
  (Registry.publish P c.deviceId c.sequence c.snapshot c.now).run c.faults r

/-- The record a publication sets. -/
def PublishCall.record (c : PublishCall) : Record :=
  newRecord P c.deviceId c.sequence c.snapshot c.now

/-- **Runs of publications**, of any devices in any order, from a registry that starts. -/
abbrev PublishRun (deviceIds : List String) :=
  Run (publishStep P) (fun _ _ => True) (Registry.start deviceIds)

/-- **The view the registry ought to give**, at one publication of a run. -/
structure ViewFollows (staleAfter : Time) (e : Event Registry PublishCall (Except Exn Unit)) :
    Prop where
  /-- A publication that raises leaves every report as it was. -/
  raised : ∀ exn, e.result = .error exn →
    (∀ deviceId, e.after.snapshot deviceId = e.before.snapshot deviceId) ∧
      ∀ now, e.after.document P staleAfter now = e.before.document P staleAfter now
  /-- One that returns shows in the report of its device, and no other record changes. -/
  returned : e.result = .ok () →
    e.after.snapshot e.call.deviceId = some (e.call.record P).document ∧
      ∀ deviceId ≠ e.call.deviceId,
        e.after.records.get? deviceId = e.before.records.get? deviceId
  /-- Memory and file hold the same records. -/
  agree : e.after.savedRecords = e.after.heldRecords

/-- The publication is refused, or none of its eight file steps fails, or it sets the
record that is in place. -/
def Harmless (e : Event Registry PublishCall (Except Exn Unit)) : Prop :=
  e.call.deviceId ∉ e.before.deviceIds ∨ (∀ k < 8, e.call.faults k = false) ∨
    e.before.records.get? e.call.deviceId = some (e.call.record P)

/-- The registry with the record of a publication in memory. -/
def Registry.withRecord (r : Registry) (c : PublishCall) : Registry :=
  { r with records := r.records.insert c.deviceId (c.record P) }

variable {P}

@[simp] theorem withRecord_records (r : Registry) (c : PublishCall) :
    (r.withRecord P c).records = r.records.insert c.deviceId (c.record P) := rfl

@[simp] theorem saved_records (r : Registry) : r.saved.records = r.records := rfl

theorem publish_refused {r : Registry} {c : PublishCall} (h : c.deviceId ∉ r.deviceIds) :
    publishStep P r c = (.error ⟨.valueError, "device is not enrolled"⟩, r) := by
  rw [publishStep, Registry.publish, FileProg.run_state_bind, require_neg h]
  rfl

/-- The record of an enrolled device is replaced before the file is written. -/
theorem publish_enrolled {r : Registry} {c : PublishCall} (h : c.deviceId ∈ r.deviceIds) :
    publishStep P r c = Registry.writeLocked.run c.faults (r.withRecord P c) := by
  rw [publishStep, Registry.publish, FileProg.run_state_bind, require_pos h]
  rfl

/-- **How a publication of an enrolled device ends**: it raises with its record in memory
and the file replaced or not, or no file step fails and the record is in both. -/
theorem publishStep_cases {r : Registry} {c : PublishCall} (h : c.deviceId ∈ r.deviceIds) :
    (∃ k < 8, c.faults k = true ∧ ∃ exn, (publishStep P r c).1 = .error exn ∧
      ((publishStep P r c).2 = r.withRecord P c ∨
        (publishStep P r c).2 = (r.withRecord P c).saved)) ∨
      ((∀ k < 8, c.faults k = false) ∧
        publishStep P r c = (.ok (), (r.withRecord P c).saved)) := by
  rw [publish_enrolled h]
  rcases strict_writeLocked.run_cases c.faults (r.withRecord P c) with
    ⟨k, exn, hstage, hstop, hraise⟩ | ⟨hnone, hexec⟩
  · rw [stages_writeLocked] at hstage
    have hk : k < 8 := (List.getElem?_eq_some_iff.mp hstage).1
    refine .inl ⟨k, hk, by simpa using hstop.1, exn, hraise, ?_⟩
    -- the file is replaced before the two last steps and not before the others
    rcases FileProg.getElem?_replicate_append.mp hstage with ⟨-, heq⟩ | ⟨-, hlast⟩
    · exact .inl heq
    · exact .inr (List.eq_of_mem_replicate (List.mem_of_getElem? hlast))
  · exact .inr ⟨hnone, hexec.trans (exec_writeLocked _)⟩

/-! ### Reports -/

/-- Every record is one that a publication of its device has set. -/
def Registry.Kept (P : Platform) (r : Registry) : Prop :=
  ∀ deviceId record, r.records.get? deviceId = some record →
    record.deviceId = deviceId ∧ record.receivedAt = P.timestamp record.receivedEpoch

theorem kept_withRecord {r : Registry} (hr : r.Kept P) (c : PublishCall) :
    (r.withRecord P c).Kept P := by
  intro deviceId record hrecord
  rw [withRecord_records, Dict.get?_insert] at hrecord
  split_ifs at hrecord with hid
  · obtain rfl := Option.some.inj hrecord
    exact ⟨hid, rfl⟩
  · exact hr deviceId record hrecord

theorem kept_publishStep {r : Registry} (hr : r.Kept P) (c : PublishCall) :
    (publishStep P r c).2.Kept P := by
  by_cases h : c.deviceId ∈ r.deviceIds
  · rcases publishStep_cases (P := P) h with ⟨-, -, -, -, -, hafter | hafter⟩ | ⟨-, hafter⟩
    · rw [hafter]
      exact kept_withRecord hr c
    · rw [hafter]
      exact kept_withRecord hr c
    · rw [hafter]
      exact kept_withRecord hr c
  · rw [publish_refused h]
    exact hr

/-- The report of a device tells its record: the text of the moment tells the moment. -/
theorem record_of_snapshot {r : Registry} {c : PublishCall} (hr : r.Kept P)
    (h : r.snapshot c.deviceId = some (c.record P).document) :
    r.records.get? c.deviceId = some (c.record P) := by
  rw [Registry.snapshot, Option.map_eq_some_iff] at h
  obtain ⟨record, hrecord, hdocument⟩ := h
  obtain ⟨hid, hat⟩ := hr _ _ hrecord
  simp only [Record.document, Json.obj.injEq, List.cons.injEq, Prod.mk.injEq, Json.str.injEq,
    Json.int.injEq, true_and, and_true] at hdocument
  obtain ⟨-, hreceived, hsequence, hsnapshot⟩ := hdocument
  have hepoch : record.receivedEpoch = c.now :=
    P.timestamp_injective (hat.symm.trans hreceived)
  rw [hrecord]
  cases record
  simp only at hid hreceived hsequence hsnapshot hepoch
  subst hid hsequence hsnapshot hepoch
  rw [hreceived]
  rfl

theorem snapshot_of_record {r : Registry} {c : PublishCall}
    (h : r.records.get? c.deviceId = some (c.record P)) :
    r.snapshot c.deviceId = some (c.record P).document := by
  rw [Registry.snapshot, h]
  rfl

/-- Setting the record that is in place changes nothing. -/
theorem withRecord_eq {r : Registry} {c : PublishCall}
    (h : r.records.get? c.deviceId = some (c.record P)) : r.withRecord P c = r := by
  have hrecords : r.records.insert c.deviceId (c.record P) = r.records := by
    ext1 deviceId
    rw [Dict.get?_insert]
    split_ifs with hid
    · rw [← hid, h]
    · rfl
  rw [Registry.withRecord, hrecords]

/-- Memory and file agree once the file has been replaced. -/
theorem agree_saved (r : Registry) : r.saved.savedRecords = r.saved.heldRecords := by
  simp [Registry.savedRecords, Registry.heldRecords, Registry.saved, recordsDocument, Json.field,
    Json.get?, Entries.get?_cons]

/-! ### The view at one publication -/

variable {staleAfter : Time} {e : Event Registry PublishCall (Except Exn Unit)}

theorem harmless_of_viewFollows (hkept : e.before.Kept P)
    (hstep : publishStep P e.before e.call = (e.result, e.after))
    (hview : ViewFollows P staleAfter e) : Harmless P e := by
  by_cases hid : e.call.deviceId ∈ e.before.deviceIds
  · rcases publishStep_cases (P := P) hid with ⟨-, -, -, exn, hraise, hafter⟩ | ⟨hnone, -⟩
    · rw [hstep] at hraise hafter
      -- the new record is in memory, so what it reports must have been reported before
      have hrecord : e.after.records.get? e.call.deviceId = some (e.call.record P) := by
        rcases hafter with hafter | hafter
        · rw [show e.after = _ from hafter, withRecord_records, Dict.get?_insert, if_pos rfl]
        · rw [show e.after = _ from hafter, saved_records, withRecord_records, Dict.get?_insert,
            if_pos rfl]
      have hsame := (hview.raised exn hraise).1 e.call.deviceId
      rw [snapshot_of_record hrecord] at hsame
      exact .inr (.inr (record_of_snapshot hkept hsame.symm))
    · exact .inr (.inl hnone)
  · exact .inl hid

/-- **A publication that raises** and leaves every record as it was, in memory and in the
file, keeps the view. -/
theorem viewFollows_of_error {exn : Exn} (hagree : e.before.savedRecords = e.before.heldRecords)
    (hresult : e.result = .error exn)
    (hafter : e.after = e.before ∨ e.after = e.before.saved) : ViewFollows P staleAfter e := by
  refine ⟨fun _ _ => ?_, fun hok => ?_, ?_⟩
  · rcases hafter with hafter | hafter
    · rw [hafter]
      exact ⟨fun _ => rfl, fun _ => rfl⟩
    · rw [hafter]
      exact ⟨fun _ => rfl, fun _ => rfl⟩
  · rw [hresult] at hok
    cases hok
  · rcases hafter with hafter | hafter
    · rw [hafter]
      exact hagree
    · rw [hafter]
      exact agree_saved _

/-- **A publication that returns** sets the record of its device, in memory and in the file. -/
theorem viewFollows_of_ok (hresult : e.result = .ok ())
    (hafter : e.after = (e.before.withRecord P e.call).saved) : ViewFollows P staleAfter e := by
  refine ⟨fun exn herror => ?_, fun _ => ⟨snapshot_of_record ?_, fun deviceId hne => ?_⟩, ?_⟩
  · rw [hresult] at herror
    cases herror
  · rw [hafter, saved_records, withRecord_records, Dict.get?_insert, if_pos rfl]
  · rw [hafter, saved_records, withRecord_records, Dict.get?_insert, if_neg (Ne.symm hne)]
  · rw [hafter]
    exact agree_saved _

theorem viewFollows_of_harmless (hagree : e.before.savedRecords = e.before.heldRecords)
    (hstep : publishStep P e.before e.call = (e.result, e.after)) (hharmless : Harmless P e) :
    ViewFollows P staleAfter e := by
  by_cases hid : e.call.deviceId ∈ e.before.deviceIds
  · rcases publishStep_cases (P := P) hid with ⟨k, hk, hfault, exn, hraise, hafter⟩ | ⟨-, hok⟩
    · -- a file step has failed, and then the record was there already
      have hplace : e.before.records.get? e.call.deviceId = some (e.call.record P) := by
        rcases hharmless with hc | hc | hplace
        · exact absurd hid hc
        · rw [hc k hk] at hfault
          cases hfault
        · exact hplace
      rw [hstep, withRecord_eq hplace] at hafter
      rw [hstep] at hraise
      exact viewFollows_of_error hagree hraise hafter
    · obtain ⟨hresult, hafter⟩ := Prod.mk.inj (hstep.symm.trans hok)
      exact viewFollows_of_ok hresult hafter
  · obtain ⟨hresult, hafter⟩ := Prod.mk.inj (hstep.symm.trans (publish_refused hid))
    exact viewFollows_of_error hagree hresult (.inl hafter)

/-! ### The view over a run -/

variable {deviceIds : List String} {h : List (Event Registry PublishCall (Except Exn Unit))}
  {r : Registry}

theorem kept_of_run (hrun : PublishRun P deviceIds h r) : r.Kept P :=
  hrun.invariant_state (fun _ _ hnone => by cases hnone) fun _ c hr => kept_publishStep hr c

/-- If every publication is harmless, the view follows at each, and memory and file agree
in the end. -/
theorem view_of_harmless (hrun : PublishRun P deviceIds h r) (hall : ∀ e ∈ h, Harmless P e) :
    (∀ e ∈ h, ViewFollows P staleAfter e) ∧ r.savedRecords = r.heldRecords := by
  induction hrun with
  | start => exact ⟨fun e he => (List.not_mem_nil he).elim, rfl⟩
  | @next h s c hrun _ ih =>
    obtain ⟨hviews, hagree⟩ := ih fun e he => hall e (List.mem_append_left _ he)
    have hlast : ViewFollows P staleAfter ⟨s, c, _, _⟩ := viewFollows_of_harmless hagree rfl
      (hall _ (List.mem_append_right _ (List.mem_singleton_self _)))
    refine ⟨fun e he => ?_, hlast.agree⟩
    rcases List.mem_append.mp he with he | he
    · exact hviews e he
    · rw [List.mem_singleton.mp he]
      exact hlast

/-- **The registry gives the view of its last successful publications**, through a whole
run of publications, iff no file step of one fails, publications of devices that are not
enrolled and of the record in place apart. -/
theorem registry_view (hrun : PublishRun P deviceIds h r) (staleAfter : Time) :
    (∀ e ∈ h, ViewFollows P staleAfter e) ↔ ∀ e ∈ h, Harmless P e := by
  refine ⟨fun hviews e he => ?_, fun hall => (view_of_harmless hrun hall).1⟩
  obtain ⟨pre, post, rfl⟩ := List.append_of_mem he
  obtain ⟨hpre, -, hstep⟩ := hrun.split
  exact harmless_of_viewFollows (kept_of_run hpre) hstep (hviews e he)

end View

namespace Sample

/-- The first publication of the sample device; `faults` says which file steps fail. -/
def publication (faults : ℕ → Bool) : PublishCall := ⟨device, 1, .obj [], moment 0, faults⟩

/-- The device is enrolled. -/
theorem publishStep_publication (faults : ℕ → Bool) :
    publishStep platform (Registry.start [device]) (publication faults) =
      Registry.writeLocked.run faults
        ((Registry.start [device]).withRecord platform (publication faults)) :=
  publish_enrolled (List.mem_singleton_self device)

/-- The publication whose snapshot is not written. -/
def unwritten : PublishCall := publication fun k => k == 3

/-- The event of that publication. -/
def unwrittenEvent : Event Registry PublishCall (Except Exn Unit) :=
  ⟨Registry.start [device], unwritten, .error (osError "write"),
    (Registry.start [device]).withRecord platform unwritten⟩

/-- The publication in which every file step goes through. -/
def written : PublishCall := publication fun _ => false

/-- The event of that publication. -/
def writtenEvent : Event Registry PublishCall (Except Exn Unit) :=
  ⟨Registry.start [device], written, .ok (),
    ((Registry.start [device]).withRecord platform written).saved⟩

end Sample

open Sample in
/-- **A publication whose write fails is reported all the same**: the first one of a device
raises, and the registry then answers with its snapshot, which no file holds. -/
theorem unwritten_reported :
    (∃ r, PublishRun platform [device] [unwrittenEvent] r) ∧
      unwrittenEvent.result = .error (osError "write") ∧
      unwrittenEvent.before.snapshot device = none ∧
      unwrittenEvent.after.snapshot device = some (unwritten.record platform).document ∧
      unwrittenEvent.after.savedRecords ≠ unwrittenEvent.after.heldRecords ∧
      ¬ViewFollows platform (seconds 30) unwrittenEvent := by
  have hafter : unwrittenEvent.after.snapshot device = some (unwritten.record platform).document :=
    snapshot_of_record (by
      rw [show unwrittenEvent.after.records = _ from withRecord_records _ _, Dict.get?_insert,
        if_pos rfl])
  refine ⟨⟨_, Run.start.next_eq trivial ?_⟩, rfl, rfl, hafter, ?_, fun hview => ?_⟩
  · exact publishStep_publication fun k => k == 3
  · intro hc
    cases hc
  · have hsame := (hview.raised _ rfl).1 device
    rw [hafter] at hsame
    cases hsame

open Sample in
/-- The publication that goes through is in the report of its device. -/
theorem registry_view_sample : ViewFollows platform (seconds 30) writtenEvent := by
  have hrun : PublishRun platform [device] [writtenEvent] writtenEvent.after :=
    Run.start.next_eq trivial (publishStep_publication fun _ => false)
  refine (registry_view hrun (seconds 30)).mpr (fun e he => ?_) _ (List.mem_singleton_self _)
  rw [List.mem_singleton.mp he]
  exact .inr (.inl fun _ _ => rfl)

end PrinterHmi
