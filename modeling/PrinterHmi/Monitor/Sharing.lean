import Mathlib.Data.List.GetD
import PrinterHmi.Monitor.Refinement

/-!
# Merging in place

The status is a dictionary of dictionaries that is updated in place, and what has been
yielded of it is in other hands by then. This file has the places (`Shared.heap`): an object
that is told of again is written to where it is, any other is copied to a new place, and the
toolhead of a snapshot is a copy of its own. The values of the fields have no place: they are
put in and taken out, and nothing writes to what is inside of them.

The dictionaries without places are what their places hold (`Shared.status_merge`,
`Shared.snapshot_spec`), and a place that is not one of the status is never written to, so
that a snapshot reads the same ever after (`read_of_run`).
-/

namespace PrinterHmi

/-- What the status has under a name: a dictionary, by its place, or another value. -/
inductive Slot : Type where
  | cell (r : ℕ)
  | value (v : Json)
  deriving DecidableEq

/-- The dictionaries, place by place. -/
abbrev Heap := List (List (String × Json))

/-- The value of a slot. -/
def Slot.read (heap : Heap) : Slot → Json
  | .cell r => .obj (heap.getD r [])
  | .value v => v

/-- The slot is none of a place yet to come. -/
def Slot.InRange (heap : Heap) : Slot → Prop
  | .cell r => r < heap.length
  | .value _ => True

/-- **The status, in place**: each dictionary has a place, and no other has it. -/
structure Shared where
  heap : Heap
  slots : Dict String Slot
  inRange {name : String} {slot : Slot} (h : slots.get? name = some slot) : slot.InRange heap
  plain {name : String} {v : Json} (h : slots.get? name = some (.value v)) : v.isObj = false
  distinct {name name' : String} {r : ℕ} (h : slots.get? name = some (.cell r))
    (h' : slots.get? name' = some (.cell r)) : name = name'

namespace Shared

/-- A slot is not one of the status. -/
def Apart (s : Shared) (slot : Slot) : Prop :=
  slot.InRange s.heap ∧ ∀ name r, slot = .cell r → s.slots.get? name ≠ some (.cell r)

/-- `status = {}`. -/
def empty : Shared where
  heap := []
  slots := ∅
  inRange h := by cases h
  plain h := by cases h
  distinct h := by cases h

/-- What the status is. -/
def status (s : Shared) : Status := s.slots.filterMap fun _ slot => some (slot.read s.heap)

/-- The place and the value of `deepcopy(v)`. -/
def deepcopy (heap : Heap) : Json → Heap × Slot
  | .obj fields => (heap ++ [fields], .cell heap.length)
  | v => (heap, .value v)

end Shared

/-! ### Reading after a write -/

section Heap

variable {heap : Heap} {slot : Slot} {v : Json}

theorem Slot.read_append (h : slot.InRange heap) (more : Heap) :
    slot.read (heap ++ more) = slot.read heap := by
  cases slot with
  | value v => rfl
  | cell r => exact congrArg Json.obj (List.getD_append heap more [] r h)

theorem Slot.InRange.append (h : slot.InRange heap) (more : Heap) :
    slot.InRange (heap ++ more) := by
  cases slot with
  | value v => trivial
  | cell r =>
    rw [InRange, List.length_append]
    exact Nat.lt_add_right more.length h

theorem Slot.read_set {r : ℕ} (h : slot ≠ .cell r) (fields : List (String × Json)) :
    slot.read (heap.set r fields) = slot.read heap := by
  cases slot with
  | value v => rfl
  | cell r' =>
    have hne : r ≠ r' := fun hc => h (congrArg Slot.cell hc.symm)
    rw [Slot.read, Slot.read, List.getD_eq_getElem?_getD, List.getElem?_set_ne hne,
      List.getD_eq_getElem?_getD]

theorem Slot.InRange.set (h : slot.InRange heap) (r : ℕ) (fields : List (String × Json)) :
    slot.InRange (heap.set r fields) := by
  cases slot with
  | value v => trivial
  | cell r' =>
    rw [InRange, List.length_set]
    exact h

namespace Shared

/-- A copy leaves what is there where it is. -/
theorem deepcopy_heap (heap : Heap) (v : Json) : ∃ more, (deepcopy heap v).1 = heap ++ more := by
  cases v with
  | obj fields => exact ⟨[fields], rfl⟩
  | _ => exact ⟨[], (List.append_nil heap).symm⟩

/-- A copy reads as what was copied. -/
theorem read_deepcopy (heap : Heap) (v : Json) :
    (deepcopy heap v).2.read (deepcopy heap v).1 = v := by
  cases v with
  | obj fields =>
    change Json.obj ((heap ++ [fields]).getD heap.length []) = .obj fields
    rw [List.getD_append_right _ _ _ _ le_rfl, Nat.sub_self]
    rfl
  | _ => rfl

theorem inRange_deepcopy (heap : Heap) (v : Json) :
    (deepcopy heap v).2.InRange (deepcopy heap v).1 := by
  cases v with
  | obj fields =>
    change heap.length < (heap ++ [fields]).length
    rw [List.length_append]
    exact Nat.lt_succ_self _
  | _ => trivial

/-- The place of a copy is a new one. -/
theorem cell_deepcopy {r : ℕ} (h : (deepcopy heap v).2 = .cell r) : r = heap.length := by
  cases v with
  | obj fields => exact (Slot.cell.inj h).symm
  | _ => cases h

theorem plain_deepcopy {u : Json} (h : (deepcopy heap v).2 = .value u) : u.isObj = false := by
  cases v with
  | obj fields => cases h
  | _ =>
    cases h
    rfl

end Shared

end Heap

namespace Shared

/-! ### Merging -/

/-- `current[name].update(..)`: a dictionary is written to, in its place. -/
def write (s : Shared) (r : ℕ) (fields : List (String × Json)) : Shared where
  heap := s.heap.set r fields
  slots := s.slots
  inRange h := (s.inRange h).set r fields
  plain := s.plain
  distinct := s.distinct

/-- `current[name] = deepcopy(v)`. -/
def put (s : Shared) (name : String) (v : Json) : Shared where
  heap := (deepcopy s.heap v).1
  slots := s.slots.insert name (deepcopy s.heap v).2
  inRange {name' slot} h := by
    rw [Dict.get?_insert] at h
    split at h
    · obtain rfl := Option.some.inj h
      exact inRange_deepcopy s.heap v
    · obtain ⟨more, hmore⟩ := deepcopy_heap s.heap v
      rw [hmore]
      exact (s.inRange h).append more
  plain {name' u} h := by
    rw [Dict.get?_insert] at h
    split at h
    · exact plain_deepcopy (Option.some.inj h)
    · exact s.plain h
  distinct {name₁ name₂ r} h₁ h₂ := by
    -- the new place is that of no other name
    have hnew : ∀ name', s.slots.get? name' = some (.cell r) →
        (deepcopy s.heap v).2 ≠ .cell r := fun name' h hc => by
      have hlt : r < s.heap.length := s.inRange h
      exact absurd (cell_deepcopy hc) (ne_of_lt hlt)
    rw [Dict.get?_insert] at h₁ h₂
    split at h₁
    · next heq₁ =>
      split at h₂
      · next heq₂ => exact heq₁.symm.trans heq₂
      · exact absurd (Option.some.inj h₁) (hnew name₂ h₂)
    · split at h₂
      · exact absurd (Option.some.inj h₂) (hnew name₁ h₁)
      · exact s.distinct h₁ h₂

/-- What one object of an update does. -/
def mergeObject (s : Shared) (name : String) (fields : Json) : Shared :=
  match fields, s.slots.get? name with
  | .obj new, some (.cell r) => s.write r (Entries.update (s.heap.getD r []) new)
  | fields, _ => s.put name fields

/-- `merge_status`, in place. -/
def merge (s : Shared) (update : List (String × Json)) : Shared :=
  update.foldl (fun s e => s.mergeObject e.1 e.2) s

variable {s : Shared} {name : String} {slot : Slot} {v : Json}

theorem get?_status (s : Shared) (name : String) :
    s.status.get? name = (s.slots.get? name).map fun slot => slot.read s.heap := by
  rw [status, Dict.get?_filterMap]
  cases s.slots.get? name <;> rfl

theorem status_put (s : Shared) (name : String) (v : Json) :
    (s.put name v).status = s.status.insert name v := by
  ext1 name'
  rw [get?_status, put, Dict.get?_insert, Dict.get?_insert, get?_status]
  split
  · exact congrArg some (read_deepcopy s.heap v)
  · cases h : s.slots.get? name' with
    | none => rfl
    | some slot =>
      obtain ⟨more, hmore⟩ := deepcopy_heap s.heap v
      change some (slot.read (deepcopy s.heap v).1) = some (slot.read s.heap)
      rw [hmore, Slot.read_append (s.inRange h)]

theorem status_write {r : ℕ} (h : s.slots.get? name = some (.cell r))
    (fields : List (String × Json)) :
    (s.write r fields).status = s.status.insert name (.obj fields) := by
  ext1 name'
  rw [get?_status, write, Dict.get?_insert, get?_status]
  split
  · next heq =>
    subst heq
    have hlt : r < s.heap.length := s.inRange h
    rw [h, Option.map_some, Slot.read, List.getD_eq_getElem?_getD,
      List.getElem?_set_self hlt]
    rfl
  · next hne =>
    cases h' : s.slots.get? name' with
    | none => rfl
    | some slot =>
      have hslot : slot ≠ .cell r := fun hc => hne (s.distinct h (hc ▸ h'))
      rw [Option.map_some, Slot.read_set hslot]
      rfl

/-- **One object of an update, in place and in the status.** -/
theorem status_mergeObject (s : Shared) (name : String) (fields : Json) :
    (s.mergeObject name fields).status =
      s.status.insert name (PrinterHmi.mergeObject (s.status.get? name) fields) := by
  rw [get?_status]
  unfold Shared.mergeObject
  split
  · next new r h =>
    rw [status_write h, h]
    rfl
  · next fields _ _ hput =>
    rw [status_put]
    refine congrArg _ ?_
    cases h : s.slots.get? name with
    | none => exact (Printer.mergeObject_none fields).symm
    | some slot =>
      cases slot with
      | cell r =>
        cases fields with
        | obj new => exact absurd h (hput new r rfl)
        | _ => rfl
      | value u =>
        have hplain := s.plain h
        cases u with
        | obj _ => cases hplain
        | _ => cases fields <;> rfl

/-- **The places hold what the dictionaries without places are.** -/
theorem status_merge (s : Shared) (update : List (String × Json)) :
    (s.merge update).status = mergeStatus s.status update := by
  induction update generalizing s with
  | nil => rfl
  | cons e update ih =>
    have hcons : s.merge (e :: update) = (s.mergeObject e.1 e.2).merge update := rfl
    rw [hcons, ih, status_mergeObject]
    rfl

/-! ### What is not of the status is left -/

/-- `s'` has the slots of `s` that are not of the status as they were. -/
def Spares (s s' : Shared) : Prop :=
  ∀ slot, s.Apart slot → s'.Apart slot ∧ slot.read s'.heap = slot.read s.heap

theorem Spares.refl (s : Shared) : s.Spares s := fun _ h => ⟨h, rfl⟩

theorem Spares.trans {s' s'' : Shared} (h : s.Spares s') (h' : s'.Spares s'') : s.Spares s'' := by
  intro slot hslot
  obtain ⟨hslot', hread⟩ := h slot hslot
  obtain ⟨hslot'', hread'⟩ := h' slot hslot'
  exact ⟨hslot'', hread'.trans hread⟩

theorem spares_put (s : Shared) (name : String) (v : Json) : s.Spares (s.put name v) := by
  rintro slot ⟨hrange, hapart⟩
  obtain ⟨more, hmore⟩ := deepcopy_heap s.heap v
  have hheap : (s.put name v).heap = s.heap ++ more := hmore
  refine ⟨⟨hheap ▸ hrange.append more, fun name' r hr h => ?_⟩, ?_⟩
  · rw [put, Dict.get?_insert] at h
    split at h
    · -- the place of the copy is not in range yet
      subst hr
      exact absurd (cell_deepcopy (Option.some.inj h)) (ne_of_lt hrange)
    · exact hapart name' r hr h
  · rw [hheap, Slot.read_append hrange]

theorem spares_write {r : ℕ} (h : s.slots.get? name = some (.cell r))
    (fields : List (String × Json)) : s.Spares (s.write r fields) := by
  rintro slot ⟨hrange, hapart⟩
  exact ⟨⟨hrange.set r fields, hapart⟩, Slot.read_set (fun hc => hapart name r hc h) fields⟩

theorem spares_mergeObject (s : Shared) (name : String) (fields : Json) :
    s.Spares (s.mergeObject name fields) := by
  unfold Shared.mergeObject
  split
  · next new r h => exact spares_write h _
  · exact spares_put s name _

/-- **A merge writes to no dictionary but those of the status.** -/
theorem spares_merge (s : Shared) (update : List (String × Json)) :
    s.Spares (s.merge update) := by
  induction update generalizing s with
  | nil => exact Spares.refl s
  | cons e update ih => exact (spares_mergeObject s e.1 e.2).trans (ih _)

/-! ### Snapshots -/

/-- The status of a snapshot that has been yielded. The toolhead is a dictionary with a place
of its own; the other sections are new dictionaries that nothing else has. -/
structure Sections where
  print : Json
  temperatures : Json
  fans : Json
  toolhead : Slot

/-- What a snapshot's status is. -/
def Sections.read (heap : Heap) (y : Sections) : Json :=
  .obj [("fans", y.fans), ("print", y.print), ("temperatures", y.temperatures),
    ("toolhead", y.toolhead.read heap)]

/-- The status with a copy beside it. -/
def copy (s : Shared) (v : Json) : Shared where
  heap := (deepcopy s.heap v).1
  slots := s.slots
  inRange h := by
    obtain ⟨more, hmore⟩ := deepcopy_heap s.heap v
    rw [hmore]
    exact (s.inRange h).append more
  plain := s.plain
  distinct := s.distinct

/-- `normalized_status`, in place. -/
def snapshot (s : Shared) : Except Exn (Shared × Sections) := do
  let print ← printSection (s.status.object "print_stats") (s.status.object "virtual_sdcard")
    (s.status.object "display_status")
  let toolhead := s.status.object "toolhead"
  pure (s.copy toolhead, {
    print := print
    temperatures := .obj (sensors temperaturePrefixes temperatureKeys s.status).entries
    fans := .obj (sensors fanPrefixes fanKeys s.status).entries
    toolhead := (deepcopy s.heap toolhead).2 })

theorem status_copy (s : Shared) (v : Json) : (s.copy v).status = s.status := by
  ext1 name
  rw [get?_status, get?_status]
  change (s.slots.get? name).map (fun slot => slot.read (deepcopy s.heap v).1) = _
  cases h : s.slots.get? name with
  | none => rfl
  | some slot =>
    obtain ⟨more, hmore⟩ := deepcopy_heap s.heap v
    rw [Option.map_some, Option.map_some, hmore, Slot.read_append (s.inRange h)]

theorem spares_copy (s : Shared) (v : Json) : s.Spares (s.copy v) := by
  rintro slot ⟨hrange, hapart⟩
  obtain ⟨more, hmore⟩ := deepcopy_heap s.heap v
  have hheap : (s.copy v).heap = s.heap ++ more := hmore
  exact ⟨⟨hheap ▸ hrange.append more, hapart⟩, by rw [hheap, Slot.read_append hrange]⟩

/-- The copy is no dictionary of the status. -/
theorem apart_copy (s : Shared) (v : Json) : (s.copy v).Apart (deepcopy s.heap v).2 := by
  refine ⟨inRange_deepcopy s.heap v, fun name r hr h => ?_⟩
  have hlt : r < s.heap.length := s.inRange h
  exact absurd (cell_deepcopy hr) (ne_of_lt hlt)

/-- **A snapshot is the normalized status**, raised where that raises. -/
theorem normalizedStatus_eq (s : Shared) : normalizedStatus s.status =
    s.snapshot.map fun (s', y) => y.read s'.heap := by
  rw [normalizedStatus, snapshot]
  cases printSection (s.status.object "print_stats") (s.status.object "virtual_sdcard")
    (s.status.object "display_status") with
  | error e => rfl
  | ok print =>
    have hread := read_deepcopy s.heap (s.status.object "toolhead")
    refine congrArg Except.ok ?_
    change _ = Json.obj [_, _, _, ("toolhead", (deepcopy _ _).2.read (deepcopy _ _).1)]
    rw [hread]

/-- **What a snapshot leaves**: the status is what it was, and what has been yielded before
is too. -/
theorem snapshot_spec {s' : Shared} {y : Sections} (h : s.snapshot = .ok (s', y)) :
    s'.status = s.status ∧ s.Spares s' ∧ s'.Apart y.toolhead := by
  rw [snapshot] at h
  cases hprint : printSection (s.status.object "print_stats") (s.status.object "virtual_sdcard")
    (s.status.object "display_status") with
  | error e =>
    rw [hprint] at h
    cases h
  | ok print =>
    rw [hprint] at h
    cases h
    exact ⟨status_copy s _, spares_copy s _, apart_copy s _⟩

theorem Spares.read {s' : Shared} (h : s.Spares s') {y : Sections} (hy : s.Apart y.toolhead) :
    y.read s'.heap = y.read s.heap := by
  rw [Sections.read, Sections.read, (h _ hy).2]

/-! ### Runs -/

/-- The updates of a run, merged one after the other, with a snapshot after each. -/
def run (s : Shared) : List (List (String × Json)) → Except Exn (Shared × List Sections)
  | [] => .ok (s, [])
  | update :: updates => do
    let (s, y) ← (s.merge update).snapshot
    let (s, ys) ← run s updates
    pure (s, y :: ys)

/-- **What has been yielded reads the same ever after**: the snapshots of a run are, at its
end, what they were when they were made. -/
theorem read_of_run {updates : List (List (String × Json))} {s' : Shared} {ys : List Sections}
    (h : s.run updates = .ok (s', ys)) :
    s'.status = updates.foldl mergeStatus s.status ∧ s.Spares s' ∧
      ys.length = updates.length ∧ ∀ (i : ℕ) (hi : i < ys.length),
        normalizedStatus ((updates.take (i + 1)).foldl mergeStatus s.status) =
          .ok (ys[i].read s'.heap) := by
  induction updates generalizing s ys with
  | nil =>
    cases h
    exact ⟨rfl, Spares.refl _, rfl, fun i hi => absurd hi (Nat.not_lt_zero i)⟩
  | cons update updates ih =>
    rw [run] at h
    cases hfirst : (s.merge update).snapshot with
    | error e =>
      rw [hfirst] at h
      cases h
    | ok first =>
      obtain ⟨s₁, y⟩ := first
      rw [hfirst] at h
      change (s₁.run updates >>= fun r => pure (r.1, y :: r.2)) = _ at h
      cases hrest : s₁.run updates with
      | error e =>
        rw [hrest] at h
        cases h
      | ok rest =>
        obtain ⟨s₂, ys'⟩ := rest
        rw [hrest] at h
        cases h
        obtain ⟨hstatus, hspares, hlength, hreads⟩ := ih hrest
        obtain ⟨hkept, hspared, hapart⟩ := snapshot_spec hfirst
        have hmerged : s₁.status = mergeStatus s.status update :=
          hkept.trans (status_merge s update)
        rw [hmerged] at hstatus hreads
        refine ⟨hstatus, ((spares_merge s update).trans hspared).trans hspares,
          congrArg Nat.succ hlength, fun i hi => ?_⟩
        cases i with
        | zero =>
          -- the first snapshot was made before the others, and they have left it
          have hread := normalizedStatus_eq (s.merge update)
          rw [hfirst, status_merge] at hread
          rw [List.take_succ_cons, List.take_zero, List.foldl_cons, List.foldl_nil, hread]
          exact congrArg Except.ok (hspares.read hapart).symm
        | succ i => exact hreads i (Nat.lt_of_succ_lt_succ hi)

/-- A run goes on as long as the sections can be made. -/
theorem exists_run {updates : List (List (String × Json))}
    (h : ∀ i < updates.length, ∃ v,
      normalizedStatus ((updates.take (i + 1)).foldl mergeStatus s.status) = .ok v) :
    ∃ s' ys, s.run updates = .ok (s', ys) := by
  induction updates generalizing s with
  | nil => exact ⟨s, [], rfl⟩
  | cons update updates ih =>
    obtain ⟨v, hv⟩ := h 0 (Nat.zero_lt_succ _)
    have hfirst := normalizedStatus_eq (s.merge update)
    rw [status_merge] at hfirst
    change normalizedStatus (mergeStatus s.status update) = _ at hv
    rw [hv] at hfirst
    -- the snapshot over the heap fails only where the one over the values does
    cases hsnapshot : (s.merge update).snapshot with
    | error e =>
      rw [hsnapshot] at hfirst
      cases hfirst
    | ok first =>
      obtain ⟨s₁, y⟩ := first
      have hmerged : s₁.status = mergeStatus s.status update :=
        (snapshot_spec hsnapshot).1.trans (status_merge s update)
      have hrest : ∀ i < updates.length, ∃ v,
          normalizedStatus ((updates.take (i + 1)).foldl mergeStatus s₁.status) = .ok v := by
        intro i hi
        rw [hmerged]
        exact h (i + 1) (Nat.succ_lt_succ hi)
      obtain ⟨s₂, ys, hrun⟩ := ih hrest
      refine ⟨s₂, y :: ys, ?_⟩
      rw [run, hsnapshot]
      change (s₁.run updates >>= fun r => pure (r.1, y :: r.2)) = _
      rw [hrun]
      rfl

end Shared

/-! ### The deltas of a printer -/

namespace Printer

section History

variable (S D : ℕ → Printer) (subscription : Dict String Subscribed)

/-- What is told of a history until its moment `i`: the first state, as far as it is
subscribed to, and then what the notifications carry. -/
def tellings (i : ℕ) : List (List (String × Json)) :=
  ((S 0).restrict subscription).status.entries ::
    (List.range i).map fun k => (D (k + 1)).status.entries

/-- The status once the notification of moment `i` has been merged. -/
def statusAfter (i : ℕ) : Status := (tellings S D subscription i).foldl mergeStatus ∅

variable {S D subscription} {n : ℕ}

theorem statusAfter_succ (i : ℕ) : statusAfter S D subscription (i + 1) =
    mergeStatus (statusAfter S D subscription i) (D (i + 1)).status.entries := by
  rw [statusAfter, statusAfter, tellings, tellings, List.range_succ, List.map_append,
    ← List.cons_append, List.foldl_append]
  rfl

theorem length_tellings (i : ℕ) : (tellings S D subscription i).length = i + 1 := by
  rw [tellings, List.length_cons, List.length_map, List.length_range]

/-- The tellings until a moment are the first of those until a later one. -/
theorem take_tellings {i j : ℕ} (h : i ≤ j) :
    (tellings S D subscription j).take (i + 1) = tellings S D subscription i := by
  rw [tellings, List.take_succ_cons, ← List.map_take, List.take_range, Nat.min_eq_left h, tellings]

/-- **The status is the state**, as far as it is subscribed to. -/
theorem statusAfter_eq (hshape : ∀ i < n, (S i).SameShape (S (i + 1)))
    (htells : ∀ i < n, Tells subscription (S i) (S (i + 1)) (D (i + 1))) {i : ℕ} (hi : i ≤ n) :
    statusAfter S D subscription i = ((S i).restrict subscription).status := by
  induction i with
  | zero => exact mergeStatus_empty _
  | succ i ih =>
    rw [statusAfter_succ, ih (Nat.le_of_succ_le hi)]
    exact mergeStatus_tells (hshape i hi) (htells i hi)

theorem isSome_get?_history (hshape : ∀ i < n, (S i).SameShape (S (i + 1))) {i : ℕ} (hi : i ≤ n)
    (name : String) : ((S i).get? name).isSome = ((S 0).get? name).isSome := by
  induction i with
  | zero => rfl
  | succ i ih => rw [← (hshape i hi).objects name, ih (Nat.le_of_succ_le hi)]

end History

/-- **The deltas refine the state.** After each notification the status is the printer's state
restricted to the subscription, the sections made of it are those made of the full state – the
toolhead with the fields that are subscribed to – and every snapshot yielded so far reads as it
did when it was yielded. -/
theorem deltas_refine_state {S D : ℕ → Printer} {objects : List String} {n : ℕ}
    (hobjects : ∀ name, name ∈ objects ↔ ((S 0).get? name).isSome)
    (hshape : ∀ i < n, (S i).SameShape (S (i + 1)))
    (htells : ∀ i < n, Tells (subscriptionFor objects) (S i) (S (i + 1)) (D (i + 1))) :
    ∀ i ≤ n,
      statusAfter S D (subscriptionFor objects) i =
        ((S i).restrict (subscriptionFor objects)).status ∧
      (∃ part full, normalizedStatus (statusAfter S D (subscriptionFor objects) i) = .ok part ∧
        normalizedStatus (S i).status = .ok full ∧
        (∀ name ∈ ["print", "temperatures", "fans"], part.field name = full.field name) ∧
        part.field "toolhead" =
          .obj ((full.field "toolhead").select ["homed_axes", "position", "status"] id)) ∧
      ∃ s ys, Shared.empty.run (tellings S D (subscriptionFor objects) i) = .ok (s, ys) ∧
        s.status = statusAfter S D (subscriptionFor objects) i ∧ ys.length = i + 1 ∧
        ∀ (k : ℕ) (hk : k < ys.length),
          normalizedStatus (statusAfter S D (subscriptionFor objects) k) =
            .ok (ys[k].read s.heap) := by
  -- what is normalized is the host's state, as far as it is subscribed to
  have hnormalized : ∀ i ≤ n,
      normalizedStatus (statusAfter S D (subscriptionFor objects) i) = .ok (.obj
        [("fans", .obj (sensors fanPrefixes fanKeys (S i).status).entries),
        ("print", printOf (S i).value),
        ("temperatures", .obj (sensors temperaturePrefixes temperatureKeys (S i).status).entries),
        ("toolhead", .obj (((S i).status.object "toolhead").select
          ["homed_axes", "position", "status"] id))]) := by
    intro i hi
    have hthere : ∀ name, name ∈ objects ↔ ((S i).get? name).isSome := fun name => by
      rw [isSome_get?_history hshape hi]
      exact hobjects name
    rw [statusAfter_eq hshape htells hi, normalizedStatus_status, printOf_restrict hthere,
      sensors_restrict hthere _ fun _ h => .inl h, sensors_restrict hthere _ fun _ h => .inr h,
      toolhead_restrict hthere]
  intro i hi
  refine ⟨statusAfter_eq hshape htells hi,
    ⟨_, _, hnormalized i hi, normalizedStatus_status (S i), ?_, rfl⟩, ?_⟩
  · simp only [List.mem_cons, List.not_mem_nil, or_false, forall_eq_or_imp, forall_eq]
    exact ⟨rfl, rfl, rfl⟩
  have hempty : Shared.empty.status = ∅ := rfl
  obtain ⟨s, ys, hrun⟩ : ∃ s ys,
      Shared.empty.run (tellings S D (subscriptionFor objects) i) = .ok (s, ys) := by
    refine Shared.exists_run fun k hk => ?_
    rw [length_tellings] at hk
    rw [take_tellings (Nat.le_of_lt_succ hk), hempty]
    exact ⟨_, hnormalized k ((Nat.le_of_lt_succ hk).trans hi)⟩
  obtain ⟨hstatus, -, hlength, hreads⟩ := Shared.read_of_run hrun
  rw [length_tellings] at hlength
  refine ⟨s, ys, hrun, hstatus, hlength, fun k hk => ?_⟩
  have hki : k ≤ i := Nat.le_of_lt_succ (hk.trans_eq hlength)
  have hread := hreads k hk
  rw [take_tellings hki] at hread
  exact hread

section Sample

/-- A printer whose extruder is heated up, a degree with each moment. -/
def heated (i : ℕ) : Printer :=
  ((∅ : Printer).insert "extruder"
    (((∅ : Dict String Json).insert "temperature" (.int i)).insert "target" (.int 200))).insert
    "toolhead" (((∅ : Dict String Json).insert "position" (.arr [.int 0, .int 0])).insert
      "max_velocity" (.int 300))

/-- What is told of it: the temperature. -/
def heatedDelta (i : ℕ) : Printer :=
  (∅ : Printer).insert "extruder" ((∅ : Dict String Json).insert "temperature" (.int i))

theorem sameShape_heated (i j : ℕ) : (heated i).SameShape (heated j) where
  objects name := by
    simp only [heated, Dict.get?_insert, Dict.get?_empty]
    split_ifs <;> rfl
  fields {name a b} ha hb field := by
    simp only [heated, Dict.get?_insert, Dict.get?_empty] at ha hb
    split_ifs at ha hb <;> cases ha <;> cases hb
    · rfl
    · simp only [Dict.get?_insert, Dict.get?_empty]
      split_ifs <;> rfl

theorem tells_heated (i j : ℕ) :
    Tells (subscriptionFor ["extruder", "toolhead"]) (heated i) (heated j) (heatedDelta j) := by
  have hextruder : (subscriptionFor ["extruder", "toolhead"]).get? "extruder" = some none := by
    decide
  refine ⟨fun {name fields} h => ?_, fun {name field a b} ha hb hne => ?_⟩
  · simp only [heatedDelta, Dict.get?_insert, Dict.get?_empty] at h
    split_ifs at h with hname
    cases h
    subst hname
    refine ⟨_, get?_restrict_eq_some.mpr ⟨_, _, rfl, hextruder, rfl⟩, fun field v hv => ?_⟩
    simp only [Dict.get?_insert, Dict.get?_empty] at hv
    split_ifs at hv with hfield
    subst hfield
    exact hv
  · obtain ⟨fields, s, hfields, hs, rfl⟩ := get?_restrict_eq_some.mp ha
    obtain ⟨fields', s', hfields', hs', rfl⟩ := get?_restrict_eq_some.mp hb
    obtain rfl := Option.some.inj (hs.symm.trans hs')
    simp only [heated, Dict.get?_insert, Dict.get?_empty] at hfields hfields'
    split_ifs at hfields hfields' with htoolhead hname <;> cases hfields <;> cases hfields'
    · exact absurd rfl hne
    · subst hname
      obtain rfl := Option.some.inj (hs.symm.trans hextruder)
      simp only [subscribedFields, Dict.get?_insert, Dict.get?_empty] at hne ⊢
      split_ifs at hne with htarget htemperature
      · exact absurd rfl hne
      · subst htemperature
        exact ⟨_, rfl, rfl⟩
      · exact absurd rfl hne

/-- A heater that is watched for two notifications. -/
theorem deltas_refine_state_sample :
    statusAfter heated heatedDelta (subscriptionFor ["extruder", "toolhead"]) 2 =
      ((heated 2).restrict (subscriptionFor ["extruder", "toolhead"])).status ∧
    (∃ part full, normalizedStatus
        (statusAfter heated heatedDelta (subscriptionFor ["extruder", "toolhead"]) 2) = .ok part ∧
      normalizedStatus (heated 2).status = .ok full ∧
      (∀ name ∈ ["print", "temperatures", "fans"], part.field name = full.field name) ∧
      part.field "toolhead" =
        .obj ((full.field "toolhead").select ["homed_axes", "position", "status"] id)) ∧
    ∃ s ys, Shared.empty.run
        (tellings heated heatedDelta (subscriptionFor ["extruder", "toolhead"]) 2) = .ok (s, ys) ∧
      s.status = statusAfter heated heatedDelta (subscriptionFor ["extruder", "toolhead"]) 2 ∧
      ys.length = 3 ∧ ∀ (k : ℕ) (hk : k < ys.length),
        normalizedStatus
            (statusAfter heated heatedDelta (subscriptionFor ["extruder", "toolhead"]) k) =
          .ok (ys[k].read s.heap) := by
  have hobjects : ∀ name, name ∈ ["extruder", "toolhead"] ↔ ((heated 0).get? name).isSome := by
    intro name
    simp only [heated, Dict.get?_insert, Dict.get?_empty, List.mem_cons, List.not_mem_nil, or_false]
    split_ifs with htoolhead hextruder
    · exact iff_of_true (.inr htoolhead.symm) rfl
    · exact iff_of_true (.inl hextruder.symm) rfl
    · exact iff_of_false (fun hc => hc.elim (fun h => hextruder h.symm)
        fun h => htoolhead h.symm) (by simp)
  exact deltas_refine_state hobjects (fun i _ => sameShape_heated i (i + 1))
    (fun i _ => tells_heated i (i + 1)) 2 le_rfl

end Sample

end Printer

end PrinterHmi
