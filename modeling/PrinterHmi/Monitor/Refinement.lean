import PrinterHmi.Monitor.Telemetry

/-!
# The deltas tell the printer's state

A printer is in a full state at each moment (`Printer`), of which the host tells only what
is subscribed to, and of that only what has changed. What the agent has after it has merged
a notification is the printer's state all the same, restricted to the subscription
(`mergeStatus_tells`), and the sections it makes of that are those it would make of the full
state (`normalizedStatus_restrict`): every field a section reads is subscribed to.
-/

namespace PrinterHmi

/-- **The full state of a printer**: the fields of each object. -/
abbrev Printer := Dict String (Dict String Json)

namespace Printer

/-- The names of the objects. -/
def objects (S : Printer) : List String := S.entries.map Prod.fst

/-- A state as the host tells it. -/
def status (S : Printer) : Status := S.filterMap fun _ fields => some (.obj fields.entries)

/-- The fields of an object that are subscribed to. -/
def subscribedFields (s : Subscribed) (fields : Dict String Json) : Dict String Json :=
  match s with
  | some names => fields.filter fun name _ => name ∈ names
  | none => fields

/-- **The part of a state that is subscribed to.** -/
def restrict (S : Printer) (subscription : Dict String Subscribed) : Printer :=
  S.filterMap fun name fields => (subscription.get? name).map fun s => subscribedFields s fields

/-- The value of a field, `null` if there is none. -/
def value (S : Printer) (name field : String) : Json :=
  ((S.get? name).bind fun fields => fields.get? field).getD .null

/-- Two states have the same objects and fields. -/
structure SameShape (S S' : Printer) : Prop where
  objects (name : String) : (S.get? name).isSome = (S'.get? name).isSome
  fields {name : String} {a b : Dict String Json} (ha : S.get? name = some a)
    (hb : S'.get? name = some b) (field : String) : (a.get? field).isSome = (b.get? field).isSome

/-- **What a notification tells** of a printer whose state was `S` and is `S'`: subscribed
fields of `S'`, all that have changed among them. -/
structure Tells (subscription : Dict String Subscribed) (S S' D : Printer) : Prop where
  told {name : String} {fields : Dict String Json} (h : D.get? name = some fields) :
    ∃ full, (S'.restrict subscription).get? name = some full ∧
      ∀ field v, fields.get? field = some v → full.get? field = some v
  changed {name field : String} {a b : Dict String Json}
    (ha : (S.restrict subscription).get? name = some a)
    (hb : (S'.restrict subscription).get? name = some b) (hne : a.get? field ≠ b.get? field) :
    ∃ fields, D.get? name = some fields ∧ fields.get? field = b.get? field

section Merging

variable {subscription : Dict String Subscribed} {S S' D : Printer} {name : String}

theorem get?_status (S : Printer) (name : String) :
    S.status.get? name = (S.get? name).map fun fields => .obj fields.entries := by
  rw [status, Dict.get?_filterMap]
  cases S.get? name <;> rfl

theorem get?_restrict (S : Printer) (subscription : Dict String Subscribed) (name : String) :
    (S.restrict subscription).get? name = (S.get? name).bind fun fields =>
      (subscription.get? name).map fun s => subscribedFields s fields :=
  Dict.get?_filterMap _

/-- What was not there is what it is told to be. -/
theorem mergeObject_none (fields : Json) : mergeObject none fields = fields := by
  cases fields <;> rfl

/-- The first state is told as a whole. -/
theorem mergeStatus_empty (S : Printer) : mergeStatus ∅ S.status.entries = S.status := by
  ext1 name
  rw [get?_mergeStatus S.status.sorted]
  change ((S.status.get? name).map (mergeObject none)).or none = _
  cases S.status.get? name with
  | none => rfl
  | some fields => exact congrArg some (mergeObject_none fields)

/-- An object of a restricted state is the subscribed part of one of the state. -/
theorem get?_restrict_eq_some {a : Dict String Json} :
    (S.restrict subscription).get? name = some a ↔ ∃ fields s, S.get? name = some fields ∧
      subscription.get? name = some s ∧ subscribedFields s fields = a := by
  rw [get?_restrict, Option.bind_eq_some_iff]
  simp only [Option.map_eq_some_iff, ← exists_and_left]

/-- Subscribed fields are there when the fields are. -/
theorem isSome_subscribedFields {a b : Dict String Json} {field : String} (s : Subscribed)
    (h : (a.get? field).isSome = (b.get? field).isSome) :
    ((subscribedFields s a).get? field).isSome = ((subscribedFields s b).get? field).isSome := by
  cases s with
  | none => exact h
  | some names =>
    rw [subscribedFields, subscribedFields, Dict.get?_filter, Dict.get?_filter]
    by_cases hmem : field ∈ names <;> cases ha : a.get? field <;> cases hb : b.get? field <;>
      simp_all [Option.filter]

/-- **Two states of one shape have subscribed parts of one shape.** -/
theorem SameShape.restrict (hshape : S.SameShape S') (subscription : Dict String Subscribed) :
    (S.restrict subscription).SameShape (S'.restrict subscription) where
  objects name := by
    have hobjects := hshape.objects name
    rw [get?_restrict, get?_restrict]
    cases hs : subscription.get? name with
    | none => cases S.get? name <;> cases S'.get? name <;> rfl
    | some s =>
      cases ha : S.get? name <;> cases hb : S'.get? name <;> simp_all
  fields {name a b} ha hb field := by
    obtain ⟨a, s, hfull, hs, rfl⟩ := get?_restrict_eq_some.mp ha
    obtain ⟨b, s', hfull', hs', rfl⟩ := get?_restrict_eq_some.mp hb
    obtain rfl := Option.some.inj (hs.symm.trans hs')
    exact isSome_subscribedFields s (hshape.fields hfull hfull' field)

/-- **One notification**: what was the state is the new state, once it has been merged. -/
theorem mergeStatus_tells (hshape : S.SameShape S') (htells : Tells subscription S S' D) :
    mergeStatus (S.restrict subscription).status D.status.entries =
      (S'.restrict subscription).status := by
  ext1 name
  rw [get?_mergeStatus D.status.sorted]
  change ((D.status.get? name).map (mergeObject ((S.restrict subscription).status.get? name))).or
    ((S.restrict subscription).status.get? name) = _
  rw [get?_status, get?_status, get?_status]
  have hsome := (hshape.restrict subscription).objects name
  cases ha : (S.restrict subscription).get? name with
  | none =>
    -- an object that is not there is not told of
    rw [ha] at hsome
    have hb : (S'.restrict subscription).get? name = none :=
      Option.isNone_iff_eq_none.mp (by rw [← Option.not_isSome, ← hsome]; rfl)
    rw [hb]
    cases hd : D.get? name with
    | none => rfl
    | some fields =>
      obtain ⟨full, hfull, -⟩ := htells.told hd
      rw [hb] at hfull
      cases hfull
  | some a =>
    rw [ha] at hsome
    obtain ⟨b, hb⟩ := Option.isSome_iff_exists.mp hsome.symm
    rw [hb]
    cases hd : D.get? name with
    | none =>
      -- nothing of it has changed
      have hsame : a = b := by
        ext1 field
        by_contra hne
        obtain ⟨fields, hfields, -⟩ := htells.changed ha hb hne
        rw [hd] at hfields
        cases hfields
      rw [hsame]
      rfl
    | some fields =>
      have hmerged : a.update fields.entries = b := by
        ext1 field
        rw [Dict.get?_update fields.sorted]
        change (fields.get? field).or (a.get? field) = b.get? field
        cases hfield : fields.get? field with
        | some v =>
          obtain ⟨full, hfull, hsub⟩ := htells.told hd
          obtain rfl := Option.some.inj (hfull.symm.trans hb)
          exact (hsub field v hfield).symm
        | none =>
          rw [Option.none_or]
          by_contra hne
          obtain ⟨fields', hfields', heq⟩ := htells.changed ha hb hne
          obtain rfl := Option.some.inj (hfields'.symm.trans hd)
          -- a field that was there is there still, so that its change is told
          have hboth := (hshape.restrict subscription).fields ha hb field
          rw [← heq, hfield] at hboth
          have hgone : a.get? field = none := by
            rw [← Option.isNone_iff_eq_none, ← Option.not_isSome, hboth]
            rfl
          exact hne (hgone.trans (hfield.symm.trans heq))
      exact congrArg (fun d : Dict String Json => some (Json.obj d.entries)) hmerged

end Merging

/-! ### The sections need no more than is subscribed to -/

section Sections

variable {objects : List String} {S : Printer}

/-- Reading a field of an object. -/
theorem getKey_object (S : Printer) (name field : String) :
    getKey (S.status.object name) field = .ok (S.value name field) := by
  rw [Status.object, get?_status, value]
  cases S.get? name <;> rfl

/-- The section of the print, from the values of the fields. -/
def printOf (value : String → String → Json) : Json :=
  let progress := value "virtual_sdcard" "progress"
  let message := value "print_stats" "message"
  .obj [("filament_used", value "print_stats" "filament_used"),
    ("filename", value "print_stats" "filename"),
    ("message", if message.truthy then message else value "display_status" "message"),
    ("print_duration", value "print_stats" "print_duration"),
    ("progress", if progress.number?.isSome then progress else value "display_status" "progress"),
    ("state", value "print_stats" "state"),
    ("total_duration", value "print_stats" "total_duration")]

theorem progressOf_object (S : Printer) :
    progressOf (S.status.object "virtual_sdcard") (S.status.object "display_status") =
      .ok (if (S.value "virtual_sdcard" "progress").number?.isSome then
        S.value "virtual_sdcard" "progress" else S.value "display_status" "progress") := by
  simp only [progressOf, getKey_object, bind, Except.bind, pure, Except.pure]
  split <;> rfl

theorem orElse_ok (value other : Json) :
    orElse value (.ok other) = .ok (if value.truthy then value else other) := by
  rw [orElse]
  split <;> rfl

/-- The sections of a full state. -/
theorem normalizedStatus_status (S : Printer) : normalizedStatus S.status =
    .ok (.obj [("fans", .obj (sensors fanPrefixes fanKeys S.status).entries),
      ("print", printOf S.value),
      ("temperatures", .obj (sensors temperaturePrefixes temperatureKeys S.status).entries),
      ("toolhead", S.status.object "toolhead")]) := by
  simp only [normalizedStatus, printSection, progressOf_object, getKey_object, orElse_ok, bind,
    Except.bind, pure, Except.pure, printOf]

/-- A sensor is subscribed to as a whole. -/
theorem subscribed?_sensor {name : String} (h : IsSensor name) : subscribed? name = some none := by
  rw [subscribed?_eq, if_pos h]

/-- What the subscription to an object of the host's own kinds lets through. -/
theorem subscribed?_core {name field : String} {names : List String}
    (h : coreObjects.get? name = some names) (hfield : field ∈ names) :
    ∃ s, subscribed? name = some s ∧ ∀ fields : Dict String Json,
      (subscribedFields s fields).get? field = fields.get? field := by
  rw [subscribed?_eq]
  split
  · exact ⟨none, rfl, fun _ => rfl⟩
  · refine ⟨some names, congrArg (Option.map some) h, fun fields => ?_⟩
    rw [subscribedFields, Dict.get?_filter]
    cases fields.get? field <;> simp [Option.filter, hfield]

variable (hobjects : ∀ name, name ∈ objects ↔ (S.get? name).isSome)

include hobjects

/-- What is left of an object. -/
theorem get?_restrict_subscriptionFor (name : String) :
    (S.restrict (subscriptionFor objects)).get? name = (S.get? name).bind fun fields =>
      (subscribed? name).map fun s => subscribedFields s fields := by
  rw [get?_restrict, get?_subscriptionFor]
  cases hfields : S.get? name with
  | none => rfl
  | some fields =>
    have hmem : name ∈ objects := (hobjects name).mpr (by rw [hfields]; rfl)
    rw [if_pos hmem]

/-- **Every field a section reads is told.** -/
theorem value_restrict {name field : String} {names : List String}
    (h : coreObjects.get? name = some names) (hfield : field ∈ names) :
    (S.restrict (subscriptionFor objects)).value name field = S.value name field := by
  obtain ⟨s, hs, hsub⟩ := subscribed?_core h hfield
  rw [value, value, get?_restrict_subscriptionFor hobjects, hs]
  cases S.get? name with
  | none => rfl
  | some fields => exact congrArg (·.getD .null) (hsub fields)

theorem printOf_restrict :
    printOf (S.restrict (subscriptionFor objects)).value = printOf S.value := by
  have hstats : ∀ field ∈ ["state", "filename", "message", "total_duration", "print_duration",
      "filament_used"], (S.restrict (subscriptionFor objects)).value "print_stats" field =
        S.value "print_stats" field := fun field => value_restrict hobjects (by decide)
  have hdisplay : ∀ field ∈ ["progress", "message"],
      (S.restrict (subscriptionFor objects)).value "display_status" field =
        S.value "display_status" field := fun field => value_restrict hobjects (by decide)
  have hcard : ∀ field ∈ ["progress", "file_position", "file_size"],
      (S.restrict (subscriptionFor objects)).value "virtual_sdcard" field =
        S.value "virtual_sdcard" field := fun field => value_restrict hobjects (by decide)
  rw [printOf, printOf, hcard "progress" (by decide), hstats "state" (by decide),
    hstats "filename" (by decide), hstats "message" (by decide),
    hstats "total_duration" (by decide), hstats "print_duration" (by decide),
    hstats "filament_used" (by decide),
    hdisplay "progress" (by decide), hdisplay "message" (by decide)]

/-- The sensors are those of the full state. -/
theorem sensors_restrict {prefixes : List String} (keys : List String)
    (hsensor : ∀ name, startsWithAny prefixes name = true → IsSensor name) :
    sensors prefixes keys (S.restrict (subscriptionFor objects)).status =
      sensors prefixes keys S.status := by
  ext1 name
  rw [sensors, sensors, Dict.get?_filterMap, Dict.get?_filterMap, get?_status, get?_status,
    get?_restrict_subscriptionFor hobjects]
  cases S.get? name with
  | none => rfl
  | some fields =>
    by_cases hstart : startsWithAny prefixes name = true
    · rw [subscribed?_sensor (hsensor name hstart)]
      rfl
    · -- an object with another name is in neither
      have hskip : ∀ o : Option Json, (o.bind fun fields =>
          if fields.isObj = true ∧ startsWithAny prefixes name = true then
            some (Json.obj (fields.select keys id)) else none) = none := fun o => by
        cases o with
        | none => rfl
        | some v => exact if_neg fun hc => hstart hc.2
      rw [hskip, hskip]

/-- **The toolhead of the restricted state** has the three fields that are subscribed to. -/
theorem toolhead_restrict : (S.restrict (subscriptionFor objects)).status.object "toolhead" =
    .obj ((S.status.object "toolhead").select ["homed_axes", "position", "status"] id) := by
  have hsub : subscribed? "toolhead" = some (some ["homed_axes", "position", "status"]) := by decide
  rw [Status.object, Status.object, get?_status, get?_status,
    get?_restrict_subscriptionFor hobjects, hsub]
  cases S.get? "toolhead" with
  | none => rfl
  | some fields =>
    refine congrArg Json.obj (Entries.ext (Dict.sorted _)
      (Json.sorted_select (by decide) _) fun field => ?_)
    rw [Json.get?_select (by decide)]
    change (fields.filter _).get? field = if _ then Option.map id (fields.get? field) else none
    rw [Dict.get?_filter]
    cases fields.get? field <;> simp [Option.filter]

end Sections

end Printer

end PrinterHmi
