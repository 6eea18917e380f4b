import PrinterHmi.Wire
import PrinterHmi.Lib.Redact

/-!
# Telemetry of one printer

A printer host has objects, each with fields, and tells of changes to them. The agent
subscribes to some of both (`subscriptionFor`), keeps what it has been told in one
dictionary of objects (`mergeStatus`), and makes the part of a snapshot of it that a reader
wants (`normalizedStatus`).

The dictionary holds whatever the host has sent under the name of an object. That it is an
object is checked where it is merged and where sensors are collected; the objects with a
section of their own are read without a check, which raises on anything else.
-/

namespace PrinterHmi

/-! ### What is subscribed to -/

/-- `CORE_OBJECTS`. -/
def coreObjects : Dict String (List String) where
  entries := [("display_status", ["progress", "message"]),
    ("print_stats", ["state", "filename", "message", "total_duration", "print_duration",
      "filament_used"]),
    ("toolhead", ["homed_axes", "position", "status"]),
    ("virtual_sdcard", ["progress", "file_position", "file_size"])]
  sorted := by decide

/-- `TEMPERATURE_PREFIXES`. -/
def temperaturePrefixes : List String :=
  ["extruder", "heater_bed", "heater_generic ", "temperature_sensor ", "temperature_fan "]

/-- `FAN_PREFIXES`. -/
def fanPrefixes : List String := ["fan", "fan_generic ", "controller_fan ", "temperature_fan "]

/-- `name.startswith(prefixes)`. -/
def startsWithAny (prefixes : List String) (name : String) : Bool :=
  prefixes.any fun start => start.toList.isPrefixOf name.toList

/-- What is subscribed of an object: the fields, or all of them. -/
abbrev Subscribed := Option (List String)

/-- What an object is subscribed to with, if it is. -/
def subscribed? (name : String) : Option Subscribed :=
  if startsWithAny temperaturePrefixes name then some none
  else if startsWithAny fanPrefixes name then some none
  else (coreObjects.get? name).map some

/-- What an object's name adds to a subscription: a sensor is subscribed to as a whole. -/
def subscribeSensor (subscription : Dict String Subscribed) (name : String) :
    Dict String Subscribed :=
  if startsWithAny temperaturePrefixes name then subscription.insert name none
  else if startsWithAny fanPrefixes name then subscription.insert name none
  else subscription

/-- `subscription_for`. -/
def subscriptionFor (objects : List String) : Dict String Subscribed :=
  objects.foldl subscribeSensor
    (coreObjects.filterMap fun name fields => if name ∈ objects then some (some fields) else none)

/-! ### The status -/

/-- What has been told of the objects, under their names. -/
abbrev Status := Dict String Json

/-- What becomes of an object that is updated: the fields are put in, or they are put in
place of what was there. -/
def mergeObject (old : Option Json) (fields : Json) : Json :=
  match fields, old with
  | .obj new, some (.obj old) => .obj (Entries.update old new)
  | fields, _ => fields

/-- `merge_status`. -/
def mergeStatus (current : Status) (update : List (String × Json)) : Status :=
  update.foldl (fun current e => current.insert e.1 (mergeObject (current.get? e.1) e.2)) current

/-- The name of a value's type, as an exception spells it. -/
def typeName : Json → String
  | .null => "NoneType"
  | .bool _ => "bool"
  | .int _ => "int"
  | .float _ => "float"
  | .str _ => "str"
  | .arr _ => "list"
  | .obj _ => "dict"

/-- `value.get(key)`. -/
def getKey (value : Json) (key : String) : Except Exn Json :=
  match value with
  | .obj fields => .ok ((Entries.get? key fields).getD .null)
  | value => .error ⟨.attributeError,
    "'" ++ typeName value ++ "' object has no attribute 'get'"⟩

/-- `status.get(name, {})`. -/
def Status.object (status : Status) (name : String) : Json := (status.get? name).getD (.obj [])

/-- The progress of a print: that of the file, or else that of the display. -/
def progressOf (virtualSdcard displayStatus : Json) : Except Exn Json := do
  let progress ← getKey virtualSdcard "progress"
  if progress.number?.isSome then pure progress else getKey displayStatus "progress"

/-- `value or other`, where the other value may raise. -/
def orElse (value : Json) (other : Except Exn Json) : Except Exn Json :=
  if value.truthy then pure value else other

/-- The fields of a temperature sensor that are reported. -/
def temperatureKeys : List String := ["humidity", "power", "target", "temperature"]

/-- The fields of a fan that are reported. -/
def fanKeys : List String := ["rpm", "speed"]

/-- The sensors of one kind, with the fields of them that are reported. -/
def sensors (prefixes keys : List String) (status : Status) : Dict String Json :=
  status.filterMap fun name fields =>
    if fields.isObj ∧ startsWithAny prefixes name then some (.obj (fields.select keys id))
    else none

/-- The section of the print. -/
def printSection (printStats virtualSdcard displayStatus : Json) : Except Exn Json := do
  let progress ← progressOf virtualSdcard displayStatus
  let state ← getKey printStats "state"
  let filename ← getKey printStats "filename"
  let printMessage ← getKey printStats "message"
  let message ← orElse printMessage (getKey displayStatus "message")
  let totalDuration ← getKey printStats "total_duration"
  let printDuration ← getKey printStats "print_duration"
  let filamentUsed ← getKey printStats "filament_used"
  pure (.obj [("filament_used", filamentUsed), ("filename", filename), ("message", message),
    ("print_duration", printDuration), ("progress", progress), ("state", state),
    ("total_duration", totalDuration)])

/-- `normalized_status`. -/
def normalizedStatus (status : Status) : Except Exn Json := do
  let print ← printSection (status.object "print_stats") (status.object "virtual_sdcard")
    (status.object "display_status")
  pure (.obj [("fans", .obj (sensors fanPrefixes fanKeys status).entries), ("print", print),
    ("temperatures", .obj (sensors temperaturePrefixes temperatureKeys status).entries),
    ("toolhead", status.object "toolhead")])

/-! ### What the functions do, name by name -/

/-- The name is that of a sensor. -/
def IsSensor (name : String) : Prop :=
  startsWithAny temperaturePrefixes name = true ∨ startsWithAny fanPrefixes name = true

instance (name : String) : Decidable (IsSensor name) := inferInstanceAs (Decidable (_ ∨ _))

theorem subscribeSensor_eq (subscription : Dict String Subscribed) (name : String) :
    subscribeSensor subscription name =
      if IsSensor name then subscription.insert name none else subscription := by
  rw [subscribeSensor]
  by_cases htemperature : startsWithAny temperaturePrefixes name = true
  · rw [if_pos htemperature, if_pos (.inl htemperature)]
  rw [if_neg htemperature]
  by_cases hfan : startsWithAny fanPrefixes name = true
  · rw [if_pos hfan, if_pos (.inr hfan)]
  · rw [if_neg hfan, if_neg fun hc => hc.elim htemperature hfan]

theorem subscribed?_eq (name : String) :
    subscribed? name = if IsSensor name then some none else (coreObjects.get? name).map some := by
  rw [subscribed?]
  by_cases htemperature : startsWithAny temperaturePrefixes name = true
  · rw [if_pos htemperature, if_pos (.inl htemperature)]
  rw [if_neg htemperature]
  by_cases hfan : startsWithAny fanPrefixes name = true
  · rw [if_pos hfan, if_pos (.inr hfan)]
  · rw [if_neg hfan, if_neg fun hc => hc.elim htemperature hfan]

theorem get?_foldl_subscribeSensor (objects : List String) (subscription : Dict String Subscribed)
    (name : String) : (objects.foldl subscribeSensor subscription).get? name =
      if name ∈ objects ∧ IsSensor name then some none else subscription.get? name := by
  induction objects generalizing subscription with
  | nil => exact (if_neg fun hc => List.not_mem_nil hc.1).symm
  | cons name' objects ih =>
    rw [List.foldl_cons, ih, subscribeSensor_eq]
    by_cases hmem : name ∈ objects ∧ IsSensor name
    · rw [if_pos hmem, if_pos ⟨List.mem_cons_of_mem _ hmem.1, hmem.2⟩]
    rw [if_neg hmem]
    by_cases hname : name' = name
    · subst hname
      by_cases hsensor : IsSensor name'
      · rw [if_pos hsensor, if_pos ⟨List.mem_cons_self, hsensor⟩, Dict.get?_insert, if_pos rfl]
      · rw [if_neg hsensor, if_neg fun hc => hsensor hc.2]
    · have hcons : ¬(name ∈ name' :: objects ∧ IsSensor name) := fun hc =>
        (List.mem_cons.mp hc.1).elim (fun h => hname h.symm) fun h => hmem ⟨h, hc.2⟩
      rw [if_neg hcons]
      split
      · rw [Dict.get?_insert, if_neg hname]
      · rfl

/-- **What is subscribed to**: each object that is there, as its name says. -/
theorem get?_subscriptionFor (objects : List String) (name : String) :
    (subscriptionFor objects).get? name = if name ∈ objects then subscribed? name else none := by
  rw [subscriptionFor, get?_foldl_subscribeSensor, Dict.get?_filterMap, subscribed?_eq]
  by_cases hmem : name ∈ objects
  · by_cases hsensor : IsSensor name
    · rw [if_pos ⟨hmem, hsensor⟩, if_pos hmem, if_pos hsensor]
    · rw [if_neg fun hc => hsensor hc.2, if_pos hmem, if_neg hsensor]
      cases coreObjects.get? name with
      | none => rfl
      | some fields => exact if_pos hmem
  · rw [if_neg fun hc => hmem hc.1, if_neg hmem]
    cases coreObjects.get? name with
    | none => rfl
    | some fields => exact if_neg hmem

/-- **What a merge does to each object.** -/
theorem get?_mergeStatus {update : List (String × Json)} (hupdate : Entries.Sorted update)
    (current : Status) (name : String) : (mergeStatus current update).get? name =
      ((Entries.get? name update).map (mergeObject (current.get? name))).or (current.get? name) := by
  induction update generalizing current with
  | nil => rfl
  | cons e update ih =>
    obtain ⟨name', fields⟩ := e
    obtain ⟨hlt, hs⟩ := Entries.sorted_cons.mp hupdate
    have hcons : mergeStatus current ((name', fields) :: update) =
        mergeStatus (current.insert name' (mergeObject (current.get? name') fields)) update := rfl
    rw [hcons, ih hs, Dict.get?_insert, Entries.get?_cons]
    by_cases hname : name' = name
    · subst hname
      have hnone : Entries.get? name' update = none :=
        Entries.get?_eq_none_of_forall_ne fun e he => (ne_of_lt (hlt e he)).symm
      rw [if_pos rfl, if_pos rfl, hnone]
      rfl
    · rw [if_neg hname, if_neg hname]

end PrinterHmi
