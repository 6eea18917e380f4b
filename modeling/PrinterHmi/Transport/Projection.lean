import PrinterHmi.Lib.JsonPath
import PrinterHmi.Sample
import PrinterHmi.Transport.Snapshot

/-!
# The privacy filter is a projection

What `sanitize_snapshot` leaves of an instance is what may be seen of it: of the five fields
that are copied, everything at the end of a path without a private name, where it was and as it
was; of the error, that there is one. Nothing more of a snapshot has an effect, so two snapshots
that may be seen to be the same are filtered to the same document, or refused alike
(`sanitizeSnapshot_is_projection`).
-/

namespace PrinterHmi

open Json

section Projection

variable (P : Platform)

/-! ### What may be seen -/

/-- The path to a value below an instance. -/
def instancePath (id : String) (p : Path) : Path := .key "instances" :: .key id :: p

/-- The path starts with one of the fields that are copied, and has no private name. -/
def SeenPath (p : Path) : Prop :=
  (∃ name ∈ snapshotInstanceKeys, p.head? = some (.key name)) ∧ p.Passes (isPublicKey P)

/-- The error of an instance is truthy. -/
def HasError (document : Json) (id : String) : Prop :=
  ∃ source, document.at? (instancePath id []) = some source ∧
    (source.field "error").truthy = true

/-- **Two instances may be seen to be the same**: the five fields agree in what is not private,
and both have an error or none has. -/
structure SameInstance (source source' : Json) : Prop where
  isObj : source.isObj = source'.isObj
  fields : ∀ name ∈ snapshotInstanceKeys, ∀ p : Path, p.Passes (isPublicKey P) →
    LooksSame source source' (.key name :: p)
  error : (source.field "error").truthy = (source'.field "error").truthy

/-- **Two snapshots may be seen to be the same**: they have the same version and time, and
instances with the same identifiers that may be seen to be the same. -/
structure SameSnapshot (document document' : Json) : Prop where
  isObj : document.isObj = document'.isObj
  schemaVersion : document.field "schema_version" = document'.field "schema_version"
  generatedAt : document.field "generated_at" = document'.field "generated_at"
  instances : ∃ sources sources', document.field "instances" = .obj sources ∧
    document'.field "instances" = .obj sources' ∧
    List.Forall₂ (fun e e' => e.1 = e'.1 ∧ SameInstance P e.2 e'.2) sources sources'

/-! ### The values that are left -/

variable {P} {document result source w : Json} {id : String} {p : Path}

/-- There is nothing below a text. -/
theorem at?_str (s : String) (p : Path) : (Json.str s).at? p = some w ↔ p = [] ∧ w = .str s := by
  cases p with
  | nil => exact ⟨fun h => ⟨rfl, (Option.some.inj h).symm⟩, fun h => congrArg some h.2.symm⟩
  | cons t p =>
    refine ⟨fun h => ?_, fun h => by cases h.1⟩
    cases t <;> cases h

theorem seenPath_cons {name : String} (hname : name ∈ snapshotInstanceKeys) :
    SeenPath P (.key name :: p) ↔ p.Passes (isPublicKey P) := by
  have hpublic : isPublicKey P name = true :=
    isPublicKey_of_written (List.mem_append_right _ hname)
  rw [SeenPath, passes_key_cons, and_iff_right hpublic]
  exact and_iff_right ⟨name, hname, rfl⟩

theorem not_seenPath_cons {name : String} (hname : name ∉ snapshotInstanceKeys) :
    ¬SeenPath P (.key name :: p) := by
  rintro ⟨⟨name', hname', hhead⟩, -⟩
  obtain rfl := Step.key.inj (Option.some.inj hhead)
  exact hname hname'

/-- **What is left of an instance**: the scalars at the ends of the paths that may be seen, and
the mark of an error. -/
theorem at?_sanitizeInstance (hw : w.isScalar = true) (source : Json) (p : Path) :
    (sanitizeInstance P source).at? p = some w ↔ SeenPath P p ∧ source.at? p = some w ∨
      p = [.key "error"] ∧ w = .str "unavailable" ∧ (source.field "error").truthy = true := by
  obtain ⟨target, htarget⟩ := isObj_iff.mp (sanitizeInstance_isObj (P := P) source)
  -- the projection is an object: only a path that begins with a key goes on
  match p with
  | [] =>
    refine iff_of_false (fun h => ?_) ?_
    · rw [htarget] at h
      obtain rfl := Option.some.inj h
      cases hw
    · rintro (⟨⟨⟨_, -, hhead⟩, -⟩, -⟩ | ⟨hp, -⟩)
      · cases hhead
      · cases hp
  | .index i :: p =>
    refine iff_of_false (fun h => ?_) ?_
    · rw [htarget] at h
      cases h
    · rintro (⟨⟨⟨_, -, hhead⟩, -⟩, -⟩ | ⟨hp, -⟩)
      · cases hhead
      · cases hp
  | .key name :: p =>
    have hstep : (sanitizeInstance P source).step? (.key name) = _ :=
      get?_sanitizeInstance (P := P) source name
    rw [at?_cons, hstep]
    by_cases hname : name ∈ snapshotInstanceKeys
    · -- a field that is copied
      have herror : (Step.key name :: p) ≠ [.key "error"] := fun hc => by
        obtain rfl := Step.key.inj (List.cons.inj hc).1
        exact error_notMem_snapshotInstanceKeys hname
      rw [if_pos hname, seenPath_cons hname, or_iff_left fun hc => herror hc.1, at?_cons]
      change ((source.get? name).map (sanitizeSnapshotValue P)).bind _ = _ ↔
        _ ∧ (source.get? name).bind _ = _
      cases source.get? name with
      | none => exact iff_of_false (by simp) (by simp)
      | some u => exact at?_redact_scalar hw p
    · rw [if_neg hname, or_iff_right fun hc => not_seenPath_cons hname hc.1]
      -- a key that is not copied is there for the error only, with its fixed text
      by_cases herror : name = "error" ∧ (source.field "error").truthy = true
      · obtain ⟨rfl, htruthy⟩ := herror
        rw [if_pos ⟨rfl, htruthy⟩]
        refine (at?_str "unavailable" p).trans ?_
        constructor
        · rintro ⟨rfl, hvalue⟩
          exact ⟨rfl, hvalue, htruthy⟩
        · rintro ⟨hp, hvalue, -⟩
          exact ⟨(List.cons.inj hp).2, hvalue⟩
      · rw [if_neg herror]
        refine iff_of_false (by simp) fun hc => herror ?_
        exact ⟨Step.key.inj (List.cons.inj hc.1).1, hc.2.2⟩

/-- What is below an instance. -/
theorem at?_instancePath (document : Json) (id : String) (p : Path) :
    document.at? (instancePath id p) = ((document.field "instances").get? id).bind
      fun source => source.at? p := by
  rw [instancePath, at?_cons, Json.step?, Json.field]
  cases document.get? "instances" with
  | none => rfl
  | some instances => rfl

theorem get?_map_sources (f : Json → Json) (sources : List (String × Json)) (id : String) :
    Entries.get? id (sources.map fun source => (source.1, f source.2)) =
      (Entries.get? id sources).map f := by
  induction sources with
  | nil => rfl
  | cons e sources ih =>
    obtain ⟨id', source⟩ := e
    rw [List.map_cons, Entries.get?_cons, Entries.get?_cons, ih]
    split <;> rfl

/-- **The scalars below the instances of the result.** -/
theorem at?_sanitizeSnapshot (h : sanitizeSnapshot P document = .ok result) (hw : w.isScalar = true)
    (id : String) (p : Path) : result.at? (instancePath id p) = some w ↔
      SeenPath P p ∧ document.at? (instancePath id p) = some w ∨
        p = [.key "error"] ∧ w = .str "unavailable" ∧ HasError document id := by
  obtain ⟨-, -, sources, hsources, -, -, rfl⟩ := sanitizeSnapshot_eq_ok.mp h
  have hresult : ((snapshotDocument (document.field "generated_at")
      (sources.map fun source => (source.1, sanitizeInstance P source.2))).field "instances").get?
        id = (Entries.get? id sources).map (sanitizeInstance P) := get?_map_sources _ sources id
  rw [HasError]
  simp only [at?_instancePath, hresult, hsources]
  change _ ↔ _ ∧ (Entries.get? id sources).bind _ = _ ∨ _ ∧ _ ∧
    ∃ source, (Entries.get? id sources).bind _ = _ ∧ _
  cases Entries.get? id sources with
  | none => exact iff_of_false (by simp) (by simp)
  | some source =>
    refine (at?_sanitizeInstance hw source p).trans (or_congr_right ?_)
    refine and_congr_right fun _ => and_congr_right fun _ => ?_
    exact ⟨fun herror => ⟨source, rfl, herror⟩, fun ⟨_, hsource, herror⟩ =>
      Option.some.inj hsource ▸ herror⟩

/-! ### What has no effect -/

/-- **Instances that may be seen to be the same are filtered to the same.** -/
theorem sanitizeInstance_congr {source' : Json} (hs : source.ordered = true)
    (hs' : source'.ordered = true) (h : SameInstance P source source') :
    sanitizeInstance P source = sanitizeInstance P source' := by
  have hselect : source.select snapshotInstanceKeys (sanitizeSnapshotValue P) =
      source'.select snapshotInstanceKeys (sanitizeSnapshotValue P) := by
    refine select_congr fun name hname => ?_
    have hboth : (source.get? name).isSome = (source'.get? name).isSome :=
      isSome_step?_of_looksSame (h.fields name hname [] passes_nil)
    cases hu : source.get? name with
    | none =>
      rw [hu] at hboth
      have hnone : source'.get? name = none :=
        Option.not_isSome_iff_eq_none.mp (by rw [← hboth]; simp)
      rw [hnone]
    | some u =>
      rw [hu] at hboth
      obtain ⟨v, hv⟩ := Option.isSome_iff_exists.mp hboth.symm
      rw [hv]
      refine congrArg some (redact_eq_of_agree (ordered_get? hs hu) (ordered_get? hs' hv) ?_)
      exact fun p hp => (h.fields name hname p hp).of_step hu hv
  rw [sanitizeInstance, sanitizeInstance, hselect, h.error]

/-- The instances of two snapshots that may be seen to be the same. -/
theorem map_sanitizeInstance_congr {sources sources' : List (String × Json)}
    (hs : ∀ e ∈ sources, e.2.ordered = true) (hs' : ∀ e ∈ sources', e.2.ordered = true)
    (h : List.Forall₂ (fun e e' => e.1 = e'.1 ∧ SameInstance P e.2 e'.2) sources sources') :
    sources.map (fun source => (source.1, sanitizeInstance P source.2)) =
        sources'.map (fun source => (source.1, sanitizeInstance P source.2)) ∧
      ((∀ source ∈ sources, source.2.isObj = true) ↔
        ∀ source ∈ sources', source.2.isObj = true) := by
  induction h with
  | nil => exact ⟨rfl, Iff.rfl⟩
  | cons hhead htail ih =>
    rw [List.forall_mem_cons] at hs hs'
    obtain ⟨hid, hsame⟩ := hhead
    obtain ⟨hmap, hall⟩ := ih hs.2 hs'.2
    refine ⟨?_, ?_⟩
    · rw [List.map_cons, List.map_cons, hmap, hid, sanitizeInstance_congr hs.1 hs'.1 hsame]
    · rw [List.forall_mem_cons, List.forall_mem_cons, hsame.isObj, hall]

/-- **Snapshots that may be seen to be the same are filtered to the same document, or refused
alike.** -/
theorem sanitizeSnapshot_congr {document' : Json} (hd : document.ordered = true)
    (hd' : document'.ordered = true) (h : SameSnapshot P document document') :
    sanitizeSnapshot P document = sanitizeSnapshot P document' := by
  obtain ⟨sources, sources', hsources, hsources', hall⟩ := h.instances
  have hmembers := (ordered_obj.mp (hsources ▸ ordered_field hd "instances")).2
  have hmembers' := (ordered_obj.mp (hsources' ▸ ordered_field hd' "instances")).2
  obtain ⟨hmap, hobj⟩ := map_sanitizeInstance_congr hmembers hmembers' hall
  have hversion : require (document.isObj = true ∧ document.fieldEq "schema_version" (.int 1) = true)
      (transportError "invalid snapshot document") =
      require (document'.isObj = true ∧ document'.fieldEq "schema_version" (.int 1) = true)
        (transportError "invalid snapshot document") :=
    require_congr (by rw [Json.fieldEq, Json.fieldEq, h.isObj, h.schemaVersion]) _
  have hinstance : require (∀ source ∈ sources, source.2.isObj = true)
      (transportError "invalid snapshot instance") =
      require (∀ source ∈ sources', source.2.isObj = true)
        (transportError "invalid snapshot instance") := require_congr hobj _
  rw [sanitizeSnapshot, sanitizeSnapshot, hversion, hsources, hsources', h.generatedAt]
  simp only [obj?, orRaise_some, bind, Except.bind, hinstance, hmap]

variable (P) in
/-- **The privacy filter is exactly the projection to what may be seen.** The scalars below an
instance of its result are those at the ends of the paths that may be seen, and the mark of an
error; and nothing else of a snapshot has an effect on the result, nor on whether there is one. -/
theorem sanitizeSnapshot_is_projection {document' : Json} (hd : document.ordered = true)
    (hd' : document'.ordered = true) :
    (∀ result, sanitizeSnapshot P document = .ok result → ∀ id p w, w.isScalar = true →
      (result.at? (instancePath id p) = some w ↔
        SeenPath P p ∧ document.at? (instancePath id p) = some w ∨
          p = [.key "error"] ∧ w = .str "unavailable" ∧ HasError document id)) ∧
      (SameSnapshot P document document' →
        sanitizeSnapshot P document = sanitizeSnapshot P document') :=
  ⟨fun _ h id p _ hw => at?_sanitizeSnapshot h hw id p, sanitizeSnapshot_congr hd hd'⟩

end Projection

section Sample

/-- A printer that has failed, with the file it was printing. -/
def failedPrinter : Json :=
  .obj [("connected", .bool true), ("error", .str "lost connection to /tmp/klippy.sock"),
    ("status", .obj [("filename", .str "part.gcode"), ("progress", .int 1)])]

/-- The printer with another error, and a path in place of the file. -/
def otherFailedPrinter : Json :=
  .obj [("connected", .bool true), ("error", .str "timed out"),
    ("socket_path", .str "/tmp/klippy.sock"), ("status", .obj [("progress", .int 1)])]

/-- A snapshot of one printer. -/
def snapshotOfOne (instance? : Json) : Json :=
  .obj [("generated_at", .str "2023-11-14T22:13:20Z"), ("instances", .obj [("workshop", instance?)]),
    ("schema_version", .int 1)]

theorem sameInstance_sample :
    SameInstance Sample.platform failedPrinter otherFailedPrinter where
  isObj := rfl
  fields name hname p hp := by
    have hredact : ∀ name ∈ snapshotInstanceKeys,
        (failedPrinter.get? name).map (sanitizeSnapshotValue Sample.platform) =
          (otherFailedPrinter.get? name).map (sanitizeSnapshotValue Sample.platform) := by
      decide
    have hmember := hredact name hname
    rw [LooksSame, at?_cons, at?_cons]
    change ((failedPrinter.get? name).bind _).map _ = ((otherFailedPrinter.get? name).bind _).map _
    cases hu : failedPrinter.get? name with
    | none =>
      rw [hu] at hmember
      rw [Option.map_eq_none_iff.mp hmember.symm]
    | some u =>
      rw [hu] at hmember
      obtain ⟨v, hv, heq⟩ := Option.map_eq_some_iff.mp hmember.symm
      rw [hv]
      exact agree_of_redact_eq heq.symm p hp
  error := by decide

theorem sanitizeSnapshot_is_projection_sample :
    sanitizeSnapshot Sample.platform (snapshotOfOne failedPrinter) =
      sanitizeSnapshot Sample.platform (snapshotOfOne otherFailedPrinter) :=
  (sanitizeSnapshot_is_projection Sample.platform (by decide) (by decide)).2
    ⟨rfl, rfl, rfl, _, _, rfl, rfl, .cons ⟨rfl, sameInstance_sample⟩ .nil⟩

end Sample

end PrinterHmi
