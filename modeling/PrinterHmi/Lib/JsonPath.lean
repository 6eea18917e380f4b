import PrinterHmi.Lib.Redact

/-!
# Paths into a document

A path leads from a document to a value inside of it, by the names of members and the positions
of items (`Json.at?`). Two documents in normal form that look the same at the end of every path
are the same document (`Json.ext_at?`); to look the same is to be the same scalar, lists of one
length, or objects (`Json.shape`).

Redaction is seen along paths: what is at the end of a path is redacted, and it is there exactly
when it was and no name on the way fails the test (`Json.at?_redact`). So two documents that
differ only below names that fail it are redacted to the same document
(`Json.redact_eq_of_agree`).
-/

namespace Json

/-- A step of a path. -/
inductive Step : Type where
  | key (name : String)
  | index (i : ℕ)
  deriving DecidableEq

/-- A path. -/
abbrev Path := List Step

/-- One step into a document. -/
def step? (d : Json) : Step → Option Json
  | .key name => d.get? name
  | .index i => d.arr?.bind fun items => items[i]?

/-- The value at the end of a path. -/
def at? (d : Json) : Path → Option Json
  | [] => some d
  | s :: p => (d.step? s).bind fun v => v.at? p

/-- What a document looks like from outside. -/
inductive Shape : Type where
  | scalar (v : Json)
  | list (length : ℕ)
  | object

/-- The look of a document. -/
def shape : Json → Shape
  | arr items => .list items.length
  | obj _ => .object
  | null => .scalar null
  | bool b => .scalar (bool b)
  | int n => .scalar (int n)
  | float x => .scalar (float x)
  | str s => .scalar (str s)

/-- The document is neither a list nor an object. -/
def isScalar : Json → Bool
  | arr _ => false
  | obj _ => false
  | _ => true

theorem at?_cons (d : Json) (s : Step) (p : Path) :
    d.at? (s :: p) = (d.step? s).bind fun v => v.at? p := rfl

/-! ### Documents are what is in them -/

/-- Two documents look the same at the end of a path. -/
def LooksSame (a b : Json) (p : Path) : Prop := (a.at? p).map shape = (b.at? p).map shape

theorem LooksSame.of_step {a b u v : Json} {s : Step} {p : Path} (h : LooksSame a b (s :: p))
    (ha : a.step? s = some u) (hb : b.step? s = some v) : LooksSame u v p := by
  rw [LooksSame, at?_cons, at?_cons, ha, hb] at h
  exact h

/-- What is the same to look at is both there or not. -/
theorem isSome_step?_of_looksSame {a b : Json} {s : Step} (h : LooksSame a b [s]) :
    (a.step? s).isSome = (b.step? s).isSome := by
  have hone : ∀ d : Json, (d.at? [s]).isSome = (d.step? s).isSome := fun d => by
    rw [at?_cons]
    cases d.step? s <;> rfl
  rw [← hone, ← hone, ← Option.isSome_map, h, Option.isSome_map]

/-- What an induction on documents takes: it holds of every scalar, of a list when it holds of
its items, and of an object when it holds of its members. -/
structure Cases (motive : Json → Prop) : Prop where
  scalar (d : Json) (h : d.isScalar = true) : motive d
  arr (items : List Json) (h : ∀ x ∈ items, motive x) : motive (arr items)
  obj (fields : List (String × Json)) (h : ∀ e ∈ fields, motive e.2) : motive (obj fields)

mutual

theorem Cases.document {motive : Json → Prop} (h : Cases motive) : ∀ d : Json, motive d
  | null | bool _ | int _ | float _ | str _ => h.scalar _ rfl
  | .arr items => h.arr items (h.items items)
  | .obj fields => h.obj fields (h.fields fields)

theorem Cases.items {motive : Json → Prop} (h : Cases motive) :
    ∀ items : List Json, ∀ x ∈ items, motive x
  | [] => fun _ hx => by cases hx
  | x :: xs => List.forall_mem_cons.mpr ⟨h.document x, h.items xs⟩

theorem Cases.fields {motive : Json → Prop} (h : Cases motive) :
    ∀ fields : List (String × Json), ∀ e ∈ fields, motive e.2
  | [] => fun _ he => by cases he
  | (_, x) :: xs => List.forall_mem_cons.mpr ⟨h.document x, h.fields xs⟩

end

/-- **Induction on documents.** -/
theorem induction {motive : Json → Prop} (hscalar : ∀ d, d.isScalar = true → motive d)
    (harr : ∀ items, (∀ x ∈ items, motive x) → motive (arr items))
    (hobj : ∀ fields, (∀ e ∈ fields, motive e.2) → motive (obj fields)) (d : Json) : motive d :=
  Cases.document ⟨hscalar, harr, hobj⟩ d

theorem shape_of_isScalar {d : Json} (h : d.isScalar = true) : d.shape = .scalar d := by
  cases d with
  | arr items => cases h
  | obj fields => cases h
  | _ => rfl

theorem eq_of_shape_eq_scalar {d v : Json} (h : d.shape = .scalar v) : d = v := by
  cases d with
  | arr items => cases h
  | obj fields => cases h
  | _ => exact Shape.scalar.inj h

theorem eq_arr_of_shape {d : Json} {n : ℕ} (h : d.shape = .list n) :
    ∃ items, d = arr items ∧ items.length = n := by
  cases d with
  | arr items => exact ⟨items, rfl, Shape.list.inj h⟩
  | _ => cases h

theorem eq_obj_of_shape {d : Json} (h : d.shape = .object) : ∃ fields, d = obj fields := by
  cases d with
  | obj fields => exact ⟨fields, rfl⟩
  | _ => cases h

/-- **Two documents in normal form are the same when they look the same at the end of every
path.** -/
theorem ext_at? (a b : Json) (ha : a.ordered = true) (hb : b.ordered = true)
    (h : ∀ p, LooksSame a b p) : a = b := by
  -- the shape at the empty path tells the kind; longer paths lead to the parts
  induction a using induction generalizing b with
  | hscalar a hscalar =>
    have hshape : shape a = shape b := Option.some.inj (h [])
    rw [shape_of_isScalar hscalar] at hshape
    exact (eq_of_shape_eq_scalar hshape.symm).symm
  | harr items ih =>
    have hshape : Shape.list items.length = shape b := Option.some.inj (h [])
    obtain ⟨items', rfl, hlength⟩ := eq_arr_of_shape hshape.symm
    refine congrArg arr (List.ext_getElem hlength.symm fun i hi hi' => ?_)
    refine ih _ (List.getElem_mem hi) _ (ordered_arr.mp ha _ (List.getElem_mem hi))
      (ordered_arr.mp hb _ (List.getElem_mem hi')) fun p => ?_
    exact (h (.index i :: p)).of_step (List.getElem?_eq_getElem hi) (List.getElem?_eq_getElem hi')
  | hobj fields ih =>
    have hshape : Shape.object = shape b := Option.some.inj (h [])
    obtain ⟨fields', rfl⟩ := eq_obj_of_shape hshape.symm
    obtain ⟨hsorted, hmembers⟩ := ordered_obj.mp ha
    obtain ⟨hsorted', hmembers'⟩ := ordered_obj.mp hb
    refine congrArg obj (Entries.ext hsorted hsorted' fun name => ?_)
    have hboth : (Entries.get? name fields).isSome = (Entries.get? name fields').isSome :=
      isSome_step?_of_looksSame (h [.key name])
    cases hu : Entries.get? name fields with
    | none =>
      rw [hu] at hboth
      exact (Option.not_isSome_iff_eq_none.mp (by rw [← hboth]; simp)).symm
    | some u =>
      rw [hu] at hboth
      obtain ⟨v, hv⟩ := Option.isSome_iff_exists.mp hboth.symm
      have hmem := Entries.mem_of_get? hu
      have hmem' := Entries.mem_of_get? hv
      rw [hv]
      refine congrArg some (ih _ hmem v (hmembers _ hmem) (hmembers' _ hmem') fun p => ?_)
      exact (h (.key name :: p)).of_step hu hv

/-! ### Redaction along a path -/

section Redaction

variable {keep : String → Bool}

/-- Every name on the path passes the test. -/
def Path.Passes (keep : String → Bool) (p : Path) : Prop := ∀ name, .key name ∈ p → keep name = true

theorem passes_nil : Path.Passes keep [] := fun _ h => by cases h

theorem passes_key_cons {name : String} {p : Path} :
    Path.Passes keep (.key name :: p) ↔ keep name = true ∧ p.Passes keep := by
  constructor
  · intro h
    exact ⟨h name List.mem_cons_self, fun name' h' => h name' (List.mem_cons_of_mem _ h')⟩
  · rintro ⟨hname, hp⟩ name' h'
    rcases List.mem_cons.mp h' with heq | h'
    · exact Step.key.inj heq ▸ hname
    · exact hp name' h'

theorem passes_index_cons {i : ℕ} {p : Path} :
    Path.Passes keep (.index i :: p) ↔ p.Passes keep := by
  constructor
  · exact fun h name h' => h name (List.mem_cons_of_mem _ h')
  · intro h name h'
    rcases List.mem_cons.mp h' with heq | h'
    · cases heq
    · exact h name h'

/-- A path passes step by step. -/
theorem passes_cons {s : Step} {p : Path} :
    Path.Passes keep (s :: p) ↔ Path.Passes keep [s] ∧ p.Passes keep := by
  cases s with
  | key name => rw [passes_key_cons, passes_key_cons, and_iff_left passes_nil]
  | index i => rw [passes_index_cons, passes_index_cons, and_iff_right passes_nil]

theorem shape_redact (d : Json) : (redact keep d).shape = d.shape := by
  have hlength : ∀ items, (redactItems keep items).length = items.length := fun items => by
    induction items with
    | nil => rfl
    | cons x xs ih => exact congrArg Nat.succ ih
  cases d with
  | arr items => exact congrArg Shape.list (hlength items)
  | _ => rfl

theorem getElem?_redactItems (items : List Json) (i : ℕ) :
    (redactItems keep items)[i]? = items[i]?.map (redact keep) := by
  induction items generalizing i with
  | nil => rfl
  | cons x xs ih =>
    cases i with
    | zero => rfl
    | succ i => exact ih i

theorem get?_redactFields (fields : List (String × Json)) (name : String) :
    Entries.get? name (redactFields keep fields) =
      if keep name then (Entries.get? name fields).map (redact keep) else none := by
  induction fields with
  | nil => simp [redactFields]
  | cons e fields ih =>
    obtain ⟨name', x⟩ := e
    rw [redactFields, Entries.get?_cons]
    by_cases hname : name' = name
    · subst hname
      rw [if_pos rfl]
      split
      · rw [Entries.get?_cons, if_pos rfl, Option.map_some]
      · next hkeep => rw [ih, if_neg hkeep]
    · rw [if_neg hname, ← ih]
      split
      · rw [Entries.get?_cons, if_neg hname]
      · rfl

/-- One step down: what is there is redacted, and it is there if it was and its name passes. -/
theorem step?_redact (d v : Json) (s : Step) : (redact keep d).step? s = some v ↔
    Path.Passes keep [s] ∧ ∃ u, d.step? s = some u ∧ redact keep u = v := by
  rw [← Option.map_eq_some_iff]
  cases s with
  | index i =>
    rw [and_iff_right (passes_index_cons.mpr passes_nil)]
    cases d with
    | arr items =>
      have hstep : (redact keep (arr items)).step? (.index i) = items[i]?.map (redact keep) :=
        getElem?_redactItems items i
      rw [hstep]
      rfl
    | _ => rfl
  | key name =>
    rw [passes_key_cons, and_iff_left passes_nil]
    cases d with
    | obj fields =>
      have hstep : (redact keep (obj fields)).step? (.key name) =
          if keep name then (Entries.get? name fields).map (redact keep) else none :=
        get?_redactFields fields name
      rw [hstep]
      by_cases hname : keep name = true
      · rw [if_pos hname, and_iff_right hname]
        rfl
      · rw [if_neg hname]
        exact iff_of_false (Option.some_ne_none v).symm fun h => hname h.1
    | _ => exact iff_of_false (Option.some_ne_none v).symm fun h => (Option.some_ne_none v).symm h.2

/-- **What is at the end of a path is redacted, and it is there exactly when it was and every
name on the way passes the test.** -/
theorem at?_redact (d v : Json) (p : Path) : (redact keep d).at? p = some v ↔
    p.Passes keep ∧ ∃ u, d.at? p = some u ∧ redact keep u = v := by
  induction p generalizing d with
  | nil =>
    refine ⟨fun h => ⟨passes_nil, d, rfl, Option.some.inj h⟩, ?_⟩
    rintro ⟨-, u, hu, rfl⟩
    exact congrArg (some ∘ redact keep) (Option.some.inj hu)
  | cons s p ih =>
    rw [at?_cons, Option.bind_eq_some_iff, passes_cons]
    constructor
    · rintro ⟨x', hx', hv⟩
      obtain ⟨hs, x, hx, rfl⟩ := (step?_redact d x' s).mp hx'
      obtain ⟨hp, u, hu, hvu⟩ := (ih x).mp hv
      exact ⟨⟨hs, hp⟩, u, Option.bind_eq_some_iff.mpr ⟨x, hx, hu⟩, hvu⟩
    · rintro ⟨⟨hs, hp⟩, u, hu, hvu⟩
      obtain ⟨x, hx, hu⟩ := Option.bind_eq_some_iff.mp hu
      exact ⟨_, (step?_redact d _ s).mpr ⟨hs, x, hx, rfl⟩, (ih x).mpr ⟨hp, u, hu, hvu⟩⟩

/-- A scalar is left where it was. -/
theorem at?_redact_scalar {d w : Json} (hw : w.isScalar = true) (p : Path) :
    (redact keep d).at? p = some w ↔ p.Passes keep ∧ d.at? p = some w := by
  rw [at?_redact]
  refine and_congr_right fun _ => ⟨?_, fun h => ⟨w, h, ?_⟩⟩
  · rintro ⟨u, hu, hredact⟩
    have hshape : u.shape = .scalar w := by
      have hkeep : (redact keep u).shape = u.shape := shape_redact u
      rw [← hkeep, hredact, shape_of_isScalar hw]
    rw [hu, eq_of_shape_eq_scalar hshape]
  · exact eq_of_shape_eq_scalar ((shape_redact w).trans (shape_of_isScalar hw))

/-- **Two documents agree where they may be seen**: they look the same at the end of every path
whose names pass the test. -/
def Agree (keep : String → Bool) (a b : Json) : Prop :=
  ∀ p : Path, p.Passes keep → LooksSame a b p

theorem at?_redact_of_passes {p : Path} (hp : p.Passes keep) (d : Json) :
    (redact keep d).at? p = (d.at? p).map (redact keep) := by
  ext v
  rw [at?_redact, and_iff_right hp, Option.map_eq_some_iff]

theorem at?_redact_of_not_passes {p : Path} (hp : ¬p.Passes keep) (d : Json) :
    (redact keep d).at? p = none :=
  Option.eq_none_iff_forall_ne_some.mpr fun v hv => hp ((at?_redact d v p).mp hv).1

/-- **Documents that agree where they may be seen are redacted to the same document.** -/
theorem redact_eq_of_agree {a b : Json} (ha : a.ordered = true) (hb : b.ordered = true)
    (h : Agree keep a b) : redact keep a = redact keep b := by
  refine ext_at? _ _ (ordered_redact a ha) (ordered_redact b hb) fun p => ?_
  by_cases hp : p.Passes keep
  · have hshape : shape ∘ redact keep = shape := funext shape_redact
    rw [LooksSame, at?_redact_of_passes hp, at?_redact_of_passes hp, Option.map_map,
      Option.map_map, hshape]
    exact h p hp
  · rw [LooksSame, at?_redact_of_not_passes hp, at?_redact_of_not_passes hp]

/-- Documents that are redacted to the same document agree where they may be seen. -/
theorem agree_of_redact_eq {a b : Json} (h : redact keep a = redact keep b) : Agree keep a b := by
  intro p hp
  have hlook : ∀ d : Json, (d.at? p).map shape = ((redact keep d).at? p).map shape := fun d => by
    have hshape : shape ∘ redact keep = shape := funext shape_redact
    rw [at?_redact_of_passes hp, Option.map_map, hshape]
  rw [LooksSame, hlook a, hlook b, h]

end Redaction

end Json
