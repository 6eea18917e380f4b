import PrinterHmi.Enrollment.Replay

/-!
# Rotating the identity, step by step

A rotation replaces `identity.json` first and `state.json` nine file steps later,
with an audit record in between. A process that stops in between leaves the new
identity with the peers and offers of the old one, and nothing on the next start
notices: both documents are well formed.

`rotateIdentity_files` is the timeline of the two documents, and
`rotation_atomic_iff` reads off it when a stopped rotation leaves either the old
pair or the new identity with nothing else: always, except when it stops at one of
those nine steps (`MixedAt`) over a state that holds something.
-/

namespace PrinterHmi

/-! ### The two documents -/

/-- `identity.json` and `state.json`. -/
def Host.files (h : Host) : Option Identity × Option StoreState := (h.identity, h.state)

/-- The generation of the identity in place, once there is one. -/
def Host.generation (h : Host) : ℤ :=
  match h.identity with
  | some i => i.generation
  | none => 1

section Atomic

variable (P : Platform)

/-- **The documents are the old ones, or a new identity and nothing else.** A store
without an identity is given a first one before it is rotated. -/
def RotatedOrKept (env : Supply) (h : Host) (files : Option Identity × Option StoreState) : Prop :=
  files = h.files ∨
    (files.2.getD .empty = .empty ∧
      (files.1 = some (newIdentity P env.rotated (h.generation + 1)) ∨
        (h.identity = none ∧ files.1 = some (newIdentity P env.initial 1))))

/-- The file steps, counted from zero, between the replacement of `identity.json`
and that of `state.json`, the latter included: what a rotation that stops there
leaves is a new identity with the old state. -/
def MixedAt (h : Host) (k : ℕ) : Prop :=
  match h.identity with
  | some i => (checkIdentity P i).isOk = true ∧ 12 ≤ k ∧ k ≤ 20
  | none => 10 ≤ k ∧ k ≤ 28

end Atomic

/-! ### The timeline -/

section Timeline

variable {P : Platform}

/-- What the two documents go through while an identity is generated. -/
theorem generateIdentity_files (g : Generation) (generation : ℤ) (h : Host) :
    ((generateIdentity P g generation).stages h).map Host.files =
      List.replicate 5 h.files ++
        List.replicate 4 (some (newIdentity P g generation), h.state) := rfl

/-- What the two documents go through in the rotation proper, from the loading of the
state on. -/
theorem rotate_files (env : Supply) (generation : ℤ) (h : Host)
    (k : Identity × Bytes32 → StoreProg Json)
    (hk : ∀ x h', ((k x).stages h').map Host.files =
      List.replicate 5 h'.files ++ List.replicate 4 (h'.identity, some .empty)) :
    ((loadState >>= fun _ => generateIdentity P env.rotated generation >>= k).stages h).map
        Host.files =
      List.replicate (h.stateSteps + 5) h.files ++
        List.replicate 9 (some (newIdentity P env.rotated generation), h.state) ++
          List.replicate 4 (some (newIdentity P env.rotated generation), some .empty) := by
  rw [FileProg.stages_bind_ok (exec_loadState h), stages_loadState,
    FileProg.stages_bind_ok (exec_generateIdentity P h env.rotated generation), List.map_append,
    List.map_append, generateIdentity_files, hk, List.map_replicate, List.replicate_add,
    show List.replicate 9 (some (newIdentity P env.rotated generation), h.state) =
      List.replicate 4 _ ++ List.replicate 5 _ from rfl]
  simp only [List.append_assoc]
  rfl

/-- The file steps of a rotation: the lock, the identity, and the rotation proper. -/
theorem stages_rotateIdentity {env : Supply} {h h₁ : Host} {i : Identity} {key : Bytes32}
    (hid : Identified P env.initial h i key h₁) :
    ((rotateIdentity P env true).stages h).map Host.files =
      List.replicate 5 h.files ++ ((ensureIdentity P env.initial).stages h).map Host.files ++
        (List.replicate (h.stateSteps + 5) h₁.files ++
          List.replicate 9 (some (newIdentity P env.rotated (i.generation + 1)), h₁.state) ++
            List.replicate 4
              (some (newIdentity P env.rotated (i.generation + 1)), some .empty)) := by
  have hsteps : h.stateSteps = h₁.stateSteps := by
    rw [Host.stateSteps, Host.stateSteps, hid.frame.1]
  rw [rotateIdentity, require_pos rfl, FileProg.stages_bind_ok (FileProg.exec_lift _ _),
    FileProg.stages_lift, List.nil_append, stages_locked, FileProg.stages_bind_ok hid.exec, hsteps,
    List.map_append, List.map_append, ← List.append_assoc]
  exact congrArg₂ (· ++ ·) rfl (rotate_files (P := P) env (i.generation + 1) h₁ (fun x => do
    saveState .empty
    auditLocked P env.audited "identity.rotated" "success"
      [("device_id", .str x.1.deviceId), ("previous_device_id", .str i.deviceId)]
    pure (publicIdentity x.1)) fun x h' => rfl)

/-- **The two documents in the course of a rotation**, if the identity is stored and
checks out. -/
theorem rotateIdentity_files_stored {env : Supply} {h : Host} {i : Identity} {key : Bytes32}
    (hi : h.identity = some i) (hkey : checkIdentity P i = .ok key) :
    ((rotateIdentity P env true).stages h).map Host.files =
      List.replicate (h.stateSteps + 11) h.files ++
        List.replicate 9 (some (newIdentity P env.rotated (i.generation + 1)), h.state) ++
          List.replicate 4 (some (newIdentity P env.rotated (i.generation + 1)), some .empty) := by
  have hstages : (ensureIdentity P env.initial).stages h = [h] := by
    rw [ensureIdentity, FileProg.stages_bind_ok (FileProg.exec_state h), hi]
    dsimp only
    rw [hkey]
    rfl
  have hsplit : List.replicate (h.stateSteps + 11) h.files =
      List.replicate 6 h.files ++ List.replicate (h.stateSteps + 5) h.files := by
    rw [← List.replicate_add, show 6 + (h.stateSteps + 5) = h.stateSteps + 11 by omega]
  rw [stages_rotateIdentity (.stored hi hkey), hstages, hsplit]
  simp only [← List.append_assoc]
  rfl

/-- The same, if there is no identity: a first one is generated before. -/
theorem rotateIdentity_files_generated {env : Supply} {h : Host} (hi : h.identity = none) :
    ((rotateIdentity P env true).stages h).map Host.files =
      List.replicate 10 h.files ++
        List.replicate (h.stateSteps + 9) (some (newIdentity P env.initial 1), h.state) ++
          List.replicate 9 (some (newIdentity P env.rotated (1 + 1)), h.state) ++
            List.replicate 4 (some (newIdentity P env.rotated (1 + 1)), some .empty) := by
  have hstages : (ensureIdentity P env.initial).stages h =
      (generateIdentity P env.initial 1).stages h := by
    rw [ensureIdentity, FileProg.stages_bind_ok (FileProg.exec_state h), hi]
    rfl
  have hsplit (x : Option Identity × Option StoreState) : List.replicate (h.stateSteps + 9) x =
      List.replicate 4 x ++ List.replicate (h.stateSteps + 5) x := by
    rw [← List.replicate_add, show 4 + (h.stateSteps + 5) = h.stateSteps + 9 by omega]
  rw [stages_rotateIdentity (.generated hi), hstages, generateIdentity_files, hsplit]
  simp only [← List.append_assoc]
  rfl

/-- An identity that does not check out is not rotated. -/
theorem rotateIdentity_files_invalid {env : Supply} {h : Host} {i : Identity} {e : Exn}
    (hi : h.identity = some i) (hkey : checkIdentity P i = .error e) :
    ((rotateIdentity P env true).stages h).map Host.files = List.replicate 5 h.files ∧
      ((rotateIdentity P env true).exec h).2 = h := by
  have hensure : (ensureIdentity P env.initial).exec h = (.error e, h) ∧
      (ensureIdentity P env.initial).stages h = [] := by
    rw [ensureIdentity, FileProg.exec_bind_ok (FileProg.exec_state h),
      FileProg.stages_bind_ok (FileProg.exec_state h), hi]
    dsimp only
    rw [hkey]
    exact ⟨rfl, rfl⟩
  rw [rotateIdentity, require_pos rfl, FileProg.stages_bind_ok (FileProg.exec_lift _ _),
    FileProg.exec_bind_ok (FileProg.exec_lift _ _), stages_locked, exec_locked,
    FileProg.stages_bind_error hensure.1, FileProg.exec_bind_error hensure.1, hensure.2]
  exact ⟨rfl, rfl⟩

end Timeline

/-! ### Where a rotation may stop -/

section Law

variable {P : Platform} {env : Supply} {h : Host}

/-- A new identity over the old state is neither the old pair nor a fresh start. -/
theorem not_rotatedOrKept {i : Identity} (hloaded : h.loaded ≠ .empty)
    (hi : h.identity ≠ some i) : ¬RotatedOrKept P env h (some i, h.state) := by
  rintro (heq | ⟨hempty, -⟩)
  · exact hi (congrArg Prod.fst heq).symm
  · exact hloaded hempty

/-- A state that holds something is in a file. -/
theorem stateSteps_of_loaded (hloaded : h.loaded ≠ .empty) : h.stateSteps = 1 := by
  rw [Host.stateSteps]
  cases hs : h.state with
  | some s => rfl
  | none => exact absurd (by rw [Host.loaded, hs]; rfl) hloaded

/-- A new identity of this rotation over the old state is whole iff that state is
empty. -/
theorem rotatedOrKept_mixed {i : Identity} (hi : h.identity ≠ some i)
    (hnew : i = newIdentity P env.rotated (h.generation + 1) ∨
      (h.identity = none ∧ i = newIdentity P env.initial 1)) :
    RotatedOrKept P env h (some i, h.state) ↔ h.loaded = .empty := by
  constructor
  · intro hwhole
    by_contra hloaded
    exact not_rotatedOrKept hloaded hi hwhole
  · intro hloaded
    refine .inr ⟨hloaded, ?_⟩
    rcases hnew with rfl | ⟨hnone, rfl⟩
    · exact .inl rfl
    · exact .inr ⟨hnone, rfl⟩

/-- A stage between the replacements, whose number is between `first` and `last` if there was a
state. -/
theorem rotatedOrKept_between {i : Identity} (hi : h.identity ≠ some i)
    (hnew : i = newIdentity P env.rotated (h.generation + 1) ∨
      (h.identity = none ∧ i = newIdentity P env.initial 1)) {first last k : ℕ}
    (hk : h.loaded ≠ .empty → first ≤ k ∧ k ≤ last) :
    RotatedOrKept P env h (some i, h.state) ↔ ¬(h.loaded ≠ .empty ∧ first ≤ k ∧ k ≤ last) := by
  rw [rotatedOrKept_mixed hi hnew]
  constructor
  · intro hempty hc
    exact hc.1 hempty
  · intro hno
    by_contra hloaded
    exact hno ⟨hloaded, hk hloaded⟩

/-- **One stage of the rotation of a stored identity**: the documents are the old
pair or a fresh start, unless this is one of the nine steps over a state that holds
something. -/
theorem rotatedOrKept_stage_stored {k : ℕ} {files : Option Identity × Option StoreState}
    {i : Identity} {key : Bytes32} (hi : h.identity = some i)
    (hkey : checkIdentity P i = .ok key)
    (hk : (((rotateIdentity P env true).stages h).map Host.files)[k]? = some files) :
    RotatedOrKept P env h files ↔ ¬(h.loaded ≠ .empty ∧ 12 ≤ k ∧ k ≤ 20) := by
  have hgen : h.generation = i.generation := by rw [Host.generation, hi]
  have hnew : h.identity ≠ some (newIdentity P env.rotated (i.generation + 1)) := by
    rw [hi]
    intro hc
    have hg := congrArg Identity.generation (Option.some.inj hc)
    simp [newIdentity] at hg
  rw [rotateIdentity_files_stored hi hkey, List.append_assoc, FileProg.getElem?_replicate_append,
    FileProg.getElem?_replicate_append] at hk
  -- before the identity is replaced, between the two replacements, and after both
  rcases hk with ⟨hlt, rfl⟩ | ⟨hge, ⟨hlt, rfl⟩ | ⟨hge', hlast⟩⟩
  · refine iff_of_true (.inl rfl) fun hc => ?_
    rw [stateSteps_of_loaded hc.1] at hlt
    omega
  · refine rotatedOrKept_between hnew (.inl (by rw [hgen])) fun hloaded => ?_
    rw [stateSteps_of_loaded hloaded] at hge hlt
    omega
  · obtain rfl := List.eq_of_mem_replicate (List.mem_of_getElem? hlast)
    refine iff_of_true (.inr ⟨rfl, .inl (by rw [hgen])⟩) fun hc => ?_
    rw [stateSteps_of_loaded hc.1] at hge hge'
    omega

/-- The same, where a first identity is generated before. -/
theorem rotatedOrKept_stage_generated {k : ℕ} {files : Option Identity × Option StoreState}
    (hi : h.identity = none)
    (hk : (((rotateIdentity P env true).stages h).map Host.files)[k]? = some files) :
    RotatedOrKept P env h files ↔ ¬(h.loaded ≠ .empty ∧ 10 ≤ k ∧ k ≤ 28) := by
  have hgen : h.generation = 1 := by rw [Host.generation, hi]
  have hsome (i : Identity) : h.identity ≠ some i := by
    rw [hi]
    exact nofun
  rw [rotateIdentity_files_generated hi, List.append_assoc, List.append_assoc,
    FileProg.getElem?_replicate_append, FileProg.getElem?_replicate_append,
    FileProg.getElem?_replicate_append] at hk
  -- nothing is written; the first identity; the one after it, with the old state; both new
  rcases hk with ⟨hlt, rfl⟩ | ⟨hge, ⟨hlt, rfl⟩ | ⟨hge', ⟨hlt, rfl⟩ | ⟨hge'', hlast⟩⟩⟩
  · exact iff_of_true (.inl rfl) fun hc => by omega
  · refine rotatedOrKept_between (hsome _) (.inr ⟨hi, rfl⟩) fun hloaded => ?_
    rw [stateSteps_of_loaded hloaded] at hlt
    omega
  · refine rotatedOrKept_between (hsome _) (.inl (by rw [hgen])) fun hloaded => ?_
    rw [stateSteps_of_loaded hloaded] at hge' hlt
    omega
  · obtain rfl := List.eq_of_mem_replicate (List.mem_of_getElem? hlast)
    refine iff_of_true (.inr ⟨rfl, .inl (by rw [hgen])⟩) fun hc => ?_
    rw [stateSteps_of_loaded hc.1] at hge''
    omega

/-- **One stage of a rotation.** -/
theorem rotatedOrKept_stage {k : ℕ} {files : Option Identity × Option StoreState}
    (hk : (((rotateIdentity P env true).stages h).map Host.files)[k]? = some files) :
    RotatedOrKept P env h files ↔ ¬(h.loaded ≠ .empty ∧ MixedAt P h k) := by
  cases hi : h.identity with
  | some i =>
    cases hkey : checkIdentity P i with
    | error e =>
      have hnot : ¬MixedAt P h k := by simp [MixedAt, hi, hkey, Except.isOk, Except.toBool]
      rw [(rotateIdentity_files_invalid hi hkey).1] at hk
      obtain rfl := List.eq_of_mem_replicate (List.mem_of_getElem? hk)
      exact iff_of_true (.inl rfl) fun hc => hnot hc.2
    | ok key =>
      have hmixed : MixedAt P h k ↔ 12 ≤ k ∧ k ≤ 20 := by
        simp [MixedAt, hi, hkey, Except.isOk, Except.toBool]
      rw [hmixed]
      exact rotatedOrKept_stage_stored hi hkey hk
  | none =>
    have hmixed : MixedAt P h k ↔ 10 ≤ k ∧ k ≤ 28 := by simp [MixedAt, hi]
    rw [hmixed]
    exact rotatedOrKept_stage_generated hi hk

/-- The nine steps are steps of the rotation. -/
theorem exists_stage_of_mixedAt (env : Supply) {k : ℕ} (hmixed : MixedAt P h k) :
    ∃ t, ((rotateIdentity P env true).stages h)[k]? = some t := by
  have hlt : k < (((rotateIdentity P env true).stages h).map Host.files).length := by
    cases hi : h.identity with
    | some i =>
      rw [MixedAt, hi] at hmixed
      cases hkey : checkIdentity P i with
      | error e => simp [hkey, Except.isOk, Except.toBool] at hmixed
      | ok key =>
        rw [rotateIdentity_files_stored hi hkey]
        simp only [List.length_append, List.length_replicate]
        omega
    | none =>
      rw [MixedAt, hi] at hmixed
      rw [rotateIdentity_files_generated hi]
      simp only [List.length_append, List.length_replicate]
      omega
  rw [List.length_map] at hlt
  exact ⟨_, List.getElem?_eq_getElem hlt⟩

/-- A rotation that goes through starts afresh, and one that is refused changes
nothing. -/
theorem rotatedOrKept_exec :
    RotatedOrKept P env h ((rotateIdentity P env true).exec h).2.files := by
  cases hi : h.identity with
  | some i =>
    cases hkey : checkIdentity P i with
    | error e => exact .inl (by rw [(rotateIdentity_files_invalid hi hkey).2])
    | ok key =>
      have hgen : h.generation = i.generation := by rw [Host.generation, hi]
      rw [rotateIdentity, require_pos rfl, FileProg.exec_bind_ok (FileProg.exec_lift _ _),
        exec_locked, FileProg.exec_bind_ok (Identified.exec (.stored hi hkey)),
        FileProg.exec_bind_ok (exec_loadState h)]
      exact .inr ⟨rfl, .inl (by rw [hgen]; rfl)⟩
  | none =>
    have hgen : h.generation = 1 := by rw [Host.generation, hi]
    rw [rotateIdentity, require_pos rfl, FileProg.exec_bind_ok (FileProg.exec_lift _ _),
      exec_locked, FileProg.exec_bind_ok (Identified.exec (.generated hi)),
      FileProg.exec_bind_ok (exec_loadState _)]
    exact .inr ⟨rfl, .inl (by rw [hgen]; rfl)⟩

/-- **When a rotation is atomic**: whichever file steps fail and wherever the process
ends, the documents left behind are the old pair or a new identity and nothing else
if and only if the rotation did not first stop at one of the nine steps, over a
state that holds something. -/
theorem rotation_atomic_iff (P : Platform) (env : Supply) (h : Host) (o : ℕ → Bool)
    (ending : Option ℕ) :
    RotatedOrKept P env h ((rotateIdentity P env true).leftBy o ending h).files ↔
      ¬(h.loaded ≠ .empty ∧ ∃ k, MixedAt P h k ∧ FirstStop o ending k) := by
  have hstage (k : ℕ) (t : Host) (ht : ((rotateIdentity P env true).stages h)[k]? = some t) :
      RotatedOrKept P env h t.files ↔ ¬(h.loaded ≠ .empty ∧ MixedAt P h k) :=
    rotatedOrKept_stage (by rw [List.getElem?_map, ht, Option.map_some])
  rw [(strict_rotateIdentity env true).leftBy_iff (A := fun t => RotatedOrKept P env h t.files)
    rotatedOrKept_exec]
  constructor
  · rintro hall ⟨hloaded, k, hmixed, hstop⟩
    obtain ⟨t, ht⟩ := exists_stage_of_mixedAt env hmixed
    exact (hstage k t ht).mp (hall k t ht hstop) ⟨hloaded, hmixed⟩
  · exact fun hno k t ht hstop =>
      (hstage k t ht).mpr fun hc => hno ⟨hc.1, k, hc.2, hstop⟩

end Law

/-! ### A rotation stopped in between -/

namespace Sample

/-- A rotation of the sample store. -/
def rotating : StoreProg Json := rotateIdentity platform (supply (moment 3) pairingId) true

/-- The opening of the audit log for the new identity fails. -/
def auditFails (k : ℕ) : Bool := k == 12

theorem auditFails_first : FirstStop auditFails none 12 :=
  ⟨.inl rfl, fun j hj => ⟨by simp [auditFails, Nat.ne_of_lt hj], nofun⟩⟩

end Sample

open Sample in
/-- **A new identity with the peers of the old one**: a relay is enrolled, and the
rotation stops where it would have recorded the new identity. -/
theorem rotation_not_atomic : ∃ es h, Run (storeStep platform) (fun _ _ => True) .fresh es h ∧
    es.map Event.call = [offer, enrolling] ∧
    (rotating.leftBy auditFails none h).identity =
      some (newIdentity platform (supply (moment 3) pairingId).rotated 2) ∧
    ((rotating.leftBy auditFails none h).loaded.peers.get? "printerhmi-relay").isSome = true ∧
    ¬RotatedOrKept platform (supply (moment 3) pairingId) h
      (rotating.leftBy auditFails none h).files := by
  obtain ⟨r₁, h₁, hoffer, hs₁⟩ := reaches_offered
  obtain ⟨r₂, h₂, henroll, hs₂⟩ := hs₁.enrolled.reaches
  have hloaded : h₂.loaded ≠ .empty := by
    rw [hs₂.loaded]
    decide
  -- the twelfth step leaves the new identity beside the old state
  have hmixed : MixedAt platform h₂ 12 := by
    rw [MixedAt, hs₂.identity]
    exact ⟨by rw [agentIdentity, checkIdentity_newIdentity]; rfl, by decide, by decide⟩
  obtain ⟨t, ht⟩ := exists_stage_of_mixedAt (supply (moment 3) pairingId) hmixed
  have hleft : rotating.leftBy auditFails none h₂ = t :=
    (strict_rotateIdentity _ _).leftBy_of_firstStop auditFails_first ht
  have hfiles : t.files = (some (newIdentity platform (supply (moment 3) pairingId).rotated 2),
      h₂.state) := by
    have hstage := congrArg (Option.map Host.files) ht
    rw [← List.getElem?_map, rotateIdentity_files_stored hs₂.identity
      (checkIdentity_newIdentity _ _), stateSteps_of_loaded hloaded] at hstage
    exact (Option.some.inj hstage).symm
  have hpeers : (h₂.loaded.peers.get? "printerhmi-relay").isSome = true := by
    rw [hs₂.loaded]
    decide
  refine ⟨[⟨_, _, _, _⟩, ⟨_, _, _, _⟩], h₂,
    (Run.start.next_eq trivial hoffer).next_eq trivial henroll, rfl, ?_, ?_, ?_⟩
  · rw [hleft]
    exact congrArg Prod.fst hfiles
  · have hstate : t.state = h₂.state := congrArg Prod.snd hfiles
    rw [hleft, Host.loaded, hstate]
    exact hpeers
  · rw [hleft, hfiles]
    refine not_rotatedOrKept hloaded ?_
    rw [hs₂.identity]
    intro hc
    have hgen := congrArg Identity.generation (Option.some.inj hc)
    simp [agentIdentity, newIdentity] at hgen

end PrinterHmi
