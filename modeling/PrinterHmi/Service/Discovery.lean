import PrinterHmi.Lib.Bytes
import PrinterHmi.Lib.Checks
import PrinterHmi.Lib.Dict
import PrinterHmi.Lib.Paths
import PrinterHmi.Platform

/-!
# Where the sockets are

Nobody tells the agent which printers there are. It looks for the sockets of Moonraker at the paths
of an environment variable, and in the data directories below the home of its user. Several of these
may lead to the same socket, and some to none; what `discover_socket_paths` returns are the sockets
that something leads to, each once and in the order of their paths
(`discover_socket_paths_iff`). So it does not depend on the order in which a directory is listed,
nor on which of its patterns has found a socket.
-/

namespace PrinterHmi

/-- **The machine the agent runs on**, as far as the agent reads it. -/
structure AgentMachine where
  /-- The environment variable `PRINTERHMI_MOONRAKER_SOCKETS`, empty if it is not set. -/
  configured : String
  /-- `Path.home()`. -/
  home : Except Exn String
  /-- `path.expanduser()`. -/
  expanduser : String → Except Exn String
  expanduser_text : ∀ p : AbsolutePath, expanduser p.text = .ok p.text
  /-- The directories in a directory, in the order in which they are listed. -/
  directories : String → List String
  /-- There is something at this path. -/
  occupied : String → Bool
  /-- `path.resolve(strict=False)`. -/
  resolve : String → Except Exn AbsolutePath
  resolve_text : ∀ s p, resolve s = .ok p → resolve p.text = .ok p
  /-- `_is_socket`. -/
  isSocket : AbsolutePath → Bool
  /-- The contents of `/etc/machine-id`, unless it cannot be read. -/
  machineId : Option Bytes
  /-- The contents of `/var/lib/dbus/machine-id`, unless it cannot be read. -/
  dbusMachineId : Option Bytes
  /-- `hashlib.sha1(b).digest()`. -/
  sha1 : Bytes → Bytes

/-! ### Texts -/

/-- `c.isspace()`. -/
def isSpace (c : Char) : Bool :=
  c.toNat ∈ [0x09, 0x0a, 0x0b, 0x0c, 0x0d, 0x1c, 0x1d, 0x1e, 0x1f, 0x20, 0x85, 0xa0, 0x1680, 0x2000,
    0x2001, 0x2002, 0x2003, 0x2004, 0x2005, 0x2006, 0x2007, 0x2008, 0x2009, 0x200a, 0x2028, 0x2029,
    0x202f, 0x205f, 0x3000]

/-- `text.strip()`. -/
def strip (text : List Char) : String :=
  String.ofList ((text.dropWhile isSpace).reverse.dropWhile isSpace).reverse

/-- `base / rest`, of a relative path `rest`. -/
def joinPath (base rest : String) : String :=
  if base = "/" then "/" ++ rest else if base = "." then rest else base ++ "/" ++ rest

/-! ### The functions of the source -/

section Discovery

variable (m : AgentMachine)

/-- Where the socket of a data directory is. -/
def socketBelow (base directory : String) : String :=
  joinPath base (directory ++ "/comms/moonraker.sock")

/-- The patterns for the names of data directories, after the first, which is a name. -/
def dataPatterns : List String := ["printer_*_data", "*_data"]

/-- `base.glob(pattern)` for the three patterns, one after the other. -/
def globSockets (base : String) : List String :=
  let found (directories : List String) :=
    (directories.map (socketBelow base)).filter m.occupied
  found ["printer_data"] ++ dataPatterns.flatMap fun pattern =>
    found ((m.directories base).filter fun name => fnmatch pattern.toList name.toList)

/-- The paths of the environment variable. -/
def configuredPaths : List String :=
  ((m.configured.toList.splitOn ':').map strip).filter (· ≠ "")

/-- The home directory in which it is searched. -/
def homeBase (home : Option String) : Except Exn String := do
  let home ← match home with
    | some home => .ok home
    | none => m.home
  m.expanduser home

/-- `candidate_socket_paths`: what it yields, one by one, and where it raises. -/
def candidateSocketPaths (home : Option String) :
    Option (List String) → List (Except Exn String)
  | some explicit => explicit.map m.expanduser
  | none =>
    (configuredPaths m).map m.expanduser ++
      match homeBase m home with
      | .error e => [.error e]
      | .ok base => (globSockets m base).map .ok

/-- What `discover_socket_paths` does with a candidate. -/
def noteCandidate (unique : Dict String AbsolutePath) (candidate : Except Exn String) :
    Except Exn (Dict String AbsolutePath) := do
  let canonical ← m.resolve (← candidate)
  pure (if m.isSocket canonical then unique.insert canonical.text canonical else unique)

/-- `discover_socket_paths`. -/
def discoverSocketPaths (home : Option String) (explicit : Option (List String)) :
    Except Exn (List AbsolutePath) := do
  let unique ← (candidateSocketPaths m home explicit).foldlM (noteCandidate m) ∅
  pure (unique.entries.map Prod.snd)

end Discovery

/-! ### What the loop notes -/

section Note

variable {m : AgentMachine} {unique unique' : Dict String AbsolutePath}
  {candidates : List (Except Exn String)}

/-- A path is noted under its text. -/
def Noted (unique : Dict String AbsolutePath) : Prop :=
  ∀ t p, unique.get? t = some p → p.text = t

theorem noteCandidate_eq_ok {candidate : Except Exn String} :
    noteCandidate m unique candidate = .ok unique' ↔ ∃ c p, candidate = .ok c ∧ m.resolve c = .ok p ∧
      unique' = if m.isSocket p then unique.insert p.text p else unique := by
  simp only [noteCandidate, Except.bind_eq_ok]
  constructor
  · rintro ⟨c, hc, p, hp, hunique⟩
    exact ⟨c, p, hc, hp, (Except.ok.inj hunique).symm⟩
  · rintro ⟨c, p, hc, hp, rfl⟩
    exact ⟨c, hc, p, hp, rfl⟩

/-- A socket that is noted is there, beside those that were. -/
theorem get?_note {p q : AbsolutePath} :
    (if m.isSocket p then unique.insert p.text p else unique).get? q.text = some q ↔
      unique.get? q.text = some q ∨ m.isSocket q = true ∧ p = q := by
  split_ifs with hsocket
  · rw [Dict.get?_insert]
    split_ifs with htext
    · obtain rfl := AbsolutePath.text_injective htext
      exact ⟨fun _ => .inr ⟨hsocket, rfl⟩, fun _ => rfl⟩
    · refine ⟨.inl, fun h => h.resolve_right ?_⟩
      rintro ⟨-, rfl⟩
      exact htext rfl
  · refine ⟨.inl, fun h => h.resolve_right ?_⟩
    rintro ⟨hq, rfl⟩
    exact hsocket hq

/-- **What the loop notes** are the sockets the candidates lead to. -/
theorem noted_of_foldlM (hnoted : Noted unique)
    (h : candidates.foldlM (noteCandidate m) unique = .ok unique') : Noted unique' ∧
      ∀ q, unique'.get? q.text = some q ↔ unique.get? q.text = some q ∨
        m.isSocket q = true ∧ ∃ c, .ok c ∈ candidates ∧ m.resolve c = .ok q := by
  induction candidates generalizing unique with
  | nil =>
    obtain rfl := Except.ok.inj h
    exact ⟨hnoted, fun q => by simp⟩
  | cons candidate candidates ih =>
    rw [List.foldlM_cons] at h
    obtain ⟨noted, hnote, hrest⟩ := Except.bind_eq_ok.mp h
    obtain ⟨c, p, rfl, hp, rfl⟩ := noteCandidate_eq_ok.mp hnote
    have hnoted' : Noted (if m.isSocket p then unique.insert p.text p else unique) := by
      intro t q hq
      split_ifs at hq with hsocket
      · rw [Dict.get?_insert] at hq
        split_ifs at hq with htext
        · rw [← Option.some.inj hq, htext]
        · exact hnoted t q hq
      · exact hnoted t q hq
    obtain ⟨hkept, hget⟩ := ih hnoted' hrest
    refine ⟨hkept, fun q => (hget q).trans ?_⟩
    rw [get?_note, or_assoc, ← and_or_left]
    refine or_congr_right (and_congr_right fun _ => ⟨?_, ?_⟩)
    · rintro (rfl | ⟨c', hc', hq⟩)
      · exact ⟨c, List.mem_cons_self, hp⟩
      · exact ⟨c', List.mem_cons_of_mem _ hc', hq⟩
    · rintro ⟨c', hc', hq⟩
      rcases List.mem_cons.mp hc' with heq | hc'
      · obtain rfl := Except.ok.inj heq
        exact .inl (Except.ok.inj (hp.symm.trans hq))
      · exact .inr ⟨c', hc', hq⟩

/-- The loop comes to its end if every candidate leads somewhere. -/
theorem foldlM_note_isOk : (∃ unique', candidates.foldlM (noteCandidate m) unique = .ok unique') ↔
    ∀ candidate ∈ candidates, ∃ c p, candidate = .ok c ∧ m.resolve c = .ok p := by
  induction candidates generalizing unique with
  | nil => exact ⟨fun _ _ h => absurd h List.not_mem_nil, fun _ => ⟨unique, rfl⟩⟩
  | cons candidate candidates ih =>
    rw [List.forall_mem_cons, List.foldlM_cons]
    constructor
    · rintro ⟨unique', h⟩
      obtain ⟨noted, hnote, hrest⟩ := Except.bind_eq_ok.mp h
      obtain ⟨c, p, hc, hp, -⟩ := noteCandidate_eq_ok.mp hnote
      exact ⟨⟨c, p, hc, hp⟩, ih.mp ⟨unique', hrest⟩⟩
    · rintro ⟨⟨c, p, hc, hp⟩, hrest⟩
      obtain ⟨unique', h⟩ := ih.mpr hrest
      exact ⟨unique', Except.bind_eq_ok.mpr ⟨_, noteCandidate_eq_ok.mpr ⟨c, p, hc, hp, rfl⟩, h⟩⟩

/-- Paths in the order of their texts are determined by what they are. -/
theorem eq_of_mem_iff {paths paths' : List AbsolutePath}
    (hpaths : paths.Pairwise fun p q => p.text < q.text)
    (hpaths' : paths'.Pairwise fun p q => p.text < q.text) (h : ∀ p, p ∈ paths ↔ p ∈ paths') :
    paths = paths' := by
  have hnodup {l : List AbsolutePath} (hl : l.Pairwise fun p q => p.text < q.text) : l.Nodup :=
    hl.imp fun hlt heq => absurd (heq ▸ hlt) (lt_irrefl _)
  exact List.Perm.eq_of_pairwise (fun _ _ _ _ hlt hgt => absurd hgt (lt_asymm hlt)) hpaths hpaths'
    ((List.perm_ext_iff_of_nodup (hnodup hpaths) (hnodup hpaths')).mpr h)

/-- The paths that have been noted, in the order of their texts. -/
theorem sorted_of_noted (hnoted : Noted unique) :
    (unique.entries.map Prod.snd).Pairwise (fun p q => p.text < q.text) ∧
      ∀ p, p ∈ unique.entries.map Prod.snd ↔ unique.get? p.text = some p := by
  have hkey {e : String × AbsolutePath} (he : e ∈ unique.entries) : e.2.text = e.1 :=
    hnoted e.1 e.2 (Dict.mem_entries_iff.mp he)
  refine ⟨List.pairwise_map.mpr ((List.pairwise_map.mp unique.sorted).imp_of_mem
    fun he he' hlt => ?_), fun p => ⟨fun hp => ?_, fun hp => ?_⟩⟩
  · rwa [hkey he, hkey he']
  · obtain ⟨e, he, rfl⟩ := List.mem_map.mp hp
    rw [hkey he]
    exact Dict.mem_entries_iff.mp he
  · exact List.mem_map.mpr ⟨(p.text, p), Dict.mem_entries_iff.mpr hp, rfl⟩

/-- **What is discovered among candidates.** -/
theorem discover_iff {home : Option String} {explicit : Option (List String)}
    {paths : List AbsolutePath} : discoverSocketPaths m home explicit = .ok paths ↔
      (∀ candidate ∈ candidateSocketPaths m home explicit,
        ∃ c p, candidate = .ok c ∧ m.resolve c = .ok p) ∧
      paths.Pairwise (fun p q => p.text < q.text) ∧
      ∀ p, p ∈ paths ↔ m.isSocket p = true ∧
        ∃ c, .ok c ∈ candidateSocketPaths m home explicit ∧ m.resolve c = .ok p := by
  have hempty : Noted ∅ := fun t p h => by cases h
  have hfound {unique : Dict String AbsolutePath}
      (h : (candidateSocketPaths m home explicit).foldlM (noteCandidate m) ∅ = .ok unique) :
      (unique.entries.map Prod.snd).Pairwise (fun p q => p.text < q.text) ∧
        ∀ p, p ∈ unique.entries.map Prod.snd ↔ m.isSocket p = true ∧
          ∃ c, .ok c ∈ candidateSocketPaths m home explicit ∧ m.resolve c = .ok p := by
    obtain ⟨hnoted, hget⟩ := noted_of_foldlM hempty h
    obtain ⟨hsorted, hmem⟩ := sorted_of_noted hnoted
    refine ⟨hsorted, fun p => (hmem p).trans ((hget p).trans ?_)⟩
    simp
  rw [discoverSocketPaths, Except.bind_eq_ok]
  constructor
  · rintro ⟨unique, h, hpaths⟩
    obtain rfl := Except.ok.inj hpaths
    exact ⟨foldlM_note_isOk.mp ⟨unique, h⟩, hfound h⟩
  · rintro ⟨hall, hsorted, hmem⟩
    obtain ⟨unique, h⟩ := foldlM_note_isOk.mpr hall
    obtain ⟨hsorted', hmem'⟩ := hfound h
    exact ⟨unique, h, congrArg Except.ok
      (eq_of_mem_iff hsorted' hsorted fun p => (hmem' p).trans (hmem p).symm)⟩

end Note

/-! ### What is discovered -/

section Discovered

/-- The agent is told to look at a path. -/
def AgentMachine.Told (m : AgentMachine) (explicit : Option (List String)) (raw : String) : Prop :=
  raw ∈ explicit.getD (configuredPaths m)

/-- **A data directory with a socket**: the one of a printer alone, or any whose name says so. -/
def AgentMachine.HasSocket (m : AgentMachine) (base name : String) : Prop :=
  m.occupied (socketBelow base name) = true ∧
    (name = "printer_data" ∨ name ∈ m.directories base ∧ "_data".toList <:+ name.toList)

/-- **The agent is led to a path**: it is told so, or finds it in the home directory. -/
def AgentMachine.LeadsTo (m : AgentMachine) (home : Option String)
    (explicit : Option (List String)) (p : AbsolutePath) : Prop :=
  (∃ raw, m.Told explicit raw ∧ ∃ c, m.expanduser raw = .ok c ∧ m.resolve c = .ok p) ∨
    explicit = none ∧ ∃ base name, homeBase m home = .ok base ∧ m.HasSocket base name ∧
      m.resolve (socketBelow base name) = .ok p

/-- Nothing that is looked at raises. -/
structure AgentMachine.Calm (m : AgentMachine) (home : Option String)
    (explicit : Option (List String)) : Prop where
  told : ∀ raw, m.Told explicit raw → ∃ c p, m.expanduser raw = .ok c ∧ m.resolve c = .ok p
  base : explicit = none → ∃ base, homeBase m home = .ok base
  found : explicit = none → ∀ base, homeBase m home = .ok base → ∀ name, m.HasSocket base name →
    ∃ p, m.resolve (socketBelow base name) = .ok p

variable {m : AgentMachine} {home : Option String} {explicit : Option (List String)}

/-- A name that the last pattern matches. -/
theorem fnmatch_data (name : String) :
    fnmatch "*_data".toList name.toList = true ↔ "_data".toList <:+ name.toList := by
  have hstar : fnmatch ([] ++ '*' :: "_data".toList) name.toList = true ↔
    ∃ middle, name.toList = [] ++ middle ++ "_data".toList := fnmatch_star_iff (by decide) (by decide)
  refine hstar.trans ⟨?_, ?_⟩
  · rintro ⟨middle, heq⟩
    exact ⟨middle, heq.symm⟩
  · rintro ⟨middle, heq⟩
    exact ⟨middle, heq.symm⟩

/-- **The second pattern finds nothing** that the last one does not find. -/
theorem fnmatch_data_of_printer {name : String}
    (h : fnmatch "printer_*_data".toList name.toList = true) :
    fnmatch "*_data".toList name.toList = true := by
  have hstar : fnmatch ("printer_".toList ++ '*' :: "_data".toList) name.toList = true ↔
      ∃ middle, name.toList = "printer_".toList ++ middle ++ "_data".toList :=
    fnmatch_star_iff (by decide) (by decide)
  obtain ⟨middle, heq⟩ := hstar.mp h
  exact (fnmatch_data name).mpr ⟨"printer_".toList ++ middle, heq.symm⟩

/-- What is found in the home directory. -/
theorem mem_globSockets {base c : String} :
    c ∈ globSockets m base ↔ ∃ name, m.HasSocket base name ∧ c = socketBelow base name := by
  simp only [globSockets, dataPatterns, List.mem_append, List.mem_flatMap, List.mem_cons,
    List.not_mem_nil, or_false, List.mem_filter, List.mem_map, exists_eq_or_imp, exists_eq_left]
  constructor
  · rintro (⟨rfl, hocc⟩ | ⟨⟨name, ⟨hname, hmatch⟩, rfl⟩, hocc⟩ |
      ⟨⟨name, ⟨hname, hmatch⟩, rfl⟩, hocc⟩)
    · exact ⟨_, ⟨hocc, .inl rfl⟩, rfl⟩
    · exact ⟨name, ⟨hocc, .inr ⟨hname, (fnmatch_data name).mp (fnmatch_data_of_printer hmatch)⟩⟩,
        rfl⟩
    · exact ⟨name, ⟨hocc, .inr ⟨hname, (fnmatch_data name).mp hmatch⟩⟩, rfl⟩
  · rintro ⟨name, ⟨hocc, rfl | ⟨hname, hdata⟩⟩, rfl⟩
    · exact .inl ⟨rfl, hocc⟩
    · exact .inr (.inr ⟨⟨name, ⟨hname, (fnmatch_data name).mpr hdata⟩, rfl⟩, hocc⟩)

/-- What is yielded. -/
theorem mem_candidateSocketPaths {candidate : Except Exn String} :
    candidate ∈ candidateSocketPaths m home explicit ↔
      (∃ raw, m.Told explicit raw ∧ candidate = m.expanduser raw) ∨
        explicit = none ∧ ((∃ e, homeBase m home = .error e ∧ candidate = .error e) ∨
          ∃ base name, homeBase m home = .ok base ∧ m.HasSocket base name ∧
            candidate = .ok (socketBelow base name)) := by
  cases explicit with
  | some explicit => simp [candidateSocketPaths, AgentMachine.Told, eq_comm]
  | none =>
    rw [candidateSocketPaths, List.mem_append]
    refine or_congr (by simp [AgentMachine.Told, eq_comm]) ?_
    cases hbase : homeBase m home with
    | error e => simp
    | ok base =>
      simp only [List.mem_map, mem_globSockets]
      constructor
      · rintro ⟨c, ⟨name, hname, rfl⟩, rfl⟩
        exact ⟨trivial, .inr ⟨base, name, rfl, hname, rfl⟩⟩
      · rintro ⟨-, ⟨e, he, -⟩ | ⟨base', name, hbase', hname, rfl⟩⟩
        · cases he
        · obtain rfl := Except.ok.inj hbase'
          exact ⟨_, ⟨name, hname, rfl⟩, rfl⟩

/-- **Discovery.** `discover_socket_paths` returns if nothing it looks at raises, and then what it
returns are the sockets to which anything leads, each of them once, in the order of their paths –
however often and by whichever way the agent is led to it, and in whichever order directories are
listed. -/
theorem discover_socket_paths_iff (m : AgentMachine) (home : Option String)
    (explicit : Option (List String)) (paths : List AbsolutePath) :
    discoverSocketPaths m home explicit = .ok paths ↔ m.Calm home explicit ∧
      paths.Pairwise (fun p q => p.text < q.text) ∧
      ∀ p, p ∈ paths ↔ m.isSocket p = true ∧ m.LeadsTo home explicit p := by
  have hleads (p : AbsolutePath) : (∃ c, .ok c ∈ candidateSocketPaths m home explicit ∧
      m.resolve c = .ok p) ↔ m.LeadsTo home explicit p := by
    constructor
    · rintro ⟨c, hc, hp⟩
      rcases mem_candidateSocketPaths.mp hc with ⟨raw, hraw, heq⟩ | ⟨hnone, ⟨e, -, he⟩ |
        ⟨base, name, hbase, hname, heq⟩⟩
      · exact .inl ⟨raw, hraw, c, heq.symm, hp⟩
      · cases he
      · obtain rfl := Except.ok.inj heq
        exact .inr ⟨hnone, base, name, hbase, hname, hp⟩
    · rintro (⟨raw, hraw, c, hc, hp⟩ | ⟨hnone, base, name, hbase, hname, hp⟩)
      · exact ⟨c, mem_candidateSocketPaths.mpr (.inl ⟨raw, hraw, hc.symm⟩), hp⟩
      · exact ⟨_, mem_candidateSocketPaths.mpr (.inr ⟨hnone, .inr ⟨base, name, hbase, hname, rfl⟩⟩),
          hp⟩
  have hcalm : (∀ candidate ∈ candidateSocketPaths m home explicit,
      ∃ c p, candidate = .ok c ∧ m.resolve c = .ok p) ↔ m.Calm home explicit := by
    constructor
    · intro h
      refine ⟨fun raw hraw => h _ (mem_candidateSocketPaths.mpr (.inl ⟨raw, hraw, rfl⟩)),
        fun hnone => ?_, fun hnone base hbase name hname => ?_⟩
      · cases hbase : homeBase m home with
        | ok base => exact ⟨base, rfl⟩
        | error e =>
          obtain ⟨c, p, hc, -⟩ :=
            h _ (mem_candidateSocketPaths.mpr (.inr ⟨hnone, .inl ⟨e, hbase, rfl⟩⟩))
          cases hc
      · obtain ⟨c, p, hc, hp⟩ := h _ (mem_candidateSocketPaths.mpr
          (.inr ⟨hnone, .inr ⟨base, name, hbase, hname, rfl⟩⟩))
        obtain rfl := Except.ok.inj hc
        exact ⟨p, hp⟩
    · rintro h candidate hcandidate
      rcases mem_candidateSocketPaths.mp hcandidate with ⟨raw, hraw, rfl⟩ | ⟨hnone, ⟨e, he, -⟩ |
        ⟨base, name, hbase, hname, rfl⟩⟩
      · exact h.told raw hraw
      · obtain ⟨base, hbase⟩ := h.base hnone
        rw [hbase] at he
        cases he
      · obtain ⟨p, hp⟩ := h.found hnone base hbase name hname
        exact ⟨_, p, rfl, hp⟩
  rw [discover_iff, hcalm]
  simp only [hleads]

end Discovered

end PrinterHmi
