import PrinterHmi.Service.Catalog
import PrinterHmi.Service.LocalApi

/-!
# The agent

`run_service` builds the catalog of the sockets, gives every socket a monitor that writes in one
store, and answers the local API from both. A monitor calls its instance as the catalog does, since
both have the identifier from the path of the socket.

So what a client gets for an instance of the catalog is what its own monitor has left in the store
last, a snapshot or an error, however the turns of the monitors, the flush tasks and the clients
follow one another, and whichever writes of the state file fail (`instance_get_latest`).
-/

namespace PrinterHmi

/-- **The agent that runs**: the printer hosts of its monitors, and its catalog. -/
structure Agent where
  sites : List Site
  catalog : List Json

section Agent

variable (m : AgentMachine) (pyStr : Json → String)

/-- How a monitor calls its instance. -/
def siteOf (path : AbsolutePath) : Except Exn Site := do
  let hostId ← machineIdentity m
  let identifier ← instanceIdentity m path.text hostId
  pure ⟨identifier.1, path.text⟩

/-- `run_service`, until it serves. -/
def runService (replies : AbsolutePath → Replies) (paths : List AbsolutePath) : Except Exn Agent := do
  require (paths ≠ []) (⟨.runtimeError, "no local Moonraker Unix sockets found"⟩ : Exn)
  let catalog ← buildCatalog m pyStr replies paths
  let sites ← paths.mapM (siteOf m)
  pure ⟨sites, catalog.map MoonrakerInstance.toDict⟩

/-- The local API of the agent, at a moment. -/
def Agent.api (agent : Agent) (s : Service) : LocalAgentApi := ⟨s.loop.store, agent.catalog⟩

/-- The request for an instance. -/
def instanceRequest (id : String) : Json :=
  requestDocument "instance.get" (some (.obj [("instance_id", .str id)]))

end Agent

/-! ### What a monitor leaves in the store -/

section Told

variable (P : Platform) (interval : Time)

/-- The printer host of a monitor that reads. -/
def Service.reading? (s : Service) (i : ℕ) : Option Site :=
  match s.monitors[i]? with
  | some ⟨site, .reading⟩ => some site
  | _ => none

/-- What a monitor leaves of a snapshot: its payload, or the exception its write has raised. -/
def leftOf (loop : StoreLoop) (site : Site) (snapshot : Dict String Json) (t : ServiceTurn) : Json :=
  match (loop.tryUpdate P interval site.instanceId (site.snapshotPayload snapshot) t.first).1 with
  | none => site.snapshotPayload snapshot
  | some failure => site.errorPayload (P.timestamp t.captured) failure

/-- **What a turn leaves in the store of the instance of a monitor**: the snapshot it has got, or the
exception that reading or writing has raised. -/
def told? (i : ℕ) (e : ServiceEvent) : Option Json :=
  match e.call.action with
  | .yields j snapshot =>
    if j = i then (e.before.reading? i).map fun site =>
      leftOf P interval e.before.loop site snapshot e.call
    else none
  | .raises j failure =>
    if j = i then (e.before.reading? i).map fun site =>
      site.errorPayload (P.timestamp e.call.captured) failure
    else none
  | _ => none

/-- What the monitor has left last. -/
def lastTold? (i : ℕ) (es : List ServiceEvent) : Option Json :=
  (es.filterMap (told? P interval i)).getLast?

variable {P interval} {x : StoreLoop} {s : Service} {t : ServiceTurn} {i : ℕ}

theorem lastTold?_append (es : List ServiceEvent) (e : ServiceEvent) :
    lastTold? P interval i (es ++ [e]) = (told? P interval i e).or (lastTold? P interval i es) := by
  rw [lastTold?, List.filterMap_append, List.getLast?_append]
  cases h : told? P interval i e with
  | none => simp [h, lastTold?]
  | some payload => simp [h]

theorem insert_insert {d : Dict String Json} {id : String} (payload payload' : Json) :
    (d.insert id payload).insert id payload' = d.insert id payload' := by
  ext k : 1
  rw [Dict.get?_insert, Dict.get?_insert, Dict.get?_insert]
  split <;> rfl

variable (P interval x) in
/-- An update puts its payload in the store, whether its write fails or not. -/
theorem instances_tryUpdate (id : String) (payload : Json) (r : Reading) :
    (x.tryUpdate P interval id payload r).2.store.instances = x.store.instances.insert id payload := by
  rcases tryUpdate_cases P interval x id payload r with ⟨-, e, -, heq⟩ | ⟨-, heq⟩
  · rw [heq]
    rfl
  · rw [heq, StoreLoop.update]
    dsimp only
    split_ifs <;> rfl

theorem instances_writeIfDirty (store : SnapshotStore) (t : Turn) :
    (store.writeIfDirty P t).2.instances = store.instances := by
  rw [SnapshotStore.writeIfDirty]
  split_ifs <;> rfl

theorem instances_release (store : SnapshotStore) (k : ℕ) :
    (store.release k).instances = store.instances := by
  rw [SnapshotStore.release]
  split_ifs <;> rfl

variable (P interval) in
/-- A turn of the store that is no update puts nothing in it. -/
theorem instances_step {u : Turn} (hu : u.NoUpdate) :
    (x.step P interval u).2.store.instances = x.store.instances := by
  have hturned := turned_step P interval x u
  generalize (x.step P interval u).1 = out at hturned
  generalize (x.step P interval u).2 = y at hturned ⊢
  cases hturned with
  | still => rfl
  | writes haction => exact absurd haction (hu _ _)
  | arms haction => exact absurd haction (hu _ _)
  | leaves haction => exact absurd haction (hu _ _)
  | sleeps => rfl
  | ends _ _ _ _ hstore =>
    rcases hstore with rfl | rfl
    · rfl
    · exact instances_release x.store _
  | wakes => exact (instances_release _ _).trans (instances_writeIfDirty x.store u)
  | flushes _ hstore =>
    subst hstore
    exact instances_writeIfDirty _ u
  | cancels => rfl
  | returns => exact instances_writeIfDirty x.store u

/-- A flush task puts nothing in the store. -/
theorem instances_tryFlushAfter (k : ℕ) (r : Reading) :
    (x.tryFlushAfter P k r).store.instances = x.store.instances := by
  have hkept : (x.flushAfter P k (r.turn (.task k))).2.store.instances = x.store.instances :=
    instances_step P 0 (u := r.turn (.task k)) (by rintro _ _ ⟨⟩)
  rw [StoreLoop.tryFlushAfter]
  split
  · exact instances_release x.store k
  · next heq _ =>
    rw [heq] at hkept
    exact hkept

/-- Nor does a call of `flush`. -/
theorem instances_tryFlush (r : Reading) :
    (x.tryFlush P r).store.instances = x.store.instances := by
  have hkept : (x.flush P (r.turn .flush)).2.store.instances = x.store.instances :=
    instances_step P 0 (u := r.turn .flush) (by rintro _ _ ⟨⟩)
  rw [StoreLoop.tryFlush]
  split
  · rfl
  · next heq _ =>
    rw [heq] at hkept
    exact hkept

theorem instances_tryResume (f : ℕ) (r : Reading) :
    (x.tryResume P f r).store.instances = x.store.instances := by
  have hkept : (x.resume P f (r.turn (.resume f))).2.store.instances = x.store.instances :=
    instances_step P 0 (u := r.turn (.resume f)) (by rintro _ _ ⟨⟩)
  rw [StoreLoop.tryResume]
  split
  · rfl
  · next heq _ =>
    rw [heq] at hkept
    exact hkept

/-- The error handler puts its payload in the store, whether its write fails or not. -/
theorem instances_handle (site : Site) (e : Failure) :
    (s.handle P interval i site e t).loop.store.instances =
      s.loop.store.instances.insert site.instanceId (site.errorPayload (P.timestamp t.captured) e) := by
  have hput := instances_tryUpdate P interval s.loop site.instanceId
    (site.errorPayload (P.timestamp t.captured) e) t.second
  rw [Service.handle]
  split
  · next heq =>
    rw [heq] at hput
    exact hput
  · next heq =>
    rw [heq] at hput
    exact hput

/-- The printer hosts of the monitors. -/
def Service.sites (s : Service) : List Site := s.monitors.map InstanceMonitor.site

theorem sites_setPhase (phase : MonitorPhase) : (s.setPhase i phase).sites = s.sites := by
  refine List.ext_getElem? fun j => ?_
  simp only [Service.sites, Service.setPhase, List.getElem?_map, List.getElem?_modify]
  cases s.monitors[j]? with
  | none => rfl
  | some monitor => by_cases hij : i = j <;> simp [hij]

theorem sites_handle (site : Site) (e : Failure) :
    (s.handle P interval i site e t).sites = s.sites := by
  rw [Service.handle]
  split
  · exact sites_setPhase _
  · exact sites_setPhase _

/-- The monitors keep their hosts. -/
theorem sites_step : (s.step P interval t).sites = s.sites := by
  rw [Service.step]
  split
  · split
    · split
      · rfl
      · exact sites_handle _ _
    · rfl
  · split
    · exact sites_handle _ _
    · rfl
  · split
    · exact sites_setPhase _
    · rfl
  · split
    · exact sites_setPhase _
    · exact sites_setPhase _
    · rfl
  · rfl
  · rfl
  · rfl

/-- A turn of a monitor that does not read. -/
theorem step_of_idle (hidle : s.reading? i = none) {action : ServiceAction}
    (haction : (∃ snapshot, action = .yields i snapshot) ∨ ∃ e, action = .raises i e) :
    s.step P interval { t with action := action } = s := by
  rw [Service.reading?] at hidle
  rcases haction with ⟨snapshot, rfl⟩ | ⟨e, rfl⟩
  · rw [Service.step]
    dsimp only
    split
    · next hi =>
      rw [hi] at hidle
      cases hidle
    · rfl
  · rw [Service.step]
    dsimp only
    split
    · next hi =>
      rw [hi] at hidle
      cases hidle
    · rfl

theorem monitor_of_reading {site : Site} (h : s.reading? i = some site) :
    s.monitors[i]? = some ⟨site, .reading⟩ := by
  rw [Service.reading?] at h
  split at h
  · next hi => rw [hi, Option.some.inj h]
  · cases h

variable (P interval s t) in
/-- **What a turn does to the store**: it puts in what it tells of one instance, or nothing. -/
theorem told_or_kept :
    (∃ i site payload, s.sites[i]? = some site ∧
      (∀ j, told? P interval j ⟨s, t, (), s.step P interval t⟩ = if j = i then some payload else none) ∧
      (s.step P interval t).loop.store.instances =
        s.loop.store.instances.insert site.instanceId payload) ∨
    (∀ j, told? P interval j ⟨s, t, (), s.step P interval t⟩ = none) ∧
      (s.step P interval t).loop.store.instances = s.loop.store.instances := by
  have hsite {i : ℕ} {site : Site} (hi : s.reading? i = some site) : s.sites[i]? = some site := by
    rw [Service.sites, List.getElem?_map, monitor_of_reading hi]
    rfl
  obtain ⟨action, first, second, captured⟩ := t
  cases action with
  | yields i snapshot =>
    cases hi : s.reading? i with
    | none =>
      refine .inr ⟨fun j => ?_, ?_⟩
      · rw [told?]
        dsimp only
        split_ifs with hij
        · rw [← hij, hi]
          rfl
        · rfl
      · exact congrArg (fun s : Service => s.loop.store.instances)
          (step_of_idle (t := ⟨.flush, first, second, captured⟩) hi (.inl ⟨snapshot, rfl⟩))
    | some site =>
      have hput := instances_tryUpdate P interval s.loop site.instanceId (site.snapshotPayload snapshot)
        first
      refine .inl ⟨i, site, leftOf P interval s.loop site snapshot
        ⟨.yields i snapshot, first, second, captured⟩, hsite hi, fun j => ?_, ?_⟩
      · rw [told?]
        dsimp only
        by_cases hij : i = j
        · rw [if_pos hij, if_pos hij.symm, ← hij, hi]
          rfl
        · rw [if_neg hij, if_neg fun h => hij h.symm]
      · rw [Service.step, leftOf]
        dsimp only
        rw [monitor_of_reading hi]
        dsimp only
        generalize s.loop.tryUpdate P interval site.instanceId (site.snapshotPayload snapshot) first =
          u at hput
        obtain ⟨out, loop⟩ := u
        cases out with
        | none => exact hput
        | some failure =>
          -- the payload of the handler takes the place of the snapshot
          refine (instances_handle site failure).trans ?_
          rw [show loop.store.instances = _ from hput, insert_insert]
  | raises i e =>
    cases hi : s.reading? i with
    | none =>
      refine .inr ⟨fun j => ?_, ?_⟩
      · rw [told?]
        dsimp only
        split_ifs with hij
        · rw [← hij, hi]
          rfl
        · rfl
      · exact congrArg (fun s : Service => s.loop.store.instances)
          (step_of_idle (t := ⟨.flush, first, second, captured⟩) hi (.inr ⟨e, rfl⟩))
    | some site =>
      refine .inl ⟨i, site, site.errorPayload (P.timestamp captured) e, hsite hi, fun j => ?_, ?_⟩
      · rw [told?]
        dsimp only
        by_cases hij : i = j
        · rw [if_pos hij, if_pos hij.symm, ← hij, hi]
          rfl
        · rw [if_neg hij, if_neg fun h => hij h.symm]
      · rw [Service.step]
        dsimp only
        rw [monitor_of_reading hi]
        exact instances_handle site e
  | wakes i =>
    refine .inr ⟨fun _ => rfl, ?_⟩
    rw [Service.step]
    dsimp only
    split <;> rfl
  | cancels i =>
    refine .inr ⟨fun _ => rfl, ?_⟩
    rw [Service.step]
    dsimp only
    split <;> rfl
  | task k => exact .inr ⟨fun _ => rfl, instances_tryFlushAfter k first⟩
  | flush => exact .inr ⟨fun _ => rfl, instances_tryFlush first⟩
  | resume f => exact .inr ⟨fun _ => rfl, instances_tryResume f first⟩

/-- What is told is an object. -/
theorem isObj_told {e : ServiceEvent} {payload : Json} (h : told? P interval i e = some payload) :
    payload.isObj = true := by
  rw [told?] at h
  split at h
  · split_ifs at h
    obtain ⟨site, -, rfl⟩ := Option.map_eq_some_iff.mp h
    rw [leftOf]
    split <;> rfl
  · split_ifs at h
    obtain ⟨site, -, rfl⟩ := Option.map_eq_some_iff.mp h
    rfl
  · cases h

/-! ### Runs -/

variable (P interval) in
/-- **The store shows what the monitors have left last**, and nothing else. -/
structure ShowsLatest (sites : List Site) (es : List ServiceEvent) (s : Service) : Prop where
  hosts : s.sites = sites
  last : ∀ i site, sites[i]? = some site →
    s.loop.store.instances.get? site.instanceId = lastTold? P interval i es
  known : ∀ id, s.loop.store.instances.get? id ≠ none → ∃ site ∈ sites, site.instanceId = id

/-- **A turn goes on with what the store shows.** -/
theorem ShowsLatest.step {sites : List Site} {es : List ServiceEvent} (h : ShowsLatest P interval sites es s)
    (hnodup : (sites.map Site.instanceId).Nodup) :
    ShowsLatest P interval sites (es ++ [⟨s, t, (), s.step P interval t⟩]) (s.step P interval t) := by
  refine ⟨sites_step.trans h.hosts, fun j other hother => ?_, fun id hid => ?_⟩
  · rw [lastTold?_append]
    rcases told_or_kept P interval s t with ⟨i, site, payload, hsite, htold, hput⟩ | ⟨htold, hkept⟩
    · rw [htold, hput, Dict.get?_insert]
      rw [h.hosts] at hsite
      by_cases hji : j = i
      · subst hji
        obtain rfl := Option.some.inj (hsite.symm.trans hother)
        rw [if_pos rfl, if_pos rfl]
        rfl
      · -- another monitor has another identifier
        have hne : site.instanceId ≠ other.instanceId := by
          intro heq
          have hj : j < (sites.map Site.instanceId).length := by
            rw [List.length_map]
            exact (List.getElem?_eq_some_iff.mp hother).1
          refine hji ((List.getElem?_inj hj hnodup).mp ?_)
          rw [List.getElem?_map, List.getElem?_map, hother, hsite, Option.map_some, Option.map_some,
            heq]
        rw [if_neg hne, if_neg hji]
        exact h.last j other hother
    · rw [htold, hkept]
      exact h.last j other hother
  · rcases told_or_kept P interval s t with ⟨i, site, payload, hsite, -, hput⟩ | ⟨-, hkept⟩
    · rw [hput, Dict.get?_insert] at hid
      split_ifs at hid with heq
      · rw [h.hosts] at hsite
        exact ⟨site, List.mem_of_getElem? hsite, heq⟩
      · exact h.known id hid
    · rw [hkept] at hid
      exact h.known id hid

/-- **The store shows it in every run**, whichever writes fail. -/
theorem showsLatest_of_run {sites : List Site} {es : List ServiceEvent}
    (hnodup : (sites.map Site.instanceId).Nodup) (hrun : ServiceRun P interval sites es s) :
    ShowsLatest P interval sites es s := by
  refine hrun.invariant (I := ShowsLatest P interval sites) ⟨?_, fun i site hi => ?_, fun id hid => ?_⟩
    fun es s t _ ih _ => ih.step hnodup
  · rw [Service.sites, Service.start, List.map_map]
    exact List.map_id _
  · rfl
  · exact absurd rfl hid

end Told

/-! ### What a client gets -/

section Client

variable {m : AgentMachine} {pyStr : Json → String} {replies : AbsolutePath → Replies}
  {paths : List AbsolutePath} {agent : Agent} {home : Option String} {explicit : Option (List String)}

/-- A monitor has the identifier of its socket. -/
theorem siteOf_eq_ok {path : AbsolutePath} (hpath : m.Canonical path) {site : Site} :
    siteOf m path = .ok site ↔ ∃ hostId, machineIdentity m = .ok hostId ∧
      site = ⟨(uuid5 m (instanceSeed hostId path)).1, path.text⟩ := by
  simp only [siteOf, Except.bind_eq_ok, instanceIdentity_eq_ok hpath]
  constructor
  · rintro ⟨hostId, hhost, identifier, rfl, h⟩
    exact ⟨hostId, hhost, (Except.ok.inj h).symm⟩
  · rintro ⟨hostId, hhost, rfl⟩
    exact ⟨hostId, hhost, _, rfl, rfl⟩

/-- What is at a place on the left has something at that place on the right. -/
theorem exists_getElem?_of_forall₂ {α β : Type} {R : α → β → Prop} {l : List α} {l' : List β}
    (h : List.Forall₂ R l l') {i : ℕ} {a : α} (hi : l[i]? = some a) :
    ∃ b, l'[i]? = some b ∧ R a b := by
  induction h generalizing i with
  | nil => cases hi
  | @cons a' b l l' hab _ ih =>
    cases i with
    | zero =>
      obtain rfl := Option.some.inj hi
      exact ⟨b, rfl, hab⟩
    | succ i => exact ih hi

/-- The monitors have the identifiers of the catalog. -/
theorem sites_of_describes {catalog : List MoonrakerInstance} {sites : List Site}
    (hpaths : ∀ p ∈ paths, m.Canonical p)
    (hdescribes : List.Forall₂
      (fun p item => MoonrakerInstance.Describes m pyStr item p (replies p)) paths catalog)
    (hsites : List.Forall₂ (fun p site => siteOf m p = .ok site) paths sites) :
    sites = catalog.map fun item => ⟨item.instanceId.1, item.socketPath⟩ := by
  induction hdescribes generalizing sites with
  | nil => exact List.forall₂_nil_left_iff.mp hsites
  | @cons p item paths catalog hitem _ ih =>
    obtain ⟨site, rest, hsite, hrest, rfl⟩ := List.forall₂_cons_left_iff.mp hsites
    obtain ⟨hostId, hhost, rfl⟩ := (siteOf_eq_ok (hpaths p List.mem_cons_self)).mp hsite
    obtain ⟨hostId', hhost', hidentity⟩ := hitem.identity
    obtain rfl := Except.ok.inj (hhost.symm.trans hhost')
    rw [List.map_cons, hidentity, hitem.socket,
      ih (fun q hq => hpaths q (List.mem_cons_of_mem p hq)) hrest]

/-- **The catalog and the monitors have the same instances**, in the same order. -/
theorem instances_of_runService (hpaths : ∀ p ∈ paths, m.Canonical p)
    (h : runService m pyStr replies paths = .ok agent) : ∃ catalog : List MoonrakerInstance,
      agent.catalog = catalog.map MoonrakerInstance.toDict ∧
      List.Forall₂ (fun p item => MoonrakerInstance.Describes m pyStr item p (replies p))
        paths catalog ∧
      agent.sites = catalog.map fun item => ⟨item.instanceId.1, item.socketPath⟩ := by
  obtain ⟨-, -, hbuilt⟩ := Except.bind_eq_ok.mp h
  obtain ⟨catalog, hcatalog, hmonitored⟩ := Except.bind_eq_ok.mp hbuilt
  obtain ⟨sites, hsites, hagent⟩ := Except.bind_eq_ok.mp hmonitored
  obtain rfl := Except.ok.inj hagent
  have hdescribes := describes_of_buildCatalog hpaths hcatalog
  exact ⟨catalog, rfl, hdescribes, sites_of_describes hpaths hdescribes (mapM_eq_ok.mp hsites)⟩

variable {P : Platform} {interval : Time} {env : ApiSupply} {s : Service} {es : List ServiceEvent}

/-- A request for an instance of the catalog is short. -/
theorem length_instanceRequest (u : Uuid) :
    (instanceRequest u.1).encode.length < maxRequestBytes := by
  have hlength : u.1.toList.length = 36 := length_uuid u
  have hbound : (instanceRequest u.1).lengthBound = 1069 := by
    simp only [instanceRequest, requestDocument, Option.map_some, Option.toList_some, List.cons_append,
      List.nil_append, Json.lengthBound, Json.lengthBoundFields, Json.stringBound, hlength,
      protocolVersion]
    rfl
  refine (Json.length_encode_le _).trans_lt ?_
  rw [hbound]
  decide

theorem ordered_instanceRequest (id : String) : (instanceRequest id).ordered = true := by
  have hnames : ["method", "params", "protocol_version"].Pairwise (· < ·) := by decide
  refine Json.ordered_obj.mpr ⟨hnames, fun e he => ?_⟩
  simp only [List.mem_append, List.mem_cons, List.not_mem_nil, or_false, Option.map_some,
    Option.toList_some] at he
  rcases he with (rfl | rfl) | rfl <;> rfl

/-- **The answer to a request for an instance.** -/
theorem dispatch_instanceRequest {api : LocalAgentApi} {id : String} (hid : id ≠ "")
    (hobj : ∀ payload, api.store.instances.get? id = some payload → payload.isObj = true) :
    api.dispatch P env (instanceRequest id) = (api.store.instances.get? id).elim
      (.error ⟨"not_found", "instance was not found"⟩) fun payload => .ok (apiResult payload) := by
  change (require (id ≠ "") _ >>= fun _ => _) = _
  rw [require_pos hid]
  cases h : api.store.instances.get? id with
  | none =>
    rw [Option.getD_none]
    rfl
  | some payload =>
    cases payload with
    | obj fields =>
      rw [Option.getD_some]
      rfl
    | _ => cases hobj _ h

/-- What a monitor has left last is an object. -/
theorem isObj_lastTold {i : ℕ} {payload : Json} (h : lastTold? P interval i es = some payload) :
    payload.isObj = true := by
  obtain ⟨e, -, he⟩ := List.mem_filterMap.mp (List.mem_of_getLast? h)
  exact isObj_told he

/-- What the store shows are objects. -/
theorem ShowsLatest.isObj {sites : List Site} (h : ShowsLatest P interval sites es s) {id : String}
    {payload : Json} (hget : s.loop.store.instances.get? id = some payload) :
    payload.isObj = true := by
  obtain ⟨site, hsite, rfl⟩ := h.known id (by rw [hget]; exact Option.some_ne_none payload)
  obtain ⟨i, hi⟩ := List.mem_iff_getElem?.mp hsite
  rw [h.last i site hi] at hget
  exact isObj_lastTold hget

/-- There is no more in the store than there are monitors. -/
theorem ShowsLatest.length_le {sites : List Site} (h : ShowsLatest P interval sites es s) :
    s.loop.store.instances.entries.length ≤ sites.length := by
  have hnodup : (s.loop.store.instances.entries.map Prod.fst).Nodup :=
    s.loop.store.instances.sorted.imp fun hlt heq => absurd (heq ▸ hlt) (lt_irrefl _)
  have hsub : s.loop.store.instances.entries.map Prod.fst ⊆ sites.map Site.instanceId := by
    intro id hid
    obtain ⟨e, he, rfl⟩ := List.mem_map.mp hid
    have hget := Dict.mem_entries_iff.mp he
    obtain ⟨site, hsite, heq⟩ := h.known e.1 (by rw [hget]; exact Option.some_ne_none e.2)
    exact List.mem_map.mpr ⟨site, hsite, heq⟩
  simpa using (List.subperm_of_subset hnodup hsub).length_le

/-- **What a client gets for an instance of the catalog is what its monitor has left last.** In every
run of the agent, whatever its monitors read and whichever writes of the state file fail: the request
for an instance of the catalog is answered with the last snapshot or error of the monitor of its
socket, and before the first it is not found; an identifier that is not in the catalog is never
found; and never are more instances ready than the catalog has. -/
theorem instance_get_latest (hpaths : discoverSocketPaths m home explicit = .ok paths)
    (hdistinct : m.Distinguishes paths) (hagent : runService m pyStr replies paths = .ok agent)
    (hrun : ServiceRun P interval agent.sites es s) (env : ApiSupply) :
    (∀ i path, paths[i]? = some path → ∃ item id, agent.catalog[i]? = some item ∧
      item.field "instance_id" = .str id ∧ item.field "socket_path" = .str path.text ∧
      (agent.api s).answer P .same env (canonical (instanceRequest id) ++ [newline]) =
        (lastTold? P interval i es).elim (apiError "not_found" "instance was not found") apiResult) ∧
    (∀ id, id ≠ "" → (∀ item ∈ agent.catalog, item.field "instance_id" ≠ .str id) →
      (agent.api s).dispatch P env (instanceRequest id) =
        .error ⟨"not_found", "instance was not found"⟩) ∧
    s.loop.store.instances.entries.length ≤ agent.catalog.length := by
  obtain ⟨hcanonical, hnodup⟩ := canonical_of_discover hpaths
  obtain ⟨catalog, hcatalog, hdescribes, hsites⟩ := instances_of_runService hcanonical hagent
  have hids : (agent.sites.map Site.instanceId).Nodup := by
    rw [hsites, List.map_map]
    have htexts := (nodup_of_describes hnodup hdistinct hdescribes).map Subtype.val_injective
    rwa [List.map_map] at htexts
  have hshows := showsLatest_of_run hids hrun
  refine ⟨fun i path hi => ?_, fun id hid hnone => ?_, ?_⟩
  · obtain ⟨item, hitem, hdescribed⟩ := exists_getElem?_of_forall₂ hdescribes hi
    have hsite : agent.sites[i]? = some ⟨item.instanceId.1, item.socketPath⟩ := by
      rw [hsites, List.getElem?_map, hitem]
      rfl
    have hid : item.instanceId.1 ≠ "" := by
      intro hempty
      have hlength := length_uuid item.instanceId
      rw [hempty] at hlength
      cases hlength
    refine ⟨item.toDict, item.instanceId.1, by rw [hcatalog, List.getElem?_map, hitem]; rfl, rfl,
      congrArg Json.str hdescribed.socket, ?_⟩
    rw [LocalAgentApi.answer, handle_line (ordered_instanceRequest _) (length_instanceRequest _),
      dispatch_instanceRequest hid fun payload => hshows.isObj]
    rw [show (agent.api s).store.instances.get? item.instanceId.1 = _ from hshows.last i _ hsite]
    cases lastTold? P interval i es <;> rfl
  · rw [dispatch_instanceRequest hid fun payload => hshows.isObj]
    cases hget : (agent.api s).store.instances.get? id with
    | none => rfl
    | some payload =>
      obtain ⟨site, hsite, rfl⟩ := hshows.known id (by
        rw [show s.loop.store.instances.get? id = _ from hget]
        exact Option.some_ne_none payload)
      rw [hsites] at hsite
      obtain ⟨item, hitem, rfl⟩ := List.mem_map.mp hsite
      exact absurd rfl (hnone item.toDict (hcatalog ▸ List.mem_map_of_mem hitem))
  · rw [hcatalog, List.length_map]
    refine hshows.length_le.trans_eq ?_
    rw [hsites, List.length_map]

end Client

/-! ### A sample agent -/

namespace Sample

/-- The service of the sample machine is started. -/
theorem runService_machine : ∃ agent,
    runService machine (fun _ => "") hostReplies [printerSocket, voronSocket] = .ok agent := by
  obtain ⟨hcanonical, -⟩ := canonical_of_discover discover_machine
  obtain ⟨catalog, hcatalog⟩ : ∃ catalog,
      buildCatalog machine (fun _ => "") hostReplies [printerSocket, voronSocket] = .ok catalog :=
    buildCatalog_returns hcanonical machineIdentity_machine hostReplies
  have hsite (path : AbsolutePath) (hpath : path ∈ [printerSocket, voronSocket]) :
      siteOf machine path = .ok _ :=
    (siteOf_eq_ok (hcanonical path hpath)).mpr ⟨machineText, machineIdentity_machine, rfl⟩
  refine ⟨_, Except.bind_eq_ok.mpr ⟨(), require_pos (by decide), Except.bind_eq_ok.mpr
    ⟨catalog, hcatalog, Except.bind_eq_ok.mpr ⟨_, mapM_eq_ok.mpr (.cons (hsite _ ?_)
      (.cons (hsite _ ?_) .nil)), rfl⟩⟩⟩⟩
  · exact List.mem_cons_self
  · exact List.mem_cons_of_mem _ List.mem_cons_self

end Sample

open Sample in
/-- A monitor of the sample agent gets a snapshot, and a client asks for it. -/
theorem instance_get_latest_sample : ∃ agent es s item id,
    runService machine (fun _ => "") hostReplies [printerSocket, voronSocket] = .ok agent ∧
      ServiceRun platform (seconds 1) agent.sites es s ∧ es.length = 1 ∧
      agent.catalog[0]? = some item ∧ item.field "instance_id" = .str id ∧
      (agent.api s).answer platform .same ⟨moment 0, ⟨"1.5".toList, by decide⟩⟩
          (canonical (instanceRequest id) ++ [newline]) =
        (lastTold? platform (seconds 1) 0 es).elim
          (apiError "not_found" "instance was not found") apiResult := by
  obtain ⟨agent, hagent⟩ := runService_machine
  have hrun : ServiceRun platform (seconds 1) agent.sites _ _ :=
    Run.start.next (c := serviceTurn (.yields 0 secondSnapshot) (loopTime 100000) none none)
      ⟨by decide, le_rfl, le_rfl, le_rfl, fun _ he => absurd he List.not_mem_nil⟩
  obtain ⟨item, id, hitem, hid, -, hanswer⟩ := (instance_get_latest discover_machine
    distinguishes_machine hagent hrun ⟨moment 0, ⟨"1.5".toList, by decide⟩⟩).1 0 printerSocket rfl
  exact ⟨agent, _, _, item, id, hagent, hrun, rfl, hitem, hid, hanswer⟩

end PrinterHmi
