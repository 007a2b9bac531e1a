import EstateMesh.Lib.Machine
import EstateMesh.Resolver.Liveness
import EstateMesh.Resolver.Reload

/-!
# The live table and the registries

`advertise` and `heartbeat` add to the live table only nodes that are declared, and
`expire` and `resolve` add none.  `reload` replaces the declarations and leaves the table
alone, so a node that the new documents drop stays in it.  What the readers say of a node
agrees as long as that does not happen (`live_table_declared_iff`).
-/

namespace EstateMesh

open Lib Machine

/-- The calls of the resolver. -/
inductive ResolverCall
  | advertise (canonicalId : String) (capabilities : List String) (resources : PyDict)
      (health : String) (metadata : PyDict)
  | heartbeat (canonicalId health : String) (resources : Option PyDict)
  | expire (ttlSeconds : ℤ)
  | topology
  | resolve (params : ResolveParams)
  | reload (root : RegistryRoot)

namespace GlobalResolver

/-- The resolver after an operation that leaves it alone when it raises. -/
def after {α : Type} (self : GlobalResolver) (outcome : Except ResolverFault (α × GlobalResolver)) :
    GlobalResolver :=
  match outcome with
  | .ok (_, next) => next
  | .error _ => self

/-- The machine of the resolver; only reloads that return are steps. -/
def step (r : Renderer) (py : Builtins) : Machine GlobalResolver (ℚ × ResolverCall)
  | self, (now, .advertise canonicalId capabilities resources health metadata) =>
      some (self.after (self.advertise py now canonicalId capabilities resources health metadata))
  | self, (now, .heartbeat canonicalId health resources) =>
      some (self.after (self.heartbeat py now canonicalId health resources))
  | self, (now, .expire ttlSeconds) => some (self.expire now ttlSeconds).2
  | self, (now, .topology) => some (self.after (self.topology py now))
  | self, (now, .resolve params) => some (self.after (self.resolve py now params))
  | self, (_, .reload root) =>
      match self.reload r py root with
      | (.ok _, next) => some next
      | (.error _, _) => none

variable {r : Renderer} {py : Builtins} {s t : GlobalResolver} {now : ℚ} {id : String}

/-- A node is declared. -/
def Declared (py : Builtins) (s : GlobalResolver) (id : String) : Prop :=
  (s.index py .nodes).get? id ≠ none

/-- The readers of the live table and of the declarations agree. -/
structure Consistent (py : Builtins) (s : GlobalResolver) : Prop where
  /-- Every node in the live table is declared. -/
  live : ∀ id, s.nodes.get? id ≠ none → Declared py s id
  snapshot : ∀ id, (∃ snapshot, s.nodeSnapshot py id = .ok snapshot) ↔ Declared py s id
  /-- The events of a sweep are about declared nodes. -/
  offline : ∀ now ttlSeconds, ∀ event ∈ (s.expire now ttlSeconds).2.events,
    event ∈ s.events ∨ Declared py s event.source
  topology : ∀ now id, (∃ topology next, s.topology py now = .ok (topology, next) ∧
    ∃ snapshot ∈ topology.nodes, snapshot.canonicalId = id) ↔ Declared py s id
  advertise : ∀ now id capabilities resources health metadata,
    s.advertise py now id capabilities resources health metadata =
      .error (.resolution ("unknown node " ++ id) 404) ↔ ¬ Declared py s id

/-! ## The readers -/

theorem snapshot_iff :
    (∃ snapshot, s.nodeSnapshot py id = .ok snapshot) ↔
      s.nodes.get? id ≠ none ∨ Declared py s id := by
  cases hlive : s.nodes.get? id with
  | some state => exact iff_of_true ⟨_, nodeSnapshot_of_live hlive⟩ (.inl nofun)
  | none =>
      cases hdeclared : (s.index py .nodes).get? id with
      | some node =>
          exact iff_of_true ⟨_, nodeSnapshot_of_undiscovered hlive hdeclared⟩
            (.inr (by rw [Declared, hdeclared]; nofun))
      | none =>
          rw [nodeSnapshot, hlive]
          dsimp only
          rw [hdeclared]
          refine iff_of_false (by rintro ⟨_, ⟨⟩⟩) ?_
          rintro (h | h)
          · exact h rfl
          · exact h hdeclared

theorem mem_events_of_emit {eventType : EstateEventType} {payload : Value} {event : EstateEvent}
    (h : event ∈ (s.emit now eventType id payload).2.events) :
    event ∈ s.events ∨ event.source = id := by
  have hmem : event ∈ s.events ++ [⟨eventType, id, now, payload⟩] := by
    simp only [emit] at h
    split at h
    · exact mem_of_mem_lastItems h
    · exact h
  rcases List.mem_append.mp hmem with hold | hnew
  · exact .inl hold
  · rw [List.mem_singleton.mp hnew]
    exact .inr rfl

theorem mem_events_of_foldl_emit {nodeIds : List String} {payload : Value} {event : EstateEvent}
    (h : event ∈ (nodeIds.foldl
      (fun self nodeId ↦ (self.emit now .nodeOffline nodeId payload).2) s).events) :
    event ∈ s.events ∨ event.source ∈ nodeIds := by
  induction nodeIds generalizing s with
  | nil => exact .inl h
  | cons nodeId nodeIds ih =>
      rcases ih h with hbefore | hlater
      · refine (mem_events_of_emit hbefore).imp_right fun hsource ↦ ?_
        rw [hsource]
        exact List.mem_cons_self
      · exact .inr (List.mem_cons_of_mem _ hlater)

/-- A sweep emits events about nodes of the live table only. -/
theorem live_of_expired {ttlSeconds : ℤ} {event : EstateEvent}
    (h : event ∈ (s.expire now ttlSeconds).2.events) :
    event ∈ s.events ∨ s.nodes.get? event.source ≠ none := by
  refine (mem_events_of_foldl_emit h).imp_right fun hexpired ↦ ?_
  obtain ⟨⟨id, state⟩, hentry, hid⟩ := List.mem_map.mp hexpired
  rw [← hid, Dict.get?_eq_some_iff.mpr (List.mem_filter.mp hentry).1]
  nofun

theorem topology_iff (hkeyed : s.WellKeyed) :
    (∃ topology next, s.topology py now = .ok (topology, next) ∧
      ∃ snapshot ∈ topology.nodes, snapshot.canonicalId = id) ↔ Declared py s id := by
  obtain ⟨topology, htopology, hnodes⟩ := topology_eq_ok py s now
  obtain ⟨hswept, hregistries⟩ := expire_spec s now 90
  have hid : ∀ id snapshot, (s.expire now 90).2.nodeSnapshot py id = .ok snapshot →
      snapshot.canonicalId = id := by
    intro id snapshot hsnapshot
    cases hlive : (s.expire now 90).2.nodes.get? id with
    | some state =>
        rw [nodeSnapshot_of_live hlive] at hsnapshot
        cases hsnapshot
        rw [hswept, Dict.get?_mapValues] at hlive
        obtain ⟨before, hbefore, rfl⟩ := Option.map_eq_some_iff.mp hlive
        exact (sweep_canonicalId _ _).trans (hkeyed id before hbefore)
    | none =>
        rw [nodeSnapshot, hlive] at hsnapshot
        dsimp only at hsnapshot
        split at hsnapshot <;> cases hsnapshot
        rfl
  constructor
  · rintro ⟨topology', next, htopology', snapshot, hsnapshot, rfl⟩
    cases htopology.symm.trans htopology'
    obtain ⟨id', hdeclared, hsnapshot⟩ := (hnodes snapshot).mp hsnapshot
    rw [hid id' snapshot hsnapshot]
    exact hdeclared
  · intro hdeclared
    have hswept : Declared py (s.expire now 90).2 id := by
      rw [Declared, index, hregistries]
      exact hdeclared
    obtain ⟨snapshot, hsnapshot⟩ := snapshot_iff.mpr (.inr hswept)
    exact ⟨topology, _, htopology, snapshot, (hnodes snapshot).mpr ⟨id, hdeclared, hsnapshot⟩,
      hid id snapshot hsnapshot⟩

/-- An advertisement of a declared node is accepted, if its declaration can be read. -/
theorem advertise_of_declared {capabilities : List String} {resources metadata : PyDict}
    {health : String} {node : PyDict} {declared : List Value}
    (hnode : (s.index py .nodes).get? id = some node)
    (hdeclared : (node.getD "capabilities" (.list [])).iter = .ok declared) :
    ∃ answer next,
      s.advertise py now id capabilities resources health metadata = .ok (answer, next) := by
  let state : NodeState := ⟨id, now, health, resources,
    (capabilities.map normalizeCapability).toFinset ∪ (declared.map py.str).toFinset, metadata⟩
  let emitted := ({ s with nodes := s.nodes.set id state }).emit now .nodeOnline id
    (.object [("health", .str health)])
  have hsnapshot : emitted.2.nodeSnapshot py id = .ok (.live state) :=
    nodeSnapshot_of_live (Dict.get?_set_self s.nodes id state)
  refine ⟨(.live state, emitted.1), emitted.2, ?_⟩
  rw [advertise, hnode]
  dsimp only
  rw [hdeclared]
  change (emitted.2.nodeSnapshot py id >>= fun snapshot ↦ pure ((snapshot, emitted.1), emitted.2)) = _
  rw [hsnapshot]
  rfl

theorem advertise_unknown_iff {capabilities : List String} {resources metadata : PyDict}
    {health : String} :
    s.advertise py now id capabilities resources health metadata =
      .error (.resolution ("unknown node " ++ id) 404) ↔ ¬ Declared py s id := by
  rw [Declared, not_not]
  cases hnode : (s.index py .nodes).get? id with
  | none =>
      rw [advertise, hnode]
      exact iff_of_true rfl rfl
  | some node =>
      refine iff_of_false (fun h ↦ ?_) (by rintro ⟨⟩)
      cases hdeclared : (node.getD "capabilities" (.list [])).iter with
      | error e =>
          rw [advertise, hnode] at h
          dsimp only at h
          rw [hdeclared] at h
          cases h
      | ok declared =>
          obtain ⟨answer, next, hok⟩ := advertise_of_declared hnode hdeclared
          cases hok.symm.trans h

/-- A table of declared nodes is all that the readers need to agree. -/
theorem consistent_of_live (hkeyed : s.WellKeyed)
    (hlive : ∀ id, s.nodes.get? id ≠ none → Declared py s id) : Consistent py s where
  live := hlive
  snapshot id := snapshot_iff.trans ⟨fun h ↦ h.elim (hlive id) fun h ↦ h, .inr⟩
  offline _ _ event h := (live_of_expired h).imp_right (hlive event.source)
  topology _ _ := topology_iff hkeyed
  advertise _ _ _ _ _ _ := advertise_unknown_iff

/-! ## What a step can do -/

/-- What a call makes of the resolver, but for its events. -/
inductive Stepped (r : Renderer) (py : Builtins) (s : GlobalResolver) (now : ℚ) :
    ResolverCall → GlobalResolver → Prop
  | kept {t : GlobalResolver} {call : ResolverCall} (hregistries : t.registries = s.registries)
      (hnodes : t.nodes = s.nodes) : Stepped r py s now call t
  | advertised {t : GlobalResolver} {id health : String} {capabilities : List String}
      {resources metadata : PyDict} {live : Finset String} (hdeclared : Declared py s id)
      (hregistries : t.registries = s.registries)
      (hnodes : t.nodes = s.nodes.set id ⟨id, now, health, resources, live, metadata⟩) :
      Stepped r py s now (.advertise id capabilities resources health metadata) t
  | beat {t : GlobalResolver} {id health : String} {resources : Option PyDict}
      (hdeclared : Declared py s id) (hregistries : t.registries = s.registries)
      (hnodes : t.nodes = s.nodes.set id (beaten now id health resources (s.nodes.get? id))) :
      Stepped r py s now (.heartbeat id health resources) t
  | swept {t : GlobalResolver} {call : ResolverCall} {cutoff : ℚ}
      (hregistries : t.registries = s.registries)
      (hnodes : t.nodes = s.nodes.mapValues (sweep cutoff)) : Stepped r py s now call t
  | reloaded {root : RegistryRoot} {registries : Registries}
      (hload : ∀ file, loadFile file (root file) = .ok (registries file))
      (hreportable : Reportable r py registries) :
      Stepped r py s now (.reload root) { s with registries := registries }

theorem stepped_of_step {call : ResolverCall} (h : step r py s (now, call) = some t) :
    Stepped r py s now call t := by
  cases call with
  | advertise id capabilities resources health metadata =>
      obtain rfl := Option.some.inj h
      cases houtcome : s.advertise py now id capabilities resources health metadata with
      | error e => exact .kept rfl rfl
      | ok outcome =>
          obtain ⟨hregistries, node, declared, hnode, -, hnodes⟩ := nodes_of_advertise houtcome
          exact .advertised (by rw [Declared, hnode]; nofun) hregistries hnodes
  | heartbeat id health resources =>
      obtain rfl := Option.some.inj h
      by_cases hdeclared : (s.index py .nodes).get? id = none
      · rw [heartbeat_of_undeclared hdeclared]
        exact .kept rfl rfl
      · obtain ⟨answer, next, hok, hregistries, hnodes⟩ :=
          @heartbeat_of_declared py s now id health resources hdeclared
        rw [hok]
        exact .beat hdeclared hregistries hnodes
  | expire ttlSeconds =>
      obtain rfl := Option.some.inj h
      obtain ⟨hnodes, hregistries⟩ := expire_spec s now ttlSeconds
      exact .swept hregistries hnodes
  | topology =>
      obtain rfl := Option.some.inj h
      obtain ⟨topology, htopology, -⟩ := topology_eq_ok py s now
      obtain ⟨hnodes, hregistries⟩ := expire_spec s now 90
      rw [htopology]
      exact .swept hregistries hnodes
  | resolve params =>
      obtain rfl := Option.some.inj h
      cases houtcome : s.resolve py now params with
      | error e => exact .kept rfl rfl
      | ok outcome =>
          obtain ⟨-, -, hnodes, hregistries⟩ := resolve_eq_ok houtcome
          exact .kept hregistries hnodes
  | reload root =>
      rw [step] at h
      split at h
      · rename_i report next hreload
        obtain rfl := Option.some.inj h
        obtain ⟨registries, hload, hreport, rfl⟩ := reload_eq_ok_iff.mp hreload
        exact .reloaded (load_eq_ok_iff.mp hload) (validate_isOk_iff.mp ⟨report, hreport⟩)
      · cases h

/-- What holds of every live entry, under its node id, is preserved by a step that makes
only such entries. -/
theorem Stepped.entries {P : String → NodeState → Prop} {call : ResolverCall}
    (h : Stepped r py s now call t) (hs : ∀ id state, s.nodes.get? id = some state → P id state)
    (hadvertised : ∀ id capabilities resources health live metadata,
      call = .advertise id capabilities resources health metadata → Declared py s id →
        P id ⟨id, now, health, resources, live, metadata⟩)
    (hbeat : ∀ id health resources, call = .heartbeat id health resources → Declared py s id →
      P id (beaten now id health resources (s.nodes.get? id)))
    (hswept : ∀ id cutoff state, P id state → P id (sweep cutoff state)) :
    ∀ id state, t.nodes.get? id = some state → P id state := by
  intro id state hstate
  cases h with
  | kept hregistries hnodes =>
      rw [hnodes] at hstate
      exact hs id state hstate
  | advertised hdeclared hregistries hnodes =>
      rw [hnodes, Dict.get?_set] at hstate
      split at hstate
      · rename_i e
        subst e
        cases hstate
        exact hadvertised _ _ _ _ _ _ rfl hdeclared
      · exact hs id state hstate
  | beat hdeclared hregistries hnodes =>
      rw [hnodes, Dict.get?_set] at hstate
      split at hstate
      · rename_i e
        subst e
        cases hstate
        exact hbeat _ _ _ rfl hdeclared
      · exact hs id state hstate
  | swept hregistries hnodes =>
      rw [hnodes, Dict.get?_mapValues] at hstate
      obtain ⟨before, hbefore, rfl⟩ := Option.map_eq_some_iff.mp hstate
      exact hswept id _ before (hs id before hbefore)
  | reloaded hload hreportable => exact hs id state hstate

theorem Stepped.wellKeyed {call : ResolverCall} (h : Stepped r py s now call t)
    (hs : s.WellKeyed) : t.WellKeyed := by
  refine h.entries (P := fun id state ↦ state.canonicalId = id) hs ?_ ?_ ?_
  · intros
    rfl
  · intro id health resources _ _
    cases hstate : s.nodes.get? id with
    | none => rfl
    | some state => exact hs id state hstate
  · intro id cutoff state hstate
    exact (sweep_canonicalId cutoff state).trans hstate

/-! ### Resources -/

/-- What the nodes of the live table have reported of their resources. -/
def AllResources (P : PyDict → Prop) (s : GlobalResolver) : Prop :=
  ∀ id state, s.nodes.get? id = some state → P state.resources

/-- What a call reports of the resources of a node, if it does. -/
def Reports (P : PyDict → Prop) : ℚ × ResolverCall → Prop
  | (_, .advertise _ _ resources _ _) => P resources
  | (_, .heartbeat _ _ (some resources)) => P resources
  | _ => True

/-- The step lemma: the live table has what the calls report. -/
theorem Stepped.resources {P : PyDict → Prop} {call : ResolverCall} (h : Stepped r py s now call t)
    (hempty : P []) (hreports : Reports P (now, call)) (hs : AllResources P s) :
    AllResources P t := by
  refine h.entries (P := fun _ state ↦ P state.resources) hs ?_ ?_ ?_
  · rintro id capabilities resources health live metadata rfl -
    exact hreports
  · rintro id health resources rfl -
    cases resources with
    | some resources => exact hreports
    | none =>
        cases hstate : s.nodes.get? id with
        | none => exact hempty
        | some state => exact hs id state hstate
  · intro id cutoff state hstate
    rw [sweep]
    split <;> exact hstate

/-- The run lemma: whatever the calls report of resources, the live table has. -/
theorem always_allResources {P : PyDict → Prop} {calls : List (ℚ × ResolverCall)} (hempty : P [])
    (hreports : ∀ call ∈ calls, Reports P call) (hs : AllResources P s) :
    (GlobalResolver.step r py).Always (AllResources P) s calls := by
  refine (along_of_forall hreports).always ?_ hs
  rintro s ⟨now, call⟩ t hs hcall hstep
  exact (stepped_of_step hstep).resources hempty hcall hs

/-! ## Runs -/

/-- A reload that returns does not drop a node of the live table. -/
def KeepsLive (r : Renderer) (py : Builtins) (s : GlobalResolver) : ℚ × ResolverCall → Prop
  | (_, .reload root) => ∀ registries, (∀ file, loadFile file (root file) = .ok (registries file)) →
      Reportable r py registries →
      ∀ id, s.nodes.get? id ≠ none → (registryIndex py (registries .nodes)).get? id ≠ none
  | _ => True

/-- The step lemma: other calls add declared nodes only. -/
theorem Stepped.live {call : ResolverCall} (h : Stepped r py s now call t)
    (hkeeps : KeepsLive r py s (now, call)) (hs : ∀ id, s.nodes.get? id ≠ none → Declared py s id) :
    ∀ id, t.nodes.get? id ≠ none → Declared py t id := by
  by_cases hregistries : t.registries = s.registries
  · have hdeclared : ∀ id, Declared py t id ↔ Declared py s id := by
      intro id
      rw [Declared, index, hregistries]
      rfl
    intro id hlive
    obtain ⟨state, hstate⟩ := Option.ne_none_iff_exists'.mp hlive
    rw [hdeclared]
    refine h.entries (P := fun id _ ↦ Declared py s id) ?_ ?_ ?_ ?_ id state hstate
    · exact fun id state hstate ↦ hs id (by rw [hstate]; rintro ⟨⟩)
    · exact fun _ _ _ _ _ _ _ hdeclared ↦ hdeclared
    · exact fun _ _ _ _ hdeclared ↦ hdeclared
    · exact fun _ _ _ hdeclared ↦ hdeclared
  · cases h with
    | kept h _ => exact absurd h hregistries
    | advertised _ h _ => exact absurd h hregistries
    | beat _ h _ => exact absurd h hregistries
    | swept h _ => exact absurd h hregistries
    | reloaded hload hreportable => exact hkeeps _ hload hreportable

end GlobalResolver

open GlobalResolver in
/-- In a run of the resolver everybody agrees in every state on which nodes there are,
the live table included, exactly if no reload drops a node of the live table. -/
theorem live_table_declared_iff (r : Renderer) (py : Builtins) (registries : Registries)
    (calls : List (ℚ × ResolverCall)) :
    (GlobalResolver.step r py).Always (Consistent py) { registries := registries } calls ↔
      (GlobalResolver.step r py).Along (KeepsLive r py) { registries := registries } calls := by
  let J (s : GlobalResolver) : Prop :=
    s.WellKeyed ∧ ∀ id, s.nodes.get? id ≠ none → GlobalResolver.Declared py s id
  have hinit : J { registries := registries } := ⟨fun _ _ ↦ by rintro ⟨⟩, fun _ h ↦ absurd rfl h⟩
  refine always_iff_along (J := J) (fun s hs ↦ consistent_of_live hs.1 hs.2) ?_ ?_ hinit
  · rintro s ⟨now, call⟩ t ⟨hkeyed, hlive⟩ hkeeps hstep
    have hstepped := stepped_of_step hstep
    exact ⟨hstepped.wellKeyed hkeyed, hstepped.live hkeeps hlive⟩
  · rintro s ⟨now, call⟩ - hnot
    cases call with
    | reload root =>
        simp only [KeepsLive, not_forall] at hnot
        obtain ⟨registries', hload, hreportable, id, hlive, hdropped⟩ := hnot
        obtain ⟨report, hreport⟩ := (validate_isOk_iff (r := r)).mpr hreportable
        have hreload : s.reload r py root = (.ok report, { s with registries := registries' }) :=
          reload_eq_ok_iff.mpr ⟨registries', load_eq_ok_iff.mpr hload, hreport, rfl⟩
        refine ⟨{ s with registries := registries' }, ?_, fun h ↦ hdropped (h.live id hlive)⟩
        rw [GlobalResolver.step, hreload]
    | _ => exact absurd trivial hnot

/-- A node advertises, and the registry is reloaded without it. -/
def droppingRun : List (ℚ × ResolverCall) :=
  [(0, .advertise "ga://node/vercel" [] [] "online" []), (1, .reload fun _ ↦ .loaded .none)]

/-- The node stays in the live table although nothing declares it. -/
theorem dropped_node_stays_live :
    ¬ (GlobalResolver.step default default).Always (GlobalResolver.Consistent default)
      { registries := GlobalResolver.soleNode } droppingRun := by
  intro halways
  have hrun : ((GlobalResolver.step default default).run { registries := GlobalResolver.soleNode }
      droppingRun).map (fun t ↦ ((t.nodes.get? "ga://node/vercel").isSome,
        ((t.index default .nodes).get? "ga://node/vercel").isNone)) = some (true, true) := by
    decide +kernel
  obtain ⟨t, ht, hview⟩ := Option.map_eq_some_iff.mp hrun
  obtain ⟨hlive, hdropped⟩ := Prod.mk.inj hview
  have hconsistent := always_iff.mp halways droppingRun [] (List.append_nil _).symm t ht
  have hne : t.nodes.get? "ga://node/vercel" ≠ none := by
    intro hnone
    rw [hnone] at hlive
    cases hlive
  exact hconsistent.live _ hne (Option.isNone_iff_eq_none.mp hdropped)

end EstateMesh
