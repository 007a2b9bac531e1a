import EstateMesh.Resolver.Answerable

/-!
# Liveness of candidates

The resolver has two views of whether a node is there.  `topology` first sweeps
the live table, so it reports every node as offline that has been silent for
longer than the time to live.  `resolve` goes by the health in the table, which
says `offline` only once something has swept it.  The two views agree as long as
the sweep has been there before (`offline_candidate_iff`).
-/

namespace EstateMesh

open Lib

namespace NodeSnapshot

/-- The node that a snapshot is about. -/
def canonicalId : NodeSnapshot → String
  | undiscovered canonicalId _ => canonicalId
  | live state => state.canonicalId

/-- The health that a snapshot reports. -/
def health : NodeSnapshot → String
  | undiscovered _ _ => "undiscovered"
  | live state => state.health

end NodeSnapshot

namespace GlobalResolver

variable {py : Builtins} {self next : GlobalResolver} {now : ℚ} {id : String}

/-- `topology`, called at a time, would report a node as offline. -/
def ReportsOffline (py : Builtins) (self : GlobalResolver) (now : ℚ) (id : String) : Prop :=
  ∃ topology next, self.topology py now = .ok (topology, next) ∧
    ∃ snapshot ∈ topology.nodes, snapshot.canonicalId = id ∧ snapshot.health = "offline"

/-- The live entries are stored under their own ids. -/
def WellKeyed (self : GlobalResolver) : Prop :=
  ∀ id state, self.nodes.get? id = some state → state.canonicalId = id

/-! ## The sweep -/

/-- The live entry of a node after a sweep. -/
def sweep (cutoff : ℚ) (state : NodeState) : NodeState :=
  if state.isExpired cutoff then { state with health := "offline" } else state

theorem foldl_emit (self : GlobalResolver) (nodeIds : List String) (now : ℚ) (payload : Value) :
    let swept := nodeIds.foldl
      (fun self nodeId ↦ (self.emit now .nodeOffline nodeId payload).2) self
    swept.nodes = self.nodes ∧ swept.registries = self.registries := by
  induction nodeIds generalizing self with
  | nil => exact ⟨rfl, rfl⟩
  | cons nodeId nodeIds ih => exact ih (self.emit now .nodeOffline nodeId payload).2

theorem expire_spec (self : GlobalResolver) (now : ℚ) (ttlSeconds : ℤ) :
    (self.expire now ttlSeconds).2.nodes = self.nodes.mapValues (sweep (now - ttlSeconds)) ∧
      (self.expire now ttlSeconds).2.registries = self.registries :=
  foldl_emit _ _ now _

@[simp] theorem sweep_canonicalId (cutoff : ℚ) (state : NodeState) :
    (sweep cutoff state).canonicalId = state.canonicalId := by
  rw [sweep]
  split <;> rfl

@[simp] theorem sweep_lastSeen (cutoff : ℚ) (state : NodeState) :
    (sweep cutoff state).lastSeen = state.lastSeen := by
  rw [sweep]
  split <;> rfl

@[simp] theorem sweep_capabilities (cutoff : ℚ) (state : NodeState) :
    (sweep cutoff state).capabilities = state.capabilities := by
  rw [sweep]
  split <;> rfl

/-- After a sweep the offline nodes are those that were and those that are stale. -/
theorem sweep_health_eq_offline_iff {cutoff : ℚ} {state : NodeState} :
    (sweep cutoff state).health = "offline" ↔
      state.lastSeen < cutoff ∨ state.health = "offline" := by
  by_cases h : state.isExpired cutoff = true
  · rw [sweep, if_pos h]
    exact iff_of_true rfl (.inl (of_decide_eq_true h).1)
  · rw [sweep, if_neg h]
    constructor
    · exact .inr
    · rintro (hlast | hhealth)
      · by_contra hhealth
        exact h (decide_eq_true ⟨hlast, hhealth⟩)
      · exact hhealth

/-! ## The topology -/

theorem nodeSnapshot_of_live {state : NodeState} (h : self.nodes.get? id = some state) :
    self.nodeSnapshot py id = .ok (.live state) := by
  rw [nodeSnapshot, h]

theorem nodeSnapshot_of_undiscovered {declared : PyDict} (h : self.nodes.get? id = none)
    (hdeclared : (self.index py .nodes).get? id = some declared) :
    self.nodeSnapshot py id = .ok (.undiscovered id declared) := by
  rw [nodeSnapshot, h]
  dsimp only
  rw [hdeclared]

theorem health_of_undiscovered {snapshot : NodeSnapshot} (h : self.nodes.get? id = none)
    (hsnapshot : self.nodeSnapshot py id = .ok snapshot) : snapshot.health = "undiscovered" := by
  rw [nodeSnapshot, h] at hsnapshot
  cases hdeclared : (self.index py .nodes).get? id with
  | none =>
      rw [hdeclared] at hsnapshot
      cases hsnapshot
  | some declared =>
      rw [hdeclared] at hsnapshot
      cases hsnapshot
      rfl

/-- `topology` returns, for each declared node, its snapshot after the sweep. -/
theorem topology_eq_ok (py : Builtins) (self : GlobalResolver) (now : ℚ) :
    ∃ topology, self.topology py now = .ok (topology, (self.expire now 90).2) ∧
      ∀ snapshot, snapshot ∈ topology.nodes ↔
        ∃ id, (self.index py .nodes).get? id ≠ none ∧
          (self.expire now 90).2.nodeSnapshot py id = .ok snapshot := by
  have hregistries := (expire_spec self now 90).2
  rw [topology]
  generalize self.expire now 90 = outcome at hregistries ⊢
  obtain ⟨expired, swept⟩ := outcome
  have hindex : swept.index py .nodes = self.index py .nodes := by
    rw [index, hregistries]
    rfl
  have hkeys : ∀ id, id ∈ (swept.index py .nodes).keys.insertionSort (· ≤ ·) ↔
      (self.index py .nodes).get? id ≠ none := by
    intro id
    rw [List.mem_insertionSort, hindex, ne_eq, Dict.get?_eq_none_iff, not_not]
  have hsnapshots : ∀ id ∈ (swept.index py .nodes).keys.insertionSort (· ≤ ·),
      ∃ snapshot, swept.nodeSnapshot py id = .ok snapshot := by
    intro id hid
    cases hlive : swept.nodes.get? id with
    | some state => exact ⟨_, nodeSnapshot_of_live hlive⟩
    | none =>
        obtain ⟨declared, hdeclared⟩ := Option.ne_none_iff_exists'.mp ((hkeys id).mp hid)
        rw [← hindex] at hdeclared
        exact ⟨_, nodeSnapshot_of_undiscovered hlive hdeclared⟩
  obtain ⟨nodes, hnodes⟩ := mapM_isOk hsnapshots
  refine ⟨⟨nodes, lastItems 100 swept.events⟩, ?_, fun snapshot ↦ ?_⟩
  · dsimp only
    rw [hnodes]
    rfl
  · rw [mem_of_mapM_eq_ok hnodes]
    exact exists_congr fun id ↦ and_congr_left fun _ ↦ hkeys id

/-- What the topology reports as offline: the declared nodes that are stale or
offline in the table. -/
theorem reportsOffline_iff (hkeyed : WellKeyed self) :
    ReportsOffline py self now id ↔ (self.index py .nodes).get? id ≠ none ∧
      ∃ state, self.nodes.get? id = some state ∧
        (state.lastSeen < now - 90 ∨ state.health = "offline") := by
  obtain ⟨topology, htopology, hnodes⟩ := topology_eq_ok py self now
  obtain ⟨hswept, -⟩ := expire_spec self now 90
  rw [Int.cast_ofNat] at hswept
  generalize (self.expire now 90).2 = swept at htopology hnodes hswept
  constructor
  · rintro ⟨topology', next, htopology', snapshot, hsnapshot, hid, hhealth⟩
    cases htopology.symm.trans htopology'
    obtain ⟨id', hdeclared, hsnapshot⟩ := (hnodes snapshot).mp hsnapshot
    cases hlive : swept.nodes.get? id' with
    | none =>
        rw [health_of_undiscovered hlive hsnapshot] at hhealth
        exact absurd hhealth (by decide)
    | some state =>
        rw [nodeSnapshot_of_live hlive] at hsnapshot
        cases hsnapshot
        rw [hswept, Dict.get?_mapValues] at hlive
        obtain ⟨before, hbefore, rfl⟩ := Option.map_eq_some_iff.mp hlive
        obtain rfl : id' = id := by
          rw [← hid, ← hkeyed id' before hbefore]
          exact (sweep_canonicalId _ before).symm
        exact ⟨hdeclared, before, hbefore, sweep_health_eq_offline_iff.mp hhealth⟩
  · rintro ⟨hdeclared, state, hstate, hoffline⟩
    have hlive : swept.nodes.get? id = some (sweep (now - 90) state) := by
      rw [hswept, Dict.get?_mapValues, hstate]
      rfl
    refine ⟨topology, swept, htopology, .live (sweep (now - 90) state), ?_, ?_, ?_⟩
    · exact (hnodes _).mpr ⟨id, hdeclared, nodeSnapshot_of_live hlive⟩
    · exact (sweep_canonicalId _ _).trans (hkeyed id state hstate)
    · exact sweep_health_eq_offline_iff.mpr hoffline

/-! ## Hearing from a node -/

/-- What an accepted advertisement leaves behind. -/
theorem nodes_of_advertise {capabilities : List String} {resources metadata : PyDict}
    {health : String} {answer : NodeSnapshot × EstateEvent}
    (h : self.advertise py now id capabilities resources health metadata = .ok (answer, next)) :
    next.registries = self.registries ∧ ∃ node declared, (self.index py .nodes).get? id = some node ∧
      (node.getD "capabilities" (.list [])).iter = .ok declared ∧
      next.nodes = self.nodes.set id ⟨id, now, health, resources,
        (capabilities.map normalizeCapability).toFinset ∪ (declared.map py.str).toFinset,
        metadata⟩ := by
  rw [advertise] at h
  split at h
  · rename_i node hnode
    obtain ⟨declared, hdeclared, h⟩ := bind_eq_ok_iff.mp h
    obtain ⟨snapshot, -, h⟩ := bind_eq_ok_iff.mp h
    cases h
    exact ⟨rfl, node, declared, hnode, of_liftPython hdeclared, rfl⟩
  · cases h

/-- The entry that a heartbeat makes of the one that is there, or of none. -/
def beaten (now : ℚ) (id health : String) (resources : Option PyDict)
    (entry : Option NodeState) : NodeState :=
  let state := entry.getD ⟨id, now, "online", [], ∅, []⟩
  { state with lastSeen := now, health := health, resources := resources.getD state.resources }

/-- A heartbeat of a declared node is accepted. -/
theorem heartbeat_of_declared {health : String} {resources : Option PyDict}
    (h : (self.index py .nodes).get? id ≠ none) :
    ∃ answer next, self.heartbeat py now id health resources = .ok (answer, next) ∧
      next.registries = self.registries ∧
      next.nodes = self.nodes.set id (beaten now id health resources (self.nodes.get? id)) := by
  obtain ⟨node, hnode⟩ := Option.ne_none_iff_exists'.mp h
  rw [heartbeat, hnode]
  let state := beaten now id health resources (self.nodes.get? id)
  let next := (({ self with nodes := self.nodes.set id state }).emit now .nodeHeartbeat id
    (.object [("health", .str health)])).2
  have hsnapshot : next.nodeSnapshot py id = .ok (.live state) :=
    nodeSnapshot_of_live (Dict.get?_set_self self.nodes id state)
  refine ⟨.live state, next, ?_, rfl, rfl⟩
  change (next.nodeSnapshot py id >>= fun snapshot ↦ pure (snapshot, next)) = _
  rw [hsnapshot]
  rfl

theorem heartbeat_of_undeclared {health : String} {resources : Option PyDict}
    (h : (self.index py .nodes).get? id = none) :
    self.heartbeat py now id health resources =
      .error (.resolution ("unknown node " ++ id) 404) := by
  rw [heartbeat, h]
  rfl

/-! ## Candidates -/

/-- A declared node that has the capability and an acceptable security class. -/
def Eligible (py : Builtins) (self : GlobalResolver) (params : ResolveParams) (id : String) :
    Prop :=
  ∃ node caps, (self.index py .nodes).get? id = some node ∧
    (node.getD "capabilities" (.list [])).iter = .ok caps ∧
    serves (normalizeCapability params.capability) (caps.map py.str) (self.nodes.get? id) = true ∧
    acceptsSecurity params.securityClass node = .ok true

/-- An eligible node of usable health is one that a call considers. -/
theorem eligible_and_usable_iff {params : ResolveParams} :
    Eligible py self params id ∧ isUsable (healthOf (self.nodes.get? id)) = true ↔
      ∃ node, (self.index py .nodes).get? id = some node ∧
        Considered py self (normalizeCapability params.capability) params.securityClass id node := by
  constructor
  · rintro ⟨⟨node, caps, hnode, hcaps, hserves, haccepts⟩, husable⟩
    exact ⟨node, hnode, ⟨caps, hcaps, hserves⟩, haccepts, husable⟩
  · rintro ⟨node, hnode, ⟨caps, hcaps, hserves⟩, haccepts, husable⟩
    exact ⟨⟨node, caps, hnode, hcaps, hserves, haccepts⟩, husable⟩

/-- What `resolve` returns and leaves behind. -/
theorem resolve_eq_ok {params : ResolveParams} {resolution : Resolution} {next : GlobalResolver}
    (h : self.resolve py now params = .ok (resolution, next)) :
    (∀ id, (∃ c ∈ resolution.candidates, c.canonicalId = id) ↔
      Eligible py self params id ∧ isUsable (healthOf (self.nodes.get? id)) = true) ∧
    resolution.selected = resolution.candidates.head? ∧
    next.nodes = self.nodes ∧ next.registries = self.registries := by
  refine ⟨fun id ↦ (exists_candidate_iff h).trans eligible_and_usable_iff.symm, ?_⟩
  rw [resolve] at h
  dsimp only at h
  split at h
  · obtain ⟨matching, -, h⟩ := bind_eq_ok_iff.mp h
    obtain ⟨runtimePreference, -, h⟩ := bind_eq_ok_iff.mp h
    obtain ⟨found, -, h⟩ := bind_eq_ok_iff.mp h
    cases h
    exact ⟨rfl, rfl, rfl⟩
  · cases h

/-- Some candidate of a resolution is reported as offline exactly when some stale
node that could serve is still usable according to the table. -/
theorem offline_candidate_iff (hkeyed : WellKeyed self) {params : ResolveParams}
    {resolution : Resolution} {next : GlobalResolver}
    (h : self.resolve py now params = .ok (resolution, next)) :
    (∃ c ∈ resolution.candidates, ReportsOffline py self now c.canonicalId) ↔
      ∃ id state, Eligible py self params id ∧ self.nodes.get? id = some state ∧
        state.lastSeen < now - 90 ∧ isUsable state.health = true := by
  obtain ⟨hcandidates, -⟩ := resolve_eq_ok h
  constructor
  · rintro ⟨c, hc, hoffline⟩
    obtain ⟨heligible, husable⟩ := (hcandidates c.canonicalId).mp ⟨c, hc, rfl⟩
    obtain ⟨-, state, hstate, hoffline⟩ := (reportsOffline_iff hkeyed).mp hoffline
    rw [hstate] at husable
    change isUsable state.health = true at husable
    rcases hoffline with hstale | hhealth
    · exact ⟨c.canonicalId, state, heligible, hstate, hstale, husable⟩
    · rw [hhealth] at husable
      cases husable
  · rintro ⟨id, state, heligible, hstate, hstale, husable⟩
    obtain ⟨c, hc, rfl⟩ := (hcandidates id).mpr ⟨heligible, by rw [hstate]; exact husable⟩
    refine ⟨c, hc, (reportsOffline_iff hkeyed).mpr ⟨?_, state, hstate, .inl hstale⟩⟩
    obtain ⟨node, caps, hnode, -⟩ := heligible
    rw [hnode]
    nofun

end GlobalResolver

end EstateMesh
