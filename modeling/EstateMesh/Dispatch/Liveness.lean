import EstateMesh.Dispatch.Lifecycle
import EstateMesh.Resolver.Liveness

/-!
# Liveness over runs

When a node was last heard from is a matter of the calls that were made: its
last advertisement or heartbeat that was accepted.  The live table keeps these
times (`TableOf.run`), whatever else is called in between, so the comparison
of `resolve` with `topology` is one about runs.
-/

namespace EstateMesh

open Lib

/-! ## One call and the live table -/

/-- What one call can do to the live table, hearing from a node or from none. -/
inductive TableStepped (self : GlobalResolver) (now : ℚ) :
    Option String → GlobalResolver → Prop
  | kept {next : GlobalResolver} (h : next.nodes = self.nodes) : TableStepped self now none next
  | swept {next : GlobalResolver} {cutoff : ℚ}
      (h : next.nodes = self.nodes.mapValues (GlobalResolver.sweep cutoff)) :
      TableStepped self now none next
  | heard {next : GlobalResolver} {id : String} {state : NodeState}
      (h : next.nodes = self.nodes.set id state) (hlast : state.lastSeen = now)
      (hid : self.WellKeyed → state.canonicalId = id) : TableStepped self now (some id) next

namespace GlobalResolver

variable {py : Builtins} {self next : GlobalResolver} {now : ℚ} {id : String}

theorem advertise_eq_ok {capabilities : List String} {resources metadata : PyDict}
    {health : String} {answer : NodeSnapshot × EstateEvent}
    (h : self.advertise py now id capabilities resources health metadata = .ok (answer, next)) :
    TableStepped self now (some id) next := by
  obtain ⟨-, node, declared, -, -, hnodes⟩ := nodes_of_advertise h
  exact .heard hnodes rfl fun _ ↦ rfl

theorem heartbeat_eq_ok {health : String} {resources : Option PyDict} {answer : NodeSnapshot}
    (h : self.heartbeat py now id health resources = .ok (answer, next)) :
    TableStepped self now (some id) next := by
  by_cases hnode : (self.index py .nodes).get? id = none
  · rw [heartbeat_of_undeclared hnode] at h
    cases h
  · obtain ⟨_, _, hok, -, hnodes⟩ :=
      @heartbeat_of_declared py self now id health resources hnode
    cases hok.symm.trans h
    refine .heard hnodes rfl fun hkeyed ↦ ?_
    cases hstate : self.nodes.get? id with
    | none => rfl
    | some state => exact hkeyed id state hstate

end GlobalResolver

namespace DispatchFabric

variable {W : Type} {py : Builtins} {F F' : DispatchFabric W} {now : ℚ} {id : String}

/-- The node that a call hears from: it advertises or sends a heartbeat, and the
resolver accepts it. -/
def heardFrom (py : Builtins) (F : DispatchFabric W) : ℚ × Request W → Option String
  | (now, ⟨_, _, .advertise id capabilities resources health metadata⟩) =>
      if (F.resolver.advertise py now id capabilities resources health metadata).isOk then some id
      else none
  | (now, ⟨_, _, .heartbeat id health resources⟩) =>
      if (F.resolver.heartbeat py now id health resources).isOk then some id else none
  | _ => none

/-- When a run last heard from a node. -/
def lastHeard (py : Builtins) (id : String) : DispatchFabric W → Option ℚ →
    List (ℚ × Request W) → Option ℚ
  | _, last, [] => last
  | F, last, l :: ls =>
      lastHeard py id (step py F l) (if heardFrom py F l = some id then some l.1 else last) ls

theorem foldl_emit_nodes (record : DispatchRecord) (payloads : List DispatchPayload) :
    (payloads.foldl (fun self payload ↦ self.emit now record payload) F).resolver.nodes =
      F.resolver.nodes := by
  induction payloads generalizing F with
  | nil => rfl
  | cons payload payloads ih => exact ih (F := F.emit now record payload)

theorem act_nodes (a : RecordAct) : (F.act now id a).resolver.nodes = F.resolver.nodes := by
  cases hrecord : F.records.get? id with
  | none => rw [act_of_none now hrecord]
  | some record =>
      rw [act_of_some now hrecord]
      exact foldl_emit_nodes _ _

theorem Executed.nodes {world : W} (h : Executed F now world id F') :
    F'.resolver.nodes = F.resolver.nodes := by
  cases h with
  | rejected _ => rfl
  | awaited _ _ _ => exact act_nodes _
  | ran _ _ _ => exact (act_nodes _).trans (act_nodes _)

theorem completeStage_nodes (organ : String) (evidence : PyDict) :
    (F.completeStage now id organ evidence).2.resolver.nodes = F.resolver.nodes := by
  have hcompleted := completeStage_completed now F id organ evidence
  generalize F.completeStage now id organ evidence = outcome at hcompleted
  cases hcompleted with
  | rejected _ => rfl
  | full _ _ _ => rfl
  | accepted _ _ _ _ => exact act_nodes _

theorem createDispatch_nodes (uuid : String) (params : DispatchParams) :
    (F.createDispatch now py uuid params).2.resolver.nodes = F.resolver.nodes := by
  rw [createDispatch]
  cases h : F.resolver.resolve py now params.resolveParams with
  | error e => rfl
  | ok outcome =>
      obtain ⟨resolution, resolver⟩ := outcome
      obtain ⟨-, -, hnodes, -⟩ := GlobalResolver.resolve_eq_ok h
      dsimp only
      cases resolution.selected with
      | none => exact hnodes
      | some selected => exact hnodes

theorem dispatch_nodes (world : W) (uuid : String) (params : DispatchParams) :
    (F.dispatch now py world uuid params).2.resolver.nodes = F.resolver.nodes := by
  rw [dispatch]
  have hnodes : (F.createDispatch now py uuid params).2.resolver.nodes = F.resolver.nodes :=
    createDispatch_nodes uuid params
  generalize F.createDispatch now py uuid params = outcome at hnodes
  obtain ⟨answer, G⟩ := outcome
  cases answer with
  | error e => exact hnodes
  | ok dispatchId =>
      dsimp only
      split
      · exact (execute_executed now G world dispatchId).nodes.trans hnodes
      · exact hnodes

/-- The effect of a call on the live table. -/
theorem step_tableStepped (py : Builtins) (F : DispatchFabric W) (l : ℚ × Request W) :
    TableStepped F.resolver l.1 (heardFrom py F l) (step py F l).resolver := by
  obtain ⟨now, world, uuid, call⟩ := l
  cases call with
  | dispatch params => exact .kept (dispatch_nodes world uuid params)
  | registerExecutor nodeId executor => exact .kept rfl
  | execute id => exact .kept (execute_executed now F world id).nodes
  | completeStage id organ evidence => exact .kept (completeStage_nodes organ evidence)
  | fail id reason retryable =>
      refine .kept ?_
      rw [step, fail_eq]
      exact act_nodes _
  | advertise id capabilities resources health metadata =>
      rw [heardFrom, step]
      cases h : F.resolver.advertise py now id capabilities resources health metadata with
      | error e => exact .kept rfl
      | ok outcome => exact GlobalResolver.advertise_eq_ok h
  | heartbeat id health resources =>
      rw [heardFrom, step]
      cases h : F.resolver.heartbeat py now id health resources with
      | error e => exact .kept rfl
      | ok outcome => exact GlobalResolver.heartbeat_eq_ok h
  | expire ttlSeconds => exact .swept (GlobalResolver.expire_spec _ _ _).1
  | topology =>
      rw [step]
      obtain ⟨topology, htopology, -⟩ := GlobalResolver.topology_eq_ok py F.resolver now
      rw [htopology]
      exact .swept (GlobalResolver.expire_spec _ _ _).1
  | resolve params =>
      rw [step]
      cases h : F.resolver.resolve py now params with
      | error e => exact .kept rfl
      | ok outcome => exact .kept (GlobalResolver.resolve_eq_ok h).2.2.1
  | reload root => exact .kept (GlobalResolver.reloaded_nodes _ root)

/-! ## Runs and the live table -/

/-- The live table keeps when the nodes were last heard from. -/
structure TableOf (heard : String → Option ℚ) (resolver : GlobalResolver) : Prop where
  keyed : resolver.WellKeyed
  lastSeen : ∀ id, (resolver.nodes.get? id).map NodeState.lastSeen = heard id

/-- The step lemma. -/
theorem TableOf.step {self next : GlobalResolver} {heard : String → Option ℚ}
    {from? : Option String} (h : TableOf heard self) (hstepped : TableStepped self now from? next) :
    TableOf (fun id ↦ if from? = some id then some now else heard id) next := by
  cases hstepped with
  | kept hnodes =>
      constructor
      · intro id state hstate
        exact h.keyed id state (hnodes ▸ hstate)
      · intro id
        rw [hnodes]
        exact h.lastSeen id
  | swept hnodes =>
      constructor
      · intro id state hstate
        rw [hnodes, Dict.get?_mapValues] at hstate
        obtain ⟨before, hbefore, rfl⟩ := Option.map_eq_some_iff.mp hstate
        rw [GlobalResolver.sweep_canonicalId, h.keyed id before hbefore]
      · intro id
        rw [hnodes, Dict.get?_mapValues, Option.map_map, if_neg nofun, ← h.lastSeen id]
        exact congrArg (fun f ↦ Option.map f _) (funext (GlobalResolver.sweep_lastSeen _))
  | @heard _ heardId state hnodes hlast hid =>
      constructor
      · intro id state' hstate
        rw [hnodes, Dict.get?_set] at hstate
        split at hstate
        · rename_i e
          cases hstate
          exact (hid h.keyed).trans e
        · exact h.keyed id state' hstate
      · intro id
        rw [hnodes, Dict.get?_set]
        by_cases e : heardId = id
        · rw [if_pos e, if_pos (congrArg some e), Option.map_some, hlast]
        · rw [if_neg e, if_neg fun e' ↦ e (Option.some.inj e')]
          exact h.lastSeen id

/-- The run lemma. -/
theorem TableOf.run {calls : List (ℚ × Request W)} {heard : String → Option ℚ}
    (h : TableOf heard F.resolver) (hrun : (machine py W).run F calls = some F') :
    TableOf (fun id ↦ lastHeard py id F (heard id) calls) F'.resolver := by
  induction calls generalizing F heard with
  | nil =>
      cases hrun
      exact h
  | cons l calls ih => exact ih (h.step (step_tableStepped py F l)) hrun

theorem tableOf_init (registries : Registries) :
    TableOf (fun _ ↦ none) (init registries : DispatchFabric W).resolver where
  keyed := nofun
  lastSeen _ := rfl

/-! ## Resolutions over runs -/

/-- A run heard from a node, but not in the time to live before now. -/
def Lapsed (py : Builtins) (registries : Registries) (calls : List (ℚ × Request W)) (now : ℚ)
    (id : String) : Prop :=
  ∃ last, lastHeard py id (init registries) none calls = some last ∧ last < now - 90

/-- No candidate of a resolution is a node that the topology would report as
offline, nor is the selected one. -/
def ResolvesLive (py : Builtins) (F : DispatchFabric W) (now : ℚ) (resolution : Resolution) :
    Prop :=
  ∀ c, c ∈ resolution.candidates ∨ resolution.selected = some c →
    ¬ F.resolver.ReportsOffline py now c.canonicalId

/-- A dispatch goes to the selected candidate of its resolution. -/
theorem dispatch_target {params : DispatchParams} {resolution : Resolution}
    {next : GlobalResolver}
    (hresolved : F.resolver.resolve py now params.resolveParams = .ok (resolution, next))
    {c : Candidate} (hselected : resolution.selected = some c) (world : W) (uuid : String) :
    ∃ record, (F.dispatch now py world uuid params).2.records.get? (mintedId uuid) = some record ∧
      record.target = some c.canonicalId := by
  have hcreated : (F.createDispatch now py uuid params).1 = .ok (mintedId uuid) ∧
      (F.createDispatch now py uuid params).2.records.get? (mintedId uuid) =
        some (newRecord now uuid params resolution c) := by
    rw [createDispatch, hresolved]
    dsimp only
    rw [hselected]
    exact ⟨rfl, Dict.get?_set_self _ _ _⟩
  rw [dispatch]
  generalize F.createDispatch now py uuid params = outcome at hcreated
  obtain ⟨answer, G⟩ := outcome
  obtain ⟨rfl, hrecord⟩ := hcreated
  dsimp only at hrecord ⊢
  split
  · have hexecuted := execute_executed now G world (mintedId uuid)
    generalize (G.execute now world (mintedId uuid)).2 = G' at hexecuted
    cases hexecuted with
    | rejected _ => exact ⟨_, hrecord, rfl⟩
    | awaited _ _ _ => exact ⟨_, act_get?_self now hrecord _, RecordAct.apply_target _ _ _⟩
    | ran h _ _ =>
        refine ⟨_, act_get?_self now (act_get?_self now hrecord _) _, ?_⟩
        rw [RecordAct.apply_target, RecordAct.apply_target]
        rfl
  · exact ⟨_, hrecord, rfl⟩

/-- After any run, a resolution has no candidate that the topology would report as
offline exactly when the table has all the lapsed nodes that could serve down as
offline or failed already; and a dispatch goes to the selected candidate. -/
theorem resolvesLive_iff (py : Builtins) (registries : Registries)
    (calls : List (ℚ × Request W)) (F : DispatchFabric W)
    (hrun : (machine py W).run (init registries) calls = some F) (now : ℚ)
    (params : ResolveParams) (resolution : Resolution) (next : GlobalResolver)
    (hresolved : F.resolver.resolve py now params = .ok (resolution, next)) :
    (ResolvesLive py F now resolution ↔
      ∀ id, F.resolver.Eligible py params id → Lapsed py registries calls now id →
        GlobalResolver.isUsable (GlobalResolver.healthOf (F.resolver.nodes.get? id)) = false) ∧
    ∀ (dispatch : DispatchParams) (c : Candidate), dispatch.resolveParams = params →
      resolution.selected = some c → ∀ world uuid, ∃ record,
        (step py F (now, ⟨world, uuid, .dispatch dispatch⟩)).records.get? (mintedId uuid) =
          some record ∧ record.target = some c.canonicalId := by
  have htable := (tableOf_init registries).run hrun
  have hoffline := GlobalResolver.offline_candidate_iff htable.keyed hresolved
  have hselected := (GlobalResolver.resolve_eq_ok hresolved).2.1
  refine ⟨?_, ?_⟩
  · constructor
    · intro hlive id heligible hlapsed
      obtain ⟨last, hlast, hlapsed⟩ := hlapsed
      rw [← htable.lastSeen id] at hlast
      obtain ⟨state, hstate, rfl⟩ := Option.map_eq_some_iff.mp hlast
      rw [hstate]
      by_contra husable
      obtain ⟨c, hc, hreports⟩ := hoffline.mpr
        ⟨id, state, heligible, hstate, hlapsed, Bool.eq_true_of_not_eq_false husable⟩
      exact hlive c (.inl hc) hreports
    · intro hdown c hc hreports
      have hmem : c ∈ resolution.candidates := by
        rcases hc with hc | hc
        · exact hc
        · rw [hselected] at hc
          exact List.mem_of_mem_head? hc
      obtain ⟨id, state, heligible, hstate, hstale, husable⟩ := hoffline.mp ⟨c, hmem, hreports⟩
      have hlast := htable.lastSeen id
      rw [hstate] at hlast
      have hunusable := hdown id heligible ⟨state.lastSeen, hlast.symm, hstale⟩
      rw [hstate] at hunusable
      cases husable.symm.trans hunusable
  · rintro dispatch c rfl hc world uuid
    exact dispatch_target hresolved hc world uuid

/-! ## A node that was heard from once -/

/-- The node of a solo run advertises. -/
def advertisedCalls : List (Call Unit) := [.advertise "ga://node/solo" ["notes"] [] "online" []]

/-- What the resolver says at a time about the nodes after a run: the candidates of
the capability, and the health of each node in the topology. -/
def soloViews (calls : List (Call Unit)) (now : ℚ) :
    Option (List String × List (String × String)) := do
  let F ← soloRun calls
  let (resolution, _) ← (F.resolver.resolve default now { capability := "notes" }).toOption
  let (topology, _) ← (F.resolver.topology default now).toOption
  return (resolution.candidates.map Candidate.canonicalId,
    topology.nodes.map fun snapshot ↦ (snapshot.canonicalId, snapshot.health))

theorem of_soloViews {calls : List (Call Unit)} {candidates : List String}
    {healths : List (String × String)} (h : soloViews calls now = some (candidates, healths)) :
    ∃ F resolution next topology swept, soloRun calls = some F ∧
      F.resolver.resolve default now { capability := "notes" } = .ok (resolution, next) ∧
      resolution.candidates.map Candidate.canonicalId = candidates ∧
      F.resolver.topology default now = .ok (topology, swept) ∧
      topology.nodes.map (fun snapshot ↦ (snapshot.canonicalId, snapshot.health)) = healths := by
  obtain ⟨F, hF, h⟩ := Option.bind_eq_some_iff.mp h
  obtain ⟨⟨resolution, next⟩, hresolved, h⟩ := Option.bind_eq_some_iff.mp h
  obtain ⟨⟨topology, swept⟩, htopology, h⟩ := Option.bind_eq_some_iff.mp h
  cases h
  exact ⟨F, resolution, next, topology, swept, hF, eq_ok_of_toOption hresolved, rfl,
    eq_ok_of_toOption htopology, rfl⟩

/-- Within the time to live, the node is a candidate, and live. -/
theorem advertised_resolvesLive :
    ∃ (F : DispatchFabric Unit) (resolution : Resolution),
      resolution.candidates.map Candidate.canonicalId = ["ga://node/solo"] ∧
      ResolvesLive default F 50 resolution := by
  have hviews : soloViews advertisedCalls 50 =
      some (["ga://node/solo"], [("ga://node/solo", "online")]) := by
    decide +kernel
  obtain ⟨F, resolution, next, -, -, hF, hresolved, hcandidates, -⟩ := of_soloViews hviews
  refine ⟨F, resolution, hcandidates,
    (resolvesLive_iff default soloRegistries _ F hF 50 _ resolution next hresolved).1.mpr ?_⟩
  rintro id - ⟨last, hlast, hlapsed⟩
  change (if _ then some ((0 : ℕ) : ℚ) else none) = some last at hlast
  split at hlast
  · cases hlast
    norm_num at hlapsed
  · cases hlast

/-- Later it is still a candidate, though the topology would report it as offline. -/
theorem not_always_resolvesLive :
    ¬ ∀ (calls : List (ℚ × Request Unit)) (F : DispatchFabric Unit) (now : ℚ)
        (params : ResolveParams) (resolution : Resolution) (next : GlobalResolver),
        (machine default Unit).run (init soloRegistries) calls = some F → Clocked 0 calls →
        (∀ l ∈ calls, l.1 ≤ now) →
        F.resolver.resolve default now params = .ok (resolution, next) →
        ResolvesLive default F now resolution := by
  intro hlive
  have hviews : soloViews advertisedCalls 1000 =
      some (["ga://node/solo"], [("ga://node/solo", "offline")]) := by
    decide +kernel
  obtain ⟨F, resolution, next, topology, swept, hF, hresolved, hcandidates, htopology, hhealths⟩ :=
    of_soloViews hviews
  obtain ⟨c, hc, hid⟩ : ∃ c ∈ resolution.candidates, c.canonicalId = "ga://node/solo" := by
    rw [← List.mem_map, hcandidates]
    exact List.mem_singleton_self _
  obtain ⟨snapshot, hsnapshot, e⟩ :
      ∃ snapshot ∈ topology.nodes,
        (snapshot.canonicalId, snapshot.health) = ("ga://node/solo", "offline") := by
    rw [← List.mem_map, hhealths]
    exact List.mem_singleton_self _
  obtain ⟨hid', hhealth⟩ := Prod.mk.inj e
  refine hlive _ F 1000 _ resolution next hF ?_ ?_ hresolved c (.inl hc)
    ⟨topology, swept, htopology, snapshot, hsnapshot, hid'.trans hid.symm, hhealth⟩
  · exact ⟨le_refl _, trivial⟩
  · rintro l hl
    cases List.mem_singleton.mp hl
    norm_num

end DispatchFabric

end EstateMesh
