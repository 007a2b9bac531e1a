import EstateMesh.Resolver.Answers

/-!
# When resolution answers

`resolve` reads the documents, which nobody has to have validated, and the capacities in
the live table, which the nodes have put there.  It raises a `ResolutionError` of its own
for an unknown capability only.  Whether it returns for a known one depends on two things:
on the part of the documents that the call reads (`Readable`) and on the capacity of every
node that it considers (`CapacitiesReadable`).  One capacity is enough to make it raise.  If
it returns, its candidates are the nodes that it considers.
-/

namespace EstateMesh

open Lib

namespace GlobalResolver

variable {py : Builtins} {s self next : GlobalResolver} {now : ℚ} {params : ResolveParams}
  {resolution : Resolution}

/-! ## Routes -/

/-- The routes of the capability, and those of the source only if it has any. -/
def consideredRoutes (py : Builtins) (self : GlobalResolver) (params : ResolveParams) :
    List PyDict :=
  fromSource params.source <| (self.index py .routes).values.filter fun route ↦
    (route.get "capability").isStr (normalizeCapability params.capability)

/-- Whether a route accepts an input class. -/
def acceptsClass (py : Builtins) (ioClass : Option String) (route : PyDict) :
    Except PyError Bool :=
  if ioClass.getD "" = "" then .ok true
  else ((route.get "accepts").or (.list [])).containsStr (py.upper (ioClass.getD ""))

/-- The considered routes that accept the input class. -/
def acceptingRoutes (py : Builtins) (self : GlobalResolver) (params : ResolveParams) :
    List PyDict :=
  (consideredRoutes py self params).filter fun route ↦
    (acceptsClass py params.ioClass route).toOption.getD false

theorem accepting_eq_ok_iff {ioClass : Option String} {routes matching : List PyDict} :
    accepting py ioClass routes = .ok matching ↔
      (∀ route ∈ routes, ∃ accepts, acceptsClass py ioClass route = .ok accepts) ∧
        matching = routes.filter fun route ↦
          (acceptsClass py ioClass route).toOption.getD false := by
  unfold accepting acceptsClass
  by_cases hclass : ioClass.getD "" = ""
  · simp only [if_pos hclass]
    constructor
    · intro h
      cases h
      exact ⟨fun _ _ ↦ ⟨true, rfl⟩, (List.filter_eq_self.mpr fun _ _ ↦ rfl).symm⟩
    · rintro ⟨-, rfl⟩
      exact congrArg _ (List.filter_eq_self.mpr fun _ _ ↦ rfl).symm
  · simp only [if_neg hclass]
    exact filter_eq_ok_iff

theorem matchingRoutes_eq_ok_iff {matching : List PyDict} :
    matchingRoutes py s (normalizeCapability params.capability) params.source params.ioClass =
        .ok matching ↔
      (∀ route ∈ consideredRoutes py s params,
          ∃ accepts, acceptsClass py params.ioClass route = .ok accepts) ∧
        matching = acceptingRoutes py s params :=
  accepting_eq_ok_iff

theorem fromKeys_isOk_iff {xs : List Value} :
    (∃ ys, fromKeys xs = .ok ys) ↔ ∀ x ∈ xs, x.hashable = true := by
  rw [← List.all_eq_true, fromKeys]
  split
  · rename_i h
    exact iff_of_true ⟨_, rfl⟩ h
  · rename_i h
    exact iff_of_false (by rintro ⟨_, ⟨⟩⟩) h

theorem preferredRuntimes_isOk_iff {routes : List PyDict} :
    (∃ runtimePreference, preferredRuntimes routes = .ok runtimePreference) ↔
      ∀ route ∈ routes, ∃ xs, ((route.get "runtime_preference").or (.list [])).iter = .ok xs ∧
        ∀ x ∈ xs, x.hashable = true := by
  rw [preferredRuntimes, bind_isOk_iff]
  constructor
  · rintro ⟨preferences, hpreferences, hkeys⟩ route hroute
    obtain ⟨xs, hxs⟩ := exists_of_mapM_eq_ok hpreferences route hroute
    have hmem : xs ∈ preferences := (mem_of_mapM_eq_ok hpreferences).mpr ⟨route, hroute, hxs⟩
    refine ⟨xs, hxs, fun x hx ↦ fromKeys_isOk_iff.mp hkeys x ?_⟩
    exact List.mem_flatten.mpr ⟨xs, hmem, hx⟩
  · intro h
    obtain ⟨preferences, hpreferences⟩ :=
      mapM_isOk_iff.mpr fun route hroute ↦ (h route hroute).imp fun _ ↦ And.left
    refine ⟨preferences, hpreferences, fromKeys_isOk_iff.mpr fun x hx ↦ ?_⟩
    obtain ⟨xs, hxs, hx⟩ := List.mem_flatten.mp hx
    obtain ⟨route, hroute, hiter⟩ := (mem_of_mapM_eq_ok hpreferences).mp hxs
    obtain ⟨xs', hiter', hhashable⟩ := h route hroute
    cases hiter.symm.trans hiter'
    exact hhashable x hx

/-! ## Nodes -/

/-- The declaration of a node can be read: its capabilities, and its security class if it
has the capability that is asked for. -/
def NodeReadable (py : Builtins) (self : GlobalResolver) (capabilityId : String)
    (securityClass : Option String) (nodeId : String) (node : PyDict) : Prop :=
  ∃ caps, (node.getD "capabilities" (.list [])).iter = .ok caps ∧
    (serves capabilityId (caps.map py.str) (self.nodes.get? nodeId) = true →
      ∃ accepts, acceptsSecurity securityClass node = .ok accepts)

/-- A node that is not considered is no candidate. -/
theorem candidateOf_of_not_considered {capabilityId nodeId : String}
    {runtimePreference : List Value} {securityClass : Option String} {node : PyDict}
    (h : NodeReadable py s capabilityId securityClass nodeId node)
    (hnot : ¬ Considered py s capabilityId securityClass nodeId node) :
    candidateOf py s capabilityId runtimePreference securityClass nodeId node = .ok none := by
  obtain ⟨caps, hcaps, haccepts⟩ := h
  simp only [candidateOf, hcaps, ok_bind]
  cases hserves : serves capabilityId (caps.map py.str) (s.nodes.get? nodeId) with
  | false => rfl
  | true =>
      obtain ⟨accepts, haccepts⟩ := haccepts hserves
      rw [haccepts]
      cases accepts with
      | false => rfl
      | true =>
          cases husable : isUsable (healthOf (s.nodes.get? nodeId)) with
          | false => rfl
          | true => exact absurd ⟨⟨caps, hcaps, hserves⟩, haccepts, husable⟩ hnot

theorem candidateOf_isOk_iff {capabilityId nodeId : String} {runtimePreference : List Value}
    {securityClass : Option String} {node : PyDict} :
    (∃ c, candidateOf py s capabilityId runtimePreference securityClass nodeId node = .ok c) ↔
      NodeReadable py s capabilityId securityClass nodeId node ∧
        (Considered py s capabilityId securityClass nodeId node →
          ∃ capacity, capacityOf py (resourcesOf (s.nodes.get? nodeId)) = .ok capacity) := by
  constructor
  · rintro ⟨c, hc⟩
    refine ⟨?_, fun hconsidered ↦ ?_⟩
    · obtain ⟨caps, hcaps, hrest⟩ := bind_eq_ok_iff.mp hc
      refine ⟨caps, hcaps, fun hserves ↦ ?_⟩
      dsimp only at hrest
      rw [hserves] at hrest
      obtain ⟨accepts, haccepts, -⟩ := bind_eq_ok_iff.mp hrest
      exact ⟨accepts, haccepts⟩
    · rw [candidateOf_of_considered hconsidered] at hc
      cases hcapacity : capacityOf py (resourcesOf (s.nodes.get? nodeId)) with
      | error e =>
          rw [hcapacity] at hc
          cases hc
      | ok capacity => exact ⟨capacity, rfl⟩
  · rintro ⟨⟨caps, hcaps, haccepts⟩, hcapacity⟩
    by_cases hconsidered : Considered py s capabilityId securityClass nodeId node
    · obtain ⟨capacity, hcapacity⟩ := hcapacity hconsidered
      rw [candidateOf_of_considered hconsidered, hcapacity]
      exact ⟨_, rfl⟩
    · exact ⟨none, candidateOf_of_not_considered ⟨caps, hcaps, haccepts⟩ hconsidered⟩

theorem candidateNodes_isOk_iff {capabilityId : String} {runtimePreference : List Value}
    {securityClass : Option String} :
    (∃ found, candidateNodes py s capabilityId runtimePreference securityClass = .ok found) ↔
      ∀ nodeId node, (s.index py .nodes).get? nodeId = some node →
        NodeReadable py s capabilityId securityClass nodeId node ∧
          (Considered py s capabilityId securityClass nodeId node →
            ∃ capacity, capacityOf py (resourcesOf (s.nodes.get? nodeId)) = .ok capacity) := by
  rw [candidateNodes, bind_isOk_iff]
  constructor
  · rintro ⟨results, hresults, -⟩ nodeId node hnode
    exact candidateOf_isOk_iff.mp
      (exists_of_mapM_eq_ok hresults (nodeId, node) (Dict.get?_eq_some_iff.mp hnode))
  · intro h
    have hreturns : ∀ x ∈ (s.index py .nodes).entries, ∃ c,
        candidateOf py s capabilityId runtimePreference securityClass x.1 x.2 = .ok c :=
      fun x hx ↦ candidateOf_isOk_iff.mpr (h x.1 x.2 (Dict.get?_eq_some_iff.mpr hx))
    obtain ⟨results, hresults⟩ := mapM_isOk hreturns
    exact ⟨results, hresults, _, rfl⟩

/-! ## Resolution -/

/-- The part of the documents that a call reads can be read. -/
structure Readable (py : Builtins) (s : GlobalResolver) (params : ResolveParams) : Prop where
  routes : ∀ route ∈ consideredRoutes py s params,
    ∃ accepts, acceptsClass py params.ioClass route = .ok accepts
  preferences : ∀ route ∈ acceptingRoutes py s params,
    ∃ xs, ((route.get "runtime_preference").or (.list [])).iter = .ok xs ∧
      ∀ x ∈ xs, x.hashable = true
  nodes : ∀ nodeId node, (s.index py .nodes).get? nodeId = some node →
    NodeReadable py s (normalizeCapability params.capability) params.securityClass nodeId node

/-- The capacity of every node that the call considers can be read. -/
def CapacitiesReadable (py : Builtins) (s : GlobalResolver) (params : ResolveParams) : Prop :=
  ∀ nodeId node, (s.index py .nodes).get? nodeId = some node →
    Considered py s (normalizeCapability params.capability) params.securityClass nodeId node →
      ∃ capacity, capacityOf py (resourcesOf (s.nodes.get? nodeId)) = .ok capacity

/-- The capability of a call is declared. -/
def KnownCapability (py : Builtins) (s : GlobalResolver) (params : ResolveParams) : Prop :=
  ∃ spec, (s.index py .capabilities).get? (normalizeCapability params.capability) = some spec

/-- Resolution returns exactly if the capability is declared and everything that it reads
can be read. -/
theorem resolve_isOk_iff :
    (∃ answer, s.resolve py now params = .ok answer) ↔
      KnownCapability py s params ∧ Readable py s params ∧ CapacitiesReadable py s params := by
  constructor
  · rintro ⟨⟨resolution, next⟩, h⟩
    obtain ⟨x, hx, -⟩ := parts_of_resolve h
    obtain ⟨hroutes, hmatching⟩ := matchingRoutes_eq_ok_iff.mp hx.matching
    have hnodes := candidateNodes_isOk_iff.mp ⟨_, hx.found⟩
    refine ⟨⟨x.spec, hx.spec⟩, ⟨hroutes, ?_, fun nodeId node hnode ↦ (hnodes nodeId node hnode).1⟩,
      fun nodeId node hnode ↦ (hnodes nodeId node hnode).2⟩
    rw [← hmatching]
    exact preferredRuntimes_isOk_iff.mp ⟨_, hx.runtimePreference⟩
  · rintro ⟨⟨spec, hspec⟩, ⟨hroutes, hpreferences, hnodes⟩, hcapacities⟩
    have hmatching := matchingRoutes_eq_ok_iff.mpr ⟨hroutes, rfl⟩
    obtain ⟨runtimePreference, hpreference⟩ := preferredRuntimes_isOk_iff.mpr hpreferences
    have hcandidates : ∃ found, candidateNodes py s (normalizeCapability params.capability)
        runtimePreference params.securityClass = .ok found :=
      candidateNodes_isOk_iff.mpr fun nodeId node hnode ↦
        ⟨hnodes nodeId node hnode, hcapacities nodeId node hnode⟩
    obtain ⟨found, hfound⟩ := hcandidates
    have hparts : Parts.Of py s params
        ⟨spec, acceptingRoutes py s params, runtimePreference, found⟩ :=
      ⟨hspec, hmatching, hpreference, hfound⟩
    obtain ⟨next, hnext⟩ := @resolve_of_parts py s now params _ hparts
    exact ⟨_, hnext⟩

/-- The candidates are the nodes that the call considers. -/
theorem exists_candidate_iff {nodeId : String}
    (h : s.resolve py now params = .ok (resolution, next)) :
    (∃ c ∈ resolution.candidates, c.canonicalId = nodeId) ↔
      ∃ node, (s.index py .nodes).get? nodeId = some node ∧
        Considered py s (normalizeCapability params.capability) params.securityClass nodeId node := by
  obtain ⟨-, -, hcapacities⟩ := resolve_isOk_iff.mp ⟨_, h⟩
  obtain ⟨x, hx, hresolution⟩ := parts_of_resolve h
  simp only [mem_candidates hresolution, mem_found hx.found]
  constructor
  · rintro ⟨c, ⟨node, hnode, hconsidered, -⟩, rfl⟩
    exact ⟨node, hnode, hconsidered⟩
  · rintro ⟨node, hnode, hconsidered⟩
    obtain ⟨capacity, hcapacity⟩ := hcapacities nodeId node hnode hconsidered
    exact ⟨candidateWith s x.runtimePreference nodeId node capacity,
      ⟨node, hnode, hconsidered, capacity, hcapacity, rfl⟩, rfl⟩

end GlobalResolver

end EstateMesh
