import EstateMesh.Lib.StableSort
import EstateMesh.Resolver.GlobalResolver

/-!
# What resolution answers

One equation for each part of `resolve`: what a candidate is and when a node is one, in
which order the candidates are, and of what the resolution is made.  The results about
resolution start from these.
-/

namespace EstateMesh

open Lib

namespace GlobalResolver

variable {py : Builtins} {self next : GlobalResolver} {now : ℚ} {params : ResolveParams}
  {resolution : Resolution}

/-! ## Candidates -/

/-- What `capacity_score` adds to the score of a candidate. -/
def capacityOf (py : Builtins) (resources : PyDict) : Except PyError ℤ :=
  py.int ((PyDict.getD resources "capacity_score" (.int 0)).or (.int 0))

/-- What the health of a candidate scores. -/
def healthScore (health : String) : ℤ := if health = "online" then 100 else 25

/-- The resources of a live entry. -/
def resourcesOf (live : Option NodeState) : PyDict := (live.map NodeState.resources).getD []

/-- The candidate that a node is made, given its capacity. -/
def candidateWith (self : GlobalResolver) (runtimePreference : List Value) (nodeId : String)
    (node : PyDict) (capacity : ℤ) : Candidate :=
  let live := self.nodes.get? nodeId
  { canonicalId := nodeId
    score := healthScore (healthOf live) + preferenceScore runtimePreference nodeId + capacity
    health := healthOf live
    runtime := node.get "runtime"
    location := node.get "location"
    transport := node.getD "transport" (.list [])
    securityClass := node.get "security_class"
    resources := resourcesOf live }

/-- A node is considered for a capability: it has it, and its security class and its
health are acceptable. -/
structure Considered (py : Builtins) (s : GlobalResolver) (capabilityId : String)
    (securityClass : Option String) (nodeId : String) (node : PyDict) : Prop where
  serves : ∃ caps, (node.getD "capabilities" (.list [])).iter = .ok caps ∧
    GlobalResolver.serves capabilityId (caps.map py.str) (s.nodes.get? nodeId) = true
  accepts : acceptsSecurity securityClass node = .ok true
  usable : isUsable (healthOf (s.nodes.get? nodeId)) = true

section Candidates

variable {capabilityId nodeId : String} {runtimePreference : List Value}
  {securityClass : Option String} {node : PyDict} {c d : Candidate} {found : List Candidate}

/-- A node that is considered becomes a candidate, unless its capacity cannot be read. -/
theorem candidateOf_of_considered
    (h : Considered py self capabilityId securityClass nodeId node) :
    candidateOf py self capabilityId runtimePreference securityClass nodeId node =
      (capacityOf py (resourcesOf (self.nodes.get? nodeId))).map fun capacity ↦
        some (candidateWith self runtimePreference nodeId node capacity) := by
  obtain ⟨⟨caps, hcaps, hserves⟩, haccepts, husable⟩ := h
  simp only [candidateOf, hcaps, ok_bind, hserves, haccepts, husable]
  rfl

/-- A node that is a candidate is considered. -/
theorem considered_of_candidateOf
    (h : candidateOf py self capabilityId runtimePreference securityClass nodeId node =
      .ok (some c)) : Considered py self capabilityId securityClass nodeId node := by
  obtain ⟨caps, hcaps, h⟩ := bind_eq_ok_iff.mp h
  dsimp only at h
  cases hserves : serves capabilityId (caps.map py.str) (self.nodes.get? nodeId) with
  | false =>
      rw [hserves] at h
      cases h
  | true =>
      rw [hserves] at h
      obtain ⟨accepts, haccepts, h⟩ := bind_eq_ok_iff.mp h
      cases accepts with
      | false => cases h
      | true =>
          cases husable : isUsable (healthOf (self.nodes.get? nodeId)) with
          | false =>
              rw [husable] at h
              cases h
          | true => exact ⟨⟨caps, hcaps, hserves⟩, haccepts, husable⟩

theorem candidateOf_eq_some_iff :
    candidateOf py self capabilityId runtimePreference securityClass nodeId node =
        .ok (some c) ↔
      Considered py self capabilityId securityClass nodeId node ∧
        ∃ capacity, capacityOf py (resourcesOf (self.nodes.get? nodeId)) = .ok capacity ∧
          c = candidateWith self runtimePreference nodeId node capacity := by
  constructor
  · intro h
    have hconsidered := considered_of_candidateOf h
    rw [candidateOf_of_considered hconsidered] at h
    cases hcapacity : capacityOf py (resourcesOf (self.nodes.get? nodeId)) with
    | error e =>
        rw [hcapacity] at h
        cases h
    | ok capacity =>
        rw [hcapacity] at h
        cases h
        exact ⟨hconsidered, capacity, rfl, rfl⟩
  · rintro ⟨hconsidered, capacity, hcapacity, rfl⟩
    rw [candidateOf_of_considered hconsidered, hcapacity]
    rfl

/-- A candidate is a declared node that is considered. -/
theorem mem_found (h : candidateNodes py self capabilityId runtimePreference securityClass =
      .ok found) :
    c ∈ found ↔ ∃ node, (self.index py .nodes).get? c.canonicalId = some node ∧
      Considered py self capabilityId securityClass c.canonicalId node ∧
      ∃ capacity, capacityOf py (resourcesOf (self.nodes.get? c.canonicalId)) = .ok capacity ∧
        c = candidateWith self runtimePreference c.canonicalId node capacity := by
  obtain ⟨results, hresults, h⟩ := bind_eq_ok_iff.mp h
  cases h
  rw [List.reduceOption_mem_iff, mem_of_mapM_eq_ok hresults]
  constructor
  · rintro ⟨⟨nodeId, node⟩, hentry, hcandidate⟩
    obtain ⟨hconsidered, capacity, hcapacity, hc⟩ := candidateOf_eq_some_iff.mp hcandidate
    obtain rfl : c.canonicalId = nodeId := congrArg Candidate.canonicalId hc
    exact ⟨node, Dict.get?_eq_some_iff.mpr hentry, hconsidered, capacity, hcapacity, hc⟩
  · rintro ⟨node, hnode, hcandidate⟩
    exact ⟨(c.canonicalId, node), Dict.get?_eq_some_iff.mp hnode,
      candidateOf_eq_some_iff.mpr hcandidate⟩

/-- The candidates are found in the order of the registry. -/
theorem found_sublist (h : candidateNodes py self capabilityId runtimePreference securityClass =
      .ok found) : (found.map Candidate.canonicalId).Sublist (self.index py .nodes).keys := by
  obtain ⟨results, hresults, h⟩ := bind_eq_ok_iff.mp h
  cases h
  refine sublist_of_mapM_eq_ok ?_ hresults
  rintro ⟨nodeId, node⟩ c hcandidate
  obtain ⟨-, capacity, -, rfl⟩ := candidateOf_eq_some_iff.mp hcandidate
  rfl

theorem found_nodup (h : candidateNodes py self capabilityId runtimePreference securityClass =
      .ok found) : (found.map Candidate.canonicalId).Nodup :=
  (self.index py .nodes).nodup.sublist (found_sublist h)

end Candidates

/-! ## The order of the candidates -/

/-- A candidate is sovereign-local. -/
def IsLocal (c : Candidate) : Prop := c.location.isStr "sovereign-local" = true

instance (c : Candidate) : Decidable (IsLocal c) :=
  inferInstanceAs (Decidable (c.location.isStr "sovereign-local" = true))

/-- Two candidates compete: they are in one locality class, if locality counts. -/
def SameClass (preferLocal : Bool) (c d : Candidate) : Prop :=
  preferLocal = true → (IsLocal c ↔ IsLocal d)

/-- A candidate is ranked no later than another: it is local and the other one is not, or
they are alike in that and it scores no less. -/
theorem ranksBefore_iff {preferLocal : Bool} {c d : Candidate} :
    ranksBefore preferLocal c d ↔
      (preferLocal = true ∧ IsLocal c ∧ ¬ IsLocal d) ∨
        (SameClass preferLocal c d ∧ d.score ≤ c.score) := by
  unfold ranksBefore SameClass IsLocal
  cases preferLocal with
  | false => simp
  | true =>
      cases hc : c.location.isStr "sovereign-local" <;>
        cases hd : d.location.isStr "sovereign-local" <;> simp [hc, hd]

instance (preferLocal : Bool) : Std.Total (ranksBefore preferLocal) where
  total c d := by
    rw [ranksBefore_iff, ranksBefore_iff]
    unfold SameClass
    rcases le_total d.score c.score with hle | hle
    · tauto
    · tauto

instance (preferLocal : Bool) : IsTrans Candidate (ranksBefore preferLocal) where
  trans a b c := by
    rw [ranksBefore_iff, ranksBefore_iff, ranksBefore_iff]
    rintro (⟨hlocal, ha, hb⟩ | ⟨hab, hscore⟩) (⟨hlocal', hb', hc⟩ | ⟨hbc, hscore'⟩)
    · exact absurd hb' hb
    · exact .inl ⟨hlocal, ha, fun hc ↦ hb ((hbc hlocal).mpr hc)⟩
    · exact .inl ⟨hlocal', (hab hlocal').mpr hb', hc⟩
    · exact .inr ⟨fun h ↦ (hab h).trans (hbc h), hscore'.trans hscore⟩

/-! ## The resolution -/

/-- What `resolve` makes of the parts of a resolution. -/
def resolutionWith (params : ResolveParams) (spec : PyDict) (matching : List PyDict)
    (found : List Candidate) : Resolution where
  capability := normalizeCapability params.capability
  owner := spec.get "owner"
  source := params.source
  route := matching.head?
  selected := (found.insertionSort (ranksBefore params.preferLocal)).head?
  candidates := found.insertionSort (ranksBefore params.preferLocal)
  proof := (matching.head?.getD []).getD "proof" (.str "ga://organ/proofgrid")

/-- The parts of a resolution. -/
structure Parts where
  spec : PyDict
  matching : List PyDict
  runtimePreference : List Value
  found : List Candidate

/-- What the parts of a resolution are. -/
structure Parts.Of (py : Builtins) (s : GlobalResolver) (params : ResolveParams) (x : Parts) :
    Prop where
  spec : (s.index py .capabilities).get? (normalizeCapability params.capability) = some x.spec
  matching : matchingRoutes py s (normalizeCapability params.capability) params.source
    params.ioClass = .ok x.matching
  runtimePreference : preferredRuntimes x.matching = .ok x.runtimePreference
  found : candidateNodes py s (normalizeCapability params.capability) x.runtimePreference
    params.securityClass = .ok x.found

/-- A resolution is made of its parts. -/
theorem parts_of_resolve (h : self.resolve py now params = .ok (resolution, next)) :
    ∃ x, Parts.Of py self params x ∧
      resolution = resolutionWith params x.spec x.matching x.found := by
  rw [resolve] at h
  dsimp only at h
  split at h
  · rename_i spec hspec
    obtain ⟨matching, hmatching, h⟩ := bind_eq_ok_iff.mp h
    obtain ⟨runtimePreference, hpreference, h⟩ := bind_eq_ok_iff.mp h
    obtain ⟨found, hfound, h⟩ := bind_eq_ok_iff.mp h
    cases h
    exact ⟨⟨spec, matching, runtimePreference, found⟩, ⟨hspec, of_liftPython hmatching,
      of_liftPython hpreference, of_liftPython hfound⟩, rfl⟩
  · cases h

/-- Parts make a resolution. -/
theorem resolve_of_parts {x : Parts} (hx : Parts.Of py self params x) :
    ∃ next, self.resolve py now params =
      .ok (resolutionWith params x.spec x.matching x.found, next) := by
  rw [resolve]
  dsimp only
  rw [hx.spec, hx.matching]
  dsimp only [liftPython, Except.mapError]
  rw [ok_bind, hx.runtimePreference]
  dsimp only
  rw [ok_bind, hx.found]
  exact ⟨_, rfl⟩

theorem mem_candidates {x : Parts} {c : Candidate}
    (hresolution : resolution = resolutionWith params x.spec x.matching x.found) :
    c ∈ resolution.candidates ↔ c ∈ x.found := by
  rw [hresolution]
  exact List.mem_insertionSort _

theorem nodup_found {x : Parts} (hx : Parts.Of py self params x) : x.found.Nodup :=
  List.Nodup.of_map _ (found_nodup hx.found)

end GlobalResolver

end EstateMesh
