import EstateMesh.Resolver.Answerable

/-!
# Which candidates a resolution has

A capability has a short and a full name.  The request is brought to its full name, and so
is what a node advertises, but what the registry declares of a node is compared as it stands
and under the short name only.  The candidates are exactly the nodes that have the
capability under either name, unless a node has it in the full name only, in the registry,
or the short name still starts with the prefix (`selection_is_exact_iff`).
-/

namespace EstateMesh

open Lib

/-! ## The names of a capability -/

theorem drop_append (p s : String) : ((p ++ s).drop p.length).toString = s := by
  apply String.toList_inj.mp
  rw [String.Slice.toString_eq, String.toList_copy_drop, String.toList_append,
    ← String.length_toList, List.drop_left]

theorem append_shortCapability {capabilityId : String}
    (h : capabilityId.startsWith "ga://capability/" = true) :
    "ga://capability/" ++ shortCapability capabilityId = capabilityId := by
  obtain ⟨tail, htail⟩ := String.startsWith_string_iff.mp h
  have happend : capabilityId = "ga://capability/" ++ String.ofList tail := by
    apply String.toList_inj.mp
    rw [String.toList_append, String.toList_ofList (l := tail)]
    exact htail.symm
  rw [shortCapability, if_pos h, happend, drop_append]

theorem startsWith_normalizeCapability (value : String) :
    (normalizeCapability value).startsWith "ga://capability/" = true := by
  rw [normalizeCapability]
  split
  · rename_i h
    exact h
  · rw [String.startsWith_string_iff, String.toList_append]
    exact List.prefix_append _ _

/-- A name is one of a capability if it is the full one, or the short one and no full name
itself. -/
theorem normalizeCapability_eq_iff {value capabilityId : String}
    (h : capabilityId.startsWith "ga://capability/" = true) :
    normalizeCapability value = capabilityId ↔
      value = capabilityId ∨ value = shortCapability capabilityId ∧
        value.startsWith "ga://capability/" = false := by
  rw [normalizeCapability]
  split
  · rename_i hvalue
    rw [hvalue]
    simp
  · rename_i hvalue
    have hne : value ≠ capabilityId := by
      rintro rfl
      exact hvalue h
    rw [or_iff_right hne, and_iff_left (eq_false_of_ne_true hvalue)]
    conv_lhs => rw [← append_shortCapability h]
    exact String.append_right_inj _

namespace GlobalResolver

variable {py : Builtins} {s next : GlobalResolver} {now : ℚ} {params : ResolveParams}
  {resolution : Resolution} {nodeId : String} {node : PyDict}

/-! ## The specification -/

/-- The capabilities of a live entry. -/
def liveCapabilities (live : Option NodeState) : Finset String :=
  (live.map NodeState.capabilities).getD ∅

/-- A capability is among those that a node has, declared or live. -/
def Occurs (capabilityId : String) (declared : List String) (live : Finset String) : Prop :=
  ∃ c, (c ∈ declared ∨ c ∈ live) ∧ normalizeCapability c = capabilityId

/-- A security class is acceptable: none is asked for, or it is that class or `mixed`. -/
def Acceptable (securityClass : Option String) (node : PyDict) : Prop :=
  securityClass.getD "" = "" ∨ (node.get "security_class").isStr (securityClass.getD "") = true ∨
    (node.get "security_class").isStr "mixed" = true

/-- A node is neither offline nor failed. -/
def Healthy (live : Option NodeState) : Prop := healthOf live ≠ "offline" ∧ healthOf live ≠ "failed"

/-- What makes a declared node a candidate. -/
structure Qualifies (py : Builtins) (s : GlobalResolver) (params : ResolveParams)
    (nodeId : String) (node : PyDict) : Prop where
  capability : ∃ caps, (node.getD "capabilities" (.list [])).iter = .ok caps ∧
    Occurs (normalizeCapability params.capability) (caps.map py.str)
      (liveCapabilities (s.nodes.get? nodeId))
  security : Acceptable params.securityClass node
  health : Healthy (s.nodes.get? nodeId)

/-- One candidate is to be ranked before another: by locality, by score, by the order of the
registry. -/
def OrderedBefore (py : Builtins) (s : GlobalResolver) (preferLocal : Bool) (c d : Candidate) :
    Prop :=
  (preferLocal = true ∧ IsLocal c ∧ ¬ IsLocal d) ∨
    (SameClass preferLocal c d ∧ (d.score < c.score ∨
      d.score = c.score ∧ [c.canonicalId, d.canonicalId].Sublist (s.index py .nodes).keys))

/-- The candidates of a resolution are the nodes that qualify, in order, and the first of
them is selected. -/
structure SelectsExactly (py : Builtins) (s : GlobalResolver) (params : ResolveParams)
    (resolution : Resolution) : Prop where
  members : ∀ nodeId, (∃ c ∈ resolution.candidates, c.canonicalId = nodeId) ↔
    ∃ node, (s.index py .nodes).get? nodeId = some node ∧ Qualifies py s params nodeId node
  once : (resolution.candidates.map Candidate.canonicalId).Nodup
  ordered : resolution.candidates.Pairwise (OrderedBefore py s params.preferLocal)
  selected : resolution.selected = resolution.candidates.head?
  none : resolution.selected = none ↔
    ∀ nodeId node, (s.index py .nodes).get? nodeId = some node → ¬ Qualifies py s params nodeId node

/-- The names under which a node has a capability are found whenever they ought to be. -/
structure SpelledAlike (capabilityId : String) (declared : List String) (live : Finset String) :
    Prop where
  full : capabilityId ∈ declared → capabilityId ∈ live ∨
    shortCapability capabilityId ∈ declared ∨ shortCapability capabilityId ∈ live
  short : (shortCapability capabilityId).startsWith "ga://capability/" = true →
    shortCapability capabilityId ∈ declared ∨ shortCapability capabilityId ∈ live →
      capabilityId ∈ declared ∨ capabilityId ∈ live

/-! ## Membership -/

theorem occurs_iff {capabilityId : String} {declared : List String} {live : Finset String}
    (h : capabilityId.startsWith "ga://capability/" = true) :
    Occurs capabilityId declared live ↔ (capabilityId ∈ declared ∨ capabilityId ∈ live) ∨
      (shortCapability capabilityId).startsWith "ga://capability/" = false ∧
        (shortCapability capabilityId ∈ declared ∨ shortCapability capabilityId ∈ live) := by
  constructor
  · rintro ⟨c, hc, hname⟩
    rcases (normalizeCapability_eq_iff h).mp hname with rfl | ⟨rfl, hshort⟩
    · exact .inl hc
    · exact .inr ⟨hshort, hc⟩
  · rintro (hfull | ⟨hshort, hc⟩)
    · exact ⟨capabilityId, hfull, (normalizeCapability_eq_iff h).mpr (.inl rfl)⟩
    · exact ⟨_, hc, (normalizeCapability_eq_iff h).mpr (.inr ⟨rfl, hshort⟩)⟩

/-- The code finds the capability exactly if it occurs, provided that the names are alike. -/
theorem serves_iff_occurs_iff {capabilityId : String} {declared : List String}
    {live : Option NodeState} (h : capabilityId.startsWith "ga://capability/" = true) :
    (serves capabilityId declared live = true ↔
        Occurs capabilityId declared (liveCapabilities live)) ↔
      SpelledAlike capabilityId declared (liveCapabilities live) := by
  have hserves : serves capabilityId declared live = true ↔
      shortCapability capabilityId ∈ declared ∨ capabilityId ∈ liveCapabilities live ∨
        shortCapability capabilityId ∈ liveCapabilities live := decide_eq_true_iff
  rw [hserves, occurs_iff h]
  constructor
  · intro hiff
    constructor
    · intro hfull
      rcases hiff.mpr (.inl (.inl hfull)) with hdeclared | hlive | hlive
      · exact .inr (.inl hdeclared)
      · exact .inl hlive
      · exact .inr (.inr hlive)
    · intro hdouble hshort
      have hoccurs := hiff.mp (hshort.elim .inl fun hlive ↦ .inr (.inr hlive))
      refine hoccurs.resolve_right fun hnot ↦ ?_
      exact Bool.false_ne_true (hnot.1.symm.trans hdouble)
  · rintro ⟨hfull, hdouble⟩
    have hfound : shortCapability capabilityId ∈ declared ∨
        shortCapability capabilityId ∈ liveCapabilities live →
          (capabilityId ∈ declared ∨ capabilityId ∈ liveCapabilities live) ∨
            (shortCapability capabilityId).startsWith "ga://capability/" = false ∧
              (shortCapability capabilityId ∈ declared ∨
                shortCapability capabilityId ∈ liveCapabilities live) := by
      intro hshort
      cases hstarts : (shortCapability capabilityId).startsWith "ga://capability/" with
      | false => exact .inr ⟨rfl, hshort⟩
      | true => exact .inl (hdouble hstarts hshort)
    constructor
    · rintro (hdeclared | hlive | hlive)
      · exact hfound (.inl hdeclared)
      · exact .inl (.inr hlive)
      · exact hfound (.inr hlive)
    · rintro ((hdeclared | hlive) | ⟨-, hshort⟩)
      · exact (hfull hdeclared).elim (fun hlive ↦ .inr (.inl hlive)) fun hshort ↦
          hshort.elim .inl fun hlive ↦ .inr (.inr hlive)
      · exact .inr (.inl hlive)
      · exact hshort.elim .inl fun hlive ↦ .inr (.inr hlive)

theorem acceptsSecurity_iff {securityClass : Option String} :
    acceptsSecurity securityClass node = .ok true ↔ Acceptable securityClass node := by
  have hhashable : ∀ name, (node.get "security_class").isStr name = true →
      (node.get "security_class").hashable = true := by
    intro name
    cases node.get "security_class" <;> simp [Value.isStr, Value.hashable]
  unfold acceptsSecurity Acceptable
  dsimp only
  split
  · rename_i hnone
    exact iff_of_true rfl (.inl hnone)
  · rename_i hsome
    rw [or_iff_right hsome, ← Bool.or_eq_true]
    split
    · rename_i hhash
      exact ⟨Except.ok.inj, congrArg _⟩
    · rename_i hhash
      refine iff_of_false (by rintro ⟨⟩) fun hclass ↦ hhash ?_
      rcases (Bool.or_eq_true _ _).mp hclass with hclass | hclass
      · exact hhashable _ hclass
      · exact hhashable _ hclass

theorem isUsable_iff {live : Option NodeState} : isUsable (healthOf live) = true ↔ Healthy live :=
  decide_eq_true_iff

/-- For a node that is acceptable otherwise, it is the names that decide. -/
theorem considered_iff_qualifies_iff {caps : List Value}
    (hcaps : (node.getD "capabilities" (.list [])).iter = .ok caps) :
    (Considered py s (normalizeCapability params.capability) params.securityClass nodeId node ↔
        Qualifies py s params nodeId node) ↔
      (Acceptable params.securityClass node → Healthy (s.nodes.get? nodeId) →
        SpelledAlike (normalizeCapability params.capability) (caps.map py.str)
          (liveCapabilities (s.nodes.get? nodeId))) := by
  rw [← serves_iff_occurs_iff (startsWith_normalizeCapability _)]
  have hconsidered :
      Considered py s (normalizeCapability params.capability) params.securityClass nodeId node ↔
        serves (normalizeCapability params.capability) (caps.map py.str) (s.nodes.get? nodeId) =
            true ∧
          Acceptable params.securityClass node ∧ Healthy (s.nodes.get? nodeId) := by
    constructor
    · rintro ⟨⟨caps', hcaps', hserves⟩, haccepts, husable⟩
      cases hcaps.symm.trans hcaps'
      exact ⟨hserves, acceptsSecurity_iff.mp haccepts, isUsable_iff.mp husable⟩
    · rintro ⟨hserves, haccepts, husable⟩
      exact ⟨⟨caps, hcaps, hserves⟩, acceptsSecurity_iff.mpr haccepts, isUsable_iff.mpr husable⟩
  have hqualifies : Qualifies py s params nodeId node ↔
      Occurs (normalizeCapability params.capability) (caps.map py.str)
          (liveCapabilities (s.nodes.get? nodeId)) ∧
        Acceptable params.securityClass node ∧ Healthy (s.nodes.get? nodeId) := by
    constructor
    · rintro ⟨⟨caps', hcaps', hoccurs⟩, hsecurity, hhealth⟩
      cases hcaps.symm.trans hcaps'
      exact ⟨hoccurs, hsecurity, hhealth⟩
    · rintro ⟨hoccurs, hsecurity, hhealth⟩
      exact ⟨⟨caps, hcaps, hoccurs⟩, hsecurity, hhealth⟩
  rw [hconsidered, hqualifies, and_congr_left_iff, and_imp]

/-! ## Order -/

theorem ordered_of_resolve (h : s.resolve py now params = .ok (resolution, next)) :
    resolution.candidates.Pairwise (OrderedBefore py s params.preferLocal) := by
  obtain ⟨x, hx, rfl⟩ := parts_of_resolve h
  refine (pairwise_stable (r := ranksBefore params.preferLocal) (nodup_found hx)).imp ?_
  rintro c d ⟨hranks, hstable⟩
  rcases ranksBefore_iff.mp hranks with hlocal | ⟨hclass, hle⟩
  · exact .inl hlocal
  · refine .inr ⟨hclass, ?_⟩
    rcases hle.lt_or_eq with hlt | heq
    · exact .inl hlt
    · have hranks' : ranksBefore params.preferLocal d c :=
        ranksBefore_iff.mpr (.inr ⟨fun hlocal ↦ (hclass hlocal).symm, heq.ge⟩)
      exact .inr ⟨heq, ((hstable hranks').map Candidate.canonicalId).trans (found_sublist hx.found)⟩

theorem once_of_resolve (h : s.resolve py now params = .ok (resolution, next)) :
    (resolution.candidates.map Candidate.canonicalId).Nodup := by
  obtain ⟨x, hx, rfl⟩ := parts_of_resolve h
  exact ((List.perm_insertionSort _ x.found).map _).nodup_iff.mpr (found_nodup hx.found)

end GlobalResolver

open GlobalResolver in
/-- A resolution selects exactly the nodes that qualify if and only if every declared node
that is acceptable otherwise has the capability under names that the code compares. -/
theorem selection_is_exact_iff (py : Builtins) (s next : GlobalResolver) (now : ℚ)
    (params : ResolveParams) (resolution : Resolution)
    (h : s.resolve py now params = .ok (resolution, next)) :
    SelectsExactly py s params resolution ↔
      ∀ nodeId node caps, (s.index py .nodes).get? nodeId = some node →
        (node.getD "capabilities" (.list [])).iter = .ok caps →
        Acceptable params.securityClass node → Healthy (s.nodes.get? nodeId) →
          SpelledAlike (normalizeCapability params.capability) (caps.map py.str)
            (liveCapabilities (s.nodes.get? nodeId)) := by
  constructor
  · rintro ⟨hmembers, -, -, -, -⟩ nodeId node caps hnode hcaps
    refine (considered_iff_qualifies_iff hcaps).mp ?_
    have hnodeId := (exists_candidate_iff h).symm.trans (hmembers nodeId)
    simpa only [hnode, Option.some.injEq, exists_eq_left'] using hnodeId
  · intro hspelled
    have hsame : ∀ nodeId node, (s.index py .nodes).get? nodeId = some node →
        (Considered py s (normalizeCapability params.capability) params.securityClass nodeId node ↔
          Qualifies py s params nodeId node) := by
      intro nodeId node hnode
      obtain ⟨-, hreadable, -⟩ := resolve_isOk_iff.mp ⟨_, h⟩
      obtain ⟨caps, hcaps, -⟩ := hreadable.nodes nodeId node hnode
      exact (considered_iff_qualifies_iff hcaps).mpr (hspelled nodeId node caps hnode hcaps)
    have hmembers : ∀ nodeId, (∃ c ∈ resolution.candidates, c.canonicalId = nodeId) ↔
        ∃ node, (s.index py .nodes).get? nodeId = some node ∧
          Qualifies py s params nodeId node :=
      fun nodeId ↦ (exists_candidate_iff h).trans
        (exists_congr fun node ↦ and_congr_right (hsame nodeId node))
    have hselected : resolution.selected = resolution.candidates.head? := by
      obtain ⟨x, -, rfl⟩ := parts_of_resolve h
      rfl
    refine ⟨hmembers, once_of_resolve h, ordered_of_resolve h, hselected, ?_⟩
    rw [hselected, List.head?_eq_none_iff, List.eq_nil_iff_forall_not_mem]
    constructor
    · intro hnone nodeId node hnode hqualifies
      obtain ⟨c, hc, -⟩ := (hmembers nodeId).mpr ⟨node, hnode, hqualifies⟩
      exact hnone c hc
    · intro hnone c hc
      obtain ⟨node, hnode, hqualifies⟩ := (hmembers c.canonicalId).mp ⟨c, hc, rfl⟩
      exact hnone c.canonicalId node hnode hqualifies

/-- A node that declares a capability under some name. -/
def nodeNaming (name capability : String) : PyDict :=
  [(.str "canonical_id", .str name), (.str "capabilities", .list [.str capability])]

/-- Two nodes declare a capability, each under some name. -/
def namedBy (name name' : String) : Registries
  | .nodes => [(.str "nodes", .list [.dict (nodeNaming "ga://node/eden" name),
      .dict (nodeNaming "ga://node/render" name')])]
  | .capabilities => [(.str "capabilities", .list [.object
      [("canonical_id", .str "ga://capability/model.infer")]])]
  | _ => []

open GlobalResolver in
/-- Under its short name the capability is found. -/
theorem short_names_are_found : ∃ resolution next,
    GlobalResolver.resolve default { registries := namedBy "model.infer" "model.infer" } 0
        { capability := "model.infer" } = .ok (resolution, next) ∧
      SelectsExactly default { registries := namedBy "model.infer" "model.infer" }
        { capability := "model.infer" } resolution := by
  have hreturns : (GlobalResolver.resolve default
      { registries := namedBy "model.infer" "model.infer" } 0
      { capability := "model.infer" }).toOption.isSome = true := by
    decide +kernel
  obtain ⟨⟨resolution, next⟩, hresolve⟩ := isSome_toOption.mp hreturns
  refine ⟨resolution, next, hresolve,
    (selection_is_exact_iff default _ next 0 _ resolution hresolve).mpr ?_⟩
  intro nodeId node caps hnode hcaps _ _
  have hdeclared : caps = [.str "model.infer"] := by
    have hentry : (nodeId, node) ∈ [("ga://node/eden", nodeNaming "ga://node/eden" "model.infer"),
        ("ga://node/render", nodeNaming "ga://node/render" "model.infer")] :=
      Dict.get?_eq_some_iff.mp hnode
    rcases List.mem_cons.mp hentry with heden | hrender
    · cases heden
      exact (Except.ok.inj hcaps).symm
    · cases List.mem_singleton.mp hrender
      exact (Except.ok.inj hcaps).symm
  rw [hdeclared]
  exact ⟨fun hfull ↦ absurd hfull (by decide +kernel),
    fun hdouble ↦ absurd hdouble (by decide +kernel)⟩

open GlobalResolver in
/-- A node that declares the capability under its full name is not found. -/
theorem full_name_is_not_found : ∃ resolution next,
    GlobalResolver.resolve default
        { registries := namedBy "model.infer" "ga://capability/model.infer" } 0
        { capability := "model.infer" } = .ok (resolution, next) ∧
      ¬ SelectsExactly default { registries := namedBy "model.infer" "ga://capability/model.infer" }
        { capability := "model.infer" } resolution := by
  have hview : (GlobalResolver.resolve default
      { registries := namedBy "model.infer" "ga://capability/model.infer" } 0
      { capability := "model.infer" }).toOption.map (fun x ↦
        x.1.candidates.map Candidate.canonicalId) = some ["ga://node/eden"] := by
    decide +kernel
  obtain ⟨⟨resolution, next⟩, hresolve, hcandidates⟩ := Option.map_eq_some_iff.mp hview
  refine ⟨resolution, next, eq_ok_of_toOption hresolve, fun hexact ↦ ?_⟩
  have hqualifies : Qualifies default
      { registries := namedBy "model.infer" "ga://capability/model.infer" }
      { capability := "model.infer" } "ga://node/render"
      (nodeNaming "ga://node/render" "ga://capability/model.infer") :=
    ⟨⟨[.str "ga://capability/model.infer"], rfl,
      ⟨"ga://capability/model.infer", .inl (by decide), by decide +kernel⟩⟩, .inl rfl,
      ⟨by decide, by decide⟩⟩
  obtain ⟨c, hc, hid⟩ := (hexact.members "ga://node/render").mpr ⟨_, rfl, hqualifies⟩
  have hmem := List.mem_map_of_mem (f := Candidate.canonicalId) hc
  rw [show resolution.candidates.map Candidate.canonicalId = _ from hcandidates, hid] at hmem
  exact absurd hmem (by decide)

end EstateMesh
