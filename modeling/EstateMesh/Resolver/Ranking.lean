import EstateMesh.Resolver.LiveTable

/-!
# How candidates are ranked

The score of a candidate adds what its health, its place among the preferred runtimes and
its capacity are worth.  A place among the preferred runtimes is worth 50, 45, 40 and so on
down to 5 for the tenth, and 1 from the eleventh on: enough to be ranked before a node
that is not listed, and not enough to tell the eleventh from the twelfth
(`preference_is_respected`).  It is never enough to lift a node that nobody has heard from
over one that is online (`online_ranks_before_undiscovered`).
-/

namespace EstateMesh

open Lib Machine

namespace GlobalResolver

variable {r : Renderer} {py : Builtins} {self next s t : GlobalResolver} {now : ℚ}
  {params : ResolveParams} {resolution : Resolution} {x : Parts} {c d : Candidate}

/-! ## Scores -/

/-- The place of a node among the preferred runtimes. -/
def rankOf (runtimePreference : List Value) (nodeId : String) : Option ℕ :=
  runtimePreference.findIdx? (·.isStr nodeId)

/-- The preferred runtimes of the routes that a call considers, each once. -/
def mergedPreference (py : Builtins) (self : GlobalResolver) (params : ResolveParams) :
    Except PyError (List Value) :=
  matchingRoutes py self (normalizeCapability params.capability) params.source params.ioClass >>=
    preferredRuntimes

theorem preferenceScore_of_rank {runtimePreference : List Value} {nodeId : String} {i : ℕ}
    (h : rankOf runtimePreference nodeId = some i) :
    preferenceScore runtimePreference nodeId = max 1 (50 - (i : ℤ) * 5) := by
  rw [preferenceScore, show runtimePreference.findIdx? (·.isStr nodeId) = some i from h]

theorem preferenceScore_of_not_listed {runtimePreference : List Value} {nodeId : String}
    (h : rankOf runtimePreference nodeId = none) :
    preferenceScore runtimePreference nodeId = 0 := by
  rw [preferenceScore, show runtimePreference.findIdx? (·.isStr nodeId) = none from h]

theorem preferenceScore_bounds (runtimePreference : List Value) (nodeId : String) :
    0 ≤ preferenceScore runtimePreference nodeId ∧
      preferenceScore runtimePreference nodeId ≤ 50 := by
  cases h : rankOf runtimePreference nodeId with
  | none =>
      rw [preferenceScore_of_not_listed h]
      omega
  | some i =>
      rw [preferenceScore_of_rank h]
      omega

/-- What a candidate has from the live table, and what that scores. -/
theorem score_eq (hx : Parts.Of py self params x) (hc : c ∈ x.found) :
    c.health = healthOf (self.nodes.get? c.canonicalId) ∧
      c.resources = resourcesOf (self.nodes.get? c.canonicalId) ∧
      ∃ capacity, capacityOf py c.resources = .ok capacity ∧
        c.score = healthScore c.health + preferenceScore x.runtimePreference c.canonicalId +
          capacity := by
  obtain ⟨node, -, -, capacity, hcapacity, hcandidate⟩ := (mem_found hx.found).mp hc
  have hresources : c.resources = resourcesOf (self.nodes.get? c.canonicalId) :=
    congrArg Candidate.resources hcandidate
  have hhealth : c.health = healthOf (self.nodes.get? c.canonicalId) :=
    congrArg Candidate.health hcandidate
  refine ⟨hhealth, hresources, capacity, hresources ▸ hcapacity, ?_⟩
  rw [hhealth]
  exact congrArg Candidate.score hcandidate

/-! ## The order -/

/-- One candidate of a list comes before another. -/
def Precedes (candidates : List Candidate) (c d : Candidate) : Prop := [c, d].Sublist candidates

/-- A candidate comes before another one of its locality class that scores less. -/
theorem precedes_of_score
    (hresolution : resolution = resolutionWith params x.spec x.matching x.found)
    (hc : c ∈ x.found) (hd : d ∈ x.found)
    (hclass : SameClass params.preferLocal c d) (hscore : d.score < c.score) :
    Precedes resolution.candidates c d := by
  rw [hresolution]
  refine sublist_of_ranked hc hd fun hranks ↦ ?_
  rcases ranksBefore_iff.mp hranks with ⟨hlocal, hd', hc'⟩ | ⟨-, hle⟩
  · exact hc' ((hclass hlocal).mpr hd')
  · omega

/-- Candidates of one class and score are in the order of the registry. -/
theorem precedes_iff_of_tie (hx : Parts.Of py self params x)
    (hresolution : resolution = resolutionWith params x.spec x.matching x.found)
    (hc : c ∈ x.found) (hd : d ∈ x.found)
    (hclass : SameClass params.preferLocal c d) (hscore : c.score = d.score) :
    Precedes resolution.candidates c d ↔
      [c.canonicalId, d.canonicalId].Sublist (self.index py .nodes).keys := by
  have hranks : ranksBefore params.preferLocal c d :=
    ranksBefore_iff.mpr (.inr ⟨hclass, hscore.ge⟩)
  have hranks' : ranksBefore params.preferLocal d c :=
    ranksBefore_iff.mpr (.inr ⟨fun h ↦ (hclass h).symm, hscore.le⟩)
  have hfound := found_sublist hx.found
  have hkeys : (self.index py .nodes).keys.Nodup := (self.index py .nodes).nodup
  rw [hresolution]
  constructor
  · intro hprecedes
    have hstable := List.pairwise_iff_forall_sublist.mp
      (pairwise_stable (r := ranksBefore params.preferLocal) (nodup_found hx)) hprecedes
    exact ((hstable.2 hranks').map Candidate.canonicalId).trans hfound
  · intro hdeclared
    have hne : c ≠ d := by
      rintro rfl
      exact not_sublist_swap hkeys hdeclared hdeclared
    refine List.pair_sublist_insertionSort hranks ?_
    refine (sublist_or_swap hc hd hne).resolve_right fun hswap ↦ ?_
    exact not_sublist_swap hkeys hdeclared ((hswap.map Candidate.canonicalId).trans hfound)

/-- The selected candidate is ranked no later than any other. -/
theorem ranksBefore_of_selected
    (hresolution : resolution = resolutionWith params x.spec x.matching x.found)
    (hd : resolution.selected = some d) (hc : c ∈ resolution.candidates) :
    c = d ∨ ranksBefore params.preferLocal d c := by
  rw [hresolution] at hd hc
  have hpairwise := List.pairwise_insertionSort (ranksBefore params.preferLocal) x.found
  obtain ⟨rest, hrest⟩ := List.head?_eq_some_iff.mp hd
  rw [hrest, List.pairwise_cons] at hpairwise
  rw [resolutionWith, hrest, List.mem_cons] at hc
  exact hc.imp_right (hpairwise.1 c)

/-! ## Nodes that nobody has heard from -/

/-- A capacity as a node agent reports it: none, or a number that is not negative. -/
def NaturalCapacity (resources : PyDict) : Prop :=
  PyDict.get? "capacity_score" resources = none ∨
    ∃ n : ℕ, PyDict.get? "capacity_score" resources = some (.int n)

/-- A candidate is live and online. -/
def Online (s : GlobalResolver) (c : Candidate) : Prop :=
  ∃ state, s.nodes.get? c.canonicalId = some state ∧ state.health = "online"

/-- A candidate has no live entry. -/
def Undiscovered (s : GlobalResolver) (c : Candidate) : Prop := s.nodes.get? c.canonicalId = none

/-- Whatever is asked, candidates that are online come before those without a live entry. -/
structure OnlineFirst (py : Builtins) (s : GlobalResolver) : Prop where
  ranked : ∀ now params resolution next, s.resolve py now params = .ok (resolution, next) →
    ∀ c ∈ resolution.candidates, ∀ d ∈ resolution.candidates, Online s c → Undiscovered s d →
      SameClass params.preferLocal c d → Precedes resolution.candidates c d
  selected : ∀ now params resolution next, s.resolve py now params = .ok (resolution, next) →
    ∀ d, resolution.selected = some d → Undiscovered s d →
      ∀ c ∈ resolution.candidates, SameClass params.preferLocal c d → ¬ Online s c

theorem NaturalCapacity.nonneg {resources : PyDict} (h : NaturalCapacity resources) {capacity : ℤ}
    (hcapacity : capacityOf py resources = .ok capacity) : 0 ≤ capacity := by
  rw [capacityOf, PyDict.getD] at hcapacity
  rcases h with h | ⟨n, h⟩
  · rw [h] at hcapacity
    cases hcapacity
    exact le_rfl
  · rw [h] at hcapacity
    cases n with
    | zero =>
        cases hcapacity
        exact le_rfl
    | succ n =>
        cases hcapacity
        omega

/-- A node without a live entry scores less than one that is online. -/
theorem score_lt_of_online (hx : Parts.Of py s params x) (hnatural : AllResources NaturalCapacity s)
    (hc : c ∈ x.found) (hd : d ∈ x.found) (honline : Online s c) (hundiscovered : Undiscovered s d) :
    d.score < c.score := by
  obtain ⟨state, hstate, honline⟩ := honline
  obtain ⟨hhealth, hresources, capacity, hcapacity, hscore⟩ := score_eq hx hc
  obtain ⟨hhealth', hresources', capacity', hcapacity', hscore'⟩ := score_eq hx hd
  rw [hstate] at hhealth hresources
  rw [hundiscovered] at hhealth' hresources'
  rw [hresources] at hcapacity
  rw [hresources'] at hcapacity'
  have hbase : healthScore c.health = 100 := if_pos (hhealth.trans honline)
  have hbase' : healthScore d.health = 25 := by
    rw [hhealth']
    decide
  have hnonneg : 0 ≤ capacity := (hnatural _ _ hstate).nonneg hcapacity
  have hzero : capacity' = 0 := (Except.ok.inj hcapacity').symm
  have hbounds := preferenceScore_bounds x.runtimePreference c.canonicalId
  have hbounds' := preferenceScore_bounds x.runtimePreference d.canonicalId
  omega

theorem onlineFirst_of_natural (hnatural : AllResources NaturalCapacity s) : OnlineFirst py s where
  ranked now params resolution next h c hc d hd honline hundiscovered hclass := by
    obtain ⟨x, hx, hresolution⟩ := parts_of_resolve h
    rw [mem_candidates hresolution] at hc hd
    exact precedes_of_score hresolution hc hd hclass
      (score_lt_of_online hx hnatural hc hd honline hundiscovered)
  selected now params resolution next h d hd hundiscovered c hc hclass honline := by
    obtain ⟨x, hx, hresolution⟩ := parts_of_resolve h
    have hd' : d ∈ resolution.candidates := by
      rw [hresolution] at hd ⊢
      exact List.mem_of_mem_head? hd
    rcases ranksBefore_of_selected hresolution hd hc with rfl | hranks
    · obtain ⟨state, hstate, -⟩ := honline
      cases hstate.symm.trans hundiscovered
    · rw [mem_candidates hresolution] at hc hd'
      have hscore := score_lt_of_online hx hnatural hc hd' honline hundiscovered
      rcases ranksBefore_iff.mp hranks with ⟨hlocal, hdl, hcl⟩ | ⟨-, hle⟩
      · exact hcl ((hclass hlocal).mpr hdl)
      · omega

/-! ## Preferred runtimes -/

/-- Two candidates differ in their place among the preferred runtimes at most. -/
structure Comparable (py : Builtins) (c d : Candidate) : Prop where
  health : c.health = d.health
  locality : IsLocal c ↔ IsLocal d
  capacity : capacityOf py c.resources = capacityOf py d.resources

theorem Comparable.score_sub (h : Comparable py c d) (hx : Parts.Of py self params x)
    (hc : c ∈ x.found) (hd : d ∈ x.found) :
    c.score - d.score = preferenceScore x.runtimePreference c.canonicalId -
      preferenceScore x.runtimePreference d.canonicalId := by
  obtain ⟨-, -, capacity, hcapacity, hscore⟩ := score_eq hx hc
  obtain ⟨-, -, capacity', hcapacity', hscore'⟩ := score_eq hx hd
  rw [h.capacity, hcapacity'] at hcapacity
  cases hcapacity
  rw [hscore, hscore', h.health]
  omega

/-- The preferred runtimes of the parts are those that the call merges. -/
theorem runtimePreference_eq (hx : Parts.Of py self params x) {runtimePreference : List Value}
    (h : mergedPreference py self params = .ok runtimePreference) :
    x.runtimePreference = runtimePreference := by
  rw [mergedPreference, hx.matching, ok_bind, hx.runtimePreference] at h
  exact Except.ok.inj h

/-- Preferred runtimes that are otherwise alike are ranked as they are listed. -/
def PreferenceRespected (py : Builtins) (self : GlobalResolver) (now : ℚ)
    (params : ResolveParams) : Prop :=
  ∀ resolution next runtimePreference, self.resolve py now params = .ok (resolution, next) →
    mergedPreference py self params = .ok runtimePreference →
    ∀ c ∈ resolution.candidates, ∀ d ∈ resolution.candidates, Comparable py c d →
      ∀ i, rankOf runtimePreference c.canonicalId = some i →
        (∀ j, rankOf runtimePreference d.canonicalId = some j → i < j) →
        Precedes resolution.candidates c d

/-! ### Twelve preferred runtimes -/

/-- The names of twelve nodes. -/
def nodeNames : List String :=
  ["a", "b", "c", "d", "e", "f", "g", "h", "i", "j", "k", "l"].map ("ga://node/" ++ ·)

/-- Three of twelve preferred runtimes are declared, the last one first. -/
def twelvePreferred : Registries
  | .nodes => [(.str "nodes", .list (["ga://node/l", "ga://node/k", "ga://node/a"].map fun name ↦
      .object [("canonical_id", .str name), ("capabilities", .list [.str "web.serve"])]))]
  | .capabilities => [(.str "capabilities", .list [.object
      [("canonical_id", .str "ga://capability/web.serve")]])]
  | .routes => [(.str "routes", .list [.object [("canonical_id", .str "ga://route/web"),
      ("capability", .str "ga://capability/web.serve"),
      ("runtime_preference", .list (nodeNames.map .str))]])]
  | _ => []

/-- The resolver over them. -/
def ofTwelve : GlobalResolver := { registries := twelvePreferred }

/-- The candidates are the first of the twelve, then the twelfth, then the eleventh. -/
theorem twelve_candidates : (ofTwelve.resolve default 0 { capability := "web.serve" }).toOption.map
    (fun x ↦ x.1.candidates.map fun c ↦ ((c.canonicalId, c.health),
      (capacityOf default c.resources).toOption, decide (IsLocal c))) =
    some (["ga://node/a", "ga://node/l", "ga://node/k"].map fun name ↦
      ((name, "undiscovered"), some 0, false)) := by
  decide +kernel

/-- Their places in the list. -/
theorem twelve_ranks : (mergedPreference default ofTwelve { capability := "web.serve" }).toOption.map
    (fun runtimePreference ↦
      ["ga://node/a", "ga://node/l", "ga://node/k"].map (rankOf runtimePreference)) =
    some [some 0, some 11, some 10] := by
  decide +kernel

/-- They differ in their places only. -/
theorem twelve_resolution : ∃ resolution next runtimePreference a l k,
    ofTwelve.resolve default 0 { capability := "web.serve" } = .ok (resolution, next) ∧
      mergedPreference default ofTwelve { capability := "web.serve" } = .ok runtimePreference ∧
      resolution.candidates = [a, l, k] ∧
      [a, l, k].map Candidate.canonicalId = ["ga://node/a", "ga://node/l", "ga://node/k"] ∧
      [a, l, k].map (fun c ↦ rankOf runtimePreference c.canonicalId) =
        [some 0, some 11, some 10] ∧
      Comparable default a l ∧ Comparable default k l := by
  obtain ⟨⟨resolution, next⟩, hresolve, hcandidates⟩ := Option.map_eq_some_iff.mp twelve_candidates
  obtain ⟨runtimePreference, hpreference, hranks⟩ := Option.map_eq_some_iff.mp twelve_ranks
  obtain ⟨a, cs, hcs, ha, htail⟩ := List.map_eq_cons_iff.mp hcandidates
  obtain ⟨l, cs', rfl, hl, htail⟩ := List.map_eq_cons_iff.mp htail
  obtain ⟨k, cs'', rfl, hk, htail⟩ := List.map_eq_cons_iff.mp htail
  obtain rfl := List.map_eq_nil_iff.mp htail
  have hids : [a, l, k].map Candidate.canonicalId =
      ["ga://node/a", "ga://node/l", "ga://node/k"] := by
    rw [Prod.mk.injEq, Prod.mk.injEq] at ha hl hk
    rw [List.map_cons, List.map_cons, List.map_singleton, ha.1.1, hl.1.1, hk.1.1]
  have hview : ∀ c ∈ [a, l, k], c.health = "undiscovered" ∧
      capacityOf default c.resources = .ok 0 ∧ ¬ IsLocal c := by
    intro c hc
    have hmem := List.mem_map_of_mem (f := fun c ↦ ((c.canonicalId, c.health),
      (capacityOf default c.resources).toOption, decide (IsLocal c))) hc
    rw [← hcs, hcandidates] at hmem
    obtain ⟨name, -, hname⟩ := List.mem_map.mp hmem
    rw [Prod.mk.injEq, Prod.mk.injEq, Prod.mk.injEq] at hname
    obtain ⟨⟨-, hhealth⟩, hcapacity, hlocal⟩ := hname
    exact ⟨hhealth.symm, eq_ok_of_toOption hcapacity.symm, of_decide_eq_false hlocal.symm⟩
  have hcomparable : ∀ c ∈ [a, l, k], ∀ d ∈ [a, l, k], Comparable default c d := by
    intro c hc d hd
    obtain ⟨hhealth, hcapacity, hlocal⟩ := hview c hc
    obtain ⟨hhealth', hcapacity', hlocal'⟩ := hview d hd
    exact ⟨hhealth.trans hhealth'.symm, iff_of_false hlocal hlocal',
      hcapacity.trans hcapacity'.symm⟩
  refine ⟨resolution, next, runtimePreference, a, l, k, eq_ok_of_toOption hresolve,
    eq_ok_of_toOption hpreference, hcs, hids, ?_, ?_, ?_⟩
  · have hmap := congrArg (List.map (rankOf runtimePreference)) hids
    rw [List.map_map] at hmap
    exact hmap.trans hranks
  · exact hcomparable a (by simp) l (by simp)
  · exact hcomparable k (by simp) l (by simp)

end GlobalResolver

open GlobalResolver in
/-- Over a live table of natural capacities, as every run has it whose calls report such
capacities, a node that is online is ranked before every node of its locality class that
nobody has heard from, whatever the preferred runtimes. -/
theorem online_ranks_before_undiscovered (r : Renderer) (py : Builtins) :
    (∀ s, AllResources NaturalCapacity s → OnlineFirst py s) ∧
      ∀ registries calls, (∀ call ∈ calls, Reports NaturalCapacity call) →
        (GlobalResolver.step r py).Always
          (fun s ↦ AllResources NaturalCapacity s ∧ OnlineFirst py s)
          { registries := registries } calls := by
  refine ⟨fun s hnatural ↦ onlineFirst_of_natural hnatural, fun registries calls hreports ↦ ?_⟩
  have hinit : AllResources NaturalCapacity { registries := registries } := by rintro _ _ ⟨⟩
  exact (always_allResources (.inl rfl) hreports hinit).mono fun s hs ↦
    ⟨hs, onlineFirst_of_natural hs⟩

/-- One of the nodes announces itself. -/
def onlineRun : List (ℚ × ResolverCall) :=
  [(0, .advertise "ga://node/k" [] [(.str "capacity_score", .int 8)] "online" [])]

open GlobalResolver in
/-- It is ranked before the most preferred node, which nobody has heard from. -/
theorem online_run_ranks_online_first : ∃ t resolution next k a,
    (GlobalResolver.step default default).run ofTwelve onlineRun = some t ∧
      t.resolve default 1 { capability := "web.serve" } = .ok (resolution, next) ∧
      [k, a].map Candidate.canonicalId = ["ga://node/k", "ga://node/a"] ∧
      Precedes resolution.candidates k a := by
  have hview : ((GlobalResolver.step default default).run ofTwelve onlineRun).bind (fun t ↦
      (t.resolve default 1 { capability := "web.serve" }).toOption.map fun x ↦
        x.1.candidates.map fun c ↦ ((c.canonicalId, decide (IsLocal c)),
          (t.nodes.get? c.canonicalId).map NodeState.health)) =
      some [(("ga://node/k", false), some "online"), (("ga://node/a", false), none),
        (("ga://node/l", false), none)] := by
    decide +kernel
  obtain ⟨t, ht, hview⟩ := Option.bind_eq_some_iff.mp hview
  obtain ⟨⟨resolution, next⟩, hresolve, hcandidates⟩ := Option.map_eq_some_iff.mp hview
  obtain ⟨k, cs, hcs, hk, htail⟩ := List.map_eq_cons_iff.mp hcandidates
  obtain ⟨a, cs', rfl, ha, -⟩ := List.map_eq_cons_iff.mp htail
  rw [Prod.mk.injEq, Prod.mk.injEq] at hk ha
  have hreports : ∀ call ∈ onlineRun, Reports NaturalCapacity call := by
    intro call hcall
    rw [List.mem_singleton.mp hcall]
    exact .inr ⟨8, rfl⟩
  have hrun := ((online_ranks_before_undiscovered default default).2 twelvePreferred onlineRun
    hreports)
  have honline := (always_iff.mp hrun onlineRun [] (List.append_nil _).symm t ht).2
  refine ⟨t, resolution, next, k, a, ht, eq_ok_of_toOption hresolve, ?_, ?_⟩
  · rw [List.map_cons, List.map_singleton, hk.1.1, ha.1.1]
  · refine honline.ranked 1 _ resolution next (eq_ok_of_toOption hresolve) k ?_ a ?_
      (Option.map_eq_some_iff.mp hk.2) (Option.map_eq_none_iff.mp ha.2) fun _ ↦ ?_
    · rw [show resolution.candidates = _ from hcs]
      exact List.mem_cons_self
    · rw [show resolution.candidates = _ from hcs]
      exact List.mem_cons_of_mem _ List.mem_cons_self
    · exact iff_of_false (of_decide_eq_false hk.1.2) (of_decide_eq_false ha.1.2)

open GlobalResolver in
/-- Of two candidates that are otherwise alike, the one that is listed among the first ten
preferred runtimes is ranked before the one that is listed later, and a listed one before
one that is not listed.  From the eleventh on the place in the list does not matter: the
order is that of the registry. -/
theorem preference_is_respected (py : Builtins) (self next : GlobalResolver) (now : ℚ)
    (params : ResolveParams) (resolution : Resolution) (runtimePreference : List Value)
    (h : self.resolve py now params = .ok (resolution, next))
    (hpreference : mergedPreference py self params = .ok runtimePreference) (c d : Candidate)
    (hc : c ∈ resolution.candidates) (hd : d ∈ resolution.candidates)
    (halike : Comparable py c d) (i : ℕ) (hi : rankOf runtimePreference c.canonicalId = some i) :
    ((∀ j, rankOf runtimePreference d.canonicalId = some j → i < j ∧ i < 10) →
        Precedes resolution.candidates c d) ∧
      ∀ j, rankOf runtimePreference d.canonicalId = some j → 10 ≤ i → 10 ≤ j →
        (Precedes resolution.candidates c d ↔
          [c.canonicalId, d.canonicalId].Sublist (self.index py .nodes).keys) := by
  obtain ⟨x, hx, hresolution⟩ := parts_of_resolve h
  obtain rfl := runtimePreference_eq hx hpreference
  rw [mem_candidates hresolution] at hc hd
  have hsub := halike.score_sub hx hc hd
  have hclass : SameClass params.preferLocal c d := fun _ ↦ halike.locality
  rw [preferenceScore_of_rank hi] at hsub
  constructor
  · intro hlater
    refine precedes_of_score hresolution hc hd hclass ?_
    cases hj : rankOf x.runtimePreference d.canonicalId with
    | none =>
        rw [preferenceScore_of_not_listed hj] at hsub
        omega
    | some j =>
        obtain ⟨hij, hten⟩ := hlater j hj
        rw [preferenceScore_of_rank hj] at hsub
        omega
  · intro j hj hten hten'
    rw [preferenceScore_of_rank hj] at hsub
    exact precedes_iff_of_tie hx hresolution hc hd hclass (by omega)

open GlobalResolver in
/-- The first of the twelve is ranked before the last one, which is declared before it. -/
theorem first_preferred_is_ranked_first : ∃ resolution next a l,
    ofTwelve.resolve default 0 { capability := "web.serve" } = .ok (resolution, next) ∧
      [a, l].map Candidate.canonicalId = ["ga://node/a", "ga://node/l"] ∧
      Precedes resolution.candidates a l := by
  obtain ⟨resolution, next, runtimePreference, a, l, k, hresolve, hpreference, hcandidates, hids,
    hranks, hal, -⟩ := twelve_resolution
  simp only [List.map_cons, List.map_nil, List.cons.injEq] at hids hranks
  refine ⟨resolution, next, a, l, hresolve, ?_, ?_⟩
  · rw [List.map_cons, List.map_singleton, hids.1, hids.2.1]
  · refine (preference_is_respected default ofTwelve next 0 { capability := "web.serve" }
      resolution runtimePreference hresolve hpreference a l ?_ ?_ hal 0 hranks.1).1 ?_
    · rw [hcandidates]
      exact List.mem_cons_self
    · rw [hcandidates]
      exact List.mem_cons_of_mem _ List.mem_cons_self
    · intro j hj
      obtain rfl := Option.some.inj (hranks.2.1.symm.trans hj)
      decide

open GlobalResolver in
/-- The eleventh of the twelve is ranked after the last one. -/
theorem eleventh_preferred_is_ranked_last :
    ¬ PreferenceRespected default ofTwelve 0 { capability := "web.serve" } := by
  intro hrespected
  obtain ⟨resolution, next, runtimePreference, a, l, k, hresolve, hpreference, hcandidates, hids,
    hranks, -, hkl⟩ := twelve_resolution
  simp only [List.map_cons, List.map_nil, List.cons.injEq] at hranks
  have hk : k ∈ resolution.candidates := by simp [hcandidates]
  have hl : l ∈ resolution.candidates := by simp [hcandidates]
  have hprecedes := hrespected resolution next runtimePreference hresolve hpreference k hk l hl hkl
    10 hranks.2.2.1 fun j hj ↦ by
      obtain rfl := Option.some.inj (hranks.2.1.symm.trans hj)
      decide
  have hsublist := List.Sublist.map Candidate.canonicalId hprecedes
  simp only [List.map_cons, List.map_nil, List.cons.injEq] at hids
  rw [hcandidates] at hsublist
  simp only [List.map_cons, List.map_nil, hids] at hsublist
  exact absurd hsublist (by decide)

end EstateMesh
