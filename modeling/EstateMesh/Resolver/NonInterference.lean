import EstateMesh.Resolver.Answers
import EstateMesh.Resolver.LiveHistory

/-!
# Nodes do not interfere

Every node reports what it likes about itself, and resolution ranks by what they report.  What a
node reports decides about its own place, and about nothing else: two runs of the resolver that
differ only in what one node reported, and when, say the same of all the other nodes, and rank
them in the same order.  So the selection passes only to the node or away from it, and a node
that scores no less than before overtakes others, but is overtaken by none
(`nodes_do_not_interfere`).
-/

namespace EstateMesh

open Lib Machine

/-- The call is made about a node, by the node. -/
def ResolverCall.isAbout (id : String) : ResolverCall → Bool
  | advertise canonicalId _ _ _ _ | heartbeat canonicalId _ _ => canonicalId = id
  | _ => false

namespace GlobalResolver

variable {r : Renderer} {py : Builtins} {s t u : GlobalResolver} {now : ℚ} {id : String}

/-! ## Resolvers that differ in one node -/

/-- Two resolvers differ in the live entry of one node at most. -/
structure SameBut (id : String) (s t : GlobalResolver) : Prop where
  registries : t.registries = s.registries
  nodes : ∀ id', id' ≠ id → t.nodes.get? id' = s.nodes.get? id'

theorem SameBut.refl (id : String) (s : GlobalResolver) : SameBut id s s := ⟨rfl, fun _ _ ↦ rfl⟩

theorem SameBut.index (h : SameBut id s t) (py : Builtins) (file : RegistryFile) :
    t.index py file = s.index py file := by
  rw [GlobalResolver.index, h.registries]
  rfl

/-- Only reloads change the registries. -/
theorem registries_of_step {call : ResolverCall} (hreload : ∀ root, call ≠ .reload root)
    (h : step r py s (now, call) = some t) : t.registries = s.registries := by
  cases stepped_of_step h with
  | kept hregistries _ => exact hregistries
  | advertised _ hregistries _ => exact hregistries
  | beat _ hregistries _ => exact hregistries
  | swept hregistries _ => exact hregistries
  | reloaded _ _ => exact absurd rfl (hreload _)

/-- What is noted of a call depends on the registries alone. -/
theorem noted_congr (h : t.registries = s.registries) (id : String) (label : ℚ × ResolverCall) :
    noted py id (t, label) = noted py id (s, label) := by
  have hindex : t.index py .nodes = s.index py .nodes := by
    rw [index, h]
    rfl
  obtain ⟨now, call⟩ := label
  cases call with
  | advertise => simp only [noted, hindex]
  | heartbeat => simp only [noted, hindex]
  | _ => rfl

/-- What a node says is not noted of another one. -/
theorem noted_of_isAbout {call : ResolverCall} {id' : String} (h : call.isAbout id = true)
    (hne : id' ≠ id) : noted py id' (s, (now, call)) = none := by
  cases call with
  | advertise canonicalId capabilities resources health metadata =>
      obtain rfl : canonicalId = id := of_decide_eq_true h
      exact if_neg (Ne.symm hne)
  | heartbeat canonicalId health resources =>
      obtain rfl : canonicalId = id := of_decide_eq_true h
      exact if_neg fun hboth ↦ hne hboth.1.symm
  | _ => cases h

/-- A call of the node changes nothing else. -/
theorem SameBut.hidden {label : ℚ × ResolverCall} (habout : (!label.2.isAbout id) = false)
    (hstep : step r py s label = some t) (h : SameBut id s u) : SameBut id t u := by
  obtain ⟨now, call⟩ := label
  have habout : call.isAbout id = true := by simpa using habout
  constructor
  · rw [h.registries, registries_of_step ?_ hstep]
    rintro root rfl
    cases habout
  · intro id' hne
    rw [h.nodes id' hne, entry_of_step hstep, noted_of_isAbout habout hne]
    rfl

/-- Any other call finds no difference. -/
theorem SameBut.kept {label : ℚ × ResolverCall} (hstep : step r py s label = some t)
    (h : SameBut id s u) : ∃ v, step r py u label = some v ∧ SameBut id t v := by
  obtain ⟨now, call⟩ := label
  by_cases hreload : ∃ root, call = .reload root
  · obtain ⟨root, rfl⟩ := hreload
    rw [step] at hstep
    split at hstep
    · rename_i report next hnext
      obtain rfl := Option.some.inj hstep
      obtain ⟨registries, hload, hreport, rfl⟩ := reload_eq_ok_iff.mp hnext
      have hreloaded : u.reload r py root = (.ok report, { u with registries := registries }) :=
        reload_eq_ok_iff.mpr ⟨registries, hload, hreport, rfl⟩
      refine ⟨{ u with registries := registries }, ?_, rfl, h.nodes⟩
      rw [step, hreloaded]
    · cases hstep
  · have hne : ∀ root, call ≠ .reload root := fun root hroot ↦ hreload ⟨root, hroot⟩
    obtain ⟨v, hv⟩ : ∃ v, step r py u (now, call) = some v := by
      cases call with
      | reload root => exact absurd rfl (hne root)
      | _ => exact ⟨_, rfl⟩
    refine ⟨v, hv, ?_, fun id' hid ↦ ?_⟩
    · rw [registries_of_step hne hv, registries_of_step hne hstep, h.registries]
    · rw [entry_of_step hv, entry_of_step hstep, noted_congr h.registries, h.nodes id' hid]

/-! ## What resolution finds -/

/-- The candidates that are other nodes. -/
def others (id : String) (candidates : List Candidate) : List Candidate :=
  candidates.filter fun c ↦ c.canonicalId ≠ id

theorem mem_others {c : Candidate} {candidates : List Candidate} :
    c ∈ others id candidates ↔ c ∈ candidates ∧ c.canonicalId ≠ id := by
  rw [others, List.mem_filter, decide_eq_true_eq]

/-- The first candidate is the first of the others, if it is one. -/
theorem head?_others {candidates : List Candidate}
    (h : ∀ c, candidates.head? = some c → c.canonicalId ≠ id) :
    (others id candidates).head? = candidates.head? := by
  cases candidates with
  | nil => rfl
  | cons c candidates => rw [others, List.filter_cons, if_pos (decide_eq_true (h c rfl))]; rfl

section Found

variable {capabilityId : String} {runtimePreference : List Value} {securityClass : Option String}
  {candidates candidates' : List Candidate} {params : ResolveParams} {x x' : Parts} {c c' d : Candidate}

/-- The other nodes are the candidates that they were. -/
theorem SameBut.found (h : SameBut id s t)
    (hfound : candidateNodes py s capabilityId runtimePreference securityClass = .ok candidates)
    (hfound' : candidateNodes py t capabilityId runtimePreference securityClass =
      .ok candidates') : others id candidates' = others id candidates := by
  obtain ⟨results, hresults, hfound⟩ := bind_eq_ok_iff.mp hfound
  obtain ⟨results', hresults', hfound'⟩ := bind_eq_ok_iff.mp hfound'
  cases hfound
  cases hfound'
  rw [h.index] at hresults'
  refine filter_of_mapM_eq_ok ?_ hresults' hresults
  rintro ⟨nodeId, node⟩ -
  by_cases hid : nodeId = id
  · -- the candidates that the node itself is made are left out
    refine .inr fun c hc ↦ decide_eq_false (not_not.mpr ?_)
    rcases hc with hc | hc
    · obtain ⟨-, capacity, -, rfl⟩ := candidateOf_eq_some_iff.mp hc
      exact hid
    · obtain ⟨-, capacity, -, rfl⟩ := candidateOf_eq_some_iff.mp hc
      exact hid
  · refine .inl ?_
    simp only [candidateOf, h.nodes nodeId hid]

/-- The request finds the same routes and the same runtimes. -/
theorem SameBut.parts (h : SameBut id s t) (hx : Parts.Of py s params x)
    (hx' : Parts.Of py t params x') :
    x'.spec = x.spec ∧ x'.matching = x.matching ∧ x'.runtimePreference = x.runtimePreference := by
  have hspec := hx'.spec
  rw [h.index, hx.spec] at hspec
  have hmatching : matchingRoutes py t (normalizeCapability params.capability) params.source
      params.ioClass = .ok x.matching := by
    rw [matchingRoutes, h.index]
    exact hx.matching
  have hmatching := Except.ok.inj (hx'.matching.symm.trans hmatching)
  have hpreference := hx'.runtimePreference
  rw [hmatching, hx.runtimePreference] at hpreference
  exact ⟨(Option.some.inj hspec).symm, hmatching, (Except.ok.inj hpreference).symm⟩

/-- A candidate that scores more comes before what it came before. -/
theorem ranksBefore_mono {preferLocal : Bool} (hlocation : c'.location = c.location)
    (hscore : c.score ≤ c'.score) (h : ranksBefore preferLocal c d) :
    ranksBefore preferLocal c' d := by
  simp only [ranksBefore, hlocation] at h ⊢
  split
  · rename_i hlocal
    rw [if_pos hlocal] at h
    exact h.imp_right fun ⟨hremote, hle⟩ ↦ ⟨hremote, hle.trans hscore⟩
  · rename_i hlocal
    rw [if_neg hlocal] at h
    exact h.trans hscore

/-- What comes before a candidate that scores more came before it. -/
theorem ranksBefore_anti {preferLocal : Bool} (hlocation : c'.location = c.location)
    (hscore : c.score ≤ c'.score) (h : ranksBefore preferLocal d c') :
    ranksBefore preferLocal d c := by
  simp only [ranksBefore, hlocation] at h ⊢
  split
  · rename_i hlocal
    rw [if_pos hlocal] at h
    exact h.imp_right fun ⟨hremote, hle⟩ ↦ ⟨hremote, hscore.trans hle⟩
  · rename_i hlocal
    rw [if_neg hlocal] at h
    exact hscore.trans h

end Found

/-- What is resolved is the same, but for one node. -/
structure Undisturbed (id : String) (resolution resolution' : Resolution) : Prop where
  capability : resolution'.capability = resolution.capability
  owner : resolution'.owner = resolution.owner
  route : resolution'.route = resolution.route
  proof : resolution'.proof = resolution.proof
  /-- The other candidates are the same, in the same order. -/
  others : others id resolution'.candidates = others id resolution.candidates
  /-- The selection passes to the node or away from it, or not at all. -/
  selected : resolution'.selected = resolution.selected ∨
    (∃ c, resolution.selected = some c ∧ c.canonicalId = id) ∨
      ∃ c, resolution'.selected = some c ∧ c.canonicalId = id
  /-- If the node scores no less, it comes before whatever it came before. -/
  rises : ∀ c ∈ resolution.candidates, ∀ c' ∈ resolution'.candidates, c.canonicalId = id →
    c'.canonicalId = id → c.score ≤ c'.score → ∀ d, d.canonicalId ≠ id →
      [c, d].Sublist resolution.candidates → [c', d].Sublist resolution'.candidates

section Resolved

variable {params : ResolveParams} {x x' : Parts}

theorem SameBut.selected {candidates candidates' : List Candidate}
    (hothers : others id candidates' = others id candidates) :
    candidates'.head? = candidates.head? ∨
      (∃ c, candidates.head? = some c ∧ c.canonicalId = id) ∨
        ∃ c, candidates'.head? = some c ∧ c.canonicalId = id := by
  by_cases hfirst : ∃ c, candidates.head? = some c ∧ c.canonicalId = id
  · exact .inr (.inl hfirst)
  by_cases hfirst' : ∃ c, candidates'.head? = some c ∧ c.canonicalId = id
  · exact .inr (.inr hfirst')
  refine .inl ?_
  have hhead := congrArg List.head? hothers
  rwa [head?_others fun c hc hid ↦ hfirst' ⟨c, hc, hid⟩,
    head?_others fun c hc hid ↦ hfirst ⟨c, hc, hid⟩] at hhead

/-- A candidate and another node, in the order of the registry. -/
theorem ids_sublist {capabilityId : String} {runtimePreference : List Value}
    {securityClass : Option String} {found : List Candidate} {c d : Candidate}
    (hfound : candidateNodes py s capabilityId runtimePreference securityClass = .ok found)
    (h : [c, d].Sublist found) :
    [c.canonicalId, d.canonicalId].Sublist (s.index py .nodes).keys :=
  (h.map Candidate.canonicalId).trans (found_sublist hfound)

theorem SameBut.rises (h : SameBut id s t) (hx : Parts.Of py s params x)
    (hx' : Parts.Of py t params x') {c c' d : Candidate}
    (hothers : others id (x'.found.insertionSort (ranksBefore params.preferLocal)) =
      others id (x.found.insertionSort (ranksBefore params.preferLocal)))
    (hc : c ∈ x.found) (hc' : c' ∈ x'.found) (hid : c.canonicalId = id)
    (hid' : c'.canonicalId = id) (hscore : c.score ≤ c'.score) (hd : d.canonicalId ≠ id)
    (hbefore : [c, d].Sublist (x.found.insertionSort (ranksBefore params.preferLocal))) :
    [c', d].Sublist (x'.found.insertionSort (ranksBefore params.preferLocal)) := by
  have hlocation : c'.location = c.location := by
    obtain ⟨node, hnode, -, capacity, -, hmade⟩ := (mem_found hx.found).mp hc
    obtain ⟨node', hnode', -, capacity', -, hmade'⟩ := (mem_found hx'.found).mp hc'
    rw [h.index, hid', ← hid, hnode] at hnode'
    obtain rfl := Option.some.inj hnode'
    rw [hmade, hmade']
    rfl
  have hd' : d ∈ x'.found.insertionSort (ranksBefore params.preferLocal) := by
    have hmem := mem_others.mpr
      ⟨hbefore.subset (List.mem_cons_of_mem _ (List.mem_singleton_self d)), hd⟩
    rw [← hothers] at hmem
    exact (mem_others.mp hmem).1
  have hne : c' ≠ d := by
    rintro rfl
    exact hd hid'
  refine (sublist_or_swap ((List.mem_insertionSort _).mpr hc') hd' hne).resolve_right fun hafter ↦ ?_
  -- both orders hold, so the two are ranked alike, and the registry has them in both orders
  obtain ⟨hcd, htie⟩ :=
    List.pairwise_iff_forall_sublist.mp (pairwise_stable (nodup_found hx)) hbefore
  obtain ⟨hdc', htie'⟩ :=
    List.pairwise_iff_forall_sublist.mp (pairwise_stable (nodup_found hx')) hafter
  have hfirst := ids_sublist hx.found (htie (ranksBefore_anti hlocation hscore hdc'))
  have hsecond := ids_sublist hx'.found (htie' (ranksBefore_mono hlocation hscore hcd))
  rw [h.index, hid'] at hsecond
  rw [hid] at hfirst
  exact not_sublist_swap (s.index py .nodes).nodup hfirst hsecond

/-- Resolvers that differ in one node resolve alike, but for the node. -/
theorem SameBut.undisturbed (h : SameBut id s t) {now now' : ℚ}
    {resolution resolution' : Resolution} {next next' : GlobalResolver}
    (hresolve : s.resolve py now params = .ok (resolution, next))
    (hresolve' : t.resolve py now' params = .ok (resolution', next')) :
    Undisturbed id resolution resolution' := by
  obtain ⟨x, hx, rfl⟩ := parts_of_resolve hresolve
  obtain ⟨x', hx', rfl⟩ := parts_of_resolve hresolve'
  obtain ⟨hspec, hmatching, hpreference⟩ := h.parts hx hx'
  have hfound' := hx'.found
  rw [hpreference] at hfound'
  have hothers : others id (x'.found.insertionSort (ranksBefore params.preferLocal)) =
      others id (x.found.insertionSort (ranksBefore params.preferLocal)) := by
    have hfound : others id x'.found = others id x.found := h.found hx.found hfound'
    unfold others at hfound ⊢
    rw [filter_insertionSort, filter_insertionSort, hfound]
  refine ⟨rfl, ?_, ?_, ?_, hothers, SameBut.selected hothers, ?_⟩
  · exact congrArg (PyDict.get · "owner") hspec
  · exact congrArg List.head? hmatching
  · exact congrArg (fun routes ↦ PyDict.getD (List.head? routes |>.getD []) "proof" _) hmatching
  · intro c hc c' hc' hid hid' hscore d hd hbefore
    exact h.rises hx hx' hothers ((mem_candidates rfl).mp hc) ((mem_candidates rfl).mp hc') hid hid'
      hscore hd hbefore

end Resolved

/-- Resolvers that differ from a third one in the same node differ in that node. -/
theorem SameBut.common (h : SameBut id s u) (h' : SameBut id t u) : SameBut id s t where
  registries := h'.registries.symm.trans h.registries
  nodes id' hne := (h'.nodes id' hne).symm.trans (h.nodes id' hne)

theorem SameBut.nodeSnapshot (h : SameBut id s t) {id' : String} (hne : id' ≠ id) :
    t.nodeSnapshot py id' = s.nodeSnapshot py id' := by
  rw [GlobalResolver.nodeSnapshot, h.nodes id' hne, h.index]
  rfl

/-- Two runs that differ only in the calls of one node: what is said of every other node is the
same, and what is resolved is the same but for the node. -/
theorem nodes_do_not_interfere (r : Renderer) (py : Builtins) (registries : Registries)
    (id : String) (is is' : List (ℚ × ResolverCall)) (t t' : GlobalResolver)
    (h : (step r py).run { registries := registries } is = some t)
    (h' : (step r py).run { registries := registries } is' = some t')
    (hsame : (is.filter fun i ↦ !i.2.isAbout id) = is'.filter fun i ↦ !i.2.isAbout id) :
    (∀ id', id' ≠ id → t'.nodeSnapshot py id' = t.nodeSnapshot py id') ∧
      ∀ params now now' resolution resolution' next next',
        t.resolve py now params = .ok (resolution, next) →
        t'.resolve py now' params = .ok (resolution', next') →
        Undisturbed id resolution resolution' := by
  obtain ⟨u, hu, hu'⟩ := exists_common_of_filter_eq (R := SameBut id)
    (fun _ _ _ _ habout hstep hrel ↦ hrel.hidden habout hstep)
    (fun _ _ _ _ _ hstep hrel ↦ hrel.kept hstep) (.refl id _) h h' hsame
  have hcommon := hu.common hu'
  exact ⟨fun id' hne ↦ hcommon.nodeSnapshot hne,
    fun params now now' resolution resolution' next next' hresolve hresolve' ↦
      hcommon.undisturbed hresolve hresolve'⟩

/-! ## Two rivals -/

/-- Registries that declare two nodes with one capability. -/
def rivalRegistries : Registries
  | .nodes => [(.str "nodes", .list [
      .object [("canonical_id", .str "ga://node/a"), ("capabilities", .list [.str "notes"])],
      .object [("canonical_id", .str "ga://node/b"), ("capabilities", .list [.str "notes"])]])]
  | .capabilities => [(.str "capabilities", .list [.object
      [("canonical_id", .str "ga://capability/notes"), ("owner", .str "ga://organ/forge")]])]
  | _ => []

/-- The id of the node that is selected after some calls. -/
def rivalSelected (is : List (ℚ × ResolverCall)) : Option String :=
  ((step default default).run { registries := rivalRegistries } is).bind fun t ↦
    (t.resolve default 9 { capability := "notes" }).toOption.bind fun outcome ↦
      outcome.1.selected.map Candidate.canonicalId

theorem of_rivalSelected {is : List (ℚ × ResolverCall)} {id : String}
    (h : rivalSelected is = some id) :
    ∃ t resolution next, (step default default).run { registries := rivalRegistries } is = some t ∧
      t.resolve default 9 { capability := "notes" } = .ok (resolution, next) ∧
      resolution.selected.map Candidate.canonicalId = some id := by
  obtain ⟨t, ht, h⟩ := Option.bind_eq_some_iff.mp h
  obtain ⟨⟨resolution, next⟩, houtcome, h⟩ := Option.bind_eq_some_iff.mp h
  exact ⟨t, resolution, next, ht, eq_ok_of_toOption houtcome, h⟩

/-- A node that goes offline loses the selection to its rival, of which nothing else is changed. -/
theorem rival_is_undisturbed :
    ∃ resolution resolution' : Resolution, Undisturbed "ga://node/a" resolution resolution' ∧
      resolution.selected.map Candidate.canonicalId = some "ga://node/a" ∧
      resolution'.selected.map Candidate.canonicalId = some "ga://node/b" := by
  let online : List (ℚ × ResolverCall) := [(0, .heartbeat "ga://node/b" "degraded" none),
    (1, .heartbeat "ga://node/a" "online" none)]
  let offline : List (ℚ × ResolverCall) := [(0, .heartbeat "ga://node/b" "degraded" none),
    (2, .heartbeat "ga://node/a" "offline" none)]
  have hselected : rivalSelected online = some "ga://node/a" := by decide +kernel
  have hselected' : rivalSelected offline = some "ga://node/b" := by decide +kernel
  obtain ⟨t, resolution, next, ht, hresolve, hfirst⟩ := of_rivalSelected hselected
  obtain ⟨t', resolution', next', ht', hresolve', hfirst'⟩ := of_rivalSelected hselected'
  obtain ⟨-, hundisturbed⟩ := nodes_do_not_interfere default default rivalRegistries "ga://node/a"
    online offline t t' ht ht' rfl
  exact ⟨resolution, resolution', hundisturbed _ _ _ _ _ _ _ hresolve hresolve', hfirst, hfirst'⟩

end GlobalResolver

end EstateMesh
