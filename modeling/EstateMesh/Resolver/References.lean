import EstateMesh.Resolver.Routes
import EstateMesh.Resolver.Validate

/-!
# What a resolution refers to

A resolution hands out ids that stand in the registries: of an owner, of a proof, and those
of a route.  Validation compares some of them with the ids of the items, and only where they
stand as a plain text or as a member of a path.  What it does not look at, and the proof that
resolution falls back on, decide whether all references of a resolution are to items
(`references_closed_iff`).
-/

namespace EstateMesh

open Lib

/-! ## References -/

/-- The members of a list, a tuple or a set. -/
def Value.members : Value → List Value
  | .list xs | .set xs => xs
  | .pair x y => [x, y]
  | _ => []

/-- An id of the estate stands somewhere in a value. -/
inductive Mentions (uri : String) : Value → Prop
  | text (h : isEstateUri uri = true) : Mentions uri (.str uri)
  | item {v x : Value} (hx : x ∈ v.members) (h : Mentions uri x) : Mentions uri v
  | key {entries : List (Value × Value)} {x : Value} (hx : (.str uri, x) ∈ entries)
      (h : isEstateUri uri = true) : Mentions uri (.dict entries)
  | value {entries : List (Value × Value)} {key x : Value} (hx : (key, x) ∈ entries)
      (h : Mentions uri x) : Mentions uri (.dict entries)

/-- The keys of a route under which a resolution shows references. -/
def shownKeys : List String := ["source", "capability", "path", "fallback", "runtime_preference"]

/-- Every reference of a resolution is to an item. -/
structure ClosedReferences (registries : Registries) (resolution : Resolution) : Prop where
  owner : ∀ uri, Mentions uri resolution.owner → KnownId registries uri
  proof : ∀ uri, Mentions uri resolution.proof → KnownId registries uri
  route : ∀ route, resolution.route = some route → ∀ key ∈ shownKeys, ∀ uri,
    Mentions uri (route.get key) → KnownId registries uri

/-- A reference that validation does not compare: the owner; the proof of a call whose route
has none; a preferred runtime; a reference that is not a plain text; a path that is a text; what
is inside the members of a path, or what they are mapped to. -/
inductive Escapes (spec : PyDict) (route : Option PyDict) (uri : String) : Prop
  | owner (h : Mentions uri (spec.get "owner"))
  | defaultProof (h : PyDict.get? "proof" (route.getD []) = none)
      (huri : uri = "ga://organ/proofgrid")
  | preference {r : PyDict} (hroute : route = some r)
      (h : Mentions uri (r.get "runtime_preference"))
  | nested {r : PyDict} {key : String} (hroute : route = some r) (hkey : key ∈ referenceKeys)
      (hnot : ∀ ref, r.get key ≠ .str ref) (h : Mentions uri (r.get key))
  | textPath {r : PyDict} (hroute : route = some r) (hpath : r.get "path" = .str uri)
      (h : isEstateUri uri = true)
  | insidePath {r : PyDict} {x : Value} (hroute : route = some r)
      (hx : x ∈ (r.get "path").members) (hnot : ∀ ref, x ≠ .str ref) (h : Mentions uri x)
  | mappedPath {r : PyDict} {entries : List (Value × Value)} {key x : Value}
      (hroute : route = some r) (hpath : r.get "path" = .dict entries) (hx : (key, x) ∈ entries)
      (h : Mentions uri x)

theorem Mentions.eq_of_str {uri ref : String} (h : Mentions uri (.str ref)) :
    ref = uri ∧ isEstateUri uri = true := by
  cases h with
  | text h => exact ⟨rfl, h⟩
  | item hx _ => cases hx

theorem Mentions.ne_none {uri : String} {x : Value} (h : Mentions uri x) : x ≠ .none := by
  rintro rfl
  cases h with
  | item hx _ => cases hx

/-- Members can be gone through. -/
theorem Value.iter_of_mem_members {v x : Value} (h : x ∈ v.members) :
    v.iter = .ok v.members ∧ v.truthy = true := by
  cases v with
  | list xs =>
      cases xs with
      | nil => cases h
      | cons _ _ => exact ⟨rfl, rfl⟩
  | set xs =>
      cases xs with
      | nil => cases h
      | cons _ _ => exact ⟨rfl, rfl⟩
  | pair _ _ => exact ⟨rfl, rfl⟩
  | _ => cases h

theorem Value.isStr_iff {x : Value} {s : String} : x.isStr s = true ↔ x = .str s := by
  cases x <;> simp [Value.isStr]

/-! ## What validation has compared -/

section Compared

variable {py : Builtins} {registries : Registries} {file : RegistryFile} {id uri key : String}
  {item route : PyDict}

/-- The id under which an item is found is one that it has. -/
theorem Validated.known_of_index (h : Validated py registries)
    (hitem : (registryIndex py (registries file)).get? id = some item) : KnownId registries id := by
  obtain ⟨x, hx, hid⟩ := List.mem_filterMap.mp (Dict.mem_of_get?_ofList hitem)
  have hall : (file, x) ∈ allItems registries :=
    List.mem_flatMap.mpr ⟨file, mem_registryFiles file, List.mem_map_of_mem hx⟩
  obtain ⟨cid, hcid, -⟩ := h.ids _ hall
  dsimp only at hid hcid
  rw [hcid] at hid
  split at hid
  · cases hid
    exact ⟨_, hall, by rw [hcid, py.str_str]⟩
  · cases hid

/-- A reference under a key that validation compares is known, if it is when it stands
inside something else. -/
theorem Validated.known_of_reference (h : Validated py registries)
    (hroute : route ∈ (registryIndex py (registries .routes)).values) (hkey : key ∈ referenceKeys)
    (hmentions : Mentions uri (route.get key))
    (hnested : (∀ ref, route.get key ≠ .str ref) → KnownId registries uri) :
    KnownId registries uri := by
  by_cases hstr : ∃ ref, route.get key = .str ref
  · obtain ⟨ref, href⟩ := hstr
    rw [href] at hmentions
    obtain ⟨rfl, huri⟩ := hmentions.eq_of_str
    exact h.references route hroute key hkey ref href huri
  · exact hnested (not_exists.mp hstr)

theorem PyDict.getD_of_get {d : PyDict} {v default : Value} (h : d.get key = v)
    (hv : v ≠ .none) : d.getD key default = v := by
  rw [PyDict.get] at h
  rw [PyDict.getD]
  cases hget : PyDict.get? key d with
  | none =>
      rw [hget] at h
      exact absurd h.symm hv
  | some v' =>
      rw [hget] at h
      exact h

/-- A member of a path is compared. -/
theorem Validated.known_of_member (h : Validated py registries)
    (hroute : route ∈ (registryIndex py (registries .routes)).values) {path : Value}
    {members : List Value} (hpath : route.get "path" = path) (hmembers : path.iter = .ok members)
    (htruthy : path.truthy = true) (hmem : .str uri ∈ members) (huri : isEstateUri uri = true) :
    KnownId registries uri := by
  have hne : path ≠ .none := by
    rintro rfl
    cases htruthy
  refine h.members route hroute members ?_ uri hmem huri
  rw [routePath, PyDict.getD_of_get hpath hne, Value.or, if_pos htruthy, hmembers]

/-- What a path mentions is known, if it is wherever validation does not look. -/
theorem Validated.known_of_path (h : Validated py registries)
    (hroute : route ∈ (registryIndex py (registries .routes)).values)
    (hmentions : Mentions uri (route.get "path"))
    {spec : PyDict} (hescapes : Escapes spec (some route) uri → KnownId registries uri) :
    KnownId registries uri := by
  generalize hpath : route.get "path" = path at hmentions
  cases hmentions with
  | text huri => exact hescapes (.textPath rfl hpath huri)
  | @item _ x hx hitem =>
      by_cases hstr : ∃ ref, x = .str ref
      · obtain ⟨ref, rfl⟩ := hstr
        obtain ⟨rfl, huri⟩ := hitem.eq_of_str
        obtain ⟨hiter, htruthy⟩ := Value.iter_of_mem_members hx
        exact h.known_of_member hroute hpath hiter htruthy hx huri
      · exact hescapes (.insidePath rfl (hpath ▸ hx) (not_exists.mp hstr) hitem)
  | @key entries x hx huri =>
      have htruthy : (Value.dict entries).truthy = true := by
        cases entries with
        | nil => cases hx
        | cons _ _ => rfl
      exact h.known_of_member hroute hpath rfl htruthy (List.mem_map_of_mem hx) huri
  | value hx hvalue => exact hescapes (.mappedPath rfl hpath hx hvalue)

end Compared

namespace GlobalResolver

variable {py : Builtins} {s next : GlobalResolver} {now : ℚ} {params : ResolveParams}
  {resolution : Resolution} {spec : PyDict}

/-! ## What resolution shows -/

/-- The owner of a resolution is that of the capability. -/
theorem owner_of_resolve (h : s.resolve py now params = .ok (resolution, next)) :
    ∃ spec, (s.index py .capabilities).get? (normalizeCapability params.capability) = some spec ∧
      resolution.owner = spec.get "owner" := by
  obtain ⟨x, hx, rfl⟩ := parts_of_resolve h
  exact ⟨x.spec, hx.spec, rfl⟩

/-- The proof of a resolution is that of its route, if it has one. -/
theorem proof_of_resolve (h : s.resolve py now params = .ok (resolution, next)) :
    resolution.proof =
      ((resolution.route.getD []).get? "proof").getD (.str "ga://organ/proofgrid") := by
  obtain ⟨x, -, rfl⟩ := parts_of_resolve h
  rfl

/-- The route of a resolution is a declared one, for the capability. -/
theorem declared_of_resolve (h : s.resolve py now params = .ok (resolution, next))
    {route : PyDict} (hroute : resolution.route = some route) :
    route ∈ (s.index py .routes).values ∧
      route.get "capability" = .str (normalizeCapability params.capability) := by
  rw [route_of_resolve h] at hroute
  obtain ⟨husable, -⟩ := mem_acceptingRoutes.mp (List.mem_of_mem_head? hroute)
  exact ⟨husable.declared, Value.isStr_iff.mp husable.capability⟩

/-- What validation does not compare is shown by the resolution. -/
theorem known_of_closed (h : s.resolve py now params = .ok (resolution, next))
    (hspec : (s.index py .capabilities).get? (normalizeCapability params.capability) = some spec)
    (hclosed : ClosedReferences s.registries resolution) {uri : String}
    (hescapes : Escapes spec resolution.route uri) : KnownId s.registries uri := by
  have hproof := proof_of_resolve h
  cases hescapes with
  | owner hmentions =>
      obtain ⟨spec', hspec', howner⟩ := owner_of_resolve h
      cases hspec.symm.trans hspec'
      exact hclosed.owner uri (howner ▸ hmentions)
  | defaultProof hnone huri =>
      refine hclosed.proof uri ?_
      rw [hproof, hnone, huri]
      exact .text (by decide +kernel)
  | preference hr hmentions =>
      exact hclosed.route _ hr "runtime_preference" (by simp [shownKeys]) uri hmentions
  | nested hr hkey hnot hmentions =>
      simp only [referenceKeys, List.mem_cons, List.not_mem_nil, or_false] at hkey
      rcases hkey with rfl | rfl | rfl
      · exact hclosed.route _ hr "source" (by simp [shownKeys]) uri hmentions
      · refine hclosed.proof uri ?_
        rw [hproof, hr, Option.getD_some, ← PyDict.getD, PyDict.getD_of_get rfl hmentions.ne_none]
        exact hmentions
      · exact hclosed.route _ hr "fallback" (by simp [shownKeys]) uri hmentions
  | textPath hr hpath huri =>
      exact hclosed.route _ hr "path" (by simp [shownKeys]) uri (hpath ▸ .text huri)
  | insidePath hr hmem hnot hmentions =>
      exact hclosed.route _ hr "path" (by simp [shownKeys]) uri (.item hmem hmentions)
  | mappedPath hr hpath hmem hmentions =>
      exact hclosed.route _ hr "path" (by simp [shownKeys]) uri (hpath ▸ .value hmem hmentions)

/-- What the resolution shows is compared by validation, or is what it does not compare. -/
theorem closed_of_known (hvalidated : Validated py s.registries)
    (h : s.resolve py now params = .ok (resolution, next))
    (hknown : ∀ spec,
      (s.index py .capabilities).get? (normalizeCapability params.capability) = some spec →
        ∀ uri, Escapes spec resolution.route uri → KnownId s.registries uri) :
    ClosedReferences s.registries resolution := by
  obtain ⟨spec, hspec, howner⟩ := owner_of_resolve h
  have hreference : ∀ route, resolution.route = some route → ∀ key ∈ referenceKeys, ∀ uri,
      Mentions uri (route.get key) → KnownId s.registries uri := by
    intro route hr key hkey uri hmentions
    exact hvalidated.known_of_reference (declared_of_resolve h hr).1 hkey hmentions fun hnot ↦
      hknown spec hspec uri (.nested hr hkey hnot hmentions)
  constructor
  · intro uri hmentions
    exact hknown spec hspec uri (.owner (howner ▸ hmentions))
  · intro uri hmentions
    rw [proof_of_resolve h] at hmentions
    cases hget : PyDict.get? "proof" (resolution.route.getD []) with
    | none =>
        rw [hget] at hmentions
        exact hknown spec hspec uri (.defaultProof hget hmentions.eq_of_str.1.symm)
    | some v =>
        rw [hget] at hmentions
        cases hr : resolution.route with
        | none =>
            rw [hr] at hget
            cases hget
        | some route =>
            rw [hr] at hget
            refine hreference route hr "proof" (by simp [referenceKeys]) uri ?_
            rw [PyDict.get, show PyDict.get? "proof" route = some v from hget]
            exact hmentions
  · intro route hr key hkey uri hmentions
    obtain ⟨hdeclared, hcapability⟩ := declared_of_resolve h hr
    simp only [shownKeys, List.mem_cons, List.not_mem_nil, or_false] at hkey
    rcases hkey with rfl | rfl | rfl | rfl | rfl
    · exact hreference route hr "source" (by simp [referenceKeys]) uri hmentions
    · rw [hcapability] at hmentions
      rw [← hmentions.eq_of_str.1]
      exact hvalidated.known_of_index hspec
    · exact hvalidated.known_of_path hdeclared hmentions (hr ▸ hknown spec hspec uri)
    · exact hreference route hr "fallback" (by simp [referenceKeys]) uri hmentions
    · exact hknown spec hspec uri (.preference hr hmentions)

end GlobalResolver

open GlobalResolver in
/-- Over validated registries the references of a resolution are to items exactly if those
are that validation does not compare. -/
theorem references_closed_iff (r : Renderer) (py : Builtins) (s next : GlobalResolver) (now : ℚ)
    (params : ResolveParams) (report : ValidationReport) (resolution : Resolution)
    (hvalid : validate r py s.registries = .ok report) (hpass : report.status = "pass")
    (h : s.resolve py now params = .ok (resolution, next)) :
    ClosedReferences s.registries resolution ↔
      ∀ spec, (s.index py .capabilities).get? (normalizeCapability params.capability) = some spec →
        ∀ uri, Escapes spec (acceptingRoutes py s params).head? uri →
          KnownId s.registries uri := by
  rw [← route_of_resolve h]
  exact ⟨fun hclosed spec hspec uri ↦ known_of_closed h hspec hclosed,
    closed_of_known (validated_of_pass hvalid hpass) h⟩

/-- An item that has an id only. -/
def itemOf (canonicalId : String) : PyDict := [(.str "canonical_id", .str canonicalId)]

/-- A capability with its owner. -/
def capabilityOf (owner : String) : PyDict :=
  [(.str "canonical_id", .str "ga://capability/model.infer"), (.str "owner", .str owner)]

/-- A route for the capability, along known items. -/
def inferRoute : PyDict :=
  [(.str "canonical_id", .str "ga://route/infer"), (.str "source", .str "ga://organ/atlas-mind"),
    (.str "capability", .str "ga://capability/model.infer"),
    (.str "path", .list [.str "ga://organ/atlas-mind", .str "ga://node/eden"]),
    (.str "proof", .str "ga://organ/proofgrid"),
    (.str "runtime_preference", .list [.str "ga://node/eden"])]

/-- Two organs, a node, a capability, and the route for it. -/
def ownedBy (owner : String) : Registries
  | .nodes => [(.str "nodes", .list [.dict (itemOf "ga://node/eden")])]
  | .organs => [(.str "organs", .list [.dict (itemOf "ga://organ/atlas-mind"),
      .dict (itemOf "ga://organ/proofgrid")])]
  | .capabilities => [(.str "capabilities", .list [.dict (capabilityOf owner)])]
  | .routes => [(.str "routes", .list [.dict inferRoute])]
  | _ => []

open GlobalResolver in
/-- With an owner that is known, all references are to items, those of the route among them. -/
theorem known_owner_is_closed : ∃ resolution next,
    GlobalResolver.resolve default { registries := ownedBy "ga://organ/atlas-mind" } 0
        { capability := "model.infer" } = .ok (resolution, next) ∧
      resolution.route = some inferRoute ∧
      ClosedReferences (ownedBy "ga://organ/atlas-mind") resolution := by
  let s : GlobalResolver := { registries := ownedBy "ga://organ/atlas-mind" }
  have hreturns : (GlobalResolver.resolve default s 0
      { capability := "model.infer" }).toOption.isSome = true := by
    decide +kernel
  have hpasses : (validate default default s.registries).toOption.map ValidationReport.status =
      some "pass" := by
    decide +kernel
  have haccepted : (acceptingRoutes default s { capability := "model.infer" }).head? =
      some inferRoute := rfl
  obtain ⟨⟨resolution, next⟩, hresolve⟩ := isSome_toOption.mp hreturns
  obtain ⟨report, hreport, hpass⟩ := Option.map_eq_some_iff.mp hpasses
  refine ⟨resolution, next, hresolve, (route_of_resolve hresolve).trans haccepted,
    (references_closed_iff default default s next 0 { capability := "model.infer" } report
      resolution (eq_ok_of_toOption hreport) hpass hresolve).mpr ?_⟩
  intro spec hspec uri hescapes
  have howner : KnownId s.registries "ga://organ/atlas-mind" :=
    ⟨(.organs, itemOf "ga://organ/atlas-mind"), List.mem_cons_of_mem _ List.mem_cons_self, rfl⟩
  have hnode : KnownId s.registries "ga://node/eden" :=
    ⟨(.nodes, itemOf "ga://node/eden"), List.mem_cons_self, rfl⟩
  rw [show normalizeCapability "model.infer" = "ga://capability/model.infer" by decide +kernel]
    at hspec
  obtain rfl : capabilityOf "ga://organ/atlas-mind" = spec := Option.some.inj hspec
  rw [haccepted] at hescapes
  cases hescapes with
  | owner h => exact h.eq_of_str.1 ▸ howner
  | defaultProof h huri => cases h
  | preference hr h =>
      cases hr
      cases h with
      | item hx h =>
          obtain rfl := List.mem_singleton.mp hx
          exact h.eq_of_str.1 ▸ hnode
  | nested hr hkey hnot h =>
      cases hr
      simp only [referenceKeys, List.mem_cons, List.not_mem_nil, or_false] at hkey
      rcases hkey with rfl | rfl | rfl
      · exact absurd rfl (hnot "ga://organ/atlas-mind")
      · exact absurd rfl (hnot "ga://organ/proofgrid")
      · exact absurd rfl h.ne_none
  | textPath hr hpath h =>
      cases hr
      cases hpath
  | insidePath hr hx hnot h =>
      cases hr
      have hstr : ∀ x ∈ [Value.str "ga://organ/atlas-mind", .str "ga://node/eden"],
          ∃ ref, x = .str ref := by
        simp
      obtain ⟨ref, rfl⟩ := hstr _ hx
      exact absurd rfl (hnot ref)
  | mappedPath hr hpath hx h =>
      cases hr
      cases hpath

/-- Validation passes although the owner of the capability is nothing that is known, and
resolution hands it out. -/
theorem unknown_owner_escapes : ∃ report resolution next,
    validate default default (ownedBy "ga://organ/nowhere") = .ok report ∧
      report.status = "pass" ∧
      GlobalResolver.resolve default { registries := ownedBy "ga://organ/nowhere" } 0
        { capability := "model.infer" } = .ok (resolution, next) ∧
      ¬ ClosedReferences (ownedBy "ga://organ/nowhere") resolution := by
  have hview : (GlobalResolver.resolve default { registries := ownedBy "ga://organ/nowhere" } 0
      { capability := "model.infer" }).toOption.map (fun x ↦
        x.1.owner.isStr "ga://organ/nowhere") = some true := by
    decide +kernel
  have hpasses : (validate default default (ownedBy "ga://organ/nowhere")).toOption.map
      ValidationReport.status = some "pass" := by
    decide +kernel
  obtain ⟨⟨resolution, next⟩, hresolve, howner⟩ := Option.map_eq_some_iff.mp hview
  obtain ⟨report, hreport, hpass⟩ := Option.map_eq_some_iff.mp hpasses
  refine ⟨report, resolution, next, eq_ok_of_toOption hreport, hpass, eq_ok_of_toOption hresolve,
    fun hclosed ↦ ?_⟩
  have hmentions : Mentions "ga://organ/nowhere" resolution.owner := by
    rw [show resolution.owner = .str "ga://organ/nowhere" from Value.isStr_iff.mp howner]
    exact .text (by decide +kernel)
  obtain ⟨x, hx, hid⟩ := hclosed.owner _ hmentions
  have hknown : (scan (ownedBy "ga://organ/nowhere")).2.get? "ga://organ/nowhere" ≠ none :=
    (get?_foldl_scanItem _ _ _).mpr (.inr ⟨x, hx, hid, by decide +kernel⟩)
  exact hknown (by decide +kernel)

end EstateMesh
