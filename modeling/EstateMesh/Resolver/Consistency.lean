import EstateMesh.Resolver.Validate

/-!
# Consistent registries

What validation decides, in terms of the items of the documents.  The references of the
routes are checked over the index, in which the later of two routes with one id hides the
earlier one, and against the ids of all documents, which are gathered in one pass.  Nothing
slips through: two items with one id are an error of their own, so where there is no error
the index is the list of the items (`validation_decides_consistency`).
-/

namespace EstateMesh

open Lib

/-! ## What the documents hold -/

/-- The path of a route is absent, null or a list. -/
def HasListPath (route : PyDict) : Prop :=
  route.get "path" = .none ∨ ∃ members, route.get "path" = .list members

/-- A route refers to something. -/
def RefersTo (route : PyDict) (ref : String) : Prop :=
  (∃ key ∈ referenceKeys, route.get key = .str ref) ∨
    ∃ members, route.get "path" = .list members ∧ .str ref ∈ members

/-- Every item has an id of its own, and every route refers to items. -/
structure ConsistentRegistries (registries : Registries) : Prop where
  ids : ∀ x ∈ allItems registries,
    ∃ cid, x.2.get "canonical_id" = .str cid ∧ isEstateUri cid = true
  distinct : (allItems registries).Pairwise fun x y ↦
    x.2.get "canonical_id" ≠ y.2.get "canonical_id"
  references : ∀ route ∈ registryItems (registries .routes), ∀ ref, RefersTo route ref →
    isEstateUri ref = true → KnownId registries ref

/-- The index of a document holds its items, each under its id. -/
structure Lossless (py : Builtins) (payload : PyDict) : Prop where
  values : (registryIndex py payload).values = registryItems payload
  found : ∀ item ∈ registryItems payload, ∀ cid, item.get "canonical_id" = .str cid →
    (registryIndex py payload).get? cid = some item

section Consistency

variable {r : Renderer} {py : Builtins} {registries : Registries} {report : ValidationReport}
  {route : PyDict}

theorem routePath_of_none (h : route.get "path" = .none) : routePath route = .list [] := by
  rw [PyDict.get] at h
  rw [routePath, PyDict.getD]
  cases hpath : route.get? "path" with
  | none => rfl
  | some path =>
      rw [hpath] at h
      obtain rfl : path = .none := h
      rfl

theorem routePath_of_list {members : List Value} (h : route.get "path" = .list members) :
    routePath route = .list members := by
  rw [PyDict.get] at h
  rw [routePath, PyDict.getD]
  cases hpath : route.get? "path" with
  | none =>
      rw [hpath] at h
      cases h
  | some path =>
      rw [hpath] at h
      obtain rfl : path = .list members := h
      cases members <;> rfl

/-- A list path is what the check of the route goes through. -/
theorem mem_path_iff (h : HasListPath route) : ∃ members, (routePath route).iter = .ok members ∧
    ∀ ref, .str ref ∈ members ↔ ∃ members, route.get "path" = .list members ∧ .str ref ∈ members := by
  rcases h with hnone | ⟨members, hlist⟩
  · refine ⟨[], by rw [routePath_of_none hnone]; rfl, fun ref ↦ ?_⟩
    rw [hnone]
    exact iff_of_false List.not_mem_nil (by rintro ⟨_, ⟨⟩, _⟩)
  · refine ⟨members, by rw [routePath_of_list hlist]; rfl, fun ref ↦ ?_⟩
    rw [hlist]
    constructor
    · exact fun hmem ↦ ⟨members, rfl, hmem⟩
    · rintro ⟨_, ⟨⟩, hmem⟩
      exact hmem

/-! ## The scan -/

/-- An item has a valid id that was not seen before. -/
def IsNew (known : Dict String RegistryFile) (x : RegistryFile × PyDict) : Prop :=
  ∃ cid, x.2.get "canonical_id" = .str cid ∧ isEstateUri cid = true ∧ known.get? cid = none

/-- The step lemma: an item is without errors exactly if it has a valid id of its own. -/
theorem scanItem_eq_nil_iff {state : List RegistryError × Dict String RegistryFile}
    {x : RegistryFile × PyDict} :
    (scanItem state x).1 = [] ↔ state.1 = [] ∧ IsNew state.2 x := by
  unfold scanItem IsNew
  cases hid : x.2.get "canonical_id" with
  | str cid =>
      dsimp only
      split
      · rename_i hvalid
        cases hprior : state.2.get? cid with
        | some prior => simp [hprior]
        | none => simp [hvalid, hprior]
      · rename_i hinvalid
        simp [hinvalid]
  | _ => simp

/-- What is new after an item is new before it, and not the item again. -/
theorem isNew_scanItem_iff {state : List RegistryError × Dict String RegistryFile}
    {x y : RegistryFile × PyDict} : IsNew (scanItem state x).2 y ↔
      IsNew state.2 y ∧ x.2.get "canonical_id" ≠ y.2.get "canonical_id" := by
  constructor
  · rintro ⟨cid, hid, hvalid, hnone⟩
    have hscan := not_congr (get?_scanItem state x cid)
    rw [not_not, not_or, not_not] at hscan
    obtain ⟨hstate, hx⟩ := hscan.mp hnone
    refine ⟨⟨cid, hid, hvalid, hstate⟩, fun e ↦ hx ⟨e.trans hid, hvalid⟩⟩
  · rintro ⟨⟨cid, hid, hvalid, hstate⟩, hne⟩
    refine ⟨cid, hid, hvalid, ?_⟩
    by_contra hsome
    rcases (get?_scanItem state x cid).mp hsome with hbefore | ⟨e, -⟩
    · exact hbefore hstate
    · exact hne (e.trans hid.symm)

/-- A scan is without errors exactly if every item has a valid id of its own. -/
theorem foldl_scanItem_eq_nil_iff {items : List (RegistryFile × PyDict)}
    {state : List RegistryError × Dict String RegistryFile} :
    (items.foldl scanItem state).1 = [] ↔ state.1 = [] ∧ (∀ x ∈ items, IsNew state.2 x) ∧
      items.Pairwise fun x y ↦ x.2.get "canonical_id" ≠ y.2.get "canonical_id" := by
  induction items generalizing state with
  | nil => simp
  | cons x items ih =>
      rw [List.foldl_cons, ih, scanItem_eq_nil_iff, List.forall_mem_cons, List.pairwise_cons]
      constructor
      · rintro ⟨⟨hstate, hx⟩, hitems, hpairs⟩
        have hnew := fun y hy ↦ isNew_scanItem_iff.mp (hitems y hy)
        exact ⟨hstate, ⟨hx, fun y hy ↦ (hnew y hy).1⟩, fun y hy ↦ (hnew y hy).2, hpairs⟩
      · rintro ⟨hstate, ⟨hx, hitems⟩, hdistinct, hpairs⟩
        exact ⟨⟨hstate, hx⟩,
          fun y hy ↦ isNew_scanItem_iff.mpr ⟨hitems y hy, hdistinct y hy⟩, hpairs⟩

theorem scan_eq_nil_iff : (scan registries).1 = [] ↔
    (∀ x ∈ allItems registries,
      ∃ cid, x.2.get "canonical_id" = .str cid ∧ isEstateUri cid = true) ∧
    (allItems registries).Pairwise fun x y ↦
      x.2.get "canonical_id" ≠ y.2.get "canonical_id" := by
  rw [scan, foldl_scanItem_eq_nil_iff]
  constructor
  · rintro ⟨-, hnew, hpairs⟩
    refine ⟨fun x hx ↦ ?_, hpairs⟩
    obtain ⟨cid, hid, hvalid, -⟩ := hnew x hx
    exact ⟨cid, hid, hvalid⟩
  · rintro ⟨hids, hpairs⟩
    refine ⟨rfl, fun x hx ↦ ?_, hpairs⟩
    obtain ⟨cid, hid, hvalid⟩ := hids x hx
    exact ⟨cid, hid, hvalid, rfl⟩

theorem knownId_iff {uri : String} (huri : isEstateUri uri = true) :
    (scan registries).2.get? uri ≠ none ↔ KnownId registries uri := by
  refine ⟨knownId_of_get?, ?_⟩
  rintro ⟨x, hx, hid⟩
  exact (get?_foldl_scanItem _ _ _).mpr (.inr ⟨x, hx, hid, huri⟩)

/-! ## The index -/

theorem mem_allItems {file : RegistryFile} {item : PyDict}
    (h : item ∈ registryItems (registries file)) : (file, item) ∈ allItems registries :=
  List.mem_flatMap.mpr ⟨file, mem_registryFiles file, List.mem_map.mpr ⟨item, h, rfl⟩⟩

/-- The items of one document are among those of all of them, in their order. -/
theorem sublist_allItems (file : RegistryFile) :
    ((registryItems (registries file)).map fun item ↦ (file, item)).Sublist
      (allItems registries) := by
  rw [allItems, List.flatMap_def]
  exact List.sublist_flatten_of_mem (List.mem_map.mpr ⟨file, mem_registryFiles file, rfl⟩)

theorem truthy_of_isEstateUri {cid : String} (h : isEstateUri cid = true) :
    (Value.str cid).truthy = true := by
  refine decide_eq_true ?_
  rintro rfl
  revert h
  decide

/-- Where all ids are valid and distinct, the index of a document is the list of its items. -/
theorem lossless_of_distinct {payload : PyDict}
    (hids : ∀ item ∈ registryItems payload,
      ∃ cid, item.get "canonical_id" = .str cid ∧ isEstateUri cid = true)
    (hdistinct : (registryItems payload).Pairwise fun x y ↦
      x.get "canonical_id" ≠ y.get "canonical_id") : Lossless py payload := by
  have hpairs : (registryItems payload).filterMap (fun item ↦
      let canonicalId := item.get "canonical_id"
      if canonicalId.truthy then some (py.str canonicalId, item) else none) =
      (registryItems payload).map fun item ↦ (py.str (item.get "canonical_id"), item) := by
    rw [← List.filterMap_eq_map]
    refine List.filterMap_congr fun item hitem ↦ ?_
    obtain ⟨cid, hid, hvalid⟩ := hids item hitem
    have htruthy : (item.get "canonical_id").truthy = true := by
      rw [hid]
      exact truthy_of_isEstateUri hvalid
    exact if_pos htruthy
  have hentries : (registryIndex py payload).entries =
      (registryItems payload).map fun item ↦ (py.str (item.get "canonical_id"), item) := by
    rw [registryIndex, hpairs]
    refine Dict.entries_ofList ?_
    rw [List.map_map]
    refine List.pairwise_map.mpr (hdistinct.imp_of_mem ?_)
    intro x y hx hy hne heq
    obtain ⟨cid, hid, -⟩ := hids x hx
    obtain ⟨cid', hid', -⟩ := hids y hy
    change py.str (x.get "canonical_id") = py.str (y.get "canonical_id") at heq
    rw [hid, hid', py.str_str, py.str_str] at heq
    exact hne (hid.trans (heq ▸ hid'.symm))
  constructor
  · rw [Dict.values, hentries, List.map_map]
    exact List.map_id' _
  · intro item hitem cid hid
    rw [Dict.get?_eq_some_iff, hentries]
    refine List.mem_map.mpr ⟨item, hitem, ?_⟩
    rw [hid, py.str_str]

/-! ## The decision -/

theorem unresolved_eq_nil_iff {known : Dict String RegistryFile}
    {error : String → RegistryError} {x : Value} : unresolved known error x = [] ↔
      ∀ ref, x = .str ref → isEstateUri ref = true → known.get? ref ≠ none := by
  cases x with
  | str s =>
      constructor
      · rintro h ref ⟨⟩ huri
        exact known_of_unresolved h huri
      · intro h
        refine if_neg ?_
        rintro ⟨huri, hnone⟩
        exact h s rfl huri hnone
  | _ => exact iff_of_true rfl (by rintro ref ⟨⟩)

/-- The check of a route is without errors exactly if what it refers to is known. -/
theorem routeErrors_eq_nil_iff {known : Dict String RegistryFile} {routeId : String}
    (hpath : HasListPath route) : routeErrors known routeId route = .ok [] ↔
      ∀ ref, RefersTo route ref → isEstateUri ref = true → known.get? ref ≠ none := by
  obtain ⟨members, hmembers, hmem⟩ := mem_path_iff hpath
  rw [routeErrors, hmembers, ok_bind]
  show Except.ok _ = Except.ok _ ↔ _
  rw [Except.ok.injEq, List.append_eq_nil_iff, List.flatMap_eq_nil_iff, List.flatMap_eq_nil_iff]
  simp only [unresolved_eq_nil_iff]
  constructor
  · rintro ⟨hreferences, hpath⟩ ref (⟨key, hkey, href⟩ | hmember) huri
    · exact hreferences key hkey ref href huri
    · exact hpath _ ((hmem ref).mpr hmember) ref rfl huri
  · intro h
    refine ⟨fun key hkey ref href huri ↦ h ref (.inl ⟨key, hkey, href⟩) huri, ?_⟩
    rintro _ hmember ref rfl huri
    exact h ref (.inr ((hmem ref).mp hmember)) huri

theorem mem_items_of_entry {payload : PyDict} {entry : String × PyDict}
    (h : entry ∈ (registryIndex py payload).entries) : entry.2 ∈ registryItems payload := by
  obtain ⟨id, item⟩ := entry
  obtain ⟨item', hitem, hentry⟩ :=
    List.mem_filterMap.mp (Dict.mem_of_get?_ofList (Dict.get?_eq_some_iff.mpr h))
  dsimp only at hentry
  split at hentry
  · obtain ⟨-, rfl⟩ := Prod.mk.inj (Option.some.inj hentry)
    exact hitem
  · cases hentry

theorem reportable_of_listPaths
    (hdigest : ∀ file, (Value.dict (registries file)).dumpable r.toLimits 1 = true)
    (hpaths : ∀ route ∈ registryItems (registries .routes), HasListPath route) :
    Reportable r py registries := by
  refine ⟨fun x hx ↦ ?_, hdigest⟩
  obtain ⟨members, hmembers, -⟩ := mem_path_iff (hpaths x.2 (mem_items_of_entry hx))
  exact isSome_toOption.mpr ⟨members, hmembers⟩

/-- Without errors in the scan nothing is hidden. -/
theorem lossless_of_scan (h : (scan registries).1 = []) (file : RegistryFile) :
    Lossless py (registries file) := by
  obtain ⟨hids, hdistinct⟩ := scan_eq_nil_iff.mp h
  refine lossless_of_distinct (fun item hitem ↦ hids _ (mem_allItems hitem)) ?_
  have hpairs := hdistinct.sublist (sublist_allItems file)
  rwa [List.pairwise_map] at hpairs

/-- Where the index hides no route, its check is a check of all of them. -/
theorem routes_known_iff (hpaths : ∀ route ∈ registryItems (registries .routes), HasListPath route)
    (hlossless : Lossless py (registries .routes)) :
    (∀ x ∈ (registryIndex py (registries .routes)).entries,
      routeErrors (scan registries).2 x.1 x.2 = .ok []) ↔
    ∀ route ∈ registryItems (registries .routes), ∀ ref, RefersTo route ref →
      isEstateUri ref = true → KnownId registries ref := by
  rw [← hlossless.values, Dict.values, List.forall_mem_map]
  refine forall₂_congr fun x hx ↦ ?_
  rw [routeErrors_eq_nil_iff (hpaths x.2 (mem_items_of_entry hx))]
  refine forall₂_congr fun ref _ ↦ forall_congr' fun huri ↦ knownId_iff huri

/-- Validation of documents of which the digest can be computed decides whether the registries
are consistent, and if they are, no item is hidden: the index of each document is the list of its
items. -/
theorem validation_decides_consistency (r : Renderer) (py : Builtins) (registries : Registries)
    (hdigest : ∀ file, (Value.dict (registries file)).dumpable r.toLimits 1 = true)
    (hpaths : ∀ route ∈ registryItems (registries .routes), HasListPath route) :
    ∃ report, validate r py registries = .ok report ∧
      (report.status = "pass" ↔ ConsistentRegistries registries) ∧
        (report.status = "pass" → ∀ file, Lossless py (registries file)) := by
  obtain ⟨report, hreport⟩ := validate_isOk_iff.mpr (reportable_of_listPaths hdigest hpaths)
  refine ⟨report, hreport, ?_, fun hpass ↦ lossless_of_scan ((pass_iff hreport).mp hpass).1⟩
  rw [pass_iff hreport]
  constructor
  · rintro ⟨hscan, hroutes⟩
    obtain ⟨hids, hdistinct⟩ := scan_eq_nil_iff.mp hscan
    exact ⟨hids, hdistinct, (routes_known_iff hpaths (lossless_of_scan hscan .routes)).mp hroutes⟩
  · rintro ⟨hids, hdistinct, hreferences⟩
    have hscan := scan_eq_nil_iff.mpr ⟨hids, hdistinct⟩
    exact ⟨hscan, (routes_known_iff hpaths (lossless_of_scan hscan .routes)).mpr hreferences⟩

end Consistency

/-- A node, and a route to it. -/
def nodeAndRoute : Registries
  | .nodes => [(.str "nodes", .list [.object [("canonical_id", .str "ga://node/n1")]])]
  | .routes => [(.str "routes", .list [.object [("canonical_id", .str "ga://route/r1"),
      ("source", .str "ga://node/n1"), ("path", .list [.str "ga://node/n1"])]])]
  | _ => []

/-- Registries whose route leads to a node pass, and nothing in them is hidden. -/
theorem route_to_node_passes : ∃ report, validate default default nodeAndRoute = .ok report ∧
    report.status = "pass" ∧ ∀ file, Lossless default (nodeAndRoute file) := by
  have hdigest : ∀ file, (Value.dict (nodeAndRoute file)).dumpable
      (default : Renderer).toLimits 1 = true := by
    intro file
    cases file <;> decide
  have hitems : registryItems (nodeAndRoute .routes) = [[
      (.str "canonical_id", .str "ga://route/r1"), (.str "source", .str "ga://node/n1"),
      (.str "path", .list [.str "ga://node/n1"])]] := rfl
  obtain ⟨report, hreport, -, hlossless⟩ :=
    validation_decides_consistency default default nodeAndRoute hdigest (by
      rw [hitems, List.forall_mem_singleton]
      exact .inr ⟨_, rfl⟩)
  have hview : (validate default default nodeAndRoute).toOption.map ValidationReport.status =
      some "pass" := by
    decide +kernel
  rw [hreport] at hview
  have hpass : report.status = "pass" := Option.some.inj hview
  exact ⟨report, hreport, hpass, hlossless hpass⟩

end EstateMesh
