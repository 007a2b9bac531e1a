import EstateMesh.Resolver.GlobalResolver

/-!
# Validation of the registries

`validate` looks at every item of the six documents, at the references of the routes, and
digests the whole as JSON.  The documents are whatever the loader returned, so the last
two can raise: a path that is neither empty nor a container cannot be iterated, and what is
digested must have a JSON text.  The keys of a mapping cannot be sorted unless they are of one
kind, the interpreter writes integers up to some number of digits and nests its calls up to some
depth, and a document that holds itself has no text at all.  `validate_isOk_iff` says
when validation returns, and `Validated` what has been checked when it passes.
-/

namespace EstateMesh

open Lib

/-- The name of a document. -/
def RegistryFile.name : RegistryFile → String
  | nodes => "nodes.yaml"
  | organs => "organs.yaml"
  | capabilities => "capabilities.yaml"
  | services => "services.yaml"
  | repos => "repos.yaml"
  | routes => "routes.yaml"

/-- The documents in the order in which they are loaded. -/
def registryFiles : List RegistryFile := [.nodes, .organs, .capabilities, .services, .repos, .routes]

theorem mem_registryFiles (file : RegistryFile) : file ∈ registryFiles := by
  cases file <;> decide

/-- What validation asks of the interpreter. -/
structure Renderer extends Limits where
  /-- `repr(x)`, of what has one; a document with something else in it has no digest either. -/
  repr : Value → String
  /-- The digest of the JSON text of the registries. -/
  digest : Registries → String
  /-- What writing the JSON text of the registries raises, if there is none. -/
  refusal : Registries → PyError

instance : Inhabited Renderer where
  default :=
    { repr := fun _ ↦ ""
      digest := fun _ ↦ ""
      refusal := fun _ ↦ .typeError
      maxDigits := 4300
      maxDepth := 1000 }

/-! ## Serialisation -/

/-- Whether a value is a number. -/
def Value.isNumber : Value → Bool
  | .bool _ | .int _ | .float _ => true
  | _ => false

/-- Whether the keys of a mapping can be sorted and written as JSON: they are all strings
or all numbers, or there is only `None`. -/
def sortableKeys (keys : List Value) : Bool :=
  keys.all (fun key ↦ key matches .str _) || keys.all Value.isNumber ||
    keys matches [.none]

/-- Whether an integer that is a key or in a set has a text; of other keys and members every one
has. -/
def Limits.writesMember (limits : Limits) : Value → Bool
  | .int i => limits.writesInt i
  | _ => true

mutual

/-- Whether `json.dumps(x, sort_keys=True, default=str)` returns, inside some lists and
mappings.  What has to be made a string first takes a call as well. -/
def Value.dumpable (limits : Limits) : ℕ → Value → Bool
  | _, .int i => limits.writesInt i
  | depth, .list xs => depth < limits.maxDepth && dumpableItems limits (depth + 1) xs
  | depth, .pair x y =>
      depth < limits.maxDepth && x.dumpable limits (depth + 1) && y.dumpable limits (depth + 1)
  | depth, .dict entries =>
      depth < limits.maxDepth && sortableKeys (entries.map Prod.fst) &&
        entries.all (fun e ↦ limits.writesMember e.1) && dumpableEntries limits (depth + 1) entries
  | depth, .set xs => depth < limits.maxDepth && xs.all limits.writesMember
  | depth, .bytes _ | depth, .other _ => depth < limits.maxDepth
  | _, .again => false
  | _, _ => true

/-- Whether the items of a list can be written. -/
def dumpableItems (limits : Limits) (depth : ℕ) : List Value → Bool
  | [] => true
  | x :: xs => x.dumpable limits depth && dumpableItems limits depth xs

/-- Whether the values of a mapping can be written. -/
def dumpableEntries (limits : Limits) (depth : ℕ) : List (Value × Value) → Bool
  | [] => true
  | (_, x) :: entries => x.dumpable limits depth && dumpableEntries limits depth entries

end

/-- The digest of the registries, each of which is a member of the whole. -/
def registryDigest (r : Renderer) (registries : Registries) : Except PyError String :=
  if registryFiles.all fun file ↦ (Value.dict (registries file)).dumpable r.toLimits 1 then
    .ok (r.digest registries)
  else .error (r.refusal registries)

/-! ## The report -/

/-- What is wrong with the registries. -/
inductive RegistryError
  | invalidId (file : RegistryFile) (canonicalId : Value)
  | duplicateId (canonicalId : String) (prior file : RegistryFile)
  | unresolvedReference (routeId key ref : String)
  | unresolvedMember (routeId ref : String)

/-- The text of an error. -/
def RegistryError.text (r : Renderer) : RegistryError → String
  | invalidId file canonicalId => file.name ++ ": invalid canonical_id " ++ r.repr canonicalId
  | duplicateId canonicalId prior file =>
      "duplicate canonical_id " ++ canonicalId ++ ": " ++ prior.name ++ ", " ++ file.name
  | unresolvedReference routeId key ref => routeId ++ ": unresolved " ++ key ++ " " ++ ref
  | unresolvedMember routeId ref => routeId ++ ": unresolved path member " ++ ref

/-- What `validate` returns. -/
structure ValidationReport where
  registryDigest : String
  counts : List (RegistryFile × ℕ)
  errors : List RegistryError

/-- The status of a report. -/
def ValidationReport.status (report : ValidationReport) : String :=
  if report.errors.isEmpty then "pass" else "fail"

/-- The report as a value. -/
def ValidationReport.toValue (r : Renderer) (report : ValidationReport) : Value :=
  .object
    [("status", .str report.status),
      ("resolution_id", .str "GA-HYPERNET-GLOBAL-RESOLUTION-002"),
      ("registry_digest", .str report.registryDigest),
      ("counts", .object (report.counts.map fun x ↦ (x.1.name, .int x.2))),
      ("errors", .list (report.errors.map fun e ↦ .str (e.text r)))]

/-! ## The checks -/

/-- A string is the canonical id of something in the estate, by its form. -/
def isEstateUri (s : String) : Bool := s.startsWith "ga://"

/-- The items of all documents, each with the document it is from. -/
def allItems (registries : Registries) : List (RegistryFile × PyDict) :=
  registryFiles.flatMap fun file ↦ (registryItems (registries file)).map fun item ↦ (file, item)

/-- Check the id of an item and note where it is from; an item without a valid id is
passed over. -/
def scanItem (state : List RegistryError × Dict String RegistryFile)
    (x : RegistryFile × PyDict) : List RegistryError × Dict String RegistryFile :=
  match x.2.get "canonical_id" with
  | .str cid =>
      if isEstateUri cid then
        match state.2.get? cid with
        | some prior => (state.1 ++ [.duplicateId cid prior x.1], state.2.set cid x.1)
        | none => (state.1, state.2.set cid x.1)
      else (state.1 ++ [.invalidId x.1 (.str cid)], state.2)
  | canonicalId => (state.1 ++ [.invalidId x.1 canonicalId], state.2)

/-- Check the ids of all items. -/
def scan (registries : Registries) : List RegistryError × Dict String RegistryFile :=
  (allItems registries).foldl scanItem ([], ∅)

/-- The error for a reference to something that is not known. -/
def unresolved (known : Dict String RegistryFile) (error : String → RegistryError) :
    Value → List RegistryError
  | .str ref => if isEstateUri ref ∧ known.get? ref = none then [error ref] else []
  | _ => []

/-- The keys of a route that are checked as references. -/
def referenceKeys : List String := ["source", "proof", "fallback"]

/-- What a route goes through. -/
def routePath (route : PyDict) : Value := (route.getD "path" (.list [])).or (.list [])

/-- Check the references of a route. -/
def routeErrors (known : Dict String RegistryFile) (routeId : String) (route : PyDict) :
    Except PyError (List RegistryError) := do
  let members ← (routePath route).iter
  return (referenceKeys.flatMap fun key ↦
      unresolved known (.unresolvedReference routeId key) (route.get key)) ++
    members.flatMap (unresolved known (.unresolvedMember routeId))

/-- `GlobalResolver.validate`. -/
def validate (r : Renderer) (py : Builtins) (registries : Registries) :
    Except PyError ValidationReport := do
  let (errors, known) := scan registries
  let routeErrors ← (registryIndex py (registries .routes)).entries.mapM fun x ↦
    routeErrors known x.1 x.2
  let digest ← registryDigest r registries
  return {
    registryDigest := digest
    counts := registryFiles.map fun file ↦ (file, (registryItems (registries file)).length)
    errors := errors ++ routeErrors.flatten }

/-! ## When validation returns -/

/-- The registries can be reported on: the path of every route is empty or can be
iterated, and every document can be written as JSON. -/
structure Reportable (r : Renderer) (py : Builtins) (registries : Registries) : Prop where
  paths : ∀ x ∈ (registryIndex py (registries .routes)).entries,
    (routePath x.2).iter.toOption.isSome = true
  documents : ∀ file, (Value.dict (registries file)).dumpable r.toLimits 1 = true

section Returns

variable {r : Renderer} {py : Builtins} {registries : Registries} {report : ValidationReport}

theorem registryDigest_eq_ok {digest : String} :
    registryDigest r registries = .ok digest ↔
      digest = r.digest registries ∧
        ∀ file, (Value.dict (registries file)).dumpable r.toLimits 1 = true := by
  have hall : (registryFiles.all fun file ↦
      (Value.dict (registries file)).dumpable r.toLimits 1) = true ↔
      ∀ file, (Value.dict (registries file)).dumpable r.toLimits 1 = true := by
    rw [List.all_eq_true]
    exact forall_congr' fun file ↦ ⟨fun h ↦ h (mem_registryFiles file), fun h _ ↦ h⟩
  rw [registryDigest, ← hall]
  split
  · rename_i h
    exact ⟨fun e ↦ ⟨(Except.ok.inj e).symm, h⟩, fun e ↦ congrArg _ e.1.symm⟩
  · rename_i h
    exact iff_of_false (by rintro ⟨⟩) fun e ↦ h e.2

/-- Validation returns exactly if the registries can be reported on. -/
theorem validate_isOk_iff :
    (∃ report, validate r py registries = .ok report) ↔ Reportable r py registries := by
  constructor
  · rintro ⟨report, h⟩
    obtain ⟨errors, herrors, h⟩ := bind_eq_ok_iff.mp h
    obtain ⟨digest, hdigest, -⟩ := bind_eq_ok_iff.mp h
    refine ⟨fun x hx ↦ ?_, (registryDigest_eq_ok.mp hdigest).2⟩
    obtain ⟨es, hes⟩ := exists_of_mapM_eq_ok herrors x hx
    obtain ⟨members, hmembers, -⟩ := bind_eq_ok_iff.mp hes
    exact isSome_toOption.mpr ⟨members, hmembers⟩
  · rintro ⟨hpaths, hdocuments⟩
    have hroutes : ∀ x ∈ (registryIndex py (registries .routes)).entries,
        ∃ es, routeErrors (scan registries).2 x.1 x.2 = .ok es := by
      intro x hx
      obtain ⟨members, hmembers⟩ := isSome_toOption.mp (hpaths x hx)
      rw [routeErrors, hmembers]
      exact ⟨_, rfl⟩
    obtain ⟨errors, herrors⟩ := mapM_isOk hroutes
    have hdigest : registryDigest r registries = .ok (r.digest registries) :=
      registryDigest_eq_ok.mpr ⟨rfl, hdocuments⟩
    simp only [validate, herrors, ok_bind, hdigest]
    exact ⟨_, rfl⟩

end Returns

/-! ## What has been checked when validation passes -/

/-- A string is the canonical id of an item. -/
def KnownId (registries : Registries) (uri : String) : Prop :=
  ∃ x ∈ allItems registries, x.2.get "canonical_id" = .str uri

/-- Every item has a valid id, and the references of the routes that are compared are to
items. -/
structure Validated (py : Builtins) (registries : Registries) : Prop where
  ids : ∀ x ∈ allItems registries,
    ∃ cid, x.2.get "canonical_id" = .str cid ∧ isEstateUri cid = true
  references : ∀ route ∈ (registryIndex py (registries .routes)).values, ∀ key ∈ referenceKeys,
    ∀ ref, route.get key = .str ref → isEstateUri ref = true → KnownId registries ref
  members : ∀ route ∈ (registryIndex py (registries .routes)).values, ∀ members,
    (routePath route).iter = .ok members → ∀ ref, .str ref ∈ members → isEstateUri ref = true →
      KnownId registries ref

section Passes

variable {r : Renderer} {py : Builtins} {registries : Registries} {report : ValidationReport}

/-- The step lemma: what is known after an item. -/
theorem get?_scanItem (state : List RegistryError × Dict String RegistryFile)
    (x : RegistryFile × PyDict) (uri : String) :
    (scanItem state x).2.get? uri ≠ none ↔
      state.2.get? uri ≠ none ∨ x.2.get "canonical_id" = .str uri ∧ isEstateUri uri = true := by
  rw [scanItem]
  split
  · rename_i cid hcid
    rw [hcid, Value.str.injEq]
    split
    · rename_i hvalid
      have hid : cid = uri ∧ isEstateUri uri = true ↔ cid = uri :=
        and_iff_left_of_imp fun e ↦ e ▸ hvalid
      rw [hid]
      split <;> exact Dict.get?_set_ne_none_iff
    · rename_i hinvalid
      refine (or_iff_left ?_).symm
      rintro ⟨rfl, hvalid⟩
      exact hinvalid hvalid
  · rename_i hother
    exact (or_iff_left fun h ↦ hother uri h.1).symm

/-- What is known after a scan are the valid ids. -/
theorem get?_foldl_scanItem (items : List (RegistryFile × PyDict))
    (state : List RegistryError × Dict String RegistryFile) (uri : String) :
    (items.foldl scanItem state).2.get? uri ≠ none ↔
      state.2.get? uri ≠ none ∨
        ∃ x ∈ items, x.2.get "canonical_id" = .str uri ∧ isEstateUri uri = true := by
  induction items generalizing state with
  | nil => simp
  | cons x items ih =>
      rw [List.foldl_cons, ih, get?_scanItem, or_assoc, List.exists_mem_cons_iff]

/-- The step lemma: an item without errors has a valid id. -/
theorem valid_of_scanItem {state : List RegistryError × Dict String RegistryFile}
    {x : RegistryFile × PyDict} (h : (scanItem state x).1 = []) :
    state.1 = [] ∧ ∃ cid, x.2.get "canonical_id" = .str cid ∧ isEstateUri cid = true := by
  rw [scanItem] at h
  split at h
  · rename_i cid hcid
    split at h
    · rename_i hvalid
      split at h
      · cases (List.append_eq_nil_iff.mp h).2
      · exact ⟨h, cid, hcid, hvalid⟩
    · cases (List.append_eq_nil_iff.mp h).2
  · cases (List.append_eq_nil_iff.mp h).2

/-- Without errors every id is valid. -/
theorem valid_of_foldl_scanItem {items : List (RegistryFile × PyDict)}
    {state : List RegistryError × Dict String RegistryFile}
    (h : (items.foldl scanItem state).1 = []) :
    state.1 = [] ∧ ∀ x ∈ items,
      ∃ cid, x.2.get "canonical_id" = .str cid ∧ isEstateUri cid = true := by
  induction items generalizing state with
  | nil => exact ⟨h, nofun⟩
  | cons x items ih =>
      obtain ⟨hstate, hitems⟩ := ih h
      obtain ⟨hstate, hx⟩ := valid_of_scanItem hstate
      exact ⟨hstate, List.forall_mem_cons.mpr ⟨hx, hitems⟩⟩

theorem knownId_of_get? {uri : String} (h : (scan registries).2.get? uri ≠ none) :
    KnownId registries uri := by
  rcases (get?_foldl_scanItem _ _ _).mp h with hempty | ⟨x, hx, hid, -⟩
  · exact absurd rfl hempty
  · exact ⟨x, hx, hid⟩

theorem known_of_unresolved {known : Dict String RegistryFile} {error : String → RegistryError}
    {ref : String} (h : unresolved known error (.str ref) = []) (huri : isEstateUri ref = true) :
    known.get? ref ≠ none := by
  intro hnone
  rw [unresolved, if_pos ⟨huri, hnone⟩] at h
  cases h

/-- A route without errors has references and members without errors. -/
theorem unresolved_of_routeErrors {known : Dict String RegistryFile} {routeId : String}
    {route : PyDict} (h : routeErrors known routeId route = .ok []) :
    ∃ members, (routePath route).iter = .ok members ∧
      (∀ key ∈ referenceKeys,
        unresolved known (.unresolvedReference routeId key) (route.get key) = []) ∧
      ∀ member ∈ members, unresolved known (.unresolvedMember routeId) member = [] := by
  obtain ⟨members, hmembers, h⟩ := bind_eq_ok_iff.mp h
  obtain ⟨hreferences, hpath⟩ := List.append_eq_nil_iff.mp (Except.ok.inj h)
  exact ⟨members, hmembers, List.flatMap_eq_nil_iff.mp hreferences,
    List.flatMap_eq_nil_iff.mp hpath⟩

theorem ValidationReport.status_eq_pass_iff : report.status = "pass" ↔ report.errors = [] := by
  rw [ValidationReport.status]
  split
  · rename_i hnone
    exact iff_of_true rfl (List.isEmpty_iff.mp hnone)
  · rename_i hsome
    exact iff_of_false (by decide) fun hnone ↦ hsome (List.isEmpty_iff.mpr hnone)

/-- A report passes exactly if neither the scan nor a route has an error. -/
theorem pass_iff (h : validate r py registries = .ok report) : report.status = "pass" ↔
    (scan registries).1 = [] ∧ ∀ x ∈ (registryIndex py (registries .routes)).entries,
      routeErrors (scan registries).2 x.1 x.2 = .ok [] := by
  rw [ValidationReport.status_eq_pass_iff]
  obtain ⟨errors, herrors, h⟩ := bind_eq_ok_iff.mp h
  obtain ⟨digest, -, h⟩ := bind_eq_ok_iff.mp h
  cases h
  rw [List.append_eq_nil_iff, List.flatten_eq_nil_iff]
  refine and_congr_right fun _ ↦ ⟨fun hnone x hx ↦ ?_, fun hnone found hfound ↦ ?_⟩
  · obtain ⟨found, hfound⟩ := exists_of_mapM_eq_ok herrors x hx
    obtain rfl := hnone found ((mem_of_mapM_eq_ok herrors).mpr ⟨x, hx, hfound⟩)
    exact hfound
  · obtain ⟨x, hx, hfound⟩ := (mem_of_mapM_eq_ok herrors).mp hfound
    exact Except.ok.inj (hfound.symm.trans (hnone x hx))

/-- A report that passes is about validated registries. -/
theorem validated_of_pass (h : validate r py registries = .ok report)
    (hpass : report.status = "pass") : Validated py registries := by
  obtain ⟨hscan, hentries⟩ := (pass_iff h).mp hpass
  have hroutes : ∀ route ∈ (registryIndex py (registries .routes)).values,
      ∃ routeId, routeErrors (scan registries).2 routeId route = .ok [] := by
    intro route hroute
    obtain ⟨⟨routeId, route⟩, hentry, rfl⟩ := List.mem_map.mp hroute
    exact ⟨routeId, hentries _ hentry⟩
  constructor
  · exact (valid_of_foldl_scanItem hscan).2
  · intro route hroute key hkey ref href huri
    obtain ⟨routeId, hnone⟩ := hroutes route hroute
    obtain ⟨-, -, hreferences, -⟩ := unresolved_of_routeErrors hnone
    have hreference := hreferences key hkey
    rw [href] at hreference
    exact knownId_of_get? (known_of_unresolved hreference huri)
  · intro route hroute members hmembers ref href huri
    obtain ⟨routeId, hnone⟩ := hroutes route hroute
    obtain ⟨members', hmembers', -, hpath⟩ := unresolved_of_routeErrors hnone
    cases hmembers.symm.trans hmembers'
    exact knownId_of_get? (known_of_unresolved (hpath _ href) huri)

end Passes

end EstateMesh
