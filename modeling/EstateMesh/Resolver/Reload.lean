import EstateMesh.Resolver.Validate

/-!
# Reloading the registries

`reload` reads all six documents before it replaces any of them, so what is missing or is
not a mapping leaves the old registries in place.  Validation comes after the swap.  When
it raises, `reload` raises, and the new registries stay (`reload_all_or_nothing_iff`).
-/

namespace EstateMesh

open Lib

/-- What is at the place of a document. -/
inductive FileContent
  | missing
  | /-- Reading or parsing it raises. -/ unreadable (e : PyError)
  | /-- What the YAML loader returns. -/ loaded (payload : Value)

/-- The directory of the documents. -/
abbrev RegistryRoot := RegistryFile → FileContent

/-- Load a document. -/
def loadFile (file : RegistryFile) : FileContent → Except ResolverFault PyDict
  | .missing => .error (.resolution ("missing registry: " ++ file.name) 500)
  | .unreadable e => .error (.python e)
  | .loaded payload =>
      match payload.or (.dict []) with
      | .dict entries => .ok entries
      | _ => .error (.resolution ("invalid registry root: " ++ file.name) 500)

/-- Load all documents. -/
def load (root : RegistryRoot) : Except ResolverFault Registries := do
  let nodes ← loadFile .nodes (root .nodes)
  let organs ← loadFile .organs (root .organs)
  let capabilities ← loadFile .capabilities (root .capabilities)
  let services ← loadFile .services (root .services)
  let repos ← loadFile .repos (root .repos)
  let routes ← loadFile .routes (root .routes)
  return fun
    | .nodes => nodes
    | .organs => organs
    | .capabilities => capabilities
    | .services => services
    | .repos => repos
    | .routes => routes

/-- `GlobalResolver.reload`. -/
def GlobalResolver.reload (r : Renderer) (py : Builtins) (self : GlobalResolver)
    (root : RegistryRoot) : Except ResolverFault ValidationReport × GlobalResolver :=
  match load root with
  | .error e => (.error e, self)
  | .ok registries =>
      let self := { self with registries := registries }
      (liftPython (validate r py self.registries), self)

namespace GlobalResolver

/-- The resolver as a reload leaves it, whether the reload returns or raises. -/
def reloaded (self : GlobalResolver) (root : RegistryRoot) : GlobalResolver :=
  match load root with
  | .error _ => self
  | .ok registries => { self with registries := registries }

theorem reload_snd (r : Renderer) (py : Builtins) (self : GlobalResolver) (root : RegistryRoot) :
    (self.reload r py root).2 = self.reloaded root := by
  rw [reload, reloaded]
  cases load root <;> rfl

@[simp] theorem reloaded_nodes (self : GlobalResolver) (root : RegistryRoot) :
    (self.reloaded root).nodes = self.nodes := by
  rw [reloaded]
  cases load root <;> rfl

@[simp] theorem reloaded_events (self : GlobalResolver) (root : RegistryRoot) :
    (self.reloaded root).events = self.events := by
  rw [reloaded]
  cases load root <;> rfl

/-- A reload installs all the documents and reports on them, or it raises and changes
nothing. -/
def AllOrNothing (self : GlobalResolver) (root : RegistryRoot)
    (outcome : Except ResolverFault ValidationReport × GlobalResolver) : Prop :=
  (∃ report registries, outcome.1 = .ok report ∧
    (∀ file, loadFile file (root file) = .ok (registries file)) ∧
    outcome.2 = { self with registries := registries }) ∨
  (∃ e, outcome.1 = .error e) ∧ outcome.2 = self

section Reload

variable {r : Renderer} {py : Builtins} {self next : GlobalResolver} {root : RegistryRoot}
  {registries : Registries} {report : ValidationReport}

theorem load_eq_ok_iff :
    load root = .ok registries ↔ ∀ file, loadFile file (root file) = .ok (registries file) := by
  constructor
  · intro h
    obtain ⟨nodes, hnodes, h⟩ := bind_eq_ok_iff.mp h
    obtain ⟨organs, horgans, h⟩ := bind_eq_ok_iff.mp h
    obtain ⟨capabilities, hcapabilities, h⟩ := bind_eq_ok_iff.mp h
    obtain ⟨services, hservices, h⟩ := bind_eq_ok_iff.mp h
    obtain ⟨repos, hrepos, h⟩ := bind_eq_ok_iff.mp h
    obtain ⟨routes, hroutes, h⟩ := bind_eq_ok_iff.mp h
    cases h
    intro file
    cases file <;> assumption
  · intro h
    simp only [load, h, ok_bind]
    refine congrArg Except.ok (funext fun file ↦ ?_)
    cases file <;> rfl

/-- A reload that returns has replaced the registries, and nothing else. -/
theorem reload_eq_ok_iff :
    self.reload r py root = (.ok report, next) ↔
      ∃ registries, load root = .ok registries ∧ validate r py registries = .ok report ∧
        next = { self with registries := registries } := by
  rw [reload]
  cases hload : load root with
  | error e => exact iff_of_false (by rintro ⟨⟩) (by rintro ⟨_, ⟨⟩, _⟩)
  | ok registries =>
      dsimp only
      constructor
      · intro h
        obtain ⟨hreport, rfl⟩ := Prod.mk.inj h
        exact ⟨registries, rfl, of_liftPython hreport, rfl⟩
      · rintro ⟨_, h, hreport, rfl⟩
        cases h
        exact Prod.ext (by rw [hreport]; rfl) rfl

/-- A reload is all or nothing exactly if the documents cannot be loaded, or can be
reported on, or are the ones that are loaded already. -/
theorem reload_all_or_nothing_iff (r : Renderer) (py : Builtins) (self : GlobalResolver)
    (root : RegistryRoot) :
    AllOrNothing self root (self.reload r py root) ↔
      ∀ registries, (∀ file, loadFile file (root file) = .ok (registries file)) →
        Reportable r py registries ∨ registries = self.registries := by
  rw [reload]
  cases hload : load root with
  | error e =>
      refine iff_of_true (.inr ⟨⟨e, rfl⟩, rfl⟩) fun registries h ↦ ?_
      rw [load_eq_ok_iff.mpr h] at hload
      cases hload
  | ok registries =>
      have hunique : ∀ registries', (∀ file, loadFile file (root file) = .ok (registries' file)) →
          registries' = registries := by
        intro registries' h
        rw [load_eq_ok_iff.mpr h] at hload
        exact Except.ok.inj hload
      dsimp only
      constructor
      · intro h registries' h'
        obtain rfl := hunique registries' h'
        rcases h with ⟨report, -, hreport, -, -⟩ | ⟨-, hself⟩
        · exact .inl (validate_isOk_iff.mp ⟨report, of_liftPython hreport⟩)
        · exact .inr (congrArg GlobalResolver.registries hself)
      · intro h
        rcases h registries (load_eq_ok_iff.mp hload) with hreportable | hself
        · obtain ⟨report, hreport⟩ := validate_isOk_iff.mpr hreportable
          exact .inl ⟨report, registries, by rw [hreport]; rfl, load_eq_ok_iff.mp hload, rfl⟩
        · cases hvalidate : validate r py registries with
          | ok report =>
              exact .inl ⟨report, registries, rfl, load_eq_ok_iff.mp hload, rfl⟩
          | error e => exact .inr ⟨⟨_, rfl⟩, by rw [hself]⟩

end Reload

/-- Registries that declare one node. -/
def soleNode : Registries
  | .nodes => [(.str "nodes", .list [.object [("canonical_id", .str "ga://node/vercel"),
      ("capabilities", .list [.str "web.serve"])]])]
  | _ => []

/-- A directory whose only item is a route that has a number for its path. -/
def numberedPath : RegistryRoot
  | .routes => .loaded (.object [("routes", .list [.object
      [("canonical_id", .str "ga://route/loop"), ("path", .int 7)]])])
  | _ => .loaded .none

/-- Reloading from it raises, and the node that was declared before is unknown. -/
theorem numbered_path_is_swapped_in :
    ¬ AllOrNothing { registries := soleNode } numberedPath
      (({ registries := soleNode } : GlobalResolver).reload default default numberedPath) := by
  let outcome := ({ registries := soleNode } : GlobalResolver).reload default default numberedPath
  have hraises : outcome.1.toOption.isSome = false := rfl
  have hswapped : (outcome.2.registries .nodes).isEmpty = true := rfl
  rintro (⟨report, registries, hreport, -, -⟩ | ⟨-, hself⟩)
  · have hreturns : outcome.1.toOption.isSome = true := isSome_toOption.mpr ⟨report, hreport⟩
    rw [hraises] at hreturns
    cases hreturns
  · have hkept : outcome.2 = { registries := soleNode } := hself
    rw [hkept] at hswapped
    cases hswapped

end GlobalResolver

end EstateMesh
