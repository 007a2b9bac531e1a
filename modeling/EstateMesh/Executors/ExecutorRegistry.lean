import EstateMesh.Executors.HttpExecutor
import EstateMesh.Lib.Machine

/-!
# The executor registry

Which nodes are bound to which adapters, as the environment configures them, and why the
others are not.  The registry keeps the two in two dictionaries, and each way of binding a
node writes to one of them and leaves the other as it is.  So a node is in both as soon as
it is bound once with its configuration and once without (`bindings_proper_iff`).
-/

namespace EstateMesh

open Lib Machine

/-- An adapter that runs a command. -/
structure LocalCommandExecutor where
  adapterId : String
  command : List String
deriving DecidableEq

/-- What a node can be bound to. -/
inductive ExecutorAdapter
  | http (executor : HttpExecutor)
  | command (executor : LocalCommandExecutor)

/-- The registry. -/
structure ExecutorRegistry where
  adapters : Dict String ExecutorAdapter := ∅
  reasons : Dict String String := ∅

/-- What `snapshot` returns. -/
structure RegistrySnapshot where
  bound : List String
  unbound : List (String × String)

/-- The command of a local adapter. -/
def parseArgv (py : Builtins) (nodeId commandEnv raw : String) :
    Except ExecutorFault (List String) :=
  match py.jsonLoads raw.toUTF8.toList with
  | .error e => .error (.python e)
  | .ok (.list (x :: xs)) =>
      match (x :: xs).mapM fun x ↦ match x with | .str s => some s | _ => none with
      | some command => .ok command
      | none => .error (.executorError (nodeId ++ ": " ++ commandEnv ++ " must be a JSON argv array"))
  | .ok _ => .error (.executorError (nodeId ++ ": " ++ commandEnv ++ " must be a JSON argv array"))

namespace ExecutorRegistry

variable (py : Builtins) (environ : Environ) (self : ExecutorRegistry)

/-- `ExecutorRegistry.bind_http`. -/
def bindHttp (nodeId env : String) (tokenEnv : Option String) : ExecutorRegistry :=
  let endpoint := strip (environ.getD env "")
  if endpoint = "" then
    { self with reasons := self.reasons.set nodeId ("missing endpoint env " ++ env) }
  else
    { self with
      adapters := self.adapters.set nodeId (.http ⟨"http:" ++ nodeId, endpoint, tokenEnv⟩) }

/-- `ExecutorRegistry.bind_local`; a command that is not a list of arguments leaves the
registry as it is. -/
def bindLocal (nodeId commandEnv : String) : Except ExecutorFault ExecutorRegistry :=
  let raw := strip (environ.getD commandEnv "")
  if raw = "" then
    .ok { self with reasons := self.reasons.set nodeId ("missing command env " ++ commandEnv) }
  else do
    let command ← parseArgv py nodeId commandEnv raw
    return { self with
      adapters := self.adapters.set nodeId (.command ⟨"local:" ++ nodeId, command⟩) }

/-- `ExecutorRegistry.install_defaults`. -/
def installDefaults : Except ExecutorFault ExecutorRegistry := do
  let self ← self.bindLocal py environ "ga://node/eden" "GA_EDEN_EXECUTOR_ARGV"
  let self := self.bindHttp environ "ga://node/t5810-01" "GA_T5810_01_EXECUTOR_URL"
    (some "GA_HYPERNET_NODE_TOKEN")
  let self := self.bindHttp environ "ga://node/t5810-02" "GA_T5810_02_EXECUTOR_URL"
    (some "GA_HYPERNET_NODE_TOKEN")
  let self := self.bindHttp environ "ga://node/odin" "GA_ODIN_EXECUTOR_URL"
    (some "GA_HYPERNET_NODE_TOKEN")
  let self := self.bindHttp environ "ga://node/janus" "GA_JANUS_EXECUTOR_URL"
    (some "GA_HYPERNET_NODE_TOKEN")
  let self := self.bindHttp environ "ga://node/render" "GA_RENDER_EXECUTOR_URL"
    (some "GA_RENDER_EXECUTOR_TOKEN")
  let self := self.bindHttp environ "ga://node/vercel" "GA_VERCEL_EXECUTOR_URL"
    (some "GA_VERCEL_EXECUTOR_TOKEN")
  let self := self.bindHttp environ "ga://node/neon" "GA_NEON_EXECUTOR_URL"
    (some "GA_NEON_EXECUTOR_TOKEN")
  return self

/-- `ExecutorRegistry.attach`, for a way of running the adapters. -/
def attach {W : Type} (run : ExecutorAdapter → Executor W) (fabric : DispatchFabric W) :
    DispatchFabric W :=
  self.adapters.entries.foldl (fun fabric x ↦ fabric.registerExecutor x.1 (run x.2)) fabric

/-- `ExecutorRegistry.snapshot`. -/
def snapshot : RegistrySnapshot where
  bound := self.adapters.keys.insertionSort (· ≤ ·)
  unbound := (self.reasons.keys.insertionSort (· ≤ ·)).filterMap fun k ↦
    (self.reasons.get? k).map fun reason ↦ (k, reason)

end ExecutorRegistry

/-! ## Calls -/

/-- The calls that bind nodes. -/
inductive BindCall
  | http (nodeId env : String) (tokenEnv : Option String)
  | command (nodeId commandEnv : String)
  | defaults

/-- Make a call; where it raises, the registry is left as it is. -/
def ExecutorRegistry.perform (py : Builtins) (environ : Environ) (self : ExecutorRegistry) :
    BindCall → Except ExecutorFault ExecutorRegistry
  | .http nodeId env tokenEnv => .ok (self.bindHttp environ nodeId env tokenEnv)
  | .command nodeId commandEnv => self.bindLocal py environ nodeId commandEnv
  | .defaults => self.installDefaults py environ

/-- What the attempt to bind a node comes to. -/
inductive BindOutcome
  | missing (reason : String)
  | bound (adapter : ExecutorAdapter)
  | raised (fault : ExecutorFault)

section Outcomes

variable (py : Builtins) (environ : Environ)

/-- What `bind_http` comes to. -/
def httpOutcome (nodeId env : String) (tokenEnv : Option String) : BindOutcome :=
  if strip (environ.getD env "") = "" then .missing ("missing endpoint env " ++ env)
  else .bound (.http ⟨"http:" ++ nodeId, strip (environ.getD env ""), tokenEnv⟩)

/-- What `bind_local` comes to. -/
def commandOutcome (nodeId commandEnv : String) : BindOutcome :=
  if strip (environ.getD commandEnv "") = "" then .missing ("missing command env " ++ commandEnv)
  else
    match parseArgv py nodeId commandEnv (strip (environ.getD commandEnv "")) with
    | .ok command => .bound (.command ⟨"local:" ++ nodeId, command⟩)
    | .error fault => .raised fault

/-- The nodes that are bound to a server by default. -/
def defaultServers : List (String × String × String) :=
  [("ga://node/t5810-01", "GA_T5810_01_EXECUTOR_URL", "GA_HYPERNET_NODE_TOKEN"),
    ("ga://node/t5810-02", "GA_T5810_02_EXECUTOR_URL", "GA_HYPERNET_NODE_TOKEN"),
    ("ga://node/odin", "GA_ODIN_EXECUTOR_URL", "GA_HYPERNET_NODE_TOKEN"),
    ("ga://node/janus", "GA_JANUS_EXECUTOR_URL", "GA_HYPERNET_NODE_TOKEN"),
    ("ga://node/render", "GA_RENDER_EXECUTOR_URL", "GA_RENDER_EXECUTOR_TOKEN"),
    ("ga://node/vercel", "GA_VERCEL_EXECUTOR_URL", "GA_VERCEL_EXECUTOR_TOKEN"),
    ("ga://node/neon", "GA_NEON_EXECUTOR_URL", "GA_NEON_EXECUTOR_TOKEN")]

/-- The binds that a call makes, with what they come to.  The first one of the defaults
may raise, and then there are no others. -/
def BindCall.binds : BindCall → List (String × BindOutcome)
  | .http nodeId env tokenEnv => [(nodeId, httpOutcome environ nodeId env tokenEnv)]
  | .command nodeId commandEnv => [(nodeId, commandOutcome py environ nodeId commandEnv)]
  | .defaults =>
      match commandOutcome py environ "ga://node/eden" "GA_EDEN_EXECUTOR_ARGV" with
      | .raised fault => [("ga://node/eden", .raised fault)]
      | outcome => ("ga://node/eden", outcome) ::
          defaultServers.map fun x ↦ (x.1, httpOutcome environ x.1 x.2.1 (some x.2.2))

end Outcomes

/-- What an outcome makes of the registry. -/
def ExecutorRegistry.record (self : ExecutorRegistry) (x : String × BindOutcome) :
    ExecutorRegistry :=
  match x.2 with
  | .missing reason => { self with reasons := self.reasons.set x.1 reason }
  | .bound adapter => { self with adapters := self.adapters.set x.1 adapter }
  | .raised _ => self

/-- The registry, and what the latest bind of each node came to. -/
structure Binding where
  registry : ExecutorRegistry := {}
  latest : Dict String BindOutcome := ∅

/-- Make a call. -/
def Binding.step (py : Builtins) (s : Binding) (x : Environ × BindCall) : Binding where
  registry := (s.registry.perform py x.1 x.2).toOption.getD s.registry
  latest := (x.2.binds py x.1).foldl (fun latest bind ↦ latest.set bind.1 bind.2) s.latest

/-- A node is bound or not, as its latest bind came out. -/
structure BoundOrNot (s : Binding) : Prop where
  disjoint : ∀ nodeId, nodeId ∈ s.registry.snapshot.bound →
    nodeId ∉ s.registry.snapshot.unbound.map Prod.fst
  missing : ∀ nodeId reason, s.latest.get? nodeId = some (.missing reason) →
    s.registry.adapters.get? nodeId = none
  unattached : ∀ nodeId reason, s.latest.get? nodeId = some (.missing reason) →
    ∀ (W : Type) (run : ExecutorAdapter → Executor W) (fabric : DispatchFabric W),
      (s.registry.attach run fabric).executors.get? nodeId = fabric.executors.get? nodeId
  bound : ∀ nodeId adapter, s.latest.get? nodeId = some (.bound adapter) →
    s.registry.adapters.get? nodeId = some adapter ∧ s.registry.reasons.get? nodeId = none

/-! ## The calls, bind by bind -/

section Binds

variable {py : Builtins} {environ : Environ} {registry : ExecutorRegistry} {nodeId : String}

theorem bindHttp_eq (env : String) (tokenEnv : Option String) :
    registry.bindHttp environ nodeId env tokenEnv =
      registry.record (nodeId, httpOutcome environ nodeId env tokenEnv) := by
  unfold ExecutorRegistry.bindHttp httpOutcome
  dsimp only
  split <;> rfl

theorem bindLocal_eq (commandEnv : String) :
    registry.bindLocal py environ nodeId commandEnv =
      match commandOutcome py environ nodeId commandEnv with
      | .raised fault => .error fault
      | outcome => .ok (registry.record (nodeId, outcome)) := by
  unfold ExecutorRegistry.bindLocal commandOutcome
  dsimp only
  split
  · rfl
  · cases parseArgv py nodeId commandEnv (strip (environ.getD commandEnv "")) <;> rfl

/-- The registry after a call has recorded the binds that the call makes. -/
theorem perform_eq (call : BindCall) :
    (registry.perform py environ call).toOption.getD registry =
      (call.binds py environ).foldl ExecutorRegistry.record registry := by
  cases call with
  | http nodeId env tokenEnv =>
      rw [ExecutorRegistry.perform, bindHttp_eq, BindCall.binds]
      rfl
  | command nodeId commandEnv =>
      rw [ExecutorRegistry.perform, bindLocal_eq, BindCall.binds]
      cases commandOutcome py environ nodeId commandEnv <;> rfl
  | defaults =>
      rw [ExecutorRegistry.perform, ExecutorRegistry.installDefaults, bindLocal_eq, BindCall.binds]
      cases commandOutcome py environ "ga://node/eden" "GA_EDEN_EXECUTOR_ARGV" with
      | raised fault => rfl
      | missing reason =>
          simp only [bindHttp_eq, defaultServers, List.map_cons, List.map_nil, List.foldl_cons,
            List.foldl_nil]
          rfl
      | bound adapter =>
          simp only [bindHttp_eq, defaultServers, List.map_cons, List.map_nil, List.foldl_cons,
            List.foldl_nil]
          rfl

/-- No call binds a node twice. -/
theorem nodup_binds (call : BindCall) : ((call.binds py environ).map Prod.fst).Nodup := by
  cases call with
  | http nodeId env tokenEnv => exact List.nodup_singleton _
  | command nodeId commandEnv => exact List.nodup_singleton _
  | defaults =>
      have hservers : ("ga://node/eden" :: defaultServers.map Prod.fst).Nodup := by decide
      rw [BindCall.binds]
      cases commandOutcome py environ "ga://node/eden" "GA_EDEN_EXECUTOR_ARGV" with
      | raised fault => exact List.nodup_singleton _
      | missing reason =>
          rw [List.map_cons, List.map_map]
          exact hservers
      | bound adapter =>
          rw [List.map_cons, List.map_map]
          exact hservers

end Binds

/-! ## One node -/

/-- What an outcome makes of the adapter of its node. -/
def BindOutcome.adapterAfter (outcome : BindOutcome) (adapter : Option ExecutorAdapter) :
    Option ExecutorAdapter :=
  match outcome with
  | .bound adapter' => some adapter'
  | _ => adapter

/-- What an outcome makes of the reason of its node. -/
def BindOutcome.reasonAfter (outcome : BindOutcome) (reason : Option String) : Option String :=
  match outcome with
  | .missing reason' => some reason'
  | _ => reason

/-- An outcome fits what is there: a node that is bound has no reason, and a node whose
configuration is missing has no adapter. -/
def BindOutcome.Fits (adapter : Option ExecutorAdapter) (reason : Option String) :
    BindOutcome → Prop
  | .missing _ => adapter = none
  | .bound _ => reason = none
  | .raised _ => True

/-- What there is of a node agrees with its latest bind. -/
structure Proper (adapter : Option ExecutorAdapter) (reason : Option String)
    (latest : Option BindOutcome) : Prop where
  disjoint : adapter = none ∨ reason = none
  missing : ∀ reason', latest = some (.missing reason') → adapter = none
  bound : ∀ adapter', latest = some (.bound adapter') → adapter = some adapter' ∧ reason = none

/-- The step lemma: a bind keeps its node proper exactly if it fits. -/
theorem proper_iff_fits {adapter : Option ExecutorAdapter} {reason : Option String}
    {latest : Option BindOutcome} (h : Proper adapter reason latest) (outcome : BindOutcome) :
    Proper (outcome.adapterAfter adapter) (outcome.reasonAfter reason) (some outcome) ↔
      outcome.Fits adapter reason := by
  cases outcome with
  | missing reason' =>
      constructor
      · exact fun hproper ↦ hproper.missing reason' rfl
      · intro hnone
        exact ⟨.inl hnone, fun _ _ ↦ hnone, by rintro _ ⟨⟩⟩
  | bound adapter' =>
      constructor
      · exact fun hproper ↦ (hproper.bound adapter' rfl).2
      · intro hnone
        refine ⟨.inr hnone, by rintro _ ⟨⟩, ?_⟩
        rintro _ ⟨⟩
        exact ⟨rfl, hnone⟩
  | raised fault =>
      refine iff_of_true ⟨h.disjoint, by rintro _ ⟨⟩, by rintro _ ⟨⟩⟩ trivial

/-! ## All nodes -/

section Nodes

variable {py : Builtins} {environ : Environ} {s : Binding} {registry : ExecutorRegistry}
  {nodeId : String}

theorem mem_bound_iff :
    nodeId ∈ registry.snapshot.bound ↔ registry.adapters.get? nodeId ≠ none := by
  rw [ExecutorRegistry.snapshot, List.mem_insertionSort, ne_eq, Dict.get?_eq_none_iff, not_not]

theorem mem_unbound_iff :
    nodeId ∈ registry.snapshot.unbound.map Prod.fst ↔ registry.reasons.get? nodeId ≠ none := by
  simp only [ExecutorRegistry.snapshot, List.mem_map, List.mem_filterMap, Option.map_eq_some_iff]
  constructor
  · rintro ⟨_, ⟨nodeId, -, reason, hreason, rfl⟩, rfl⟩
    rw [hreason]
    rintro ⟨⟩
  · intro hsome
    obtain ⟨reason, hreason⟩ := Option.ne_none_iff_exists'.mp hsome
    refine ⟨(nodeId, reason), ⟨nodeId, ?_, reason, hreason, rfl⟩, rfl⟩
    rw [List.mem_insertionSort]
    by_contra hnot
    exact hsome (Dict.get?_eq_none_iff.mpr hnot)

/-- Attaching registers the adapters that there are. -/
theorem executors_attach {W : Type} (run : ExecutorAdapter → Executor W)
    (fabric : DispatchFabric W) : (registry.attach run fabric).executors.get? nodeId =
      ((registry.adapters.get? nodeId).map run).or (fabric.executors.get? nodeId) := by
  have hregister : ∀ (fabric : DispatchFabric W) (x : String × ExecutorAdapter),
      (fabric.registerExecutor x.1 (run x.2)).executors.get? nodeId =
        if x.1 = nodeId then some (run x.2) else fabric.executors.get? nodeId := fun fabric x ↦
    Dict.get?_set fabric.executors x.1 nodeId (run x.2)
  refine (foldl_entries (fun fabric ↦ fabric.executors.get? nodeId)
    (fun adapter _ ↦ some (run adapter)) hregister registry.adapters.nodup fabric).trans ?_
  show _ = ((getEntry nodeId registry.adapters.entries).map run).or _
  cases getEntry nodeId registry.adapters.entries <;> rfl

theorem boundOrNot_iff : BoundOrNot s ↔ ∀ nodeId, Proper (s.registry.adapters.get? nodeId)
    (s.registry.reasons.get? nodeId) (s.latest.get? nodeId) := by
  constructor
  · intro h nodeId
    refine ⟨?_, h.missing nodeId, h.bound nodeId⟩
    by_contra hboth
    rw [not_or] at hboth
    exact h.disjoint nodeId (mem_bound_iff.mpr hboth.1) (mem_unbound_iff.mpr hboth.2)
  · intro h
    refine ⟨fun nodeId hbound hunbound ↦ ?_, fun nodeId ↦ (h nodeId).missing,
      fun nodeId reason hlatest W run fabric ↦ ?_, fun nodeId ↦ (h nodeId).bound⟩
    · exact (h nodeId).disjoint.elim (mem_bound_iff.mp hbound) (mem_unbound_iff.mp hunbound)
    · rw [executors_attach, (h nodeId).missing reason hlatest]
      rfl

/-- What a call makes of a node. -/
theorem step_at (call : BindCall) :
    let bind := getEntry nodeId (call.binds py environ)
    (s.step py (environ, call)).registry.adapters.get? nodeId =
        bind.elim (s.registry.adapters.get? nodeId)
          (·.adapterAfter (s.registry.adapters.get? nodeId)) ∧
      (s.step py (environ, call)).registry.reasons.get? nodeId =
        bind.elim (s.registry.reasons.get? nodeId)
          (·.reasonAfter (s.registry.reasons.get? nodeId)) ∧
      (s.step py (environ, call)).latest.get? nodeId =
        bind.elim (s.latest.get? nodeId) some := by
  have hnodup : ((call.binds py environ).map Prod.fst).Nodup := nodup_binds call
  have hregistry : (s.step py (environ, call)).registry =
      (call.binds py environ).foldl ExecutorRegistry.record s.registry := perform_eq call
  rw [hregistry]
  refine ⟨?_, ?_, ?_⟩
  · refine foldl_entries (fun registry ↦ registry.adapters.get? nodeId)
      BindOutcome.adapterAfter (fun registry x ↦ ?_) hnodup s.registry
    obtain ⟨id, outcome⟩ := x
    cases outcome with
    | bound adapter => exact Dict.get?_set registry.adapters id nodeId adapter
    | _ => exact (ite_self _).symm
  · refine foldl_entries (fun registry ↦ registry.reasons.get? nodeId)
      BindOutcome.reasonAfter (fun registry x ↦ ?_) hnodup s.registry
    obtain ⟨id, outcome⟩ := x
    cases outcome with
    | missing reason => exact Dict.get?_set registry.reasons id nodeId reason
    | _ => exact (ite_self _).symm
  · exact foldl_entries (fun latest ↦ latest.get? nodeId) (fun outcome _ ↦ some outcome)
      (fun latest x ↦ Dict.get?_set latest x.1 nodeId x.2) hnodup s.latest

/-- The binds of a call fit what there is of their nodes: none succeeds for a node that has
a reason, and none misses the configuration of a node that has an adapter. -/
def CallFits (py : Builtins) (s : Binding) (x : Environ × BindCall) : Prop :=
  ∀ bind ∈ x.2.binds py x.1, bind.2.Fits (s.registry.adapters.get? bind.1)
    (s.registry.reasons.get? bind.1)

/-- A call keeps the nodes proper exactly if it fits. -/
theorem boundOrNot_step_iff (h : BoundOrNot s) (x : Environ × BindCall) :
    BoundOrNot (s.step py x) ↔ CallFits py s x := by
  obtain ⟨environ, call⟩ := x
  rw [boundOrNot_iff] at h ⊢
  have hnode : ∀ nodeId, Proper ((s.step py (environ, call)).registry.adapters.get? nodeId)
      ((s.step py (environ, call)).registry.reasons.get? nodeId)
      ((s.step py (environ, call)).latest.get? nodeId) ↔
      ∀ outcome, getEntry nodeId (call.binds py environ) = some outcome →
        outcome.Fits (s.registry.adapters.get? nodeId) (s.registry.reasons.get? nodeId) := by
    intro nodeId
    obtain ⟨hadapter, hreason, hlatest⟩ := @step_at py environ s nodeId call
    rw [hadapter, hreason, hlatest]
    cases getEntry nodeId (call.binds py environ) with
    | none => exact iff_of_true (h nodeId) (by rintro _ ⟨⟩)
    | some outcome =>
        rw [Option.elim_some, Option.elim_some, Option.elim_some,
          proper_iff_fits (h nodeId) outcome]
        exact ⟨fun hfits _ e ↦ Option.some.inj e ▸ hfits, fun hfits ↦ hfits outcome rfl⟩
  rw [forall_congr' hnode]
  constructor
  · rintro hfits ⟨nodeId, outcome⟩ hmem
    exact hfits nodeId outcome ((getEntry_eq_some_iff (nodup_binds call)).mpr hmem)
  · intro hfits nodeId outcome hentry
    exact hfits (nodeId, outcome) (mem_of_getEntry hentry)

/-- Every node is bound or not, as its latest bind came out, exactly if each call fits what
is there: nothing ever takes a node back out of one dictionary when it enters the other. -/
theorem bindings_proper_iff (py : Builtins) (is : List (Environ × BindCall)) :
    (ofTotal (Binding.step py)).Always BoundOrNot {} is ↔
      (ofTotal (Binding.step py)).Along (CallFits py) {} is := by
  have hstart : BoundOrNot {} := by
    refine boundOrNot_iff.mpr fun nodeId ↦ ⟨.inl rfl, ?_, ?_⟩
    · rintro _ ⟨⟩
    · rintro _ ⟨⟩
  refine always_iff_along (fun _ h ↦ h) ?_ ?_ hstart
  · intro s x t h hfits hstep
    rw [← ofTotal_eq_some.mp hstep]
    exact (boundOrNot_step_iff h x).mpr hfits
  · intro s x h hmisfit
    exact ⟨s.step py x, rfl, fun hproper ↦ hmisfit ((boundOrNot_step_iff h x).mp hproper)⟩

/-- An environment in which one variable is set. -/
def setting (name value : String) : Environ := fun name' ↦ if name' = name then some value else none

/-- A node that is bound and then bound again without its configuration stays bound. -/
theorem stale_adapter_stays_bound : ¬ ∀ py is,
    (ofTotal (Binding.step py)).Always BoundOrNot {} is := by
  intro h
  have hend := ((h default
    [(setting "GA_ODIN_EXECUTOR_URL" "http://odin:8765",
        .http "ga://node/odin" "GA_ODIN_EXECUTOR_URL" none),
      (fun _ ↦ none, .http "ga://node/odin" "GA_ODIN_EXECUTOR_URL" none)]).2 _ rfl).2 _ rfl
  refine hend.disjoint "ga://node/odin" ?_ ?_
  · decide +kernel
  · decide +kernel

end Nodes

end EstateMesh
