import EstateMesh.Agent.NodeAgent
import EstateMesh.Lib.Machine
import EstateMesh.Resolver.Liveness

/-!
# Rejoining

The loop of a node agent against the live table of the control plane.  The agent
advertises until that succeeds and then sends heartbeats; any call that fails takes
it back to advertising.  Between the two, requests and answers are in flight: they
may be lost or overtaken, and a call that the agent has given up may still arrive.
The control plane sweeps its table, hears from other nodes, and is restarted, which
empties the table.

The agent never learns of a restart.  If its next call is a heartbeat, the control
plane makes a new entry, and that entry has no capabilities
(`covered_iff_remembers`).
-/

namespace EstateMesh

open Lib

/-! ## The two parties -/

/-- What an agent may ask of the control plane. -/
inductive AgentCall
  | advertise (capabilities : List String) (resources : PyDict) (health : String)
      (metadata : PyDict)
  | heartbeat (health : String) (resources : Option PyDict)

/-- The request to advertise. -/
def NodeAgent.advertise (py : Builtins) (environ : Environ) (self : NodeAgent) : AgentCall :=
  .advertise self.capabilities self.resources "online"
    [(.str "agent", .str "GA-HYPERNET-005"),
      (.str "executor_endpoint", .str (self.executorEndpoint py environ))]

/-- The request of a heartbeat. -/
def NodeAgent.heartbeat (self : NodeAgent) : AgentCall := .heartbeat "online" (some self.resources)

/-- The control plane deals with a request of a node: whether it succeeds, and the
resolver that is left. -/
def AgentCall.process (py : Builtins) (now : ℚ) (nodeId : String) (self : GlobalResolver) :
    AgentCall → Bool × GlobalResolver
  | .advertise capabilities resources health metadata =>
      match self.advertise py now nodeId capabilities resources health metadata with
      | .ok (_, next) => (true, next)
      | .error _ => (false, self)
  | .heartbeat health resources =>
      match self.heartbeat py now nodeId health resources with
      | .ok (_, next) => (true, next)
      | .error _ => (false, self)

/-- Where the loop of an agent stands. -/
inductive AgentPhase
  | advertising
  | beating
  | /-- It waits for the outcome of a call. -/ waiting (call : ℕ)
deriving DecidableEq, Repr

/-- The agent, the control plane, and what is on its way between them; a call and
its answer carry the number of the call. -/
structure Rejoin where
  agent : NodeAgent
  phase : AgentPhase := .advertising
  calls : ℕ := 0
  requests : List (ℕ × AgentCall) := []
  answers : List (ℕ × Bool) := []
  resolver : GlobalResolver

/-- What may happen next. -/
inductive RejoinStep
  | /-- The agent makes its next call; for a heartbeat it takes the inventory again. -/
    call (inventory : PyDict)
  | /-- A request is lost. -/ lost (i : ℕ)
  | /-- The control plane deals with a request. -/ processed (now : ℚ) (i : ℕ)
  | /-- The agent gets the answer to its call. -/ answered (i : ℕ)
  | /-- The call of the agent fails without an answer. -/ failed
  | /-- The control plane sweeps the table. -/ expired (now : ℚ) (ttlSeconds : ℤ)
  | /-- The control plane hears from another node. -/
    other (now : ℚ) (nodeId : String) (call : AgentCall)
  | /-- The control plane is restarted. -/ restarted

namespace AgentCall

variable {py : Builtins} {self : GlobalResolver} {now : ℚ} {nodeId : String}

/-- A call touches the entry of its own node only. -/
theorem process_frame (call : AgentCall) :
    (call.process py now nodeId self).2.registries = self.registries ∧
      ∀ id, nodeId ≠ id →
        (call.process py now nodeId self).2.nodes.get? id = self.nodes.get? id := by
  cases call with
  | advertise capabilities resources health metadata =>
      rw [process]
      split
      · rename_i answer next h
        obtain ⟨hregistries, node, declared, -, -, hnodes⟩ := GlobalResolver.nodes_of_advertise h
        refine ⟨hregistries, fun id hid ↦ ?_⟩
        rw [hnodes, Dict.get?_set_of_ne _ hid]
      · exact ⟨rfl, fun _ _ ↦ rfl⟩
  | heartbeat health resources =>
      by_cases hnode : (self.index py .nodes).get? nodeId = none
      · rw [process, GlobalResolver.heartbeat_of_undeclared hnode]
        exact ⟨rfl, fun _ _ ↦ rfl⟩
      · obtain ⟨answer, next, h, hregistries, hnodes⟩ :=
          @GlobalResolver.heartbeat_of_declared py self now nodeId health resources hnode
        rw [process, h]
        refine ⟨hregistries, fun id hid ↦ ?_⟩
        rw [hnodes, Dict.get?_set_of_ne _ hid]

end AgentCall

namespace Rejoin

section Step

variable (py : Builtins) (environ : Environ)

/-- A call of the agent sets out. -/
def send (s : Rejoin) (agent : NodeAgent) (call : AgentCall) : Rejoin :=
  { s with
    agent := agent
    phase := .waiting s.calls
    calls := s.calls + 1
    requests := s.requests ++ [(s.calls, call)] }

/-- The next call of the agent, unless it waits for one. -/
def nextCall (s : Rejoin) (inventory : PyDict) : Option Rejoin :=
  match s.phase with
  | .advertising => some (s.send s.agent (s.agent.advertise py environ))
  | .beating =>
      let agent := { s.agent with resources := inventory }
      some (s.send agent agent.heartbeat)
  | .waiting _ => none

/-- The phase after a call has ended. -/
def afterCall (ok : Bool) : AgentPhase := if ok then .beating else .advertising

/-- The machine of the two parties. -/
def step : Machine Rejoin RejoinStep
  | s, .call inventory => s.nextCall py environ inventory
  | s, .lost i =>
      if i < s.requests.length then some { s with requests := s.requests.eraseIdx i } else none
  | s, .processed now i =>
      match s.requests[i]? with
      | none => none
      | some (n, call) =>
          let outcome := call.process py now s.agent.config.canonicalId s.resolver
          some { s with
            requests := s.requests.eraseIdx i
            answers := s.answers ++ [(n, outcome.1)]
            resolver := outcome.2 }
  | s, .answered i =>
      match s.answers[i]? with
      | none => none
      | some (n, ok) =>
          if s.phase = .waiting n then
            some { s with phase := afterCall ok, answers := s.answers.eraseIdx i }
          else none
  | s, .failed =>
      match s.phase with
      | .waiting _ => some { s with phase := afterCall false }
      | _ => none
  | s, .expired now ttlSeconds =>
      some { s with resolver := (s.resolver.expire now ttlSeconds).2 }
  | s, .other now nodeId call =>
      if nodeId = s.agent.config.canonicalId then none
      else some { s with resolver := (call.process py now nodeId s.resolver).2 }
  | s, .restarted =>
      some { s with resolver := { registries := s.resolver.registries } }

end Step

/-- An agent that starts against a control plane that has just started. -/
def start (agent : NodeAgent) (registries : Registries) : Rejoin where
  agent := agent
  resolver := { registries := registries }

/-! ## What is to be preserved -/

/-- The live entry of the node. -/
def entry (s : Rejoin) : Option NodeState := s.resolver.nodes.get? s.agent.config.canonicalId

/-- What the registry declares for the node. -/
def declared (py : Builtins) (s : Rejoin) : List String :=
  match (s.resolver.index py .nodes).get? s.agent.config.canonicalId with
  | none => []
  | some node =>
      match (node.getD "capabilities" (.list [])).iter with
      | .ok declared => declared.map py.str
      | .error _ => []

/-- The capabilities that the control plane should know of. -/
def expected (py : Builtins) (s : Rejoin) : Finset String :=
  (s.agent.capabilities.map normalizeCapability).toFinset ∪ (s.declared py).toFinset

/-- If the node is online, the control plane knows all of its capabilities. -/
def Covered (py : Builtins) (s : Rejoin) : Prop :=
  ∀ state, s.entry = some state → state.health = "online" → s.expected py ⊆ state.capabilities

/-- The step is a heartbeat that the control plane accepts although its table has no
entry for the node. -/
def Resurrects (py : Builtins) (s : Rejoin) : RejoinStep → Prop
  | .processed _ i =>
      (∃ n health resources, s.requests[i]? = some (n, .heartbeat health resources)) ∧
        s.entry = none ∧ (s.resolver.index py .nodes).get? s.agent.config.canonicalId ≠ none
  | _ => False

/-- The step makes no entry out of a heartbeat, unless there is nothing to know. -/
def Remembers (py : Builtins) (s : Rejoin) (l : RejoinStep) : Prop :=
  s.Resurrects py l → s.expected py = ∅

/-! ## One step -/

variable {py : Builtins} {environ : Environ} {s t : Rejoin} {l : RejoinStep}

/-- A request that the agent has made. -/
def Makes (agent : NodeAgent) : AgentCall → Prop
  | .advertise capabilities _ _ _ => capabilities = agent.capabilities
  | .heartbeat health _ => health = "online"

/-- What holds as long as every heartbeat finds an entry: the control plane knows the
capabilities of the node, and the requests on their way are those of the agent. -/
structure Sound (py : Builtins) (s : Rejoin) : Prop where
  knows : ∀ state, s.entry = some state → s.expected py ⊆ state.capabilities
  makes : ∀ x ∈ s.requests, Makes s.agent x.2

theorem Sound.covered (h : s.Sound py) : s.Covered py := fun state hstate _ ↦ h.knows state hstate

theorem start_sound (agent : NodeAgent) (registries : Registries) :
    (start agent registries).Sound py where
  knows := by
    rintro state ⟨⟩
  makes := by
    rintro x ⟨⟩

/-- What is expected is a matter of the agent and the registries. -/
theorem expected_congr (hconfig : t.agent.config = s.agent.config)
    (hcapabilities : t.agent.capabilities = s.agent.capabilities)
    (hregistries : t.resolver.registries = s.resolver.registries) :
    t.expected py = s.expected py := by
  simp only [expected, declared, GlobalResolver.index, hconfig, hcapabilities, hregistries]

/-- The requests of an agent do not depend on its inventory. -/
theorem Makes.congr {agent agent' : NodeAgent} (h : agent'.capabilities = agent.capabilities)
    {call : AgentCall} (hcall : Makes agent call) : Makes agent' call := by
  cases call with
  | advertise capabilities resources health metadata => exact hcall.trans h.symm
  | heartbeat health resources => exact hcall

/-- A step that only takes requests away, or adds requests of the agent, and leaves
the capabilities in the table as they are. -/
theorem Sound.frame (h : s.Sound py) (hconfig : t.agent.config = s.agent.config)
    (hcapabilities : t.agent.capabilities = s.agent.capabilities)
    (hregistries : t.resolver.registries = s.resolver.registries)
    (hentry : ∀ state, t.entry = some state →
      ∃ before, s.entry = some before ∧ before.capabilities = state.capabilities)
    (hrequests : ∀ x ∈ t.requests, x ∈ s.requests ∨ Makes s.agent x.2) : t.Sound py where
  knows := by
    intro state hstate
    obtain ⟨before, hbefore, heq⟩ := hentry state hstate
    rw [expected_congr hconfig hcapabilities hregistries, ← heq]
    exact h.knows before hbefore
  makes := by
    intro x hx
    rcases hrequests x hx with hx | hx
    · exact (h.makes x hx).congr hcapabilities
    · exact hx.congr hcapabilities

/-- A call of the agent sets out. -/
theorem Sound.send (h : s.Sound py) {agent : NodeAgent} {call : AgentCall}
    (hconfig : agent.config = s.agent.config)
    (hcapabilities : agent.capabilities = s.agent.capabilities) (hcall : Makes s.agent call) :
    (s.send agent call).Sound py := by
  refine h.frame hconfig hcapabilities rfl (fun state hstate ↦ ?_) fun x hx ↦ ?_
  · rw [entry] at hstate ⊢
    rw [← hconfig]
    exact ⟨state, hstate, rfl⟩
  · rcases List.mem_append.mp hx with hx | hx
    · exact .inl hx
    · rw [List.mem_singleton.mp hx]
      exact .inr hcall

/-- What the registry declares for the node is what an advertisement adds. -/
theorem declared_eq {node : PyDict} {declared : List Value}
    (hnode : (s.resolver.index py .nodes).get? s.agent.config.canonicalId = some node)
    (hdeclared : (node.getD "capabilities" (.list [])).iter = .ok declared) :
    s.declared py = declared.map py.str := by
  rw [Rejoin.declared, hnode]
  dsimp only
  rw [hdeclared]

/-- A call of the agent leaves a node that it has an entry for with its capabilities. -/
theorem Sound.processed (h : s.Sound py) {now : ℚ} {call : AgentCall} (hcall : Makes s.agent call)
    (hremembers : ∀ health resources, call = .heartbeat health resources → s.entry = none →
      (s.resolver.index py .nodes).get? s.agent.config.canonicalId ≠ none → s.expected py = ∅)
    {state : NodeState}
    (hstate : (call.process py now s.agent.config.canonicalId s.resolver).2.nodes.get?
      s.agent.config.canonicalId = some state) :
    s.expected py ⊆ state.capabilities := by
  cases call with
  | advertise capabilities resources health metadata =>
      obtain rfl : capabilities = s.agent.capabilities := hcall
      rw [AgentCall.process] at hstate
      split at hstate
      · rename_i answer next hok
        obtain ⟨-, node, declared, hnode, hdeclared, hnodes⟩ :=
          GlobalResolver.nodes_of_advertise hok
        rw [hnodes, Dict.get?_set_self] at hstate
        obtain rfl := Option.some.inj hstate
        rw [expected, declared_eq hnode hdeclared]
      · exact h.knows state hstate
  | heartbeat health resources =>
      by_cases hnode : (s.resolver.index py .nodes).get? s.agent.config.canonicalId = none
      · rw [AgentCall.process, GlobalResolver.heartbeat_of_undeclared hnode] at hstate
        exact h.knows state hstate
      · obtain ⟨answer, next, hok, -, hnodes⟩ :=
          @GlobalResolver.heartbeat_of_declared py s.resolver now s.agent.config.canonicalId health
            resources hnode
        rw [AgentCall.process, hok] at hstate
        dsimp only at hstate
        rw [hnodes, Dict.get?_set_self] at hstate
        obtain rfl := Option.some.inj hstate
        cases hentry : s.entry with
        | none =>
            rw [hremembers health resources rfl hentry hnode]
            exact Finset.empty_subset _
        | some before =>
            have hbefore : s.resolver.nodes.get? s.agent.config.canonicalId = some before := hentry
            rw [hbefore]
            exact h.knows before hentry

theorem Sound.nextCall (h : s.Sound py) {inventory : PyDict}
    (hcall : s.nextCall py environ inventory = some t) : t.Sound py := by
  rw [Rejoin.nextCall] at hcall
  split at hcall
  · obtain rfl := Option.some.inj hcall
    exact h.send rfl rfl rfl
  · obtain rfl := Option.some.inj hcall
    exact h.send rfl rfl rfl
  · cases hcall

/-- The sweep leaves the capabilities alone. -/
theorem Sound.expired (h : s.Sound py) (now : ℚ) (ttlSeconds : ℤ) :
    Sound py { s with resolver := (s.resolver.expire now ttlSeconds).2 } := by
  obtain ⟨hnodes, hregistries⟩ := GlobalResolver.expire_spec s.resolver now ttlSeconds
  refine h.frame rfl rfl hregistries (fun state hstate ↦ ?_) fun x hx ↦ .inl hx
  change (s.resolver.expire now ttlSeconds).2.nodes.get? _ = some state at hstate
  rw [hnodes, Dict.get?_mapValues] at hstate
  obtain ⟨before, hbefore, rfl⟩ := Option.map_eq_some_iff.mp hstate
  exact ⟨before, hbefore, (GlobalResolver.sweep_capabilities _ before).symm⟩

/-- Other nodes have entries of their own. -/
theorem Sound.other (h : s.Sound py) {now : ℚ} {nodeId : String} (call : AgentCall)
    (hid : nodeId ≠ s.agent.config.canonicalId) :
    Sound py { s with resolver := (call.process py now nodeId s.resolver).2 } := by
  obtain ⟨hregistries, hkept⟩ := @AgentCall.process_frame py s.resolver now nodeId call
  refine h.frame rfl rfl hregistries (fun state hstate ↦ ?_) fun x hx ↦ .inl hx
  change (call.process py now nodeId s.resolver).2.nodes.get? _ = some state at hstate
  rw [hkept _ hid] at hstate
  exact ⟨state, hstate, rfl⟩

/-- A step that remembers keeps what the control plane knows. -/
theorem Sound.step (h : s.Sound py) (hl : s.Remembers py l)
    (hstep : Rejoin.step py environ s l = some t) : t.Sound py := by
  have hsame : ∀ state, s.entry = some state →
      ∃ before, s.entry = some before ∧ before.capabilities = state.capabilities :=
    fun state hstate ↦ ⟨state, hstate, rfl⟩
  cases l with
  | call inventory => exact h.nextCall hstep
  | lost i =>
      rw [Rejoin.step] at hstep
      split_ifs at hstep
      obtain rfl := Option.some.inj hstep
      exact h.frame rfl rfl rfl hsame fun x hx ↦ .inl (List.mem_of_mem_eraseIdx hx)
  | processed now i =>
      rw [Rejoin.step] at hstep
      split at hstep
      · cases hstep
      · rename_i n call hcall
        obtain rfl := Option.some.inj hstep
        have hmem := List.mem_of_getElem? hcall
        have hframe := @AgentCall.process_frame py s.resolver now s.agent.config.canonicalId call
        constructor
        · intro state hstate
          refine Eq.trans_subset (expected_congr (s := s) rfl rfl hframe.1) ?_
          refine h.processed (h.makes _ hmem) ?_ hstate
          rintro health resources rfl hentry hnode
          exact hl ⟨⟨n, health, resources, hcall⟩, hentry, hnode⟩
        · exact fun x hx ↦ h.makes x (List.mem_of_mem_eraseIdx hx)
  | answered i =>
      rw [Rejoin.step] at hstep
      split at hstep
      · cases hstep
      · split_ifs at hstep
        obtain rfl := Option.some.inj hstep
        exact h.frame rfl rfl rfl hsame fun x hx ↦ .inl hx
  | failed =>
      rw [Rejoin.step] at hstep
      split at hstep
      · obtain rfl := Option.some.inj hstep
        exact h.frame rfl rfl rfl hsame fun x hx ↦ .inl hx
      · cases hstep
  | expired now ttlSeconds =>
      obtain rfl := Option.some.inj hstep
      exact h.expired now ttlSeconds
  | other now nodeId call =>
      rw [Rejoin.step] at hstep
      split_ifs at hstep with hid
      obtain rfl := Option.some.inj hstep
      exact h.other call hid
  | restarted =>
      obtain rfl := Option.some.inj hstep
      refine h.frame rfl rfl rfl ?_ fun x hx ↦ .inl hx
      rintro state ⟨⟩

/-- A step that does not remember leaves the node online without its capabilities. -/
theorem not_covered_of_not_remembers (h : s.Sound py) (hl : ¬ s.Remembers py l) :
    ∃ t, Rejoin.step py environ s l = some t ∧ ¬ t.Covered py := by
  obtain ⟨hresurrects, hexpected⟩ := Classical.not_imp.mp hl
  cases l with
  | processed now i =>
      obtain ⟨⟨n, health, resources, hcall⟩, hentry, hnode⟩ := hresurrects
      have hhealth : health = "online" := h.makes _ (List.mem_of_getElem? hcall)
      obtain ⟨answer, next, hok, hregistries, hnodes⟩ :=
        @GlobalResolver.heartbeat_of_declared py s.resolver now s.agent.config.canonicalId health
          resources hnode
      have hprocess : AgentCall.process py now s.agent.config.canonicalId s.resolver
          (.heartbeat health resources) = (true, next) := by
        rw [AgentCall.process, hok]
      refine ⟨_, by rw [Rejoin.step, hcall], fun hcovered ↦ hexpected ?_⟩
      rw [hprocess] at hcovered
      have hknows := hcovered (GlobalResolver.beaten now _ health resources none)
        (by
          change next.nodes.get? s.agent.config.canonicalId = _
          rw [hnodes, Dict.get?_set_self]
          exact congrArg some (congrArg _ hentry)) hhealth
      refine Finset.subset_empty.mp (Eq.trans_subset (Eq.symm ?_) hknows)
      exact expected_congr rfl rfl hregistries
  | _ => exact hresurrects.elim

/-! ## Runs -/

/-- The node is covered all along exactly if no heartbeat makes an entry: the runs that
keep the capabilities are those in which every heartbeat finds the entry of the
advertisement. -/
theorem covered_iff_remembers (py : Builtins) (environ : Environ) (agent : NodeAgent)
    (registries : Registries) (ls : List RejoinStep) :
    (Rejoin.step py environ).Always (Covered py) (start agent registries) ls ↔
      (Rejoin.step py environ).Along (Remembers py) (start agent registries) ls :=
  Machine.always_iff_along (fun _ ↦ Sound.covered) (fun _ _ _ h hl hstep ↦ h.step hl hstep)
    (fun _ _ h hl ↦ not_covered_of_not_remembers h hl) (start_sound agent registries)

/-! ## A restart between two heartbeats -/

/-- The registry of one node. -/
def edenRegistries : Registries
  | .nodes => [(.str "nodes", .list [.dict [(.str "canonical_id", .str "ga://node/eden"),
      (.str "capabilities", .list [.str "compute.execute"])]])]
  | _ => []

/-- The agent of that node, without an inventory. -/
def edenAgent : NodeAgent := .init (fun _ ↦ none) ⟨"ga://node/eden", 8765⟩ []

/-- The node advertises, the control plane is restarted, and the next heartbeat
arrives. -/
def restartRun : List RejoinStep :=
  [.call [], .processed 0 0, .answered 0, .restarted, .call [], .processed 30 0]

/-- After the heartbeat the node is online, and it has no capabilities. -/
theorem restart_forgets :
    ¬ (Rejoin.step default fun _ ↦ none).Always (Covered default) (start edenAgent edenRegistries)
      restartRun := by
  intro halways
  have hrun : ((Rejoin.step default fun _ ↦ none).run (start edenAgent edenRegistries)
      restartRun).map (fun t ↦ (t.entry.map fun state ↦ (state.health, state.capabilities),
        decide ("ga://capability/compute.execute" ∈ t.expected default))) =
      some (some ("online", ∅), true) := by decide +kernel
  obtain ⟨t, ht, hview⟩ := Option.map_eq_some_iff.mp hrun
  obtain ⟨hentry, hexpected⟩ := Prod.mk.inj hview
  obtain ⟨state, hstate, hview⟩ := Option.map_eq_some_iff.mp hentry
  obtain ⟨hhealth, hcapabilities⟩ := Prod.mk.inj hview
  have hcovered := Machine.always_iff.mp halways restartRun [] (List.append_nil _).symm t ht
  have hmem := hcovered state hstate hhealth (of_decide_eq_true hexpected)
  rw [hcapabilities] at hmem
  exact absurd hmem (Finset.notMem_empty _)

end Rejoin

end EstateMesh
