import EstateMesh.Lib.Machine
import EstateMesh.Resolver.Reload

/-!
# The dispatch fabric

The life cycle of a dispatch: from the node that the resolver selects, through
the executor of that node, to the five organs that complete its proof.

An executor is code that the fabric does not control.  It sees the record and
otherwise depends on the world at the time of the call, and it returns a result
or raises; it does not change the record.  `execute` is split where the source
calls the executor, into `beginExecute` and `finishExecute`.

Operations that raise return the fabric as they leave it: only `dispatch` can
raise after it has changed something, namely after the resolver has recorded the
resolution.
-/

namespace EstateMesh

open Lib

/-! ## Records -/

/-- The states of a dispatch. -/
inductive DispatchState
  | dispatched | retryable | awaitingExecutor | running | executed | failed
  | verifying | proving | remembering | reconciling | completed
deriving DecidableEq, Repr

/-- The state as it is spelt in a record. -/
def DispatchState.name : DispatchState → String
  | dispatched => "DISPATCHED"
  | retryable => "RETRYABLE"
  | awaitingExecutor => "AWAITING_EXECUTOR"
  | running => "RUNNING"
  | executed => "EXECUTED"
  | failed => "FAILED"
  | verifying => "VERIFYING"
  | proving => "PROVING"
  | remembering => "REMEMBERING"
  | reconciling => "RECONCILING"
  | completed => "COMPLETED"

/-- The organs of the proof chain. -/
inductive Organ
  | seca | devos | proofgrid | thoth | janusPrime
deriving DecidableEq, Repr

/-- The canonical id of an organ. -/
def Organ.name : Organ → String
  | seca => "ga://organ/seca"
  | devos => "ga://organ/devos"
  | proofgrid => "ga://organ/proofgrid"
  | thoth => "ga://organ/thoth"
  | janusPrime => "ga://organ/janus-prime"

/-- The organs in the order in which they prove a dispatch. -/
def proofChain : List Organ := [.seca, .devos, .proofgrid, .thoth, .janusPrime]

/-- `state_by_organ`. -/
def stateByOrgan : Organ → DispatchState
  | .seca => .verifying
  | .devos => .proving
  | .proofgrid => .remembering
  | .thoth => .reconciling
  | .janusPrime => .completed

/-- A dispatch. -/
structure DispatchRecord where
  dispatchId : String
  packetId : String
  capability : String
  source : String
  target : Option String
  route : Option PyDict
  state : DispatchState
  createdAt : ℚ
  updatedAt : ℚ
  payload : PyDict := []
  result : Value := .none
  proofChain : List Organ := []
  error : Option String := none

/-- The stage that the proof of a record waits for. -/
def DispatchRecord.nextProofStage (record : DispatchRecord) : Option Organ :=
  EstateMesh.proofChain[record.proofChain.length]?

/-- The states from which a dispatch may be executed. -/
def DispatchState.isExecutable (state : DispatchState) : Bool :=
  state ∈ [dispatched, retryable]

/-- The states in which a dispatch may be proved. -/
def DispatchState.isProvable (state : DispatchState) : Bool :=
  state ∈ [executed, verifying, proving, remembering, reconciling]

/-- What `snapshot` returns. -/
structure DispatchSnapshot where
  record : DispatchRecord
  nextProofStage : Option Organ

/-! ## Events -/

/-- What an event of the fabric says beside the record it is about. -/
inductive DispatchPayload
  | dispatched (selected : Candidate)
  | awaitingExecutor
  | busy
  | executed (result : Value)
  | raised (error : String)
  | failed (reason : String) (retryable : Bool)
  | stageCompleted (organ : Organ) (evidence : PyDict)
  | completed (chain : List Organ)

namespace DispatchPayload

/-- The type of the event. -/
def eventType : DispatchPayload → EstateEventType
  | dispatched _ => .packetDispatched
  | awaitingExecutor => .awaitingExecutor
  | busy => .workerBusy
  | executed _ => .packetExecuted
  | raised _ | failed _ _ => .packetFailed
  | stageCompleted _ _ => .stageCompleted
  | completed _ => .packetCompleted

/-- The payload as a value. -/
def toValue : DispatchPayload → Value
  | dispatched selected => .object [("selected", selected.toValue)]
  | awaitingExecutor | busy => .object []
  | executed result => .object [("result", result)]
  | raised error => .object [("error", .str error)]
  | failed reason retryable => .object [("error", .str reason), ("retryable", .bool retryable)]
  | stageCompleted organ evidence =>
      .object [("organ", .str organ.name), ("evidence", .dict evidence)]
  | completed chain => .object [("proof_chain", .list (chain.map fun organ ↦ .str organ.name))]

end DispatchPayload

/-- An event of the fabric. -/
structure DispatchEvent where
  timestamp : ℚ
  dispatchId : String
  packetId : String
  source : String
  target : Option String
  payload : DispatchPayload

/-- The event as a value. -/
def DispatchEvent.toValue (event : DispatchEvent) : Value :=
  .object
    [("event_type", .str event.payload.eventType.name),
      ("timestamp", .float (.fin event.timestamp)),
      ("dispatch_id", .str event.dispatchId), ("packet_id", .str event.packetId),
      ("source", .str event.source), ("target", .ofStr? event.target),
      ("payload", event.payload.toValue)]

/-! ## The fabric -/

/-- An executor: a result or the text of an exception, in a world. -/
abbrev Executor (W : Type) := W → DispatchRecord → Except String Value

/-- The fabric. -/
structure DispatchFabric (W : Type) where
  resolver : GlobalResolver
  records : Dict String DispatchRecord := ∅
  executors : Dict String (Executor W) := ∅
  events : List DispatchEvent := []

/-- The parameters of `dispatch`. -/
structure DispatchParams where
  packetId : String
  capability : String
  payload : PyDict := []
  source : String := "ga://organ/packet-os"
  ioClass : String := "PACKET"
  securityClass : Option String := none
  preferLocal : Bool := true
  execute : Bool := false

/-- The resolution that a dispatch asks for. -/
def DispatchParams.resolveParams (params : DispatchParams) : ResolveParams where
  capability := params.capability
  source := some params.source
  ioClass := some params.ioClass
  securityClass := params.securityClass
  preferLocal := params.preferLocal

namespace DispatchFabric

variable {W : Type} (self : DispatchFabric W) (now : ℚ)

/-- `DispatchFabric._get`. -/
def get (dispatchId : String) : Except ResolverFault DispatchRecord :=
  match self.records.get? dispatchId with
  | some record => .ok record
  | none => .error (.resolution ("unknown dispatch " ++ dispatchId) 404)

/-- `DispatchFabric.snapshot`. -/
def snapshot (dispatchId : String) : Except ResolverFault DispatchSnapshot := do
  let record ← self.get dispatchId
  return ⟨record, record.nextProofStage⟩

/-- Record an event, here and in the resolver. -/
def emit (record : DispatchRecord) (payload : DispatchPayload) : DispatchFabric W :=
  let event : DispatchEvent :=
    ⟨now, record.dispatchId, record.packetId, record.source, record.target, payload⟩
  let (_, resolver) := self.resolver.emit now payload.eventType record.source event.toValue
  { self with events := self.events ++ [event], resolver := resolver }

/-- Store a record under an id. -/
def store (dispatchId : String) (record : DispatchRecord) : DispatchFabric W :=
  { self with records := self.records.set dispatchId record }

/-- `DispatchFabric.register_executor`. -/
def registerExecutor (nodeId : String) (executor : Executor W) : DispatchFabric W :=
  { self with executors := self.executors.set nodeId executor }

/-- The part of `execute` before the executor is called: the executor to call, or
none when the record has to wait for one. -/
def beginExecute (dispatchId : String) :
    Except ResolverFault (Option (Executor W) × DispatchFabric W) :=
  match self.get dispatchId with
  | .error e => .error e
  | .ok record =>
      if record.state.isExecutable = false then
        .error (.resolution
          ("dispatch " ++ dispatchId ++ " cannot execute from " ++ record.state.name) 409)
      else
        match self.executors.get? (record.target.getD "") with
        | none =>
            let record := { record with state := .awaitingExecutor, updatedAt := now }
            .ok (none, (self.store dispatchId record).emit now record .awaitingExecutor)
        | some executor =>
            let record := { record with state := .running, updatedAt := now }
            .ok (some executor, (self.store dispatchId record).emit now record .busy)

/-- The part of `execute` after the executor has returned or raised. -/
def finishExecute (dispatchId : String) (outcome : Except String Value) : DispatchFabric W :=
  match self.records.get? dispatchId with
  | none => self
  | some record =>
      match outcome with
      | .ok result =>
          let record := { record with result := result, state := .executed, updatedAt := now }
          (self.store dispatchId record).emit now record (.executed result)
      | .error error =>
          let record :=
            { record with state := .failed, error := some error, updatedAt := now }
          (self.store dispatchId record).emit now record (.raised error)

/-- `DispatchFabric.execute`. -/
def execute (world : W) (dispatchId : String) :
    Except ResolverFault DispatchSnapshot × DispatchFabric W :=
  match self.beginExecute now dispatchId with
  | .error e => (.error e, self)
  | .ok (none, self) => (self.snapshot dispatchId, self)
  | .ok (some executor, self) =>
      match self.get dispatchId with
      | .error e => (.error e, self)
      | .ok record =>
          let self := self.finishExecute now dispatchId (executor world record)
          (self.snapshot dispatchId, self)

/-- `DispatchFabric.complete_stage`. -/
def completeStage (dispatchId organ : String) (evidence : PyDict) :
    Except ResolverFault DispatchSnapshot × DispatchFabric W :=
  match self.get dispatchId with
  | .error e => (.error e, self)
  | .ok record =>
      if record.state.isProvable = false then
        (.error (.resolution
          ("dispatch " ++ dispatchId ++ " is not eligible for proof-chain advancement") 409), self)
      else
        match record.nextProofStage with
        | none => (self.snapshot dispatchId, self)
        | some expected =>
            if organ ≠ expected.name then
              (.error (.resolution ("proof-chain violation: expected " ++ expected.name ++
                ", received " ++ organ) 409), self)
            else
              let record :=
                { record with
                  proofChain := record.proofChain ++ [expected]
                  updatedAt := now
                  state := stateByOrgan expected }
              let self :=
                (self.store dispatchId record).emit now record (.stageCompleted expected evidence)
              let self :=
                if record.state = .completed then
                  self.emit now record (.completed record.proofChain)
                else self
              (self.snapshot dispatchId, self)

/-- `DispatchFabric.fail`. -/
def fail (dispatchId reason : String) (retryable : Bool) :
    Except ResolverFault DispatchSnapshot × DispatchFabric W :=
  match self.get dispatchId with
  | .error e => (.error e, self)
  | .ok record =>
      let record :=
        { record with
          error := some reason
          state := if retryable then .retryable else .failed
          updatedAt := now }
      let self := (self.store dispatchId record).emit now record (.failed reason retryable)
      (self.snapshot dispatchId, self)

/-- The record of a new dispatch to a selected node. -/
def newRecord (uuid : String) (params : DispatchParams) (resolution : Resolution)
    (selected : Candidate) : DispatchRecord where
  dispatchId := "dispatch-" ++ uuid
  packetId := params.packetId
  capability := resolution.capability
  source := params.source
  target := some selected.canonicalId
  route := resolution.route
  state := .dispatched
  createdAt := now
  updatedAt := now
  payload := params.payload

/-- The part of `dispatch` that resolves the capability and creates the record;
the id of the record. -/
def createDispatch (py : Builtins) (uuid : String) (params : DispatchParams) :
    Except ResolverFault String × DispatchFabric W :=
  match self.resolver.resolve py now params.resolveParams with
  | .error e => (.error e, self)
  | .ok (resolution, resolver) =>
      let self := { self with resolver := resolver }
      match resolution.selected with
      | none =>
          (.error (.resolution ("no eligible execution target for " ++ params.capability) 503),
            self)
      | some selected =>
          let record := newRecord now uuid params resolution selected
          let self := self.store record.dispatchId record
          (.ok record.dispatchId, self.emit now record (.dispatched selected))

/-- `DispatchFabric.dispatch`. -/
def dispatch (py : Builtins) (world : W) (uuid : String) (params : DispatchParams) :
    Except ResolverFault DispatchSnapshot × DispatchFabric W :=
  match self.createDispatch now py uuid params with
  | (.error e, self) => (.error e, self)
  | (.ok dispatchId, self) =>
      let self := if params.execute then (self.execute now world dispatchId).2 else self
      (self.snapshot dispatchId, self)

end DispatchFabric

/-! ## The control plane -/

/-- The calls that change the fabric or its resolver. -/
inductive Call (W : Type)
  | dispatch (params : DispatchParams)
  | registerExecutor (nodeId : String) (executor : Executor W)
  | execute (dispatchId : String)
  | completeStage (dispatchId organ : String) (evidence : PyDict)
  | fail (dispatchId reason : String) (retryable : Bool)
  | advertise (canonicalId : String) (capabilities : List String) (resources : PyDict)
      (health : String) (metadata : PyDict)
  | heartbeat (canonicalId health : String) (resources : Option PyDict)
  | expire (ttlSeconds : ℤ)
  | topology
  | resolve (params : ResolveParams)
  | reload (root : RegistryRoot)

/-- A call with what it draws from its environment. -/
structure Request (W : Type) where
  /-- The world that an executor would see. -/
  world : W
  /-- The identifier that a dispatch would mint. -/
  uuid : String
  call : Call W

namespace DispatchFabric

variable {W : Type}

/-- The resolver after an operation on it, unless the operation raised. -/
def withResolver {α : Type} (self : DispatchFabric W)
    (outcome : Except ResolverFault (α × GlobalResolver)) : DispatchFabric W :=
  match outcome with
  | .ok (_, resolver) => { self with resolver := resolver }
  | .error _ => self

/-- The fabric after a call, whether the call returns or raises. -/
def step (py : Builtins) (self : DispatchFabric W) :
    ℚ × Request W → DispatchFabric W
  | (now, ⟨world, uuid, call⟩) =>
      match call with
      | .dispatch params => (self.dispatch now py world uuid params).2
      | .registerExecutor nodeId executor => self.registerExecutor nodeId executor
      | .execute dispatchId => (self.execute now world dispatchId).2
      | .completeStage dispatchId organ evidence =>
          (self.completeStage now dispatchId organ evidence).2
      | .fail dispatchId reason retryable => (self.fail now dispatchId reason retryable).2
      | .advertise canonicalId capabilities resources health metadata =>
          self.withResolver
            (self.resolver.advertise py now canonicalId capabilities resources health metadata)
      | .heartbeat canonicalId health resources =>
          self.withResolver (self.resolver.heartbeat py now canonicalId health resources)
      | .expire ttlSeconds => { self with resolver := (self.resolver.expire now ttlSeconds).2 }
      | .topology => self.withResolver (self.resolver.topology py now)
      | .resolve params => self.withResolver (self.resolver.resolve py now params)
      | .reload root => { self with resolver := self.resolver.reloaded root }

/-- The control plane as a machine. -/
def machine (py : Builtins) (W : Type) : Machine (DispatchFabric W) (ℚ × Request W) :=
  Machine.ofTotal (step py)

/-- A fabric before any call: no live node, no dispatch, no executor. -/
def init (registries : Registries) : DispatchFabric W :=
  { resolver := { registries := registries } }

end DispatchFabric

end EstateMesh
