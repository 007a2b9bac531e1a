import EstateMesh.Dispatch.Server
import EstateMesh.Executors.ExecutorRegistry
import EstateMesh.Mesh.Engine
import EstateMesh.Mesh.Recovery
import EstateMesh.Resolver.Reload
import EstateMesh.RuntimeEvidence.Harvest

/-!
# The endpoints

One process serves the mesh, the resolver and the dispatch fabric.  An endpoint returns a
document, raises an `HTTPException` in place of the fault of the component behind it, or lets
another exception through, which the framework answers as an internal error.  The framework
also writes the documents, and what it cannot write is an internal error too: `transmit` is the
document as a client reads it, if it can be written.

Here are the endpoints that a harvest of the evidence probes, the paths they are served at, and
the machine of the whole process, in which probes and other traffic interleave.
-/

namespace EstateMesh

open Lib

/-! ## Documents -/

/-- The status as it is spelt in a snapshot. -/
def CircuitStatus.name : CircuitStatus → String
  | closed => "closed"
  | opened => "open"
  | halfOpen => "half-open"

/-- The snapshot of a circuit as a value. -/
def CircuitSnapshot.toValue (circuit : CircuitSnapshot) : Value :=
  .object
    [("service_id", .str circuit.serviceId), ("failures", .int circuit.failures),
      ("state", .str circuit.state.name),
      ("opened_at", (circuit.openedAt.map fun t ↦ Value.float (.fin t)).getD .none)]

/-- The snapshot of the executor registry as a value. -/
def RegistrySnapshot.toValue (snapshot : RegistrySnapshot) : Value :=
  .object
    [("bound", .list (snapshot.bound.map .str)),
      ("unbound", .object (snapshot.unbound.map fun x ↦ (x.1, .str x.2)))]

/-- The snapshot of a node as a value. -/
def NodeSnapshot.toValue : NodeSnapshot → Value
  | undiscovered canonicalId declared => .object
      [("canonical_id", .str canonicalId), ("health", .str "undiscovered"),
        ("declared", .dict declared)]
  | live state => .object
      [("canonical_id", .str state.canonicalId), ("health", .str state.health),
        ("last_seen", .float (.fin state.lastSeen)), ("resources", .dict state.resources),
        ("capabilities", .list ((state.capabilities.sort (· ≤ ·)).map .str)),
        ("metadata", .dict state.metadata)]

/-- The topology of the nodes as a value. -/
def GlobalResolver.Topology.toValue (topology : GlobalResolver.Topology) : Value :=
  .object
    [("resolution_id", .str "GA-HYPERNET-GLOBAL-RESOLUTION-002"),
      ("nodes", .list (topology.nodes.map NodeSnapshot.toValue)),
      ("events", .list (topology.events.map EstateEvent.toValue))]

/-- The snapshot of a dispatch as a value. -/
def DispatchSnapshot.toValue (snapshot : DispatchSnapshot) : Value :=
  let record := snapshot.record
  .object
    [("resolution_id", .str "GA-HYPERNET-GLOBAL-RESOLUTION-003"),
      ("dispatch_id", .str record.dispatchId), ("packet_id", .str record.packetId),
      ("capability", .str record.capability), ("source", .str record.source),
      ("target", .ofStr? record.target), ("route", (record.route.map Value.dict).getD .none),
      ("state", .str record.state.name), ("payload", .dict record.payload),
      ("result", record.result),
      ("proof_chain", .list (record.proofChain.map fun organ ↦ .str organ.name)),
      ("next_proof_stage", .ofStr? (snapshot.nextProofStage.map Organ.name)),
      ("error", .ofStr? record.error), ("created_at", .float (.fin record.createdAt)),
      ("updated_at", .float (.fin record.updatedAt))]

/-- What `DispatchFabric.topology` returns. -/
structure DispatchTopology where
  activeDispatches : List DispatchSnapshot
  executors : List String
  events : List DispatchEvent

/-- `DispatchFabric.topology`. -/
def DispatchFabric.topology {W : Type} (self : DispatchFabric W) :
    Except ResolverFault DispatchTopology := do
  let activeDispatches ← (self.records.keys.insertionSort (· ≤ ·)).mapM self.snapshot
  return ⟨activeDispatches, self.executors.keys.insertionSort (· ≤ ·), lastItems 100 self.events⟩

/-- The topology of the fabric as a value, with the bindings of the executors. -/
def DispatchTopology.toValue (topology : DispatchTopology) (bindings : RegistrySnapshot) : Value :=
  .object
    [("resolution_id", .str "GA-HYPERNET-GLOBAL-RESOLUTION-003"),
      ("active_dispatches", .list (topology.activeDispatches.map DispatchSnapshot.toValue)),
      ("executors", .list (topology.executors.map .str)),
      ("events", .list (topology.events.map DispatchEvent.toValue)),
      ("executor_bindings", bindings.toValue)]

/-! ## Answers -/

/-- What an endpoint does. -/
inductive Answer
  | returned (body : Value)
  | /-- An `HTTPException`. -/ httpException (statusCode : ℕ) (detail : Value)
  | /-- Another exception. -/ raised

/-- `_raise_resolution`, for the faults that are a `ResolutionError`. -/
def raiseResolution : ResolverFault → Answer
  | .resolution detail statusCode => .httpException statusCode (.str detail)
  | .python _ => .raised

/-- The answer of an endpoint that returns what an operation returns. -/
def answerOf {α : Type} (toValue : α → Value) : Except ResolverFault α → Answer
  | .ok outcome => .returned (toValue outcome)
  | .error fault => raiseResolution fault

/-- What a client that expects JSON makes of an internal error. -/
def internalError : Runtime.Exchange :=
  .refused 500 (.object [("raw", .str "Internal Server Error")])

/-- What an answer comes to for a client.  The exceptions have statuses from 400 on. -/
def Answer.exchange (transmit : Value → Option Value) : Answer → Runtime.Exchange
  | returned body => ((transmit body).map (.answered 200)).getD internalError
  | httpException statusCode detail =>
      ((transmit (.object [("detail", detail)])).map (.refused statusCode)).getD internalError
  | raised => internalError

/-! ## The process -/

/-- The process: the engine of the mesh, the resolver and the fabric, and the bindings of the
executors. -/
structure ControlPlane (W : Type) where
  /-- `ENGINE`, as it was set up. -/
  config : MeshConfig
  /-- `ENGINE`, as it is. -/
  engine : MeshState := {}
  /-- `RESOLVER` and `DISPATCH`. -/
  pool : Pool W
  /-- `EXECUTORS`. -/
  executors : ExecutorRegistry := {}

namespace ControlPlane

section Read

variable {W : Type} (r : Renderer) (py : Builtins) (self : ControlPlane W)

/-- The resolver of the process. -/
abbrev resolver : GlobalResolver := self.pool.fabric.resolver

/-- `health`. -/
def health : Answer :=
  match validate r py self.resolver.registries, self.engine.circuits.snapshot with
  | .ok validation, .ok circuits => .returned <| .object
      [("status", .str (if validation.status = "pass" then "ok" else "degraded")),
        ("service", .str "estate.service-mesh"), ("registry_url", .str self.config.registryUrl),
        ("policies", .int self.engine.policies.entries.length),
        ("events", .int self.engine.events.events.length),
        ("circuits", .list (circuits.map CircuitSnapshot.toValue)),
        ("service_identity_signing", .bool (self.config.sharedSecret ≠ "")),
        ("global_resolution", validation.toValue r),
        ("dispatch_fabric", .str "GA-HYPERNET-GLOBAL-RESOLUTION-004"),
        ("dispatches", .int self.pool.fabric.records.entries.length),
        ("executors", self.executors.snapshot.toValue)]
  | _, _ => .raised

/-- `ready`. -/
def ready : Answer :=
  match validate r py self.resolver.registries with
  | .error _ => .raised
  | .ok validation =>
      if validation.status ≠ "pass" then .httpException 503 (validation.toValue r)
      else .returned <| .object
        [("status", .str "ready"), ("service", .str "estate.service-mesh"),
          ("resolver", .str "GA-HYPERNET-GLOBAL-RESOLUTION-004"),
          ("executors", self.executors.snapshot.toValue)]

/-- `executor_topology`. -/
def executorTopology : Answer := .returned self.executors.snapshot.toValue

/-- `global_events`. -/
def globalEvents : Answer :=
  .returned (.object [("items", .list (self.resolver.events.map EstateEvent.toValue))])

/-- `dispatch_topology`. -/
def dispatchTopology : Answer :=
  answerOf (·.toValue self.executors.snapshot) self.pool.fabric.topology

end Read

variable {W : Type}

/-- The process with another fabric. -/
def withFabric (self : ControlPlane W) (fabric : DispatchFabric W) : ControlPlane W :=
  { self with pool := { self.pool with fabric := fabric } }

/-- `global_topology`. -/
def globalTopology (py : Builtins) (self : ControlPlane W) (now : ℚ) : Answer × ControlPlane W :=
  let outcome := self.resolver.topology py now
  (answerOf GlobalResolver.Topology.toValue (outcome.map Prod.fst),
    self.withFabric (self.pool.fabric.withResolver outcome))

/-- `dispatch`, for a packet that is not to be executed. -/
def dispatch (py : Builtins) (self : ControlPlane W) (now : ℚ) (uuid : String)
    (params : DispatchParams) : Answer × ControlPlane W :=
  let (created, fabric) := self.pool.fabric.createDispatch now py uuid params
  (answerOf DispatchSnapshot.toValue (created >>= fabric.snapshot), self.withFabric fabric)

end ControlPlane

/-! ## Probes -/

/-- What a harvest asks for. -/
inductive ProbeRequest
  | health | ready | executors | topology | events | dispatches
  | /-- The canary, with the id of its packet. -/ canary (packetId : String)

namespace ProbeRequest

/-- The name of the probe in the evidence profile. -/
def name : ProbeRequest → String
  | health => "health"
  | ready => "ready"
  | executors => "executors"
  | topology => "topology"
  | events => "events"
  | dispatches => "dispatches"
  | canary _ => "safe_canary"

/-- Where the endpoint is served. -/
def route : ProbeRequest → String
  | health => "/health"
  | ready => "/ready"
  | executors => "/v1/executors"
  | topology => "/v1/global/topology"
  | events => "/v1/global/events"
  | dispatches | canary _ => "/v1/dispatch"

/-- The dispatch that the evidence profile asks for. -/
def canaryParams (packetId : String) : DispatchParams where
  packetId := packetId
  capability := "model.infer"
  payload :=
    [(.str "intent", .str "hypernet-conformance-canary"), (.str "destructive", .bool false)]
  source := "ga://organ/janus-prime"
  ioClass := "PACKET"

variable {W : Type}

/-- The answer to a probe, and what it leaves behind. -/
def answer (r : Renderer) (py : Builtins) (self : ControlPlane W) (now : ℚ) (uuid : String) :
    ProbeRequest → Answer × ControlPlane W
  | health => (self.health r py, self)
  | ready => (self.ready r py, self)
  | executors => (self.executorTopology, self)
  | topology => self.globalTopology py now
  | events => (self.globalEvents, self)
  | dispatches => (self.dispatchTopology, self)
  | canary packetId => self.dispatch py now uuid (canaryParams packetId)

/-- A probe that finds the identifier it would mint new, if it mints one. -/
def isFresh (self : ControlPlane W) (uuid : String) : ProbeRequest → Bool
  | canary _ => (self.pool.fabric.records.get? (DispatchFabric.mintedId uuid)).isNone
  | _ => true

end ProbeRequest

/-! ## The machine -/

/-- What happens to the process. -/
inductive PlaneLabel (W : Type)
  | server (label : ServerLabel W)
  | setPolicy (capabilityId : String) (policy : MeshPolicy)
  | resetCircuit (serviceId : String)
  | /-- An operation of a resolution or an invocation of the mesh. -/
    engine (host : Host) (op : MeshOp)
  | /-- A probe, with the identifier that it would mint. -/
    probe (request : ProbeRequest) (uuid : String)

/-- The process as a machine. -/
def planeStep {W : Type} (r : Renderer) (py : Builtins) :
    Machine (ControlPlane W) (ℚ × PlaneLabel W)
  | self, (now, .server label) =>
      (serverStep py self.pool (now, label)).map fun pool ↦ { self with pool := pool }
  | self, (_, .setPolicy capabilityId policy) =>
      some { self with engine := self.engine.setPolicy capabilityId policy }
  | self, (_, .resetCircuit serviceId) =>
      some { self with engine :=
        { self.engine with circuits := self.engine.circuits.reset serviceId } }
  | self, (_, .engine host op) =>
      some { self with engine := (MeshEngine.perform host self.engine op).2 }
  | self, (now, .probe request uuid) =>
      if request.isFresh self uuid then some (request.answer r py self now uuid).2 else none

end EstateMesh
