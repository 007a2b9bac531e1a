import EstateMesh.Lib.Dict
import EstateMesh.Lib.Fallible
import EstateMesh.Python

/-!
# The registries

The six YAML documents of the registry, as the loader returns them: mappings
whose contents nobody has checked.  An item is found through its canonical id,
and where two items share one the later item is the one that is found.
-/

namespace EstateMesh

open Lib

/-- The documents of the registry, in the order in which they are loaded. -/
inductive RegistryFile
  | nodes | organs | capabilities | services | repos | routes
deriving DecidableEq, Repr

/-- The loaded registries. -/
abbrev Registries := RegistryFile → PyDict

/-- The keys under which a document may keep its items. -/
def itemKeys : List String := ["nodes", "organs", "capabilities", "services", "repos", "routes"]

/-- The items of a document: the mappings of its first list. -/
def registryItems (payload : PyDict) : List PyDict :=
  let lists := itemKeys.filterMap fun key ↦
    match payload.get key with
    | .list xs => some xs
    | _ => none
  (lists.headD []).filterMap fun item ↦
    match item with
    | .dict d => some d
    | _ => none

/-- The items of a document by canonical id. -/
def registryIndex (py : Builtins) (payload : PyDict) : Dict String PyDict :=
  Dict.ofList <| (registryItems payload).filterMap fun item ↦
    let canonicalId := item.get "canonical_id"
    if canonicalId.truthy then some (py.str canonicalId, item) else none

/-- What the resolver and the dispatch fabric may raise. -/
inductive ResolverFault
  | /-- `ResolutionError`. -/ resolution (detail : String) (statusCode : ℕ)
  | python (e : PyError)
deriving DecidableEq, Repr

/-- Raise a built-in exception of a pure computation. -/
def liftPython {α : Type} (x : Except PyError α) : Except ResolverFault α :=
  x.mapError .python

theorem of_liftPython {α : Type} {x : Except PyError α} {a : α} (h : liftPython x = .ok a) :
    x = .ok a :=
  eq_ok_of_mapError h

/-! ## Events -/

/-- The types of the events of the estate. -/
inductive EstateEventType
  | nodeOnline | nodeHeartbeat | nodeOffline | routeResolved
  | packetDispatched | awaitingExecutor | workerBusy | packetExecuted | packetFailed
  | stageCompleted | packetCompleted
deriving DecidableEq, Repr

/-- The type as it is spelt in an event. -/
def EstateEventType.name : EstateEventType → String
  | nodeOnline => "estate.node.online"
  | nodeHeartbeat => "estate.node.heartbeat"
  | nodeOffline => "estate.node.offline"
  | routeResolved => "estate.route.resolved"
  | packetDispatched => "estate.packet.dispatched"
  | awaitingExecutor => "estate.worker.awaiting-executor"
  | workerBusy => "estate.worker.busy"
  | packetExecuted => "estate.packet.executed"
  | packetFailed => "estate.packet.failed"
  | stageCompleted => "estate.dispatch.stage-completed"
  | packetCompleted => "estate.packet.completed"

/-- An event of the resolver. -/
structure EstateEvent where
  eventType : EstateEventType
  source : String
  timestamp : ℚ
  payload : Value

/-- The event as a value. -/
def EstateEvent.toValue (event : EstateEvent) : Value :=
  .object
    [("event_type", .str event.eventType.name), ("source", .str event.source),
      ("timestamp", .float (.fin event.timestamp)), ("payload", event.payload)]

end EstateMesh
