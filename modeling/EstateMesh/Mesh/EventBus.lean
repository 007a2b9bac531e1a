import EstateMesh.Models

/-!
# The event bus

The mesh keeps its last events and offers every new one to the queues of its
subscribers.  A queue that is full misses the event; nothing waits for it.
-/

namespace EstateMesh

open Lib

/-- The types of the events that the mesh emits. -/
inductive MeshEventType
  | routeBlocked | routeResolved | invocationStarted | invocationCompleted | invocationFailed
deriving DecidableEq, Repr

/-- The type as it is spelt in an event. -/
def MeshEventType.name : MeshEventType → String
  | routeBlocked => "mesh.route.blocked"
  | routeResolved => "mesh.route.resolved"
  | invocationStarted => "mesh.invocation.started"
  | invocationCompleted => "mesh.invocation.completed"
  | invocationFailed => "mesh.invocation.failed"

/-- An event of the mesh. -/
structure MeshEvent where
  eventId : String
  eventType : MeshEventType
  source : String := "estate.service-mesh"
  occurredAt : String
  correlationId : String
  payload : Value

/-- The event as the event gateway receives it. -/
def MeshEvent.toValue (event : MeshEvent) : Value :=
  .object
    [("event_id", .str event.eventId), ("event_type", .str event.eventType.name),
      ("source", .str event.source), ("occurred_at", .str event.occurredAt),
      ("correlation_id", .str event.correlationId), ("payload", event.payload)]

/-- The event bus.  Subscribers are told apart by a number. -/
structure EventBus where
  maxEvents : ℕ := 1000
  events : List MeshEvent := []
  subscribers : Dict ℕ (List MeshEvent) := ∅

namespace EventBus

/-- The capacity of a subscriber's queue. -/
def queueSize : ℕ := 100

/-- Queue an event unless the queue is full. -/
def putNowait (event : MeshEvent) (queue : List MeshEvent) : List MeshEvent :=
  if queue.length < queueSize then queue ++ [event] else queue

/-- Record an event and offer it to the subscribers. -/
def emit (self : EventBus) (uuid occurredAt : String) (eventType : MeshEventType)
    (correlationId : String) (payload : Value) : MeshEvent × EventBus :=
  let event : MeshEvent :=
    { eventId := "GA-MESH-EVT-" ++ uuid
      eventType := eventType
      occurredAt := occurredAt
      correlationId := correlationId
      payload := payload }
  let events := self.events ++ [event]
  (event,
    { self with
      events := if self.maxEvents < events.length then lastItems self.maxEvents events else events
      subscribers := self.subscribers.mapValues (putNowait event) })

/-- Register a new queue. -/
def subscribe (self : EventBus) (queue : ℕ) : EventBus :=
  { self with subscribers := self.subscribers.set queue [] }

/-- Forget a queue, if it is registered. -/
def unsubscribe (self : EventBus) (queue : ℕ) : EventBus :=
  { self with subscribers := self.subscribers.erase queue }

end EventBus

end EstateMesh
