import EstateMesh.Resolver.Registry
import Mathlib.Data.Finset.Sort
import Mathlib.Data.List.Sort
import Mathlib.Data.String.Basic

/-!
# The global resolver

The live node table over the registries, and the resolution of a capability to
the nodes that can serve it.  Every operation takes the reading of the wall
clock that it uses.  An operation that raises leaves the resolver as it was, so
it returns no resolver.
-/

namespace EstateMesh

open Lib

/-- The live entry of a node. -/
structure NodeState where
  canonicalId : String
  lastSeen : ℚ
  health : String := "online"
  resources : PyDict := []
  capabilities : Finset String := ∅
  metadata : PyDict := []

/-- Whether the sweep at `cutoff` takes a node offline. -/
def NodeState.isExpired (cutoff : ℚ) (state : NodeState) : Bool :=
  state.lastSeen < cutoff ∧ state.health ≠ "offline"

/-- The resolver. -/
structure GlobalResolver where
  registries : Registries
  nodes : Dict String NodeState := ∅
  events : List EstateEvent := []

/-- What `node_snapshot` returns. -/
inductive NodeSnapshot
  | undiscovered (canonicalId : String) (declared : PyDict)
  | live (state : NodeState)

/-- The parameters of `resolve`. -/
structure ResolveParams where
  capability : String
  source : Option String := none
  ioClass : Option String := none
  securityClass : Option String := none
  preferLocal : Bool := true

/-- A node that may serve a capability. -/
structure Candidate where
  canonicalId : String
  score : ℤ
  health : String
  runtime : Value
  location : Value
  transport : Value
  securityClass : Value
  resources : PyDict

/-- The candidate as a value. -/
def Candidate.toValue (c : Candidate) : Value :=
  .object
    [("canonical_id", .str c.canonicalId), ("score", .int c.score), ("health", .str c.health),
      ("runtime", c.runtime), ("location", c.location), ("transport", c.transport),
      ("security_class", c.securityClass), ("resources", .dict c.resources)]

/-- What `resolve` returns. -/
structure Resolution where
  capability : String
  owner : Value
  source : Option String
  route : Option PyDict
  selected : Option Candidate
  candidates : List Candidate
  proof : Value

/-- The order in which a resolution is made. -/
def resolutionOrder : List String :=
  ["authority", "security", "capability", "runtime", "resource", "transport", "proof"]

/-- The resolution as a value. -/
def Resolution.toValue (r : Resolution) : Value :=
  .object
    [("resolution_id", .str "GA-HYPERNET-GLOBAL-RESOLUTION-002"), ("capability", .str r.capability),
      ("owner", r.owner), ("source", .ofStr? r.source),
      ("route", (r.route.map Value.dict).getD .none),
      ("selected", (r.selected.map Candidate.toValue).getD .none),
      ("candidates", .list (r.candidates.map Candidate.toValue)), ("proof", r.proof),
      ("resolution_order", .list (resolutionOrder.map .str))]

/-- `GlobalResolver._normalize_capability`. -/
def normalizeCapability (value : String) : String :=
  if value.startsWith "ga://capability/" then value else "ga://capability/" ++ value

/-- A capability id without its prefix. -/
def shortCapability (capabilityId : String) : String :=
  if capabilityId.startsWith "ga://capability/" then
    (capabilityId.drop "ga://capability/".length).toString
  else capabilityId

namespace GlobalResolver

section Live

variable (py : Builtins) (self : GlobalResolver)

/-- The items of a registry by canonical id. -/
def index (file : RegistryFile) : Dict String PyDict := registryIndex py (self.registries file)

/-- Record an event; the last thousand are kept. -/
def emit (now : ℚ) (eventType : EstateEventType) (source : String) (payload : Value) :
    EstateEvent × GlobalResolver :=
  let event : EstateEvent := ⟨eventType, source, now, payload⟩
  let events := self.events ++ [event]
  (event, { self with events := if 1000 < events.length then lastItems 1000 events else events })

/-- `GlobalResolver.node_snapshot`. -/
def nodeSnapshot (canonicalId : String) : Except ResolverFault NodeSnapshot :=
  match self.nodes.get? canonicalId with
  | some state => .ok (.live state)
  | none =>
      match (self.index py .nodes).get? canonicalId with
      | some declared => .ok (.undiscovered canonicalId declared)
      | none => .error (.resolution ("unknown node " ++ canonicalId) 404)

/-- A node announces itself. -/
def advertise (now : ℚ) (canonicalId : String) (capabilities : List String) (resources : PyDict)
    (health : String) (metadata : PyDict) :
    Except ResolverFault ((NodeSnapshot × EstateEvent) × GlobalResolver) := do
  let some node := (self.index py .nodes).get? canonicalId
    | throw (.resolution ("unknown node " ++ canonicalId) 404)
  let declared ← liftPython (node.getD "capabilities" (.list [])).iter
  let state : NodeState :=
    { canonicalId := canonicalId
      lastSeen := now
      health := health
      resources := resources
      capabilities :=
        (capabilities.map normalizeCapability).toFinset ∪ (declared.map py.str).toFinset
      metadata := metadata }
  let self := { self with nodes := self.nodes.set canonicalId state }
  let (event, self) := self.emit now .nodeOnline canonicalId (.object [("health", .str health)])
  return ((← self.nodeSnapshot py canonicalId, event), self)

/-- A node reports that it is there. -/
def heartbeat (now : ℚ) (canonicalId health : String) (resources : Option PyDict) :
    Except ResolverFault (NodeSnapshot × GlobalResolver) := do
  if ((self.index py .nodes).get? canonicalId).isNone then
    throw (.resolution ("unknown node " ++ canonicalId) 404)
  let state := (self.nodes.get? canonicalId).getD ⟨canonicalId, now, "online", [], ∅, []⟩
  let state :=
    { state with
      lastSeen := now
      health := health
      resources := resources.getD state.resources }
  let self := { self with nodes := self.nodes.set canonicalId state }
  let (_, self) := self.emit now .nodeHeartbeat canonicalId (.object [("health", .str health)])
  return (← self.nodeSnapshot py canonicalId, self)

/-- Take the nodes offline that have not been seen for `ttlSeconds`. -/
def expire (now : ℚ) (ttlSeconds : ℤ) : List String × GlobalResolver :=
  let cutoff := now - ttlSeconds
  let expired := (self.nodes.entries.filter fun x ↦ NodeState.isExpired cutoff x.2).map Prod.fst
  let nodes := self.nodes.mapValues fun state ↦
    if NodeState.isExpired cutoff state then { state with health := "offline" } else state
  (expired, expired.foldl
    (fun self nodeId ↦
      (self.emit now .nodeOffline nodeId (.object [("reason", .str "heartbeat-expired")])).2)
    { self with nodes := nodes })

/-- What `topology` returns. -/
structure Topology where
  nodes : List NodeSnapshot
  events : List EstateEvent

/-- `GlobalResolver.topology`. -/
def topology (now : ℚ) : Except ResolverFault (Topology × GlobalResolver) := do
  let (_, self) := self.expire now 90
  let declared := (self.index py .nodes).keys.insertionSort (· ≤ ·)
  let nodes ← declared.mapM (self.nodeSnapshot py)
  return (⟨nodes, lastItems 100 self.events⟩, self)

end Live

/-! ## Resolution -/

section Resolve

variable (py : Builtins) (self : GlobalResolver)

/-- Whether a node has a capability, declared or live, under either of its names. -/
def serves (capabilityId : String) (declaredCaps : List String) (live : Option NodeState) : Bool :=
  let liveCaps := (live.map NodeState.capabilities).getD ∅
  shortCapability capabilityId ∈ declaredCaps ∨ capabilityId ∈ liveCaps ∨
    shortCapability capabilityId ∈ liveCaps

/-- Whether the security class of a node is acceptable; a class that cannot be
hashed cannot be looked up. -/
def acceptsSecurity (securityClass : Option String) (node : PyDict) : Except PyError Bool :=
  let required := securityClass.getD ""
  let declared := node.get "security_class"
  if required = "" then .ok true
  else if declared.hashable then .ok (declared.isStr required || declared.isStr "mixed")
  else .error .typeError

/-- The health of a node as resolution sees it. -/
def healthOf (live : Option NodeState) : String := (live.map NodeState.health).getD "undiscovered"

/-- Whether resolution may select a node of this health. -/
def isUsable (health : String) : Bool := health ≠ "offline" ∧ health ≠ "failed"

/-- What a node scores for its place among the preferred ones. -/
def preferenceScore (runtimePreference : List Value) (nodeId : String) : ℤ :=
  match runtimePreference.findIdx? (·.isStr nodeId) with
  | some i => max 1 (50 - i * 5)
  | none => 0

/-- A declared node as a candidate, if it is one. -/
def candidateOf (capabilityId : String) (runtimePreference : List Value)
    (securityClass : Option String) (nodeId : String) (node : PyDict) :
    Except PyError (Option Candidate) := do
  let declaredCaps := (← (node.getD "capabilities" (.list [])).iter).map py.str
  let live := self.nodes.get? nodeId
  if serves capabilityId declaredCaps live = false then return none
  if (← acceptsSecurity securityClass node) = false then return none
  let health := healthOf live
  if isUsable health = false then return none
  let resources := (live.map NodeState.resources).getD []
  let capacity ← py.int ((PyDict.getD resources "capacity_score" (.int 0)).or (.int 0))
  let base : ℤ := if health = "online" then 100 else 25
  return some
    { canonicalId := nodeId
      score := base + preferenceScore runtimePreference nodeId + capacity
      health := health
      runtime := node.get "runtime"
      location := node.get "location"
      transport := node.getD "transport" (.list [])
      securityClass := node.get "security_class"
      resources := resources }

/-- `GlobalResolver._candidate_nodes`. -/
def candidateNodes (capabilityId : String) (runtimePreference : List Value)
    (securityClass : Option String) : Except PyError (List Candidate) := do
  let found ← (self.index py .nodes).entries.mapM fun x ↦
    candidateOf py self capabilityId runtimePreference securityClass x.1 x.2
  return found.reduceOption

/-- The order in which candidates are preferred: sovereign-local nodes first if
asked for, then by score. -/
def ranksBefore (preferLocal : Bool) (c d : Candidate) : Prop :=
  let remote (x : Candidate) : ℕ := if x.location.isStr "sovereign-local" then 0 else 1
  if preferLocal then remote c < remote d ∨ remote c = remote d ∧ d.score ≤ c.score
  else d.score ≤ c.score

instance (preferLocal : Bool) : DecidableRel (ranksBefore preferLocal) := fun _ _ ↦
  inferInstanceAs (Decidable (if preferLocal then _ else _))

/-- Keep the routes of the source, if it has any. -/
def fromSource (source : Option String) (routes : List PyDict) : List PyDict :=
  let exact := routes.filter fun route ↦ (route.get "source").isStr (source.getD "")
  if source.getD "" = "" ∨ exact = [] then routes else exact

/-- Keep the routes that accept an input class. -/
def accepting (ioClass : Option String) (routes : List PyDict) : Except PyError (List PyDict) :=
  if ioClass.getD "" = "" then .ok routes
  else do
    let accepted ← routes.mapM fun route ↦ do
      let accepts ← ((route.get "accepts").or (.list [])).containsStr (py.upper (ioClass.getD ""))
      return if accepts then some route else none
    return accepted.reduceOption

/-- The runtimes that the routes prefer, each once. -/
def preferredRuntimes (routes : List PyDict) : Except PyError (List Value) := do
  let preferences ← routes.mapM fun route ↦ ((route.get "runtime_preference").or (.list [])).iter
  fromKeys preferences.flatten

/-- The routes of a capability that resolution considers. -/
def matchingRoutes (capabilityId : String) (source ioClass : Option String) :
    Except PyError (List PyDict) :=
  accepting py ioClass <| fromSource source <|
    (self.index py .routes).values.filter fun route ↦ (route.get "capability").isStr capabilityId

/-- `GlobalResolver.resolve`. -/
def resolve (now : ℚ) (params : ResolveParams) :
    Except ResolverFault (Resolution × GlobalResolver) := do
  let capabilityId := normalizeCapability params.capability
  let some spec := (self.index py .capabilities).get? capabilityId
    | throw (.resolution ("unknown capability " ++ capabilityId) 404)
  let matching ← liftPython (matchingRoutes py self capabilityId params.source params.ioClass)
  let runtimePreference ← liftPython (preferredRuntimes matching)
  let found ←
    liftPython (candidateNodes py self capabilityId runtimePreference params.securityClass)
  let candidates := found.insertionSort (ranksBefore params.preferLocal)
  let route := matching.head?
  let result : Resolution :=
    { capability := capabilityId
      owner := spec.get "owner"
      source := params.source
      route := route
      selected := candidates.head?
      candidates := candidates
      proof := (route.getD []).getD "proof" (.str "ga://organ/proofgrid") }
  let origin := if params.source.getD "" = "" then "ga://organ/crowngrid" else params.source.getD ""
  let (_, self) := self.emit now .routeResolved origin result.toValue
  return (result, self)

end Resolve

end GlobalResolver

end EstateMesh
