import EstateMesh.Lib.Fallible
import EstateMesh.Lib.Prog
import EstateMesh.Mesh.CircuitBreaker
import EstateMesh.Mesh.EventBus

/-!
# The mesh engine

`resolve` and `invoke` as programs over the operations they perform: reading a
clock, asking the breaker, emitting an event, exchanging a message with the
registry, a provider or the event gateway.  The three exchanges are the places
where the source awaits; everything else happens without giving up the event
loop.

The programs are the same for every way of answering the operations.  `perform`
is the one that the engine uses: it answers from the state of the engine and
from a `Host`, the readings that the environment supplies.
-/

namespace EstateMesh

open Lib

/-! ## Exchanges -/

/-- The classes of the HTTP client's exceptions that the source can tell apart. -/
inductive HttpxClass
  | timeoutException | networkError | protocolError | proxyError | unsupportedProtocol
  | /-- Another `HTTPError`, such as a decoding error. -/ httpError
  | /-- Not an `HTTPError`. -/ invalidURL
  | /-- A built-in exception, raised by the client because it cannot encode a header or a
    body. -/ encoding
deriving DecidableEq, Repr

/-- An exception of the HTTP client. -/
structure HttpxError where
  /-- The class that decides which clauses catch it. -/
  cls : HttpxClass
  /-- `exc.__class__.__name__`. -/
  className : String
deriving DecidableEq, Repr

namespace HttpxError

/-- Instances of `httpx.HTTPError`. -/
def isHTTPError (e : HttpxError) : Bool := e.cls ≠ .invalidURL ∧ e.cls ≠ .encoding

/-- Instances of `httpx.TimeoutException` or `httpx.NetworkError`. -/
def isTimeoutOrNetwork (e : HttpxError) : Bool :=
  match e.cls with
  | .timeoutException | .networkError => true
  | _ => false

/-- Timeouts and network errors are `HTTPError`s. -/
theorem not_timeoutOrNetwork (e : HttpxError) (h : ¬ e.isHTTPError = true) :
    e.isTimeoutOrNetwork = false := by
  obtain ⟨cls, className⟩ := e
  cases cls <;> simp_all [isHTTPError, isTimeoutOrNetwork]

end HttpxError

/-- A response. -/
structure Response where
  statusCode : ℕ
  /-- The header `content-type`. -/
  contentType : Option String := none
  content : List UInt8 := []
  /-- `response.json()`. -/
  json : Except PyError Value := .error .decodeError

/-- A request to a provider. -/
structure UpstreamRequest where
  method : Method
  url : String
  params : Dict String String
  headers : Dict String String
  json : Value
  timeout : ℚ

/-- What an engine call may raise. -/
inductive Fault
  | /-- `MeshError`. -/ mesh (statusCode : ℕ) (detail : String)
  | httpx (e : HttpxError)
  | /-- A built-in exception of the engine. -/ python (e : PyError)
  | /-- What the JSON decoder raises on the body of a provider's response. -/ body (e : PyError)
deriving DecidableEq, Repr

/-! ## Operations -/

/-- What the engine does to the world. -/
inductive MeshOp
  | /-- `uuid.uuid4().hex[:16]`. -/ uuid
  | /-- `time.time()`. -/ time
  | /-- `time.monotonic()`. -/ monotonic
  | getPolicy (capabilityId : String)
  | canAttempt (service : ServiceKey) (policy : MeshPolicy)
  | success (service : ServiceKey)
  | failure (service : ServiceKey) (policy : MeshPolicy)
  | emit (eventType : MeshEventType) (correlationId : String) (payload : Value)
  | /-- Post to the registry. -/ registry (url : String) (json : Value)
  | /-- Post to the event gateway. -/ publish (url : String) (json : Value)
  | /-- Send a request to a provider. -/ upstream (service : ServiceKey) (request : UpstreamRequest)

namespace MeshOp

/-- The answers to the operations. -/
@[reducible] def Ans : MeshOp → Type
  | uuid => String
  | time | monotonic => ℚ
  | getPolicy _ => MeshPolicy
  | canAttempt _ _ => Bool
  | success _ | failure _ _ => Unit
  | emit _ _ _ => MeshEvent
  | registry _ _ | publish _ _ | upstream _ _ => Except HttpxError Response

/-- The operations at which the source awaits. -/
def awaits : MeshOp → Bool
  | registry _ _ | publish _ _ | upstream _ _ => true
  | _ => false

end MeshOp

/-- Programs of the engine. -/
abbrev MeshM (α : Type) := Prog MeshOp MeshOp.Ans Fault α

namespace MeshM

abbrev uuid : MeshM String := Prog.perform MeshOp.uuid
abbrev time : MeshM ℚ := Prog.perform MeshOp.time
abbrev monotonic : MeshM ℚ := Prog.perform MeshOp.monotonic
abbrev getPolicy (capabilityId : String) : MeshM MeshPolicy :=
  Prog.perform (MeshOp.getPolicy capabilityId)
abbrev canAttempt (service : ServiceKey) (policy : MeshPolicy) : MeshM Bool :=
  Prog.perform (MeshOp.canAttempt service policy)
abbrev success (service : ServiceKey) : MeshM Unit := Prog.perform (MeshOp.success service)
abbrev failure (service : ServiceKey) (policy : MeshPolicy) : MeshM Unit :=
  Prog.perform (MeshOp.failure service policy)
abbrev emit (eventType : MeshEventType) (correlationId : String) (payload : Value) :
    MeshM MeshEvent :=
  Prog.perform (MeshOp.emit eventType correlationId payload)
abbrev registry (url : String) (json : Value) : MeshM (Except HttpxError Response) :=
  Prog.perform (MeshOp.registry url json)
abbrev publish (url : String) (json : Value) : MeshM (Except HttpxError Response) :=
  Prog.perform (MeshOp.publish url json)
abbrev upstream (service : ServiceKey) (request : UpstreamRequest) :
    MeshM (Except HttpxError Response) :=
  Prog.perform (MeshOp.upstream service request)

/-- Raise a built-in exception of a pure computation. -/
def lift {α : Type} : Except PyError α → MeshM α
  | .ok a => .ret a
  | .error e => .raise (.python e)

/-- Raise an exception of the decoder of a body. -/
def liftBody {α : Type} : Except PyError α → MeshM α
  | .ok a => .ret a
  | .error e => .raise (.body e)

end MeshM

/-! ## Configuration -/

/-- What the constructor fixes. -/
structure MeshConfig where
  registryUrl : String
  eventGatewayUrl : String := ""
  sharedSecret : String := ""
  maxCaptureBytes : ℕ := 65536

/-- `MeshEngine.__init__`. -/
def MeshConfig.init (registryUrl eventGatewayUrl sharedSecret : String) (maxCaptureBytes : ℤ) :
    MeshConfig where
  registryUrl := rstripSlash registryUrl
  eventGatewayUrl := rstripSlash eventGatewayUrl
  sharedSecret := sharedSecret
  maxCaptureBytes := (max 1024 (min maxCaptureBytes 1048576)).toNat

/-! ## Results -/

/-- A service that is called: its id, as the registry has it, and the key of its circuit. -/
structure Service where
  id : Value
  key : ServiceKey

/-- What `resolve` returns. -/
structure MeshResolution where
  correlationId : String
  capabilityId : String
  environment : String
  selected : Value
  candidates : List Value
  policy : MeshPolicy
  resolution : String := "ghost-atlas-mesh-v1"

/-- An entry of the list of attempts. -/
inductive Attempt
  | openCircuitSkip (serviceId : Value)
  | answered (serviceId : Value) (attempt statusCode : ℕ) (latencyMs : ℚ) (result : String)
  | raised (serviceId : Value) (attempt : ℕ) (result : String)
deriving Repr

/-- The entry as it appears in events and results. -/
def Attempt.toValue : Attempt → Value
  | openCircuitSkip s =>
      .object [("service_id", s), ("result", .str "open-circuit-skip")]
  | answered s n code latency result =>
      .object [("service_id", s), ("attempt", .int n), ("status_code", .int code),
        ("latency_ms", .float (.fin latency)), ("result", .str result)]
  | raised s n result =>
      .object [("service_id", s), ("attempt", .int n), ("result", .str result)]

/-- What `invoke` returns. -/
structure InvokeResult where
  correlationId : String
  capabilityId : String
  provider : Value
  endpoint : String
  statusCode : ℕ
  contentType : String
  body : Value
  attempts : List Attempt
  mesh : String := "ghost-atlas-mesh-v1"

namespace MeshEngine

/-! ## Requests to the registry -/

section Registry

variable (cfg : MeshConfig)

/-- The correlation id of a call: the supplied one, or a fresh one. -/
def correlationId (supplied : Option String) : MeshM String :=
  if supplied.getD "" = "" then do return "GA-MESH-RUN-" ++ (← MeshM.uuid)
  else return supplied.getD ""

/-- Ask the registry for the providers of a capability, in its order. -/
def registryCandidates (request : ResolveRequest) (policy : MeshPolicy) :
    MeshM (List Value) := do
  let outcome ← MeshM.registry (cfg.registryUrl ++ "/v1/resolve")
    (.object [("capability_id", .str request.capabilityId),
      ("environment", .str request.environment), ("allow_degraded", .bool policy.allowDegraded)])
  match outcome with
  | .error e =>
      if e.isHTTPError then throw (.mesh 503 ("registry unavailable: " ++ e.className))
      else throw (.httpx e)
  | .ok response =>
      if response.statusCode = 404 then throw (.mesh 404 "capability not registered")
      else if 400 ≤ response.statusCode then
        throw (.mesh 503 "no health-qualified runtime provider available")
      else
        match response.json with
        | .error e => throw (.python e)
        | .ok payload => do
            let candidates ← MeshM.lift (payload.getD "candidates" (.list []))
            match candidates with
            | .list (c :: cs) => return c :: cs
            | _ => throw (.mesh 503 "registry returned no runtime candidates")

/-- `candidate["service"]["id"]`. -/
def candidateId (candidate : Value) : Except PyError Value := do
  (← candidate.getItem "service").getItem "id"

/-- A service id as a key of the breaker. -/
def serviceKey : Value → Except PyError ServiceKey
  | .none => .ok .none
  | .bool b => .ok (.number (if b then 1 else 0))
  | .int i => .ok (.number i)
  | .float (.fin q) => .ok (.number q)
  | .float (.inf negative) => .ok (.infinity negative)
  | .float .nan => .ok .nan
  | .str s => .ok (.str s)
  -- lists and objects cannot be hashed, and an answer of the registry has nothing else
  | _ => .error .typeError

/-- The service of a candidate. -/
def candidateService (candidate : Value) : Except PyError Service := do
  let id ← candidateId candidate
  return ⟨id, ← serviceKey id⟩

end Registry

/-! ## Resolution -/

/-- Split the candidates by what the breaker says of their services. -/
def partitionCandidates (policy : MeshPolicy) :
    List Value → List Value → List Value → MeshM (List Value × List Value)
  | [], eligible, blocked => return (eligible, blocked)
  | candidate :: candidates, eligible, blocked => do
      let serviceId ← MeshM.lift (candidateId candidate)
      let key ← MeshM.lift (serviceKey serviceId)
      if ← MeshM.canAttempt key policy then
        partitionCandidates policy candidates (eligible ++ [candidate]) blocked
      else partitionCandidates policy candidates eligible (blocked ++ [serviceId])

/-- `MeshEngine.resolve`. -/
def resolve (cfg : MeshConfig) (request : ResolveRequest) : MeshM MeshResolution := do
  let correlationId ← correlationId request.correlationId
  let policy ← MeshM.getPolicy request.capabilityId
  let candidates ← registryCandidates cfg request policy
  let (eligible, blocked) ← partitionCandidates policy candidates [] []
  match eligible with
  | [] => do
      let _ ← MeshM.emit .routeBlocked correlationId
        (.object [("capability_id", .str request.capabilityId),
          ("blocked_by_open_circuit", .list blocked)])
      throw (.mesh 503 "all health-qualified providers are blocked by open circuits")
  | selected :: _ => do
      let selectedService ← MeshM.lift (candidateId selected)
      let _ ← MeshM.emit .routeResolved correlationId
        (.object [("capability_id", .str request.capabilityId),
          ("environment", .str request.environment), ("selected_service", selectedService),
          ("candidate_count", .int eligible.length), ("open_circuit_skips", .list blocked)])
      pure
        { correlationId := correlationId
          capabilityId := request.capabilityId
          environment := request.environment
          selected := selected
          candidates := eligible
          policy := policy }

/-! ## Invocation -/

section Invoke

variable (py : Builtins) (cfg : MeshConfig)

/-- The headers that identify the caller, given the text of the present time. -/
def identityHeaders (caller correlationId timestamp : String) (method : Method) (url : String) :
    Dict String String :=
  let headers := Dict.ofList
    [("x-ga-caller-service", caller), ("x-ga-correlation-id", correlationId),
      ("x-ga-mesh-timestamp", timestamp)]
  if cfg.sharedSecret = "" then headers
  else
    let canonical := "\n".intercalate [caller, correlationId, timestamp, method.name, url]
    headers.set "x-ga-mesh-signature" ("sha256=" ++ py.hmacSha256 cfg.sharedSecret canonical)

/-- Where a candidate is called. -/
def targetUrl (endpoint : Value) (path : String) : Except PyError String :=
  match endpoint with
  | .str e => .ok (if path = "" then e else rstripSlash e ++ "/" ++ lstripSlash path)
  -- without a path the endpoint reaches the HTTP client, which insists on a string
  | _ => .error (if path = "" then .typeError else .attributeError)

/-- The part of a response's body that the result carries. -/
def capturedBody (response : Response) : Except PyError Value :=
  let raw := response.content.take cfg.maxCaptureBytes
  let text := Value.str (py.decodeReplace raw)
  if "application/json".toList <:+: (response.contentType.getD "").toList then
    match py.jsonLoads raw with
    | .ok value => .ok value
    | .error .decodeError => .ok text
    | .error e => .error e
  else .ok text

/-- Offer an event to the event gateway. -/
def publishEvent (event : MeshEvent) : MeshM Unit :=
  if cfg.eventGatewayUrl = "" then return
  else do
    match ← MeshM.publish cfg.eventGatewayUrl event.toValue with
    | .ok _ => return
    | .error e => if e.isHTTPError then return else throw (.httpx e)

/-- The request that one attempt sends. -/
def upstreamRequest (request : InvokeRequest) (policy : MeshPolicy)
    (correlationId timestamp url : String) : UpstreamRequest where
  method := request.method
  url := url
  params := request.query
  headers := request.headers.update
    (identityHeaders py cfg request.callerService correlationId timestamp request.method url)
  json := request.body
  timeout := policy.timeoutMs / 1000

variable (request : InvokeRequest) (policy : MeshPolicy) (correlationId : String)
  (service : Service) (url : String)

/-- What follows a response: a result, or one more failed attempt. -/
def handleResponse (attempt : ℕ) (attempts : List Attempt) (started : ℚ) (response : Response) :
    MeshM (InvokeResult ⊕ List Attempt) := do
  let latency := round2 (((← MeshM.monotonic) - started) * 1000)
  let entry := Attempt.answered service.id attempt response.statusCode latency
  if response.statusCode < 500 then
    MeshM.success service.key
    let attempts := attempts ++ [entry "completed"]
    let event ← MeshM.emit .invocationCompleted correlationId
      (.object [("capability_id", .str request.capabilityId), ("provider", service.id),
        ("status_code", .int response.statusCode), ("latency_ms", .float (.fin latency)),
        ("attempts", .list (attempts.map Attempt.toValue))])
    publishEvent cfg event
    let body ← MeshM.liftBody (capturedBody py cfg response)
    return .inl
      { correlationId := correlationId
        capabilityId := request.capabilityId
        provider := service.id
        endpoint := url
        statusCode := response.statusCode
        contentType := response.contentType.getD ""
        body := body
        attempts := attempts }
  else
    MeshM.failure service.key policy
    return .inr (attempts ++ [entry "upstream-5xx"])

/-- The `except` clause: only timeouts and network errors are failed attempts. -/
def handleFault (attempt : ℕ) (attempts : List Attempt) :
    Fault → MeshM (InvokeResult ⊕ List Attempt)
  | .httpx e =>
      if e.isTimeoutOrNetwork then do
        MeshM.failure service.key policy
        return .inr (attempts ++ [.raised service.id attempt e.className])
      else throw (.httpx e)
  | fault => throw fault

/-- One attempt at a provider. -/
def attemptOnce (attempt : ℕ) (attempts : List Attempt) :
    MeshM (InvokeResult ⊕ List Attempt) := do
  let timestamp := toString (truncate (← MeshM.time))
  let outgoing := upstreamRequest py cfg request policy correlationId timestamp url
  let started ← MeshM.monotonic
  tryCatch
    (do
      match ← MeshM.upstream service.key outgoing with
      | .error e => throw (.httpx e)
      | .ok response =>
          handleResponse py cfg request policy correlationId service url attempt attempts
            started response)
    (handleFault policy service attempt attempts)

/-- The attempts at one provider, until one is answered, the circuit opens or the
retries are used up. -/
def attemptLoop : List ℕ → List Attempt → MeshM (InvokeResult ⊕ List Attempt)
  | [], attempts => return .inr attempts
  | n :: ns, attempts => do
      match ← attemptOnce py cfg request policy correlationId service url n attempts with
      | .inl result => return .inl result
      | .inr attempts =>
          if ← MeshM.canAttempt service.key policy then attemptLoop ns attempts
          else return .inr attempts

end Invoke

section Invoke

variable (py : Builtins) (cfg : MeshConfig) (request : InvokeRequest) (policy : MeshPolicy)
  (correlationId : String)

/-- The providers in the order of the registry, until one answers. -/
def candidateLoop : List Value → List Attempt → MeshM (InvokeResult ⊕ List Attempt)
  | [], attempts => return .inr attempts
  | candidate :: candidates, attempts => do
      let service ← MeshM.lift (candidateService candidate)
      if ← MeshM.canAttempt service.key policy then
        let url ← MeshM.lift do targetUrl (← candidate.getItem "endpoint") request.path
        let numbers := List.range' 1 (policy.retries + 1)
        match ← attemptLoop py cfg request policy correlationId service url numbers attempts with
        | .inl result => return .inl result
        | .inr attempts => candidateLoop candidates attempts
      else candidateLoop candidates (attempts ++ [.openCircuitSkip service.id])

/-- The part of `invoke` that obtains the candidates. -/
def obtainCandidates : MeshM (String × MeshPolicy × List Value) := do
  let correlationId ← MeshEngine.correlationId request.correlationId
  let policy ← MeshM.getPolicy request.capabilityId
  let candidates ← registryCandidates cfg
    { capabilityId := request.capabilityId
      environment := request.environment
      callerService := request.callerService
      correlationId := some correlationId
      capabilityId_ne := request.capabilityId_ne
      environment_ne := request.environment_ne
      callerService_ne := request.callerService_ne } policy
  return (correlationId, policy, candidates)

/-- The part of `invoke` that tries the candidates. -/
def serveCandidates (candidates : List Value) : MeshM InvokeResult := do
  let providers ← MeshM.lift (candidates.mapM candidateId)
  let event ← MeshM.emit .invocationStarted correlationId
    (.object [("capability_id", .str request.capabilityId),
      ("environment", .str request.environment), ("caller_service", .str request.callerService),
      ("provider_candidates", .list providers)])
  publishEvent cfg event
  match ← candidateLoop py cfg request policy correlationId candidates [] with
  | .inl result => return result
  | .inr attempts => do
      let event ← MeshM.emit .invocationFailed correlationId
        (.object [("capability_id", .str request.capabilityId),
          ("attempts", .list (attempts.map Attempt.toValue)),
          ("reason", .str "all providers exhausted")])
      publishEvent cfg event
      throw (.mesh 502 "all mesh providers exhausted")

/-- `MeshEngine.invoke`. -/
def invoke : MeshM InvokeResult := do
  let (correlationId, policy, candidates) ← obtainCandidates cfg request
  serveCandidates py cfg request policy correlationId candidates

end Invoke

end MeshEngine

/-! ## The engine -/

/-- The state of the engine. -/
structure MeshState where
  policies : Dict String MeshPolicy := ∅
  circuits : CircuitBreaker := {}
  events : EventBus := {}

/-- `MeshEngine.get_policy`. -/
def MeshState.getPolicy (self : MeshState) (capabilityId : String) : MeshPolicy :=
  (self.policies.get? capabilityId).getD {}

/-- `MeshEngine.set_policy`. -/
def MeshState.setPolicy (self : MeshState) (capabilityId : String) (policy : MeshPolicy) :
    MeshState :=
  { self with policies := self.policies.set capabilityId policy }

/-- The readings of the environment for one operation. -/
structure Host where
  uuid : String := ""
  time : ℚ := 0
  utcnow : String := ""
  monotonic : ℚ := 0
  net : Except HttpxError Response := .error ⟨.networkError, "ConnectError"⟩

/-- How the engine answers the operations. -/
def MeshEngine.perform (host : Host) (s : MeshState) : (o : MeshOp) → MeshOp.Ans o × MeshState
  | .uuid => (host.uuid, s)
  | .time => (host.time, s)
  | .monotonic => (host.monotonic, s)
  | .getPolicy capabilityId => (s.getPolicy capabilityId, s)
  | .canAttempt service policy =>
      let (answer, circuits) := s.circuits.canAttempt host.monotonic service policy
      (answer, { s with circuits := circuits })
  | .success service => ((), { s with circuits := s.circuits.success service })
  | .failure service policy =>
      ((), { s with circuits := s.circuits.failure host.monotonic service policy })
  | .emit eventType correlationId payload =>
      let (event, events) := s.events.emit host.uuid host.utcnow eventType correlationId payload
      (event, { s with events := events })
  | .registry _ _ | .publish _ _ | .upstream _ _ => (host.net, s)

/-- Answer from a script of readings, one for each operation. -/
def MeshEngine.scripted (s : List Host × MeshState) (o : MeshOp) :
    MeshOp.Ans o × (List Host × MeshState) :=
  let (answer, state) := MeshEngine.perform (s.1.headD {}) s.2 o
  (answer, (s.1.tail, state))

/-! ## Scripts -/

/-- The configuration and the request of the scripted invocations. -/
def notesConfig : MeshConfig := { registryUrl := "http://registry" }
def notesRequest (headers : Dict String String) : InvokeRequest :=
  { capabilityId := "ghost.notes", headers := headers, correlationId := some "run-1" }

/-- A candidate for a service at an endpoint, as the registry describes it. -/
def describe (serviceId endpoint : String) : Value :=
  .object [("service", .object [("id", .str serviceId)]), ("endpoint", .str endpoint)]

/-- The registry answers with some candidates. -/
def offers (candidates : List Value) : Host :=
  { net := .ok { statusCode := 200, json := .ok (.object [("candidates", .list candidates)]) } }

end EstateMesh
