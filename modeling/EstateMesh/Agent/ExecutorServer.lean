import EstateMesh.Agent.NodeAgent
import EstateMesh.Lib.Dict
import EstateMesh.Lib.Fallible
import EstateMesh.Models
import EstateMesh.Resolver.GlobalResolver

/-!
# The executor of a node

The process that executes packets at a node.  It runs nothing but the commands
that its environment binds to capabilities, and it hands a packet to a command as
a document on the standard input.

Bodies are the documents that the two sides write and read with the same library,
so a body is the document itself.  What a process does when it is run is the
environment's choice.
-/

namespace EstateMesh

open Lib

/-! ## Processes -/

/-- A process that the server starts. -/
structure Spawned where
  argv : List String
  input : Value
  timeout : ℤ

/-- What becomes of a process. -/
inductive ProcessOutcome
  | completed (returncode : ℤ) (stdout stderr : String)
  | /-- It cannot be started, or it does not end in time. -/ raised

/-- The last characters of a text. -/
def tail (n : ℕ) (s : String) : String := String.ofList (lastItems n s.toList)

/-! ## The server -/

/-- What ends a request without a result. -/
inductive HandlerFault
  | /-- `HTTPException`. -/ http (status : ℕ) (detail : Value)
  | runtimeError (message : String)
  | python (e : PyError)
  | /-- An exception of `subprocess.run`. -/ subprocess

/-- The body of a request to execute. -/
structure ExecuteRequest where
  packetId : String
  capability : String
  payload : PyDict := []
  packetId_ne : packetId ≠ ""
  capability_ne : capability ≠ ""

/-- A string field that must not be empty. -/
def nonEmptyField (body : PyDict) (field : String) : Option {s : String // s ≠ ""} :=
  match body.get? field with
  | some (.str s) => if h : s ≠ "" then some ⟨s, h⟩ else none
  | _ => none

/-- Whether the keys of a mapping are strings. -/
def hasStrKeys (entries : PyDict) : Bool := entries.all fun entry ↦ entry.1 matches .str _

/-- The payload of a body: an object, the empty one if the field is missing. -/
def payloadField (body : PyDict) : Option PyDict :=
  match body.get? "payload" with
  | none => some []
  | some (.dict payload) => if hasStrKeys payload then some payload else none
  | some _ => none

/-- Validate a body; fields that are not asked for are ignored. -/
def ExecuteRequest.validate : Value → Option ExecuteRequest
  | .dict body => do
      let packetId ← nonEmptyField body "packet_id"
      let capability ← nonEmptyField body "capability"
      let payload ← payloadField body
      return ⟨packetId, capability, payload, packetId.2, capability.2⟩
  | _ => none

/-- `_auth`. -/
def auth (environ : Environ) (authorization : Option String) : Except HandlerFault Unit :=
  let expected := environ.getD "GA_NODE_TOKEN" ""
  if expected ≠ "" ∧ authorization ≠ some ("Bearer " ++ expected) then
    throw (.http 401 (.str "invalid node token"))
  else return ()

/-- `_allowed_commands`. -/
def allowedCommands (py : Builtins) (environ : Environ) :
    Except HandlerFault (Dict String (List String)) :=
  match py.jsonLoads (environ.getD "GA_NODE_COMMAND_MAP" "{}").toUTF8.data.toList with
  | .error .decodeError => throw (.runtimeError "GA_NODE_COMMAND_MAP must be JSON")
  | .error e => throw (.python e)
  | .ok (.dict commands) =>
      return Dict.ofList <| commands.filterMap fun entry ↦
        match entry.2 with
        | .list (x :: xs) => some (py.str entry.1, (x :: xs).map py.str)
        | _ => none
  | .ok _ => throw (.runtimeError "GA_NODE_COMMAND_MAP must be an object")

/-- The command bound to a capability, under its full or its short form. -/
def commandFor (commands : Dict String (List String)) (capability : String) : List String :=
  let argv := (commands.get? capability).getD []
  if argv = [] then (commands.get? (shortCapability capability)).getD [] else argv

section Execute

variable (py : Builtins) (environ : Environ) (run : Spawned → ProcessOutcome)

/-- What `execute` does up to the process. -/
def prepare (request : ExecuteRequest) (authorization : Option String) :
    Except HandlerFault Spawned := do
  auth environ authorization
  let commands ← allowedCommands py environ
  let argv := commandFor commands request.capability
  if argv = [] then
    throw (.http 403 (.str ("capability not bound: " ++ request.capability)))
  let timeout ← (py.int (.str (environ.getD "GA_NODE_EXEC_TIMEOUT" "300"))).mapError .python
  return ⟨argv, .object [("packet_id", .str request.packetId),
    ("capability", .str request.capability), ("payload", .dict request.payload)], timeout⟩

/-- The result of a process. -/
def resultOf (packetId capability : String) (returncode : ℤ) (stdout stderr : String) : Value :=
  .object
    [("packet_id", .str packetId), ("capability", .str capability),
      ("node", .ofStr? (environ "GA_NODE_ID")), ("returncode", .int returncode),
      ("stdout", .str (tail 65536 stdout)), ("stderr", .str (tail 65536 stderr))]

/-- What `execute` does after the process. -/
def conclude (request : ExecuteRequest) : ProcessOutcome → Except HandlerFault Value
  | .completed returncode stdout stderr =>
      let result := resultOf environ request.packetId request.capability returncode stdout stderr
      if returncode ≠ 0 then throw (.http 502 result) else return result
  | .raised => throw .subprocess

/-- Execute a packet: the processes that are run, and the result. -/
def execute (request : ExecuteRequest) (authorization : Option String) :
    List Spawned × Except HandlerFault Value :=
  match prepare py environ request authorization with
  | .error e => ([], .error e)
  | .ok spawned => ([spawned], conclude environ request (run spawned))

/-- `health`. -/
def health : Except HandlerFault Value := do
  let commands ← allowedCommands py environ
  return .object
    [("status", .str "ok"), ("node", .str (environ.getD "GA_NODE_ID" "unconfigured")),
      ("capabilities", .list ((commands.keys.insertionSort (· ≤ ·)).map .str))]

/-! ## Routing -/

/-- A response. -/
structure HttpResponse where
  status : ℕ
  body : Value

/-- The response to a request that a handler has dealt with. -/
def respond : Except HandlerFault Value → HttpResponse
  | .ok result => ⟨200, result⟩
  | .error (.http status detail) => ⟨status, .object [("detail", detail)]⟩
  | .error _ => ⟨500, .str "Internal Server Error"⟩

/-- The handlers of the server. -/
inductive Handler
  | health | execute
  | /-- The documentation of the server, which the framework provides. -/ documentation
deriving DecidableEq, Repr

/-- The paths of the documentation. -/
def documentationPaths : List String :=
  ["/openapi.json", "/docs", "/docs/oauth2-redirect", "/redoc"]

/-- The routes of the server, with their methods.  Those of the framework come first. -/
def routes : List (List String × String × Handler) :=
  (documentationPaths.map fun path ↦ (["GET", "HEAD"], path, .documentation)) ++
    [(["GET"], "/health", .health), (["POST"], "/execute", .execute)]

/-- Where a request goes. -/
inductive Routed
  | handled (handler : Handler)
  | methodNotAllowed | redirected | notFound
deriving DecidableEq, Repr

/-- Whether some route has a path. -/
def isRoute (path : String) : Bool := routes.any (·.2.1 = path)

/-- A path with its final slash taken away, or with one added. -/
def toggleSlash (path : String) : String :=
  if path.toList.getLast? = some '/' then rstripSlash path else path ++ "/"

/-- Find the route of a request.  A path that misses a route by its final slash is
redirected. -/
def route (method path : String) : Routed :=
  match routes.find? fun r ↦ method ∈ r.1 ∧ r.2.1 = path with
  | some r => .handled r.2.2
  | none =>
      if isRoute path then .methodNotAllowed
      else if isRoute (toggleSlash path) then .redirected
      else .notFound

variable (docs : String → Value)

/-- Answer a request: the processes that are run, and the response.  What the documentation
says under a path is the framework's choice. -/
def serve (method path : String) (authorization : Option String) (body : Value) :
    List Spawned × HttpResponse :=
  match route method path with
  | .handled .documentation => ([], ⟨200, docs path⟩)
  | .handled .health => ([], respond (health py environ))
  | .handled .execute =>
      match ExecuteRequest.validate body with
      | none => ([], ⟨422, .object [("detail", .list [])]⟩)
      | some request =>
          let outcome := execute py environ run request authorization
          (outcome.1, respond outcome.2)
  | .methodNotAllowed => ([], ⟨405, .object [("detail", .str "Method Not Allowed")]⟩)
  | .redirected => ([], ⟨307, .object []⟩)
  | .notFound => ([], ⟨404, .object [("detail", .str "Not Found")]⟩)

/-! ## What is run -/

/-- A handler is reached by its own routes. -/
theorem mem_routes_of_route {method path : String} {handler : Handler}
    (h : route method path = .handled handler) :
    ∃ methods, (methods, path, handler) ∈ routes ∧ method ∈ methods := by
  rw [route] at h
  split at h
  · rename_i r hfind
    have hfound := List.find?_some hfind
    obtain ⟨hmethod, rfl⟩ := of_decide_eq_true hfound
    obtain rfl := Routed.handled.inj h
    exact ⟨r.1, List.mem_of_find?_eq_some hfind, hmethod⟩
  · split_ifs at h

theorem route_eq_execute_iff {method path : String} :
    route method path = .handled .execute ↔ method = "POST" ∧ path = "/execute" := by
  constructor
  · intro h
    obtain ⟨methods, hmem, hmethod⟩ := mem_routes_of_route h
    simp only [routes, documentationPaths, List.map_cons, List.map_nil, List.cons_append,
      List.nil_append, List.mem_cons, Prod.mk.injEq, List.not_mem_nil, reduceCtorEq, and_false,
      and_true, false_or, or_false] at hmem
    obtain ⟨rfl, rfl⟩ := hmem
    exact ⟨List.mem_singleton.mp hmethod, rfl⟩
  · rintro ⟨rfl, rfl⟩
    rfl

/-- Nothing is run but by the route that executes. -/
theorem serve_fst_of_route_ne {method path : String} {authorization : Option String}
    {body : Value} (h : route method path ≠ .handled .execute) :
    (serve py environ run docs method path authorization body).1 = [] := by
  rw [serve]
  cases hroute : route method path with
  | handled handler =>
      cases handler with
      | health => rfl
      | documentation => rfl
      | execute => exact absurd hroute h
  | methodNotAllowed => rfl
  | redirected => rfl
  | notFound => rfl

variable {py environ run} in
/-- A packet that is authorised and bound to a command is handed to that command. -/
theorem prepare_eq_ok {request : ExecuteRequest} {authorization : Option String}
    {commands : Dict String (List String)} {timeout : ℤ} (hauth : auth environ authorization = .ok ())
    (hcommands : allowedCommands py environ = .ok commands)
    (hbound : commandFor commands request.capability ≠ [])
    (htimeout : py.parseInt (environ.getD "GA_NODE_EXEC_TIMEOUT" "300") = some timeout) :
    prepare py environ request authorization =
      .ok ⟨commandFor commands request.capability,
        .object [("packet_id", .str request.packetId), ("capability", .str request.capability),
          ("payload", .dict request.payload)], timeout⟩ := by
  have hint : py.int (.str (environ.getD "GA_NODE_EXEC_TIMEOUT" "300")) = .ok timeout := by
    change (py.parseInt _).elim _ _ = _
    rw [htimeout]
    rfl
  rw [prepare, hauth, hcommands, hint]
  dsimp only [bind, Except.bind]
  rw [if_neg hbound]
  rfl

end Execute

end EstateMesh
