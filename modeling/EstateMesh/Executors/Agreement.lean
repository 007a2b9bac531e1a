import EstateMesh.Agent.ExecutorServer
import EstateMesh.Executors.HttpExecutor

/-!
# The executor and its node

The adapter of the control plane is put in front of the server of a node, at the
endpoint that the agent of the node advertises.  Header, body, the two forms of a
capability and the mapping of statuses all fit together: were the adapter to call
the path of the server, every packet would be executed (`delivers_callAt_iff`).
The path that it does call belongs to no route of the server.
-/

namespace EstateMesh

open Lib

/-! ## The node -/

/-- A node: its agent, and the environment of its two processes. -/
structure ExecutorNode where
  environ : Environ
  agent : NodeAgent
  /-- The documentation of its server. -/
  docs : String → Value

namespace ExecutorNode

variable (py : Builtins) (node : ExecutorNode)

/-- The host of a node as it stands in its endpoint. -/
def host : String := py.str (node.agent.advertisedHost node.environ)

/-- The address at which the server of a node listens. -/
def authority : String := node.host py ++ ":" ++ toString node.agent.config.listenPort

/-- The endpoint that the agent of a node advertises. -/
def endpoint : String := node.agent.executorEndpoint py node.environ

/-- What a client makes of a response. -/
def outcomeOf (response : HttpResponse) : UrlOutcome :=
  if 200 ≤ response.status ∧ response.status < 300 then
    .response response.status (.json response.body)
  else .httpError response.status

/-- Requests to the address of the node are answered by its server; `elsewhere`
answers the others. -/
def urlopen (run : Spawned → ProcessOutcome) (elsewhere : HttpRequest → UrlOutcome)
    (request : HttpRequest) : List Spawned × UrlOutcome :=
  match splitUrl request.url with
  | none => ([], elsewhere request)
  | some (authority, selector) =>
      if authority = node.authority py then
        let answer := serve py node.environ run node.docs request.method.name (pathOf selector)
          (request.headers.get? "authorization") request.body
        (answer.1, outcomeOf answer.2)
      else ([], elsewhere request)

end ExecutorNode

/-! ## Pairings -/

mutual

/-- Whether a value is a JSON document. -/
def Value.isJson : Value → Bool
  | .list xs => areJson xs
  | .dict entries => entriesAreJson entries
  | .bytes _ | .pair _ _ | .set _ | .other _ | .again => false
  | _ => true

def Value.areJson : List Value → Bool
  | [] => true
  | x :: xs => x.isJson && areJson xs

def Value.entriesAreJson : List (Value × Value) → Bool
  | [] => true
  | (.str _, v) :: entries => v.isJson && entriesAreJson entries
  | _ :: _ => false

end

theorem Value.hasStrKeys_of_entriesAreJson {entries : PyDict} (h : entriesAreJson entries = true) :
    hasStrKeys entries = true := by
  induction entries with
  | nil => rfl
  | cons entry entries ih =>
      obtain ⟨k, v⟩ := entry
      cases k with
      | str s =>
          rw [entriesAreJson, Bool.and_eq_true] at h
          rw [hasStrKeys, List.all_cons, Bool.and_eq_true]
          exact ⟨rfl, ih h.2⟩
      | _ => cases h

/-- An adapter that is bound to a node, and a record for it: the base URL is the
endpoint of the node, the credentials are accepted there, and the capability of
the record is bound to a command. -/
structure Pairing (py : Builtins) where
  node : ExecutorNode
  executor : HttpExecutor
  environ : Environ
  record : DispatchRecord
  slashes : ℕ
  baseUrl_eq :
    executor.baseUrl = node.endpoint py ++ String.ofList (List.replicate slashes '/')
  host_chars : ∀ c ∈ (node.host py).toList, isHostChar c = true
  packetId_ne : record.packetId ≠ ""
  capability_ne : record.capability ≠ ""
  payload_isJson : Value.entriesAreJson record.payload = true
  credential : Option String
  credential_eq : executor.authorization environ = .ok credential
  accepted : auth node.environ credential = .ok ()
  commands : Dict String (List String)
  commands_eq : allowedCommands py node.environ = .ok commands
  bound : commandFor commands record.capability ≠ []

namespace Pairing

variable {py : Builtins} (p : Pairing py)

/-- The command that the node binds to the capability of the record. -/
def argv : List String := commandFor p.commands p.record.capability

/-- The document that the command is given. -/
def input : Value :=
  .object [("packet_id", .str p.record.packetId), ("capability", .str p.record.capability),
    ("payload", .dict p.record.payload)]

variable (run : Spawned → ProcessOutcome) (elsewhere : HttpRequest → UrlOutcome)

/-- The adapter is called for the record, at a path of the server. -/
def callAt (path : String) : List Spawned × Except ExecutorFault Value :=
  p.executor.callPath p.environ path (p.node.urlopen py run elsewhere) p.record

/-- The adapter is called for the record. -/
def call : List Spawned × Except ExecutorFault Value :=
  p.executor.call p.environ (p.node.urlopen py run elsewhere) p.record

/-- What the adapter should make of a process: the result of the server if it exits
with 0, and an `ExecutorError` otherwise. -/
def Relays (result : Except ExecutorFault Value) : ProcessOutcome → Prop
  | .completed returncode stdout stderr =>
      if returncode = 0 then
        result = .ok (.object
          [("adapter", .str p.executor.adapterId), ("status", .int 200),
            ("response", resultOf p.node.environ p.record.packetId p.record.capability 0
              stdout stderr)])
      else ∃ message, result = .error (.executorError message)
  | .raised => ∃ message, result = .error (.executorError message)

/-- A call runs the command of the record, on the packet of the record, and relays
what becomes of it. -/
def Delivers (call : List Spawned × Except ExecutorFault Value) : Prop :=
  ∃ spawned, call.1 = [spawned] ∧ spawned.argv = p.argv ∧ spawned.input = p.input ∧
    p.Relays call.2 (run spawned)

/-! ## The exchange -/

theorem isHostChar_of_mem_authority {c : Char} (hc : c ∈ (p.node.authority py).toList) :
    isHostChar c = true := by
  rw [ExecutorNode.authority, String.toList_append, String.toList_append, List.mem_append,
    List.mem_append] at hc
  rcases hc with (hc | hc) | hc
  · exact p.host_chars c hc
  · obtain rfl : c = ':' := List.mem_singleton.mp hc
    rfl
  · have hdigit : c.isDigit = true := by
      rw [Nat.toString_eq_ofList_toDigits, String.toList_ofList] at hc
      exact Nat.isDigit_of_mem_toDigits (by decide) (by decide) hc
    have hrange : 48 ≤ c.toNat ∧ c.toNat ≤ 57 := Char.isDigit_iff_toNat.mp hdigit
    refine decide_eq_true ⟨by omega, by omega, ?_⟩
    simp only [List.mem_cons, List.not_mem_nil, or_false]
    rintro (rfl | rfl | rfl | rfl | rfl) <;> exact absurd hdigit (by decide)

theorem endpoint_eq : p.node.endpoint py = "http://" ++ p.node.authority py := by
  rw [ExecutorNode.authority, ← String.append_assoc, ← String.append_assoc]
  rfl

theorem rstripSlash_baseUrl :
    rstripSlash p.executor.baseUrl = "http://" ++ p.node.authority py := by
  rw [p.baseUrl_eq, rstripSlash_append_replicate, endpoint_eq]
  have hne : (p.node.authority py).toList ≠ [] := by
    rw [ExecutorNode.authority, String.toList_append, String.toList_append]
    simp
  intro h hlast
  have hmem : '/' ∈ (p.node.authority py).toList := by
    have hget : (p.node.endpoint py).toList.getLast h = (p.node.authority py).toList.getLast hne := by
      simp only [endpoint_eq, String.toList_append]
      exact List.getLast_append_of_ne_nil _ hne
    rw [← hlast, hget]
    exact List.getLast_mem hne
  exact absurd (p.isHostChar_of_mem_authority hmem) (by decide)

theorem baseUrl_ne : p.executor.baseUrl ≠ "" := by
  intro h
  have hstrip := congrArg String.length p.rstripSlash_baseUrl
  rw [h, String.length_append] at hstrip
  exact absurd (Nat.eq_zero_of_add_eq_zero_right hstrip.symm) (by decide)

/-- The header is what the server looks up. -/
theorem requestTo_eq (path : String) :
    ∃ headers, headers.get? "authorization" = p.credential ∧
      p.executor.requestTo p.environ path p.record =
        .ok ⟨"http://" ++ p.node.authority py ++ path, .post, headers,
          HttpExecutor.body p.record⟩ := by
  rw [HttpExecutor.requestTo, if_neg p.baseUrl_ne, p.rstripSlash_baseUrl]
  cases hcredential : p.credential with
  | none =>
      refine ⟨Dict.ofList
        [("content-type", "application/json"), ("x-ga-dispatch-id", p.record.dispatchId)], ?_, ?_⟩
      · rfl
      · rw [p.credential_eq, hcredential]
        rfl
  | some value =>
      refine ⟨(Dict.ofList [("content-type", "application/json"),
        ("x-ga-dispatch-id", p.record.dispatchId)]).set "authorization" value, ?_, ?_⟩
      · exact Dict.get?_set_self _ _ _
      · rw [p.credential_eq, hcredential]
        rfl

/-- A call of a path is answered by the server of the node. -/
theorem callAt_eq {path : String} (hpath : IsPath path) :
    p.callAt run elsewhere path =
      ((serve py p.node.environ run p.node.docs "POST" path p.credential
          (HttpExecutor.body p.record)).1,
        p.executor.conclude (ExecutorNode.outcomeOf
          (serve py p.node.environ run p.node.docs "POST" path p.credential
            (HttpExecutor.body p.record)).2)) := by
  obtain ⟨headers, hheader, hrequest⟩ := p.requestTo_eq path
  have hurl : splitUrl ("http://" ++ p.node.authority py ++ path) =
      some (p.node.authority py, path) :=
    splitUrl_of_isPath (fun _ hc ↦ p.isHostChar_of_mem_authority hc) hpath
  have hopen : p.node.urlopen py run elsewhere
      ⟨"http://" ++ p.node.authority py ++ path, .post, headers, HttpExecutor.body p.record⟩ =
      ((serve py p.node.environ run p.node.docs "POST" path p.credential
          (HttpExecutor.body p.record)).1,
        ExecutorNode.outcomeOf (serve py p.node.environ run p.node.docs "POST" path p.credential
          (HttpExecutor.body p.record)).2) := by
    rw [ExecutorNode.urlopen]
    dsimp only
    rw [hurl]
    dsimp only
    rw [if_pos rfl, pathOf_of_isPath hpath, hheader]
    rfl
  rw [callAt, HttpExecutor.callPath, hrequest]
  dsimp only
  rw [hopen]

/-- Where the record goes when it gets to the handler. -/
theorem validate_body :
    ExecuteRequest.validate (HttpExecutor.body p.record) =
      some ⟨p.record.packetId, p.record.capability, p.record.payload, p.packetId_ne,
        p.capability_ne⟩ := by
  have hpayload : payloadField [(.str "dispatch_id", .str p.record.dispatchId),
      (.str "packet_id", .str p.record.packetId), (.str "capability", .str p.record.capability),
      (.str "payload", .dict p.record.payload), (.str "source", .str p.record.source)] =
      some p.record.payload :=
    if_pos (Value.hasStrKeys_of_entriesAreJson p.payload_isJson)
  have hpacket : nonEmptyField [(.str "dispatch_id", .str p.record.dispatchId),
      (.str "packet_id", .str p.record.packetId), (.str "capability", .str p.record.capability),
      (.str "payload", .dict p.record.payload), (.str "source", .str p.record.source)]
      "packet_id" = some ⟨p.record.packetId, p.packetId_ne⟩ := dif_pos p.packetId_ne
  have hcapability : nonEmptyField [(.str "dispatch_id", .str p.record.dispatchId),
      (.str "packet_id", .str p.record.packetId), (.str "capability", .str p.record.capability),
      (.str "payload", .dict p.record.payload), (.str "source", .str p.record.source)]
      "capability" = some ⟨p.record.capability, p.capability_ne⟩ := dif_pos p.capability_ne
  simp only [HttpExecutor.body, Value.object, List.map_cons, List.map_nil, ExecuteRequest.validate,
    hpacket, hcapability, hpayload]
  rfl

/-! ## Delivery -/

/-- Only the path of the server's route delivers. -/
theorem path_of_delivers {path : String} (hpath : IsPath path)
    (h : p.Delivers run (p.callAt run elsewhere path)) : path = "/execute" := by
  by_contra hne
  obtain ⟨spawned, hspawned, -⟩ := h
  rw [callAt_eq p run elsewhere hpath, serve_fst_of_route_ne] at hspawned
  · exact List.cons_ne_nil spawned [] hspawned.symm
  · rw [ne_eq, route_eq_execute_iff]
    exact fun hroute ↦ hne hroute.2

/-- What the adapter makes of the response to a process. -/
theorem relays_conclude (request : ExecuteRequest) (hpacket : request.packetId = p.record.packetId)
    (hcapability : request.capability = p.record.capability) (outcome : ProcessOutcome) :
    p.Relays (p.executor.conclude (ExecutorNode.outcomeOf
      (respond (conclude p.node.environ request outcome)))) outcome := by
  cases outcome with
  | raised => exact ⟨_, rfl⟩
  | completed returncode stdout stderr =>
      rw [Relays]
      split_ifs with hcode
      · subst hcode
        rw [← hpacket, ← hcapability]
        rfl
      · rw [conclude, if_pos hcode]
        exact ⟨_, rfl⟩

/-- The adapter and the server agree on everything but the path. -/
theorem delivers_callAt_iff {path : String} (hpath : IsPath path) {timeout : ℤ}
    (htimeout : py.parseInt (p.node.environ.getD "GA_NODE_EXEC_TIMEOUT" "300") = some timeout) :
    p.Delivers run (p.callAt run elsewhere path) ↔ path = "/execute" := by
  refine ⟨p.path_of_delivers run elsewhere hpath, ?_⟩
  rintro rfl
  let request : ExecuteRequest :=
    ⟨p.record.packetId, p.record.capability, p.record.payload, p.packetId_ne, p.capability_ne⟩
  have hprepare : prepare py p.node.environ request p.credential =
      .ok ⟨p.argv, p.input, timeout⟩ :=
    prepare_eq_ok p.accepted p.commands_eq p.bound htimeout
  rw [callAt_eq p run elsewhere hpath, serve, route_eq_execute_iff.mpr ⟨rfl, rfl⟩]
  dsimp only
  rw [validate_body]
  dsimp only
  rw [execute, hprepare]
  exact ⟨_, rfl, rfl, rfl, p.relays_conclude _ rfl rfl _⟩

/-- The adapter never gets a packet executed: its path is unknown to the server. -/
theorem never_delivers :
    p.call run elsewhere =
      ([], .error (.executorError (p.executor.adapterId ++ ": HTTP 404"))) ∧
    ¬ p.Delivers run (p.call run elsewhere) := by
  have hpath : IsPath executePath := by decide
  have hroute : route "POST" executePath = .notFound := by decide
  constructor
  · change p.callAt run elsewhere executePath = _
    have hmessage : ": HTTP " ++ toString 404 = ": HTTP 404" := by decide
    rw [callAt_eq p run elsewhere hpath, serve, hroute, ← hmessage, ← String.append_assoc]
    rfl
  intro h
  exact absurd (p.path_of_delivers run elsewhere hpath h) (by decide)

end Pairing

/-! ## A node that is never reached -/

/-- An interpreter that reads one command map and one number. -/
def oneCommand : Builtins :=
  { (default : Builtins) with
    parseInt := fun _ ↦ some 300
    jsonLoads := fun _ ↦
      .ok (.dict [(.str "compute.execute", .list [.str "/opt/ga/bin/execute"])]) }

/-- A worker without a token, its adapter, and a packet for the one capability that
it is configured for. -/
def worker : Pairing oneCommand where
  node :=
    { environ := fun _ ↦ none
      agent := .init (fun _ ↦ none) ⟨"ga://node/t5810-01", 8765⟩
        [(.str "tailscale_ip", .str "100.64.0.7"), (.str "hostname", .str "t5810-01")]
      docs := fun _ ↦ .none }
  executor := ⟨"http:ga://node/t5810-01", "http://100.64.0.7:8765/", none⟩
  environ := fun _ ↦ none
  record :=
    ⟨"dispatch-1", "packet-1", "ga://capability/compute.execute", "ga://organ/crowngrid",
      some "ga://node/t5810-01", none, .running, 0, 0, [(.str "task", .str "echo")], .none, [],
      none⟩
  slashes := 1
  baseUrl_eq := by decide +kernel
  host_chars := List.all_eq_true.mp (rfl : "100.64.0.7".toList.all isHostChar = true)
  packetId_ne := by decide
  capability_ne := by decide
  payload_isJson := by decide
  credential := none
  credential_eq := rfl
  accepted := rfl
  commands := Dict.ofList [("compute.execute", ["/opt/ga/bin/execute"])]
  commands_eq := rfl
  bound := by decide +kernel

/-- Every command exits with 0. -/
def succeeds (_ : Spawned) : ProcessOutcome := .completed 0 "done" ""

/-- Nothing else answers. -/
def unreachable (_ : HttpRequest) : UrlOutcome := .urlError "timed out"

/-- The command would succeed, but it is not run. -/
theorem worker_is_not_reached :
    (worker.call succeeds unreachable).2 =
        .error (.executorError "http:ga://node/t5810-01: HTTP 404") ∧
      ¬ worker.Delivers succeeds (worker.call succeeds unreachable) := by
  have hfault : (worker.call succeeds unreachable).2.map (fun _ ↦ ()) =
      .error (.executorError "http:ga://node/t5810-01: HTTP 404") := by decide +kernel
  have hnone : (worker.call succeeds unreachable).1.length = 0 := by decide +kernel
  refine ⟨eq_error_of_map hfault, ?_⟩
  rintro ⟨spawned, hspawned, -⟩
  rw [hspawned] at hnone
  cases hnone

end EstateMesh
