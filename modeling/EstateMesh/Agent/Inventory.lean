import EstateMesh.Agent.Rejoin
import EstateMesh.Executors.LocalCommand
import EstateMesh.Resolver.LiveTable

/-!
# The inventory of a machine, and the requests that report it

What a node agent finds out about its machine, the bodies that it posts, and what the request
models of the control plane make of them.  A body of an agent passes the models whatever the
machine is like, and asks of the resolver what the agent meant to ask
(`call_advertiseBody`, `call_heartbeatBody`).  The capacity that resolution reads is an integer
in every inventory (`capacityOf_inventory`).
-/

namespace EstateMesh

/-! ## Texts -/

/-- Whether a character ends a line to `splitlines`. -/
def endsLine (c : Char) : Bool :=
  c.toNat ∈ [0x0A, 0x0B, 0x0C, 0x0D, 0x1C, 0x1D, 0x1E, 0x85, 0x2028, 0x2029]

/-- `text.splitlines()`. -/
def splitLines : List Char → List (List Char)
  | [] => []
  | '\r' :: '\n' :: cs => [] :: splitLines cs
  | c :: cs =>
      if endsLine c then [] :: splitLines cs
      else match splitLines cs with
        | [] => [[c]]
        | line :: lines => (c :: line) :: lines

/-- `line.split()`. -/
def splitWords (line : List Char) : List String :=
  ((line.splitOnP isSpace).filter (· ≠ [])).map String.ofList

/-! ## The inventory -/

/-- What the operating system says of a machine. -/
structure MachineFacts where
  hostname : String
  platform : String
  system : String
  machine : String
  python : String
  /-- `os.cpu_count()`. -/
  cpuCount : Option ℕ
  /-- The text of `/proc/meminfo`, if there is one to be read. -/
  meminfo : Option String
  diskTotal : ℕ
  diskUsed : ℕ
  diskFree : ℕ
  nvidiaSmi : CommandOutcome
  tailscale : CommandOutcome

/-- `_run`. -/
def runText : CommandOutcome → Option String
  | .completed returncode stdout _ => if returncode = 0 then some (strip stdout) else none
  | .raised => none

section Inventory

variable (py : Builtins) (facts : MachineFacts)

/-- The size of the memory, if the text says so. -/
def memoryBytes : Option ℤ := do
  let text ← facts.meminfo
  let line ← (splitLines text.toList).find? ("MemTotal:".toList.isPrefixOf ·)
  let word ← (splitWords line)[1]?
  return (← py.parseInt word) * 1024

/-- The capacity: a point for each processor, and for each GiB of memory. -/
def capacityScore : ℤ :=
  max 1 (facts.cpuCount.getD 0) + truncate (((memoryBytes py facts).getD 0 : ℚ) / 1024 ^ 3)

/-- `inventory`. -/
def inventory : PyDict :=
  [(.str "hostname", .str facts.hostname), (.str "platform", .str facts.platform),
    (.str "system", .str facts.system), (.str "machine", .str facts.machine),
    (.str "python", .str facts.python), (.str "cpu_count", .int (facts.cpuCount.getD 0)),
    (.str "memory_bytes", ((memoryBytes py facts).map Value.int).getD .none),
    (.str "disk", .object [("total", .int facts.diskTotal), ("used", .int facts.diskUsed),
      ("free", .int facts.diskFree)]),
    (.str "gpu", .ofStr? (runText facts.nvidiaSmi)),
    (.str "tailscale_ip", .ofStr? (runText facts.tailscale)),
    (.str "capacity_score", .int (capacityScore py facts))]

end Inventory

/-! ## Bodies -/

namespace NodeAgent

/-- The body that an agent posts to advertise. -/
def advertiseBody (py : Builtins) (environ : Environ) (self : NodeAgent) : Value :=
  .object
    [("canonical_id", .str self.config.canonicalId),
      ("capabilities", .list (self.capabilities.map .str)), ("resources", .dict self.resources),
      ("health", .str "online"),
      ("metadata", .object [("agent", .str "GA-HYPERNET-005"),
        ("executor_endpoint", .str (self.executorEndpoint py environ))])]

/-- The body of a heartbeat. -/
def heartbeatBody (self : NodeAgent) : Value :=
  .object
    [("canonical_id", .str self.config.canonicalId), ("health", .str "online"),
      ("resources", .dict self.resources)]

end NodeAgent

/-! ## Request models -/

/-- A string field. -/
def strField (body : PyDict) (field default : String) : Option String :=
  match body.get? field with
  | none => some default
  | some (.str s) => some s
  | some _ => none

/-- An object field. -/
def dictField (body : PyDict) (field : String) : Option PyDict :=
  match body.get? field with
  | none => some []
  | some (.dict entries) => if hasStrKeys entries then some entries else none
  | some _ => none

/-- An element of a list of strings. -/
def stringOf : Value → Option String
  | .str s => some s
  | _ => none

/-- A field of a list of strings. -/
def strsField (body : PyDict) (field : String) : Option (List String) :=
  match body.get? field with
  | none => some []
  | some (.list xs) => xs.mapM stringOf
  | some _ => none

/-- The resources of a heartbeat: an object or null, which stands for no resources. -/
def resourcesField (body : PyDict) : Option (Option PyDict) :=
  match body.get? "resources" with
  | none | some .none => some none
  | some _ => (dictField body "resources").map some

/-- The body of a request to advertise. -/
structure AdvertiseRequest where
  canonicalId : String
  capabilities : List String := []
  resources : PyDict := []
  health : String := "online"
  metadata : PyDict := []
  canonicalId_ne : canonicalId ≠ ""

/-- Validate a body; fields that are not asked for are ignored. -/
def AdvertiseRequest.validate : Value → Option AdvertiseRequest
  | .dict body => do
      let ⟨canonicalId, hid⟩ ← nonEmptyField body "canonical_id"
      let capabilities ← strsField body "capabilities"
      let resources ← dictField body "resources"
      let health ← strField body "health" "online"
      let metadata ← dictField body "metadata"
      return ⟨canonicalId, capabilities, resources, health, metadata, hid⟩
  | _ => none

/-- The body of a heartbeat. -/
structure HeartbeatRequest where
  canonicalId : String
  health : String := "online"
  resources : Option PyDict := none
  canonicalId_ne : canonicalId ≠ ""

/-- Validate a body; fields that are not asked for are ignored. -/
def HeartbeatRequest.validate : Value → Option HeartbeatRequest
  | .dict body => do
      let ⟨canonicalId, hid⟩ ← nonEmptyField body "canonical_id"
      let health ← strField body "health" "online"
      let resources ← resourcesField body
      return ⟨canonicalId, health, resources, hid⟩
  | _ => none

/-- What `global_advertise` asks of the resolver. -/
def AdvertiseRequest.call (request : AdvertiseRequest) : ResolverCall :=
  .advertise request.canonicalId request.capabilities request.resources request.health
    request.metadata

/-- What `global_heartbeat` asks of the resolver. -/
def HeartbeatRequest.call (request : HeartbeatRequest) : ResolverCall :=
  .heartbeat request.canonicalId request.health request.resources

/-- What an agent means to ask of the resolver. -/
def AgentCall.call (nodeId : String) : AgentCall → ResolverCall
  | advertise capabilities resources health metadata =>
      .advertise nodeId capabilities resources health metadata
  | heartbeat health resources => .heartbeat nodeId health resources

/-! ## From the agent to the resolver -/

section Posted

variable {py : Builtins} {environ : Environ} {agent : NodeAgent}

theorem mapM_stringOf (texts : List String) :
    (texts.map Value.str).mapM stringOf = some texts := by
  induction texts with
  | nil => rfl
  | cons text texts ih => simp [stringOf, ih]

theorem nonEmptyField_of_get? {body : PyDict} {field s : String} (hs : s ≠ "")
    (h : body.get? field = some (.str s)) : nonEmptyField body field = some ⟨s, hs⟩ := by
  rw [nonEmptyField, h]
  exact dif_pos hs

theorem nonEmptyField_of_empty {body : PyDict} {field : String}
    (h : body.get? field = some (.str "")) : nonEmptyField body field = none := by
  rw [nonEmptyField, h]
  exact dif_neg (not_not.mpr rfl)

theorem strsField_of_get? {body : PyDict} {field : String} {texts : List String}
    (h : body.get? field = some (.list (texts.map .str))) : strsField body field = some texts := by
  rw [strsField, h]
  exact mapM_stringOf texts

theorem dictField_of_get? {body entries : PyDict} {field : String}
    (hkeys : hasStrKeys entries = true)
    (h : body.get? field = some (.dict entries)) : dictField body field = some entries := by
  rw [dictField, h]
  exact if_pos hkeys

theorem resourcesField_of_get? {body entries : PyDict} (hkeys : hasStrKeys entries = true)
    (h : body.get? "resources" = some (.dict entries)) :
    resourcesField body = some (some entries) := by
  rw [resourcesField, h]
  exact congrArg (Option.map some) (dictField_of_get? hkeys h)

/-- The body of an advertisement is read as the agent meant it. -/
theorem call_advertiseBody (hid : agent.config.canonicalId ≠ "")
    (hkeys : hasStrKeys agent.resources = true) :
    (AdvertiseRequest.validate (agent.advertiseBody py environ)).map AdvertiseRequest.call =
      some ((agent.advertise py environ).call agent.config.canonicalId) := by
  unfold NodeAgent.advertiseBody Value.object AdvertiseRequest.validate
  dsimp only
  rw [nonEmptyField_of_get? hid rfl, strsField_of_get? rfl, dictField_of_get? hkeys rfl,
    dictField_of_get? rfl rfl]
  rfl

/-- The body of a heartbeat is read as the agent meant it. -/
theorem call_heartbeatBody (hid : agent.config.canonicalId ≠ "")
    (hkeys : hasStrKeys agent.resources = true) :
    (HeartbeatRequest.validate agent.heartbeatBody).map HeartbeatRequest.call =
      some (agent.heartbeat.call agent.config.canonicalId) := by
  unfold NodeAgent.heartbeatBody Value.object HeartbeatRequest.validate
  dsimp only
  rw [nonEmptyField_of_get? hid rfl, resourcesField_of_get? hkeys rfl]
  rfl

/-- The body of an agent without an id is refused. -/
theorem validate_advertiseBody_of_empty (hid : agent.config.canonicalId = "") :
    AdvertiseRequest.validate (agent.advertiseBody py environ) = none := by
  unfold NodeAgent.advertiseBody Value.object AdvertiseRequest.validate
  dsimp only
  rw [hid, nonEmptyField_of_empty rfl]
  rfl

theorem validate_heartbeatBody_of_empty (hid : agent.config.canonicalId = "") :
    HeartbeatRequest.validate agent.heartbeatBody = none := by
  unfold NodeAgent.heartbeatBody Value.object HeartbeatRequest.validate
  dsimp only
  rw [hid, nonEmptyField_of_empty rfl]
  rfl

/-- A request is dealt with as the loop of the agent takes it to be. -/
theorem step_call (r : Renderer) (call : AgentCall) (nodeId : String) (s : GlobalResolver)
    (now : ℚ) : GlobalResolver.step r py s (now, call.call nodeId) =
      some (call.process py now nodeId s).2 := by
  cases call with
  | advertise capabilities resources health metadata =>
      rw [AgentCall.process]
      show some (s.after _) = _
      cases s.advertise py now nodeId capabilities resources health metadata <;> rfl
  | heartbeat health resources =>
      rw [AgentCall.process]
      show some (s.after _) = _
      cases s.heartbeat py now nodeId health resources <;> rfl

/-- The capacity in an inventory is an integer. -/
theorem capacityOf_inventory (facts : MachineFacts) :
    GlobalResolver.capacityOf py (inventory py facts) = .ok (capacityScore py facts) := by
  show py.int ((Value.int (capacityScore py facts)).or (.int 0)) = _
  by_cases hzero : capacityScore py facts = 0
  · rw [hzero]
    rfl
  · rw [Value.or, if_pos (by simpa [Value.truthy] using hzero)]
    rfl

end Posted

end EstateMesh
