import EstateMesh.Python
import Mathlib.Data.List.Dedup
import Mathlib.Data.List.Sort
import Mathlib.Data.String.Basic

/-!
# The node agent

The process that announces a node to the control plane.  What it announces is
fixed when it starts: the capabilities that its canonical id stands for, those
its environment adds, and the inventory of the machine.  Only the inventory is
taken again, before every heartbeat.
-/

namespace EstateMesh

/-- The environment variables of a process. -/
abbrev Environ := String → Option String

/-- `os.getenv(name, default)`. -/
def Environ.getD (environ : Environ) (name default : String) : String :=
  (environ name).getD default

/-- Whether a character is white space to `strip`. -/
def isSpace (c : Char) : Bool :=
  c.toNat ∈ [0x20, 0x85, 0xA0, 0x1680, 0x2028, 0x2029, 0x202F, 0x205F, 0x3000] ∨
    (0x09 ≤ c.toNat ∧ c.toNat ≤ 0x0D) ∨ (0x1C ≤ c.toNat ∧ c.toNat ≤ 0x1F) ∨
    (0x2000 ≤ c.toNat ∧ c.toNat ≤ 0x200A)

/-- `s.strip()`. -/
def strip (s : String) : String :=
  String.ofList ((s.toList.dropWhile isSpace).reverse.dropWhile isSpace).reverse

/-- `s.split(",")`. -/
def splitCommas (s : String) : List String := (s.toList.splitOn ',').map String.ofList

/-- The configuration of an agent. -/
structure AgentConfig where
  canonicalId : String
  listenPort : ℕ := 8765

/-- The capabilities that a canonical id stands for. -/
def defaultCapabilities (nodeId : String) : List String :=
  if nodeId = "ga://node/eden" then
    ["compute.execute", "model.infer", "packet.dispatch", "service.host"]
  else if nodeId = "ga://node/t5810-01" ∨ nodeId = "ga://node/t5810-02" then
    ["compute.execute", "build.execute", "model.infer", "service.host"]
  else if nodeId = "ga://node/gaia" then ["compute.execute", "build.execute", "service.host"]
  else if nodeId = "ga://node/odin" then
    ["field.execute", "packet.dispatch", "diagnostics.run", "estate.observe"]
  else if nodeId = "ga://node/janus" then
    ["intent.capture", "command.authorize", "packet.dispatch", "estate.observe"]
  else []

/-- `declared_capabilities`. -/
def declaredCapabilities (environ : Environ) (nodeId : String) : List String :=
  let extra := (splitCommas (environ.getD "GA_NODE_CAPABILITIES" "")).filterMap fun x ↦
    if strip x = "" then none else some (strip x)
  (defaultCapabilities nodeId ++ extra).dedup.insertionSort (· ≤ ·)

/-- An agent, with the inventory it took last. -/
structure NodeAgent where
  config : AgentConfig
  resources : PyDict
  capabilities : List String

namespace NodeAgent

/-- `NodeAgent.__init__`. -/
def init (environ : Environ) (config : AgentConfig) (inventory : PyDict) : NodeAgent where
  config := config
  resources := inventory
  capabilities := declaredCapabilities environ config.canonicalId

/-- The host that an agent advertises. -/
def advertisedHost (environ : Environ) (self : NodeAgent) : Value :=
  ((Value.ofStr? (environ "GA_NODE_ADVERTISE_HOST")).or (self.resources.get "tailscale_ip")).or
    (self.resources.get "hostname")

/-- `NodeAgent.executor_endpoint`. -/
def executorEndpoint (py : Builtins) (environ : Environ) (self : NodeAgent) : String :=
  "http://" ++ py.str (self.advertisedHost environ) ++ ":" ++ toString self.config.listenPort

end NodeAgent

/-! ## Capabilities -/

/-- What an agent declares: what its id stands for, and what its environment adds. -/
theorem mem_declaredCapabilities {environ : Environ} {nodeId capability : String} :
    capability ∈ declaredCapabilities environ nodeId ↔
      capability ∈ defaultCapabilities nodeId ∨
        capability ≠ "" ∧
          ∃ x ∈ splitCommas (environ.getD "GA_NODE_CAPABILITIES" ""), strip x = capability := by
  rw [declaredCapabilities, List.mem_insertionSort, List.mem_dedup, List.mem_append,
    List.mem_filterMap]
  refine or_congr_right ⟨?_, ?_⟩
  · rintro ⟨x, hx, h⟩
    split_ifs at h with hblank
    obtain rfl := Option.some.inj h
    exact ⟨hblank, x, hx, rfl⟩
  · rintro ⟨hblank, x, hx, rfl⟩
    exact ⟨x, hx, if_neg hblank⟩

end EstateMesh
