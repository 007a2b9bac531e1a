import EstateMesh.Lib.Dict
import EstateMesh.Python

/-!
# Requests and policies

The request models of the mesh.  Their field constraints are fields here, so a
policy outside its bounds or a request without a capability cannot be built.
-/

namespace EstateMesh

open Lib

/-- The traffic policy of a capability. -/
structure MeshPolicy where
  timeoutMs : ℕ := 5000
  retries : ℕ := 2
  circuitFailureThreshold : ℕ := 3
  recoverySeconds : ℕ := 30
  allowDegraded : Bool := false
  timeoutMs_bounds : 100 ≤ timeoutMs ∧ timeoutMs ≤ 30000 := by decide
  retries_le : retries ≤ 5 := by decide
  circuitFailureThreshold_bounds :
    1 ≤ circuitFailureThreshold ∧ circuitFailureThreshold ≤ 20 := by decide
  recoverySeconds_bounds : 1 ≤ recoverySeconds ∧ recoverySeconds ≤ 300 := by decide

/-- A request for the providers of a capability. -/
structure ResolveRequest where
  capabilityId : String
  environment : String := "production"
  callerService : String := "estate.mesh"
  correlationId : Option String := none
  capabilityId_ne : capabilityId ≠ "" := by decide
  environment_ne : environment ≠ "" := by decide
  callerService_ne : callerService ≠ "" := by decide

/-- The methods an invocation may use. -/
inductive Method
  | get | post | put | patch | delete
deriving DecidableEq, Repr

namespace Method

/-- The method as it is spelt on the wire. -/
def name : Method → String
  | get => "GET"
  | post => "POST"
  | put => "PUT"
  | patch => "PATCH"
  | delete => "DELETE"

end Method

/-- A request to call a provider of a capability. -/
structure InvokeRequest where
  capabilityId : String
  environment : String := "production"
  method : Method := .post
  path : String := ""
  query : Dict String String := ∅
  headers : Dict String String := ∅
  body : Value := .none
  callerService : String := "estate.mesh"
  correlationId : Option String := none
  capabilityId_ne : capabilityId ≠ "" := by decide
  environment_ne : environment ≠ "" := by decide
  callerService_ne : callerService ≠ "" := by decide

end EstateMesh
