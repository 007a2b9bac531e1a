import EstateMesh.Agent.ExecutorServer
import EstateMesh.Documents
import EstateMesh.Executors.ExecutorRegistry

/-!
# The local command executor

The adapter that runs a command for a record.  The packet goes to the standard input of the
process as the text of a document, and nowhere else: the command is the one that was bound.
The process answers on its standard output, and a text that is not a document is taken as it
is.

What a process does is a parameter, as is what the interpreter makes of texts.
-/

namespace EstateMesh

open Lib

/-- A process that an adapter runs. -/
structure CommandRun where
  command : List String
  /-- The text on the standard input. -/
  input : List Char
  timeoutSeconds : ℕ

/-- What becomes of it. -/
inductive CommandOutcome
  | completed (returncode : ℤ) (stdout stderr : String)
  | /-- It cannot be started, does not end in time, or writes what is not text. -/ raised

/-- What the call of an adapter raises. -/
inductive CommandFault
  | /-- `ExecutorError`. -/ executorError (message : String)
  | python (e : PyError)
  | /-- An exception of `subprocess.run`. -/ subprocess
deriving DecidableEq, Repr

/-- The interpreter of the control plane. -/
structure CommandHost extends JsonModule where
  /-- What `json.loads` raises on a text that it does not read, unless that is a
  `JSONDecodeError`. -/
  loadsFault : List Char → Option PyError
  /-- `str(exc)` for the exceptions that are not an `ExecutorError`. -/
  faultText : CommandFault → String

instance : Inhabited CommandHost where
  default := { (default : JsonModule) with loadsFault := fun _ ↦ none, faultText := fun _ ↦ "" }

/-- `str(exc)`. -/
def CommandHost.str (host : CommandHost) : CommandFault → String
  | .executorError message => message
  | fault => host.faultText fault

namespace LocalCommandExecutor

variable (host : CommandHost) (self : LocalCommandExecutor)

/-- The process for a record. -/
def commandRun (record : DispatchRecord) : Except CommandFault CommandRun := do
  if self.command = [] then
    throw (.executorError (self.adapterId ++ ": command not configured"))
  let input ← (host.dumps JsonModule.spaced (HttpExecutor.body record)).mapError .python
  return ⟨self.command, input, 60⟩

/-- The response of a process that has exited with 0. -/
def response (stdout : String) : Except CommandFault Value :=
  let stdout := strip stdout
  if stdout = "" then return .object []
  else
    match host.loads stdout.toList with
    | some value => return value
    | none =>
        match host.loadsFault stdout.toList with
        | some e => throw (.python e)
        | none => return .object [("stdout", .str (tail 4000 stdout))]

/-- What the adapter makes of a process. -/
def conclude : CommandOutcome → Except CommandFault Value
  | .completed returncode stdout stderr => do
      if returncode ≠ 0 then
        throw (.executorError
          (self.adapterId ++ ": exit=" ++ toString returncode ++ "; stderr=" ++ tail 2000 stderr))
      let result ← response host stdout
      return .object
        [("adapter", .str self.adapterId), ("exit_code", .int returncode), ("response", result)]
  | .raised => throw .subprocess

/-- `LocalCommandExecutor.__call__`. -/
def call (run : CommandRun → CommandOutcome) (record : DispatchRecord) :
    Except CommandFault Value := do
  self.conclude host (run (← self.commandRun host record))

/-! ## Calls that return -/

variable {host : CommandHost} {self : LocalCommandExecutor} {record : DispatchRecord}

end LocalCommandExecutor

end EstateMesh
