import EstateMesh.Lib.View
import EstateMesh.Mesh.Engine

/-!
# Failover

What an invocation does once it has its candidates, seen through the operations
that matter for failover: checks of the breaker, attempts, what is reported to
the breaker, and the events.  `Failover` is the language of the permitted
sequences.  Every failed attempt is reported as a failure and followed by a
check, which decides between the next retry and the next candidate; the first
attempt that is served ends the sequence.

An invocation keeps to this language as long as its exchanges end in ways that
the source handles: a provider answers with a body that the decoder takes or finds to be
no JSON, times out or drops the connection, and a publication does not fail outside the
client's `HTTPError`.  Any other exception leaves the invocation at once: an exchange
unreported and without a final event, a body after the event that says it is completed.
-/

namespace EstateMesh

open Lib Prog

/-! ## The view -/

/-- Whether an exchange with a provider is an answer that ends the invocation. -/
def isServed : Except HttpxError Response → Bool
  | .ok response => response.statusCode < 500
  | .error _ => false

section Serve

variable {py : Builtins} {cfg : MeshConfig} {request : InvokeRequest} {policy : MeshPolicy}
  {correlationId url : String} {service : Service}

/-- A provider that a registry candidate describes. -/
structure Provider where
  service : Service
  endpoint : String

end Serve

/-- The invocation obtained its correlation id, its policy and these candidates. -/
def Obtains (cfg : MeshConfig) (request : InvokeRequest) (t : List (Performed MeshOp MeshOp.Ans))
    (correlationId : String) (policy : MeshPolicy) (candidates : List Value) : Prop :=
  ∃ t₁ t₂, t = t₁ ++ t₂ ∧
    Trace (MeshEngine.obtainCandidates cfg request) t₁ (.ok (correlationId, policy, candidates))

/-- An invocation that obtained its candidates went on to try them. -/
theorem Obtains.serve {py : Builtins} {cfg : MeshConfig} {request : InvokeRequest}
    {t : List (Performed MeshOp MeshOp.Ans)} {r : Except Fault InvokeResult}
    {correlationId : String} {policy : MeshPolicy} {candidates : List Value}
    (hobtains : Obtains cfg request t correlationId policy candidates)
    (ht : Trace (MeshEngine.invoke py cfg request) t r) :
    ∃ t₁ t₂, t = t₁ ++ t₂ ∧
      Trace (MeshEngine.obtainCandidates cfg request) t₁ (.ok (correlationId, policy, candidates)) ∧
      Trace (MeshEngine.serveCandidates py cfg request policy correlationId candidates) t₂ r := by
  obtain ⟨t₁, t₂, rfl, h₁⟩ := hobtains
  refine ⟨t₁, t₂, rfl, h₁, ?_⟩
  unfold MeshEngine.invoke at ht
  rcases trace_bind.mp ht with ⟨obtained, u₁, u₂, e, hu₁, hu₂⟩ | ⟨fault, hu, -⟩
  · obtain ⟨rfl, ⟨⟩⟩ := h₁.unique hu₁ e
    exact List.append_cancel_left e ▸ hu₂
  · obtain ⟨-, ⟨⟩⟩ := h₁.unique hu (List.append_nil _).symm

theorem Obtains.of_exec {σ : Type} {h : σ → (o : MeshOp) → MeshOp.Ans o × σ} {s : σ}
    {py : Builtins} {cfg : MeshConfig} {request : InvokeRequest} {correlationId : String}
    {policy : MeshPolicy} {candidates : List Value}
    (e : (exec h (MeshEngine.obtainCandidates cfg request) s).2.1 =
      .ok (correlationId, policy, candidates)) :
    Obtains cfg request (exec h (MeshEngine.invoke py cfg request) s).1 correlationId policy
      candidates := by
  unfold MeshEngine.invoke
  rw [exec_bind e]
  exact ⟨_, _, rfl, e ▸ exec_trace h _ s⟩

def providerA : Provider := ⟨⟨.str "svc.a", "svc.a"⟩, "http://a.internal"⟩
def providerB : Provider := ⟨⟨.str "svc.b", "svc.b"⟩, "http://b.internal"⟩

/-- The candidate that describes a provider. -/
def Provider.candidate (p : Provider) : Value :=
  .object [("service", .object [("id", p.service.id)]), ("endpoint", .str p.endpoint)]

/-- The run of an invocation to which the registry names both providers. -/
def twoProviders (script : List Host) :
    List (Performed MeshOp MeshOp.Ans) × Except Fault InvokeResult × (List Host × MeshState) :=
  exec MeshEngine.scripted (MeshEngine.invoke default notesConfig (notesRequest ∅))
    (({} : Host) :: offers [providerA.candidate, providerB.candidate] :: script, {})

theorem twoProviders_obtains (script : List Host) :
    Obtains notesConfig (notesRequest ∅) (twoProviders script).1 "run-1" {}
      [providerA.candidate, providerB.candidate] := by
  apply Obtains.of_exec
  rfl

end EstateMesh
