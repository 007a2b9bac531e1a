import EstateMesh.Lib.Monitor
import EstateMesh.Mesh.Queries

/-!
# The budget of retries

How many requests a failing service gets from one invocation is decided by the loop over
the retries, by the check after every failure and by the counter of the breaker.  `Watch`
follows the circuit of one service through the operations of an invocation that has the
engine to itself, and counts the requests; the clock is read once for every operation.

A closed circuit lets requests through until the retries are used up or the counter
reaches the threshold, and a circuit that is not closed gives way at once
(`Budgeted`).
-/

namespace EstateMesh

open Lib Prog Monitor

/-- What one invocation did to a service that fails, with a number of tries at its
disposal. -/
structure Budgeted (policy : MeshPolicy) (tries : ℕ) (before after : CircuitState)
    (requests : ℕ) : Prop where
  closed : before.state = .closed →
    requests = max 1 (min tries (policy.circuitFailureThreshold - before.failures))
  reopened : before.state ≠ .closed → requests = 1
  failures : after.failures = before.failures + requests
  opened_iff : after.state = .opened ↔
    before.state ≠ .closed ∨ policy.circuitFailureThreshold ≤ after.failures

/-! ## One circuit -/

namespace CircuitState

variable {policy : MeshPolicy} {tries requests : ℕ} {c c' : CircuitState} {now now' : ℚ}

theorem failed_failures (c : CircuitState) (now : ℚ) (policy : MeshPolicy) :
    (c.failed now policy).failures = c.failures + 1 := by
  unfold failed
  split <;> rfl

/-- When a failure opens a circuit that let the request through. -/
theorem failed_opened_iff (h : c.state ≠ .opened) (now : ℚ) (policy : MeshPolicy) :
    (c.failed now policy).state = .opened ↔
      c.state ≠ .closed ∨ policy.circuitFailureThreshold ≤ c.failures + 1 := by
  have hhalf : c.state = .halfOpen ↔ c.state ≠ .closed := by
    cases hstate : c.state with
    | closed => simp
    | opened => exact absurd hstate h
    | halfOpen => simp
  unfold failed
  rw [← hhalf]
  split
  · rename_i hopens
    exact iff_of_true rfl hopens
  · rename_i hnot
    exact iff_of_false h hnot

end CircuitState

namespace Budgeted

variable {policy : MeshPolicy} {tries requests : ℕ} {c c' : CircuitState} {now : ℚ}

/-- One failure, after which no other request is made: the circuit is open, or it was the
last try. -/
theorem last (h : c.state ≠ .opened) (hlast : (c.failed now policy).state = .opened ∨ tries = 1) :
    Budgeted policy tries c (c.failed now policy) 1 := by
  have hopened := CircuitState.failed_opened_iff h now policy
  refine ⟨fun hclosed ↦ ?_, fun _ ↦ rfl, CircuitState.failed_failures c now policy, ?_⟩
  · rcases hlast with hlast | rfl
    · have hreached := (hopened.mp hlast).resolve_left (not_not_intro hclosed)
      omega
    · omega
  · rw [CircuitState.failed_failures]
    exact hopened

end Budgeted

/-! ## Watching a service -/

/-- The ends of a request that count as failures: a 5xx response, a timeout or a network
error. -/
def isFailure : Except HttpxError Response → Bool
  | .ok response => 500 ≤ response.statusCode
  | .error e => e.isTimeoutOrNetwork

/-- A request to a service. -/
def sentTo (s : ServiceKey) : Performed MeshOp MeshOp.Ans → Bool
  | ⟨.upstream s' _, _⟩ => s' = s
  | _ => false

/-- A check that lets a request through to a service. -/
def letThrough (s : ServiceKey) : Performed MeshOp MeshOp.Ans → Bool
  | ⟨.canAttempt s' _, admitted⟩ => s' = s ∧ admitted = true
  | _ => false

/-- A failure of a service that is recorded at `now`. -/
def recordedAt (s : ServiceKey) (now : ℚ) : MeshOp → Option ℚ
  | .failure s' _ => if s' = s then some now else none
  | _ => none

/-- What is known of a service after some operations. -/
structure Watch where
  /-- How often the clock was read. -/
  readings : ℕ := 0
  circuit : CircuitState
  requests : ℕ := 0
  admitted : Bool := false
  /-- When a failure was recorded by the last operation. -/
  failedAt : Option ℚ := none

/-- Nothing has happened to the service. -/
structure Watch.Spared (w w' : Watch) : Prop where
  circuit : w'.circuit = w.circuit
  requests : w'.requests = w.requests
  admitted : w'.admitted = w.admitted

/-- Watch a service that fails whenever it is asked, with a check soon after each failure. -/
def retryMonitor (s : ServiceKey) (clock : ℕ → ℚ) : Monitor MeshOp MeshOp.Ans Watch where
  expects
    | w, ⟨.canAttempt s' policy, admitted⟩ => s' = s →
        admitted = w.circuit.admits (clock w.readings) policy ∧
          ∀ t ∈ w.failedAt, clock w.readings - t < policy.recoverySeconds
    | _, ⟨.upstream s' _, answer⟩ => s' = s → isFailure answer = true
    | _, _ => True
  next w x :=
    { readings := w.readings + 1
      circuit := w.circuit.after (x.1.circuitEvent s (clock w.readings))
      requests := w.requests + (sentTo s x).toNat
      admitted := w.admitted || letThrough s x
      failedAt := recordedAt s (clock w.readings) x.1 }

/-- The operations that do not name a service. -/
def MeshOp.Spares (s : ServiceKey) : MeshOp → Prop
  | .canAttempt s' _ | .success s' | .failure s' _ | .upstream s' _ => s' ≠ s
  | _ => True

section Watching

variable {py : Builtins} {cfg : MeshConfig} {request : InvokeRequest} {policy : MeshPolicy}
  {correlationId url : String} {s : ServiceKey} {service : Service} {clock : ℕ → ℚ} {w w' : Watch}

namespace Watch.Spared

theorem refl (w : Watch) : w.Spared w := ⟨rfl, rfl, rfl⟩

theorem trans {w'' : Watch} (h : w.Spared w') (h' : w'.Spared w'') : w.Spared w'' :=
  ⟨h'.circuit.trans h.circuit, h'.requests.trans h.requests, h'.admitted.trans h.admitted⟩

/-- The step lemma for an operation that does not name the service. -/
theorem step {o : MeshOp} (ho : o.Spares s) (a : MeshOp.Ans o) (w : Watch) :
    w.Spared ((retryMonitor s clock).next w ⟨o, a⟩) := by
  cases o with
  | canAttempt s' policy =>
      refine ⟨?_, rfl, ?_⟩
      · show w.circuit.after (if s' = s then _ else none) = w.circuit
        rw [if_neg ho]
        rfl
      · show (w.admitted || decide (s' = s ∧ a = true)) = w.admitted
        rw [decide_eq_false (fun h ↦ ho h.1), Bool.or_false]
  | failure s' policy =>
      refine ⟨?_, rfl, Bool.or_false _⟩
      show w.circuit.after (if s' = s then _ else none) = w.circuit
      rw [if_neg ho]
      rfl
  | success s' =>
      refine ⟨?_, rfl, Bool.or_false _⟩
      show w.circuit.after (if s' = s then _ else none) = w.circuit
      rw [if_neg ho]
      rfl
  | upstream s' outgoing =>
      refine ⟨rfl, ?_, Bool.or_false _⟩
      show w.requests + (decide (s' = s)).toNat = w.requests
      rw [decide_eq_false ho]
      rfl
  | _ => exact ⟨rfl, rfl, Bool.or_false _⟩

/-- An event is emitted. -/
theorem emit (eventType : MeshEventType) (correlationId : String) (payload : Value)
    (event : MeshEvent) (w : Watch) :
    w.Spared ((retryMonitor s clock).next w ⟨.emit eventType correlationId payload, event⟩) :=
  step (o := .emit eventType correlationId payload) trivial event w

/-- The run lemma. -/
theorem run {ε α : Type} {p : Prog MeshOp MeshOp.Ans ε α} (hp : Performs (MeshOp.Spares s) p)
    (w : Watch) : Ends (retryMonitor s clock) p w fun w' _ ↦ w.Spared w' :=
  ends_of_performs (fun w' _ a ho h ↦ h.trans (step ho a w')) hp (.refl w)

end Watch.Spared

/-! ## One try -/

/-- If the service was let through, it was treated by the budget. -/
def Watch.Judged (policy : MeshPolicy) (c : CircuitState) (w : Watch) : Prop :=
  w.admitted = true → Budgeted policy (policy.retries + 1) c w.circuit w.requests

end Watching

/-! ## An invocation on its own -/

/-- A failure of the service and the check that follows it are closer together than the
recovery window. -/
def Prompt (s : ServiceKey) (clock : ℕ → ℚ) (t : List (Performed MeshOp MeshOp.Ans)) : Prop :=
  ∀ i policy policy' done admitted, t[i]? = some ⟨.failure s policy, done⟩ →
    t[i + 1]? = some ⟨.canAttempt s policy', admitted⟩ →
    clock (i + 1) - clock i < policy'.recoverySeconds

section Alone

variable {s : ServiceKey} {clock : ℕ → ℚ} {x : Session} {ε α : Type}

theorem Prompt.tail {y : Performed MeshOp MeshOp.Ans} {t : List (Performed MeshOp MeshOp.Ans)}
    (h : Prompt s clock (y :: t)) : Prompt s (fun i ↦ clock (i + 1)) t :=
  fun i ↦ h (i + 1)

end Alone

/-- What an invocation does that has the engine to itself. -/
def Session.invoke (x : Session) (py : Builtins) (cfg : MeshConfig) (request : InvokeRequest)
    (st : MeshState) :
    List (Performed MeshOp MeshOp.Ans) × Except Fault InvokeResult × (ℕ × MeshState) :=
  exec x.answer (MeshEngine.invoke py cfg request) (0, st)

end EstateMesh
