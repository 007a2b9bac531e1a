import EstateMesh.Models

/-!
# The circuit breaker

One breaker entry per service, shared by every capability that lists the
service.  An entry that was never touched and the initial entry are the same
thing to every method, so the lemmas speak about `stateOf`, the entry with that
default filled in; each method then has one equation for its effect on
`stateOf`, and nothing later unfolds it.
-/

namespace EstateMesh

open Lib

/-- What the entry of a service is found by: an id that can be hashed, up to equality.
Numbers are equal across their types, and the decoder of JSON has one `NaN`, which is the
key that it is. -/
inductive ServiceKey
  | none
  | number (q : ℚ)
  | infinity (negative : Bool)
  | nan
  | str (s : String)
deriving DecidableEq, Repr

instance : Coe String ServiceKey := ⟨.str⟩

/-- The phases of a circuit. -/
inductive CircuitStatus
  | closed | opened | halfOpen
deriving DecidableEq, Repr

/-- The entry of one service. -/
structure CircuitState where
  failures : ℕ := 0
  state : CircuitStatus := .closed
  openedAt : Option ℚ := none
deriving DecidableEq, Repr

/-- The breaker: the entries by service id. -/
structure CircuitBreaker where
  states : Dict ServiceKey CircuitState := ∅

namespace CircuitBreaker

/-- Whether a request to the service may be attempted at `now`.  The query is
also the transition from open to half-open.  The readings of the clock are taken to be
exact numbers. -/
def canAttempt (self : CircuitBreaker) (now : ℚ) (serviceId : ServiceKey) (policy : MeshPolicy) :
    Bool × CircuitBreaker :=
  let (state, states) := self.states.setDefault serviceId {}
  if state.state ≠ .opened then (true, ⟨states⟩)
  else
    match state.openedAt with
    | none => (false, ⟨states⟩)
    | some openedAt =>
        if policy.recoverySeconds ≤ now - openedAt then
          (true, ⟨states.set serviceId { state with state := .halfOpen }⟩)
        else (false, ⟨states⟩)

/-- A request to the service succeeded. -/
def success (self : CircuitBreaker) (serviceId : ServiceKey) : CircuitBreaker :=
  ⟨self.states.set serviceId {}⟩

/-- A request to the service failed. -/
def failure (self : CircuitBreaker) (now : ℚ) (serviceId : ServiceKey) (policy : MeshPolicy) :
    CircuitBreaker :=
  let (state, states) := self.states.setDefault serviceId {}
  let state := { state with failures := state.failures + 1 }
  if state.state = .halfOpen ∨ policy.circuitFailureThreshold ≤ state.failures then
    ⟨states.set serviceId { state with state := .opened, openedAt := some now }⟩
  else ⟨states.set serviceId state⟩

/-- An operator closes the circuit. -/
def reset (self : CircuitBreaker) (serviceId : ServiceKey) : CircuitBreaker :=
  ⟨self.states.set serviceId {}⟩

/-- The entry of a service. -/
def stateOf (self : CircuitBreaker) (serviceId : ServiceKey) : CircuitState :=
  (self.states.get? serviceId).getD {}

end CircuitBreaker

/-! ## The methods on one entry -/

namespace CircuitState

/-- Whether an entry lets a request through at `now`. -/
def admits (c : CircuitState) (now : ℚ) (policy : MeshPolicy) : Bool :=
  match c.state, c.openedAt with
  | .opened, some openedAt => policy.recoverySeconds ≤ now - openedAt
  | .opened, none => false
  | _, _ => true

/-- The entry after `canAttempt`. -/
def checked (c : CircuitState) (now : ℚ) (policy : MeshPolicy) : CircuitState :=
  if c.state = .opened ∧ c.admits now policy = true then { c with state := .halfOpen } else c

/-- The entry after `failure`. -/
def failed (c : CircuitState) (now : ℚ) (policy : MeshPolicy) : CircuitState :=
  if c.state = .halfOpen ∨ policy.circuitFailureThreshold ≤ c.failures + 1 then
    ⟨c.failures + 1, .opened, some now⟩
  else { c with failures := c.failures + 1 }

/-- Only an open circuit refuses a request. -/
theorem admits_of_ne_opened {c : CircuitState} (h : c.state ≠ .opened) (now : ℚ)
    (policy : MeshPolicy) : c.admits now policy = true := by
  unfold admits
  split <;> simp_all

/-- A check leaves a circuit alone that is not open. -/
theorem checked_of_ne_opened {c : CircuitState} (h : c.state ≠ .opened) (now : ℚ)
    (policy : MeshPolicy) : c.checked now policy = c :=
  if_neg fun hc ↦ h hc.1

theorem checked_failures (c : CircuitState) (now : ℚ) (policy : MeshPolicy) :
    (c.checked now policy).failures = c.failures := by
  unfold checked
  split <;> rfl

theorem checked_openedAt (c : CircuitState) (now : ℚ) (policy : MeshPolicy) :
    (c.checked now policy).openedAt = c.openedAt := by
  unfold checked
  split <;> rfl

end CircuitState

namespace CircuitBreaker

variable (b : CircuitBreaker) (now : ℚ) (s s' : ServiceKey) (policy : MeshPolicy)

/-- Overwriting the entry of one service. -/
theorem stateOf_set (states : Dict ServiceKey CircuitState) (c : CircuitState) :
    stateOf ⟨states.set s c⟩ s' = if s' = s then c else stateOf ⟨states⟩ s' := by
  by_cases e : s' = s
  · simp [stateOf, e]
  · simp [stateOf, Dict.get?_set_of_ne _ (fun h : s = s' ↦ e h.symm), e]

/-- Storing the initial entry changes nothing. -/
@[simp] theorem stateOf_setDefault :
    stateOf ⟨(b.states.setDefault s {}).2⟩ s' = b.stateOf s' := by
  simp [stateOf]

/-- The answer of a check, and where it writes. -/
theorem canAttempt_eq :
    b.canAttempt now s policy =
      ((b.stateOf s).admits now policy,
        if (b.stateOf s).state = .opened ∧ (b.stateOf s).admits now policy = true then
          ⟨(b.states.setDefault s {}).2.set s ((b.stateOf s).checked now policy)⟩
        else ⟨(b.states.setDefault s {}).2⟩) := by
  have hc : (b.states.setDefault s {}).1 = b.stateOf s := Dict.setDefault_fst _ _ _
  unfold canAttempt
  rw [← hc]
  rcases b.states.setDefault s {} with ⟨⟨f, st, o⟩, states⟩
  cases st with
  | closed => cases o <;> simp [CircuitState.admits]
  | halfOpen => cases o <;> simp [CircuitState.admits]
  | opened =>
      cases o with
      | none => simp [CircuitState.admits]
      | some t =>
          by_cases h : (policy.recoverySeconds : ℚ) ≤ now - t <;>
            simp [CircuitState.admits, CircuitState.checked, h]

theorem canAttempt_fst : (b.canAttempt now s policy).1 = (b.stateOf s).admits now policy := by
  rw [canAttempt_eq]

variable {b now s s' policy} in
/-- What is noted of a check that succeeds is the service it lets through to. -/
theorem admits_of_canAttempt
    (h : (if (b.canAttempt now s policy).1 = true then some s else none) = some s') :
    s = s' ∧ (b.stateOf s).admits now policy = true := by
  rw [canAttempt_fst] at h
  split at h
  · rename_i hadmits
    exact ⟨Option.some.inj h, hadmits⟩
  · cases h

theorem stateOf_canAttempt :
    (b.canAttempt now s policy).2.stateOf s' =
      if s' = s then (b.stateOf s).checked now policy else b.stateOf s' := by
  rw [canAttempt_eq]
  by_cases h : (b.stateOf s).state = .opened ∧ (b.stateOf s).admits now policy = true
  · rw [if_pos h, stateOf_set, stateOf_setDefault]
  · have hc : (b.stateOf s).checked now policy = b.stateOf s := if_neg h
    rw [if_neg h, hc, stateOf_setDefault]
    split
    · rename_i e
      rw [e]
    · rfl

theorem stateOf_success : (b.success s).stateOf s' = if s' = s then {} else b.stateOf s' :=
  stateOf_set s s' b.states {}

theorem stateOf_reset : (b.reset s).stateOf s' = if s' = s then {} else b.stateOf s' :=
  stateOf_set s s' b.states {}

theorem failure_eq :
    b.failure now s policy =
      ⟨(b.states.setDefault s {}).2.set s ((b.stateOf s).failed now policy)⟩ := by
  have hc : (b.states.setDefault s {}).1 = b.stateOf s := Dict.setDefault_fst _ _ _
  unfold failure CircuitState.failed
  rw [← hc]
  rcases b.states.setDefault s {} with ⟨⟨f, st, o⟩, states⟩
  dsimp only
  split <;> rfl

theorem stateOf_failure :
    (b.failure now s policy).stateOf s' =
      if s' = s then (b.stateOf s).failed now policy else b.stateOf s' := by
  rw [failure_eq, stateOf_set, stateOf_setDefault]

end CircuitBreaker

end EstateMesh
