import EstateMesh.Lib.Machine
import EstateMesh.Mesh.CircuitBreaker

/-!
# The breaker as a function of its history

Under one policy the three-state machine of the breaker carries no information
beyond two lists: when the service failed since it last succeeded or was reset,
and when its circuit was checked since the last of those failures.  This file
defines those lists (`CircuitHistory`), shows that every method keeps the entry
of the breaker in step with them (`Tracks`), and reads the state off them.

The thresholds of a `MeshPolicy` matter twice.  A positive failure threshold is
what makes the initial entry agree with the empty history; and since failures
are never forgotten while a circuit is open, a circuit that has reached the
threshold stays above it until a success or a reset.
-/

namespace EstateMesh

open Lib

/-! ## Calls on the breaker -/

/-- A call of a breaker method under the one policy. -/
inductive BreakerCall
  | canAttempt (serviceId : ServiceKey)
  | failure (serviceId : ServiceKey)
  | success (serviceId : ServiceKey)
  | reset (serviceId : ServiceKey)
deriving DecidableEq, Repr

/-- The service a call is about. -/
def BreakerCall.service : BreakerCall → ServiceKey
  | .canAttempt s | .failure s | .success s | .reset s => s

namespace CircuitBreaker

/-- The breaker after one call at a clock reading. -/
def step (policy : MeshPolicy) (b : CircuitBreaker) : ℚ × BreakerCall → CircuitBreaker
  | (now, .canAttempt s) => (b.canAttempt now s policy).2
  | (now, .failure s) => b.failure now s policy
  | (_, .success s) => b.success s
  | (_, .reset s) => b.reset s

/-- The breaker after a sequence of calls on a new breaker. -/
def replay (policy : MeshPolicy) (calls : List (ℚ × BreakerCall)) : CircuitBreaker :=
  calls.foldl (step policy) {}

end CircuitBreaker

/-! ## Histories -/

/-- What matters of the calls on one service. -/
structure CircuitHistory where
  /-- When it failed since its last success or reset, oldest first. -/
  failures : List ℚ := []
  /-- When its circuit was checked since its last failure, success or reset. -/
  checks : List ℚ := []

namespace CircuitHistory

/-- A call on the service at a clock reading. -/
def step (h : CircuitHistory) : ℚ × BreakerCall → CircuitHistory
  | (now, .canAttempt _) => { h with checks := h.checks ++ [now] }
  | (now, .failure _) => ⟨h.failures ++ [now], []⟩
  | (_, .success _) | (_, .reset _) => {}

/-- The history of a service in a sequence of calls on all services. -/
def of (s : ServiceKey) (calls : List (ℚ × BreakerCall)) : CircuitHistory :=
  (calls.filter fun x ↦ x.2.service = s).foldl step {}

/-- The window of the last failure has passed at `t`. -/
def Elapsed (h : CircuitHistory) (policy : MeshPolicy) (t : ℚ) : Prop :=
  ∃ l ∈ h.failures.getLast?, (policy.recoverySeconds : ℚ) ≤ t - l

/-- The circuit was checked after the window of the last failure had passed. -/
def Probed (h : CircuitHistory) (policy : MeshPolicy) : Prop :=
  ∃ t ∈ h.checks, h.Elapsed policy t

instance (h : CircuitHistory) (policy : MeshPolicy) (t : ℚ) : Decidable (h.Elapsed policy t) :=
  inferInstanceAs (Decidable (∃ l ∈ h.failures.getLast?, (policy.recoverySeconds : ℚ) ≤ t - l))

instance (h : CircuitHistory) (policy : MeshPolicy) : Decidable (h.Probed policy) :=
  inferInstanceAs (Decidable (∃ t ∈ h.checks, h.Elapsed policy t))

theorem of_append (s : ServiceKey) (calls : List (ℚ × BreakerCall)) (x : ℚ × BreakerCall) :
    of s (calls ++ [x]) = if x.2.service = s then (of s calls).step x else of s calls := by
  unfold of
  rw [List.filter_append, List.foldl_append]
  by_cases h : x.2.service = s <;> simp [h]

end CircuitHistory

/-! ## The entry tracks the history -/

/-- The entry of a service agrees with its history, no check of which is later
than `now`. -/
structure Tracks (policy : MeshPolicy) (now : ℚ) (c : CircuitState) (h : CircuitHistory) :
    Prop where
  failures : c.failures = h.failures.length
  below : h.failures.length < policy.circuitFailureThreshold →
    c.state = .closed ∧ c.openedAt = none
  openedAt : policy.circuitFailureThreshold ≤ h.failures.length →
    c.openedAt = h.failures.getLast?
  halfOpen : policy.circuitFailureThreshold ≤ h.failures.length → h.Probed policy →
    c.state = .halfOpen
  opened : policy.circuitFailureThreshold ≤ h.failures.length → ¬ h.Probed policy →
    c.state = .opened
  checks : ∀ t ∈ h.checks, t ≤ now

namespace Tracks

variable {policy : MeshPolicy} {now now' : ℚ} {c : CircuitState} {h : CircuitHistory}

theorem mono (ht : Tracks policy now c h) (hle : now ≤ now') : Tracks policy now' c h :=
  { ht with checks := fun t hm ↦ (ht.checks t hm).trans hle }

/-- A new entry tracks the empty history: no policy opens a circuit on sight. -/
theorem init : Tracks policy now {} {} where
  failures := rfl
  below _ := ⟨rfl, rfl⟩
  openedAt hle := by
    have hpos := policy.circuitFailureThreshold_bounds.1
    simp only [List.length_nil] at hle
    omega
  halfOpen _ hp := by
    obtain ⟨t, ht, -⟩ := hp
    cases ht
  opened hle := by
    have hpos := policy.circuitFailureThreshold_bounds.1
    simp only [List.length_nil] at hle
    omega
  checks _ ht := by cases ht

/-- A circuit that tracks its history lets a request through exactly when it is
below the threshold or the window of the last failure has passed. -/
theorem admits_iff (ht : Tracks policy now c h) :
    c.admits now policy = true ↔
      h.failures.length < policy.circuitFailureThreshold ∨ h.Elapsed policy now := by
  by_cases hlt : h.failures.length < policy.circuitFailureThreshold
  · have hclosed : c.state ≠ .opened := by rw [(ht.below hlt).1]; decide
    simp [CircuitState.admits_of_ne_opened hclosed, hlt]
  · have hle : policy.circuitFailureThreshold ≤ h.failures.length := not_lt.mp hlt
    by_cases hp : h.Probed policy
    · have hhalf : c.state ≠ .opened := by rw [ht.halfOpen hle hp]; decide
      -- the clock has not gone back since the check that made the circuit half-open
      have hel : h.Elapsed policy now := by
        obtain ⟨t, hmem, l, hl, hR⟩ := hp
        exact ⟨l, hl, hR.trans (sub_le_sub_right (ht.checks t hmem) l)⟩
      simp [CircuitState.admits_of_ne_opened hhalf, hel]
    · have hopen := ht.opened hle hp
      have hat := ht.openedAt hle
      unfold CircuitState.admits CircuitHistory.Elapsed
      rw [hopen, hat]
      cases hlast : h.failures.getLast? with
      | none => simp [hlt]
      | some l => simp [hlt]

/-- Checking the circuit. -/
theorem checked (ht : Tracks policy now c h) (s : ServiceKey) :
    Tracks policy now (c.checked now policy) (h.step (now, .canAttempt s)) := by
  have hstep : h.step (now, .canAttempt s) = ⟨h.failures, h.checks ++ [now]⟩ := rfl
  rw [hstep]
  have hprobed : CircuitHistory.Probed ⟨h.failures, h.checks ++ [now]⟩ policy ↔
      h.Probed policy ∨ h.Elapsed policy now := by
    simp only [CircuitHistory.Probed, CircuitHistory.Elapsed, List.mem_append,
      List.mem_singleton, or_and_right, exists_or, exists_eq_left]
  have hchecks : ∀ t ∈ h.checks ++ [now], t ≤ now := by
    intro t hm
    rcases List.mem_append.mp hm with hm | hm
    · exact ht.checks t hm
    · exact (List.mem_singleton.mp hm).le
  by_cases hlt : h.failures.length < policy.circuitFailureThreshold
  · have hclosed := (ht.below hlt).1
    rw [CircuitState.checked_of_ne_opened (by rw [hclosed]; decide)]
    exact
      { failures := ht.failures
        below := ht.below
        openedAt := ht.openedAt
        halfOpen := fun hle ↦ absurd hlt (not_lt.mpr hle)
        opened := fun hle ↦ absurd hlt (not_lt.mpr hle)
        checks := hchecks }
  · have hle : policy.circuitFailureThreshold ≤ h.failures.length := not_lt.mp hlt
    have hadm := ht.admits_iff
    have hcond : (c.state = .opened ∧ c.admits now policy = true) ↔
        ¬ h.Probed policy ∧ h.Elapsed policy now := by
      by_cases hp : h.Probed policy
      · simp [ht.halfOpen hle hp, hp]
      · simp [ht.opened hle hp, hp, hadm, hlt]
    exact
      { failures := (c.checked_failures now policy).trans ht.failures
        below := fun h' ↦ absurd h' hlt
        openedAt := fun _ ↦ (c.checked_openedAt now policy).trans (ht.openedAt hle)
        halfOpen := by
          intro _ hp'
          unfold CircuitState.checked
          by_cases hp : h.Probed policy
          · rw [if_neg fun hc ↦ (hcond.mp hc).1 hp]
            exact ht.halfOpen hle hp
          · rw [if_pos (hcond.mpr ⟨hp, (hprobed.mp hp').resolve_left hp⟩)]
        opened := by
          intro _ hp'
          have hp : ¬ h.Probed policy := fun hp ↦ hp' (hprobed.mpr (.inl hp))
          unfold CircuitState.checked
          rw [if_neg fun hc ↦ hp' (hprobed.mpr (.inr (hcond.mp hc).2))]
          exact ht.opened hle hp
        checks := hchecks }

/-- Recording a failure. -/
theorem failed (ht : Tracks policy now c h) (s : ServiceKey) :
    Tracks policy now (c.failed now policy) (h.step (now, .failure s)) := by
  have hstep : h.step (now, .failure s) = ⟨h.failures ++ [now], []⟩ := rfl
  have hnot : ¬ CircuitHistory.Probed ⟨h.failures ++ [now], []⟩ policy := by
    rintro ⟨t, hm, -⟩
    cases hm
  rw [hstep]
  have hiff : (c.state = .halfOpen ∨ policy.circuitFailureThreshold ≤ c.failures + 1) ↔
      policy.circuitFailureThreshold ≤ (h.failures ++ [now]).length := by
    rw [ht.failures, List.length_append, List.length_singleton]
    refine or_iff_right_of_imp fun hhalf ↦ ?_
    by_contra hlt
    have hclosed := (ht.below (by omega)).1
    rw [hclosed] at hhalf
    cases hhalf
  unfold CircuitState.failed
  by_cases hle : policy.circuitFailureThreshold ≤ (h.failures ++ [now]).length
  · rw [if_pos (hiff.mpr hle)]
    exact
      { failures := by simp [ht.failures]
        below := fun hlt ↦ absurd hle (not_le.mpr hlt)
        openedAt := by simp
        halfOpen := fun _ hp ↦ absurd hp hnot
        opened := fun _ _ ↦ rfl
        checks := fun _ hm ↦ by cases hm }
  · rw [if_neg fun hc ↦ hle (hiff.mp hc)]
    have hlen : (h.failures ++ [now]).length = h.failures.length + 1 := by simp
    exact
      { failures := by simp [ht.failures]
        below := fun _ ↦ ht.below (by omega)
        openedAt := fun h' ↦ absurd h' hle
        halfOpen := fun h' ↦ absurd h' hle
        opened := fun h' ↦ absurd h' hle
        checks := fun _ hm ↦ by cases hm }

/-- One call on the breaker, seen from one service. -/
theorem step {b : CircuitBreaker} {s : ServiceKey} (ht : Tracks policy now (b.stateOf s) h)
    (call : BreakerCall) :
    Tracks policy now ((b.step policy (now, call)).stateOf s)
      (if call.service = s then h.step (now, call) else h) := by
  cases call with
  | canAttempt s' =>
      simp only [CircuitBreaker.step, CircuitBreaker.stateOf_canAttempt, BreakerCall.service]
      rcases eq_or_ne s s' with rfl | e
      · simpa using ht.checked s
      · simpa [e, e.symm] using ht
  | failure s' =>
      simp only [CircuitBreaker.step, CircuitBreaker.stateOf_failure, BreakerCall.service]
      rcases eq_or_ne s s' with rfl | e
      · simpa using ht.failed s
      · simpa [e, e.symm] using ht
  | success s' =>
      simp only [CircuitBreaker.step, CircuitBreaker.stateOf_success, BreakerCall.service]
      rcases eq_or_ne s s' with rfl | e
      · simpa [CircuitHistory.step] using init
      · simpa [e, e.symm] using ht
  | reset s' =>
      simp only [CircuitBreaker.step, CircuitBreaker.stateOf_reset, BreakerCall.service]
      rcases eq_or_ne s s' with rfl | e
      · simpa [CircuitHistory.step] using init
      · simpa [e, e.symm] using ht

end Tracks

/-! ## Runs -/

/-- The run lemma: after any calls at readings of a clock that never goes back,
the entry of every service tracks the history of that service. -/
theorem replay_tracks (policy : MeshPolicy) (s : ServiceKey) {t₀ now : ℚ}
    {calls : List (ℚ × BreakerCall)} {call : BreakerCall}
    (h : Clocked t₀ (calls ++ [(now, call)])) :
    Tracks policy now ((CircuitBreaker.replay policy calls).stateOf s)
      (CircuitHistory.of s calls) := by
  induction calls using List.reverseRecOn generalizing now call with
  | nil => exact Tracks.init
  | append_singleton calls x ih =>
      obtain ⟨now', call'⟩ := x
      have hstep := (ih h.of_append).step call'
      rw [CircuitBreaker.replay, List.foldl_append, CircuitHistory.of_append]
      exact hstep.mono h.le_of_append

/-- The breaker is a function of its history.  After any calls under one policy,
at readings of a clock that never goes back, the entry of a service is
determined by the failures since its last success or reset and the checks since
the last of them, and so is the answer to the next check. -/
theorem breaker_state_is_history (policy : MeshPolicy) (s : ServiceKey) (t₀ t : ℚ)
    (calls : List (ℚ × BreakerCall)) (h : Clocked t₀ (calls ++ [(t, .canAttempt s)])) :
    let breaker := CircuitBreaker.replay policy calls
    let c := breaker.stateOf s
    let history := CircuitHistory.of s calls
    let k := history.failures.length
    let T := policy.circuitFailureThreshold
    c.failures = k ∧
      (c.state = .closed ∧ c.openedAt = none ↔ k < T) ∧
      (T ≤ k → c.openedAt = history.failures.getLast?) ∧
      (T ≤ k → (c.state = .halfOpen ↔ history.Probed policy)) ∧
      (T ≤ k → (c.state = .opened ↔ ¬ history.Probed policy)) ∧
      ((breaker.canAttempt t s policy).1 = true ↔ k < T ∨ history.Elapsed policy t) := by
  intro breaker c history k T
  have ht : Tracks policy t c history := replay_tracks policy s h
  refine ⟨ht.failures, ⟨fun hc ↦ ?_, ht.below⟩, ht.openedAt, fun hle ↦ ?_, fun hle ↦ ?_, ?_⟩
  · by_contra hlt
    have hstate : c.state = .halfOpen ∨ c.state = .opened :=
      (em (history.Probed policy)).imp (ht.halfOpen (not_lt.mp hlt)) (ht.opened (not_lt.mp hlt))
    rcases hstate with e | e <;> simp [hc.1] at e
  · refine ⟨fun e ↦ by_contra fun hp ↦ ?_, ht.halfOpen hle⟩
    rw [ht.opened hle hp] at e
    cases e
  · refine ⟨fun e hp ↦ ?_, ht.opened hle⟩
    rw [ht.halfOpen hle hp] at e
    cases e
  · rw [CircuitBreaker.canAttempt_fst]
    exact ht.admits_iff

/-- Three failures open a circuit, a check after the window makes it half-open,
and a later failure opens it again for a full window. -/
theorem breaker_state_is_history_example :
    let calls : List (ℚ × BreakerCall) :=
      [(0, .failure "a"), (1, .failure "a"), (2, .failure "b"), (2, .failure "a"),
        (32, .canAttempt "a"), (33, .failure "a")]
    Clocked 0 (calls ++ [(62, .canAttempt "a")]) ∧
      (CircuitBreaker.replay {} calls).stateOf "a" = ⟨4, .opened, some 33⟩ ∧
      ((CircuitBreaker.replay {} calls).canAttempt 62 "a" {}).1 = false := by
  intro calls
  have hclock : Clocked 0 (calls ++ [(62, .canAttempt "a")]) := by
    simp only [calls, List.cons_append, List.nil_append, Clocked]
    norm_num
  have hstate := breaker_state_is_history {} "a" 0 62 calls hclock
  refine ⟨hclock, by decide +kernel, ?_⟩
  rw [← Bool.not_eq_true, hstate.2.2.2.2.2]
  decide +kernel

end EstateMesh
