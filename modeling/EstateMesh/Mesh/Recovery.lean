import EstateMesh.Lib.Fallible
import EstateMesh.Lib.Machine
import EstateMesh.Mesh.CircuitBreaker
import Mathlib.Data.List.Sort
import Mathlib.Data.String.Basic

/-!
# Open circuits recover

The capabilities that share a provider bring policies of their own to its circuit, and an
operator may close it at any time.  Whatever the calls are, an entry of the breaker is
sound: it remembers when it was opened exactly if it is not closed.  So no circuit is stuck
open, and every policy lets a request through as soon as its own window has passed
(`no_circuit_is_stuck`).
-/

namespace EstateMesh

open Lib

/-- A call of a breaker method, under any policy. -/
inductive PolicyCall
  | canAttempt (serviceId : ServiceKey) (policy : MeshPolicy)
  | failure (serviceId : ServiceKey) (policy : MeshPolicy)
  | success (serviceId : ServiceKey)
  | reset (serviceId : ServiceKey)

/-- The service a call is about. -/
def PolicyCall.service : PolicyCall → ServiceKey
  | .canAttempt s _ | .failure s _ | .success s | .reset s => s

/-- `CircuitSnapshot`, which names its service by a string. -/
structure CircuitSnapshot extends CircuitState where
  serviceId : String

/-- Two keys can be put in order. -/
def ServiceKey.comparable : ServiceKey → ServiceKey → Bool
  | .none, _ | _, .none => false
  | .str _, .str _ => true
  | .str _, _ | _, .str _ => false
  | _, _ => true

/-- `s <= s'` for two ids; keys of other kinds are refused whatever their order is. -/
def ServiceKey.le : ServiceKey → ServiceKey → Bool
  | .str s, .str s' => s ≤ s'
  | _, _ => true

namespace CircuitBreaker

/-- The breaker after one call at a clock reading. -/
def call (b : CircuitBreaker) : ℚ × PolicyCall → CircuitBreaker
  | (now, .canAttempt s policy) => (b.canAttempt now s policy).2
  | (now, .failure s policy) => b.failure now s policy
  | (_, .success s) => b.success s
  | (_, .reset s) => b.reset s

/-- An entry as the model of the snapshot takes it. -/
def shown : ServiceKey × CircuitState → Except PyError CircuitSnapshot
  | (.str s, c) => .ok ⟨c, s⟩
  | _ => .error .valueError

/-- `CircuitBreaker.snapshot`. -/
def snapshot (b : CircuitBreaker) : Except PyError (List CircuitSnapshot) :=
  if b.states.keys.Pairwise fun s s' ↦ s.comparable s' = true then
    (b.states.entries.insertionSort fun x y ↦ x.1.le y.1 = true).mapM shown
  else .error .typeError

end CircuitBreaker

/-- An entry that was opened lets a request through once the window has passed. -/
theorem CircuitState.admits_of_passed {c : CircuitState} {t later : ℚ} {policy : MeshPolicy}
    (ht : c.openedAt = some t) (hpassed : (policy.recoverySeconds : ℚ) ≤ later - t) :
    c.admits later policy = true := by
  by_cases hstate : c.state = .opened
  · unfold CircuitState.admits
    rw [hstate, ht]
    exact decide_eq_true hpassed
  · exact CircuitState.admits_of_ne_opened hstate later policy

/-- An entry that is not closed has failed, and remembers when it was opened. -/
structure CircuitState.Sound (now : ℚ) (c : CircuitState) : Prop where
  closed_iff : c.state = .closed ↔ c.openedAt = none
  failures : c.state ≠ .closed → 1 ≤ c.failures
  openedAt : ∀ t, c.openedAt = some t → t ≤ now

namespace CircuitState.Sound

variable {now now' : ℚ} {c : CircuitState}

theorem mono (h : c.Sound now) (hle : now ≤ now') : c.Sound now' :=
  { h with openedAt := fun t ht ↦ (h.openedAt t ht).trans hle }

theorem init (now : ℚ) : Sound now {} where
  closed_iff := iff_of_true rfl rfl
  failures hstate := absurd rfl hstate
  openedAt := by rintro t ⟨⟩

/-- When an entry that is not closed was opened. -/
theorem exists_openedAt (h : c.Sound now) (hstate : c.state ≠ .closed) :
    ∃ t, c.openedAt = some t ∧ t ≤ now := by
  cases hopened : c.openedAt with
  | none => exact absurd (h.closed_iff.mpr hopened) hstate
  | some t => exact ⟨t, rfl, h.openedAt t hopened⟩

theorem checked (h : c.Sound now) (policy : MeshPolicy) : (c.checked now policy).Sound now := by
  unfold CircuitState.checked
  split
  · rename_i hopen
    have hstate : c.state ≠ .closed := by
      rw [hopen.1]
      rintro ⟨⟩
    obtain ⟨t, ht, -⟩ := h.exists_openedAt hstate
    refine ⟨iff_of_false (by rintro ⟨⟩) ?_, fun _ ↦ h.failures hstate, h.openedAt⟩
    rw [ht]
    rintro ⟨⟩
  · exact h

theorem failed (h : c.Sound now) (policy : MeshPolicy) : (c.failed now policy).Sound now := by
  unfold CircuitState.failed
  split
  · refine ⟨iff_of_false (by rintro ⟨⟩) (by rintro ⟨⟩), fun _ ↦ Nat.le_add_left 1 _, ?_⟩
    rintro t ⟨⟩
    exact le_refl now
  · exact ⟨h.closed_iff, fun _ ↦ Nat.le_add_left 1 _, h.openedAt⟩

end CircuitState.Sound

namespace CircuitBreaker

/-- The breaker after some calls on a new one. -/
def after (calls : List (ℚ × PolicyCall)) : CircuitBreaker := calls.foldl call {}

/-- The step lemma: a call keeps every entry sound. -/
theorem sound_call {b : CircuitBreaker} {now : ℚ} (h : ∀ s, (b.stateOf s).Sound now)
    (c : PolicyCall) (s : ServiceKey) : ((b.call (now, c)).stateOf s).Sound now := by
  cases c with
  | canAttempt s' policy =>
      show ((b.canAttempt now s' policy).2.stateOf s).Sound now
      rw [stateOf_canAttempt]
      split
      · exact (h s').checked policy
      · exact h s
  | failure s' policy =>
      show ((b.failure now s' policy).stateOf s).Sound now
      rw [stateOf_failure]
      split
      · exact (h s').failed policy
      · exact h s
  | success s' =>
      show ((b.success s').stateOf s).Sound now
      rw [stateOf_success]
      split
      · exact .init now
      · exact h s
  | reset s' =>
      show ((b.reset s').stateOf s).Sound now
      rw [stateOf_reset]
      split
      · exact .init now
      · exact h s

/-- The run lemma: calls at readings of a clock that never goes back keep every entry
sound. -/
theorem sound_calls {b : CircuitBreaker} {t₀ now : ℚ} (h : ∀ s, (b.stateOf s).Sound t₀)
    {calls : List (ℚ × PolicyCall)} (hclock : Clocked t₀ calls) (hle : t₀ ≤ now)
    (hnow : ∀ x ∈ calls, x.1 ≤ now) (s : ServiceKey) : ((calls.foldl call b).stateOf s).Sound now := by
  induction calls generalizing b t₀ with
  | nil => exact (h s).mono hle
  | cons x calls ih =>
      obtain ⟨t, c⟩ := x
      obtain ⟨ht, hclock⟩ := hclock
      obtain ⟨hx, hcalls⟩ := List.forall_mem_cons.mp hnow
      exact ih (sound_call (fun s ↦ (h s).mono ht) c) hclock hx hcalls

theorem stateOf_mem_snapshot {b : CircuitBreaker} {circuits : List CircuitSnapshot}
    (h : b.snapshot = .ok circuits) {x : CircuitSnapshot} (hx : x ∈ circuits) :
    x.toCircuitState = b.stateOf x.serviceId := by
  unfold snapshot at h
  split at h
  · obtain ⟨⟨key, c⟩, hmem, hshown⟩ := (mem_of_mapM_eq_ok h).mp hx
    have hentry : b.states.get? key = some c :=
      Dict.get?_eq_some_iff.mpr ((List.mem_insertionSort _).mp hmem)
    cases key with
    | str s =>
        cases hshown
        show c = (b.states.get? (.str s)).getD {}
        rw [hentry]
        rfl
    | _ => cases hshown
  · cases h

/-- Only the services of the calls have entries. -/
theorem mem_keys_call {b : CircuitBreaker} {now : ℚ} {c : PolicyCall} {key : ServiceKey}
    (h : key ∈ (b.call (now, c)).states.keys) : key ∈ b.states.keys ∨ c.service = key := by
  cases c with
  | canAttempt s policy =>
      change key ∈ (b.canAttempt now s policy).2.states.keys at h
      rw [canAttempt_eq] at h
      dsimp only at h
      split at h
      · exact (Dict.mem_keys_set.mp h).elim Dict.mem_keys_setDefault .inr
      · exact Dict.mem_keys_setDefault h
  | failure s policy =>
      change key ∈ (b.failure now s policy).states.keys at h
      rw [failure_eq] at h
      exact (Dict.mem_keys_set.mp h).elim Dict.mem_keys_setDefault .inr
  | success s => exact Dict.mem_keys_set.mp h
  | reset s => exact Dict.mem_keys_set.mp h

theorem mem_keys_after {calls : List (ℚ × PolicyCall)} {key : ServiceKey}
    (h : key ∈ (after calls).states.keys) : ∃ x ∈ calls, x.2.service = key := by
  induction calls using List.reverseRecOn with
  | nil => cases h
  | append_singleton calls x ih =>
      rw [after, List.foldl_append] at h
      rcases mem_keys_call h with h | h
      · obtain ⟨y, hy, hkey⟩ := ih h
        exact ⟨y, List.mem_append_left _ hy, hkey⟩
      · exact ⟨x, List.mem_append_right _ (List.mem_singleton_self x), h⟩

/-- The snapshot returns if all services are named by strings. -/
theorem exists_snapshot {b : CircuitBreaker} (h : ∀ key ∈ b.states.keys, ∃ s, key = .str s) :
    ∃ circuits, b.snapshot = .ok circuits := by
  have hcomparable : b.states.keys.Pairwise fun s s' ↦ s.comparable s' = true := by
    refine List.pairwise_of_forall_mem_list fun key hkey key' hkey' ↦ ?_
    obtain ⟨s, rfl⟩ := h key hkey
    obtain ⟨s', rfl⟩ := h key' hkey'
    rfl
  rw [snapshot, if_pos hcomparable]
  refine mapM_isOk fun x hx ↦ ?_
  obtain ⟨key, c⟩ := x
  obtain ⟨s, rfl⟩ := h key (List.mem_map_of_mem ((List.mem_insertionSort _).mp hx))
  exact ⟨⟨c, s⟩, rfl⟩

end CircuitBreaker

open CircuitBreaker in
/-- No circuit is stuck open.  After any calls on any services under any policies, at
readings of a clock that never goes back, a service is closed exactly if it has no time at
which it was opened; otherwise it has failed and was opened in the past.  So a check is
never refused for want of that time, and every policy's check succeeds once its window has
passed.  The snapshot shows these entries, if there is one, and there is one unless a
service goes by something else than a string. -/
theorem no_circuit_is_stuck (t₀ now : ℚ) (calls : List (ℚ × PolicyCall))
    (hclock : Clocked t₀ calls) (hnow : ∀ x ∈ calls, x.1 ≤ now) (s : ServiceKey) :
    (((after calls).stateOf s).state = .closed ↔ ((after calls).stateOf s).openedAt = none) ∧
      (((after calls).stateOf s).state ≠ .closed → 1 ≤ ((after calls).stateOf s).failures ∧
        ∃ t, ((after calls).stateOf s).openedAt = some t ∧ t ≤ now) ∧
      ¬ (((after calls).stateOf s).state = .opened ∧
        ((after calls).stateOf s).openedAt = none) ∧
      (∀ policy t later, ((after calls).stateOf s).openedAt = some t →
        (policy.recoverySeconds : ℚ) ≤ later - t →
        ((after calls).canAttempt later s policy).1 = true) ∧
      (∀ circuits, (after calls).snapshot = .ok circuits →
        ∀ x ∈ circuits, x.toCircuitState = (after calls).stateOf x.serviceId) ∧
      ((∀ x ∈ calls, ∃ id, x.2.service = .str id) →
        ∃ circuits, (after calls).snapshot = .ok circuits) := by
  have hsound : ((after calls).stateOf s).Sound now := by
    cases calls with
    | nil => exact .init now
    | cons x calls =>
        have hle : t₀ ≤ now := hclock.1.trans (hnow x List.mem_cons_self)
        exact sound_calls (fun _ ↦ .init t₀) hclock hle hnow s
  refine ⟨hsound.closed_iff, fun hstate ↦ ⟨hsound.failures hstate, hsound.exists_openedAt hstate⟩,
    ?_, fun policy t later ht hpassed ↦ ?_, fun circuits h x hx ↦ stateOf_mem_snapshot h hx,
    fun hnamed ↦ exists_snapshot fun key hkey ↦ ?_⟩
  · rintro ⟨hopened, hnone⟩
    rw [hsound.closed_iff.mpr hnone] at hopened
    cases hopened
  · rw [canAttempt_fst]
    exact CircuitState.admits_of_passed ht hpassed
  · obtain ⟨x, hx, rfl⟩ := mem_keys_after hkey
    exact hnamed x hx

/-- One failure opens a circuit for an eager policy, and another policy lets a request
through as soon as its own window has passed. -/
theorem eagerly_opened_circuit_recovers :
    ((CircuitBreaker.after [(5, .failure "svc.a" { circuitFailureThreshold := 1 })]).canAttempt 15
      "svc.a" { recoverySeconds := 10 }).1 = true := by
  have hclock : Clocked (0 : ℚ) [((5 : ℚ), PolicyCall.failure "svc.a"
      { circuitFailureThreshold := 1 })] := by
    simp only [Clocked]
    norm_num
  have hstuck := no_circuit_is_stuck 0 5 _ hclock (by simp) "svc.a"
  refine hstuck.2.2.2.1 { recoverySeconds := 10 } 5 15 (by decide +kernel) ?_
  norm_num

end EstateMesh
