import Mathlib.Algebra.BigOperators.Group.Finset.Basic
import Mathlib.Algebra.Order.BigOperators.Group.Finset
import Mathlib.Algebra.Order.Field.Basic
import Mathlib.Tactic.Linarith
import Mathlib.Tactic.Ring

/-!
# Leases that are renewed

A holder renews a lease from time to time.  An attempt that succeeds is followed by a fixed
period, and one that fails by a pause that depends on how many failed before it.  The lease may
also be lost, through no fault of the holder.

`Terms.silence k` is how long the lease goes without a renewal when attempts end in time and at
most `k` fail in a row (`Held.within`).
-/

universe u

namespace Lib

variable {τ : Type u} [Field τ] [LinearOrder τ]

/-- How a lease is renewed. -/
structure Terms (τ : Type u) [Field τ] [LinearOrder τ] where
  /-- From a success to the next attempt. -/
  period : τ
  /-- From the time an attempt is due to its end. -/
  latency : τ
  /-- From a failure to the next attempt, after so many failures before it. -/
  delay : ℕ → τ
  period_nonneg : 0 ≤ period
  latency_nonneg : 0 ≤ latency
  delay_nonneg : ∀ n, 0 ≤ delay n

namespace Terms

/-- The pauses of so many failures in a row. -/
def pauses (T : Terms τ) (n : ℕ) : τ := ∑ i ∈ Finset.range n, T.delay i

/-- The longest time without a renewal. -/
def silence (T : Terms τ) (n : ℕ) : τ := T.period + T.pauses n + (n + 2) * T.latency

variable {T : Terms τ}

@[simp] theorem pauses_zero : T.pauses 0 = 0 := Finset.sum_range_zero _

theorem pauses_succ (n : ℕ) : T.pauses (n + 1) = T.pauses n + T.delay n :=
  Finset.sum_range_succ _ n

variable [IsStrictOrderedRing τ]

theorem pauses_nonneg (n : ℕ) : 0 ≤ T.pauses n := Finset.sum_nonneg fun i _ ↦ T.delay_nonneg i

theorem silence_mono {m n : ℕ} (h : m ≤ n) : T.silence m ≤ T.silence n := by
  have hpauses : T.pauses m ≤ T.pauses n := by
    refine Finset.sum_le_sum_of_subset_of_nonneg ?_ fun i _ _ ↦ T.delay_nonneg i
    exact Finset.range_mono h
  have hcalls : ((m : τ) + 2) * T.latency ≤ (n + 2) * T.latency := by
    refine mul_le_mul_of_nonneg_right ?_ T.latency_nonneg
    exact add_le_add_left (Nat.cast_le.mpr h) 2
  rw [silence, silence]
  linarith

end Terms

/-- Where a lease stands. -/
structure Lease (τ : Type u) where
  clock : τ
  /-- When the holder makes its next attempt, or when it made the one it is at. -/
  due : τ
  /-- The attempts that have failed in a row. -/
  failures : ℕ
  /-- When the lease was renewed last, or lost. -/
  mark : τ

namespace Lease

/-- Time passes. -/
def passed (l : Lease τ) (now : τ) : Lease τ := { l with clock := now }

/-- The lease is renewed, or lost. -/
def marked (l : Lease τ) (now : τ) : Lease τ := { l with clock := now, mark := now }

/-- An attempt succeeds. -/
def succeeded (T : Terms τ) (l : Lease τ) (now : τ) : Lease τ :=
  { l with clock := now, due := now + T.period, failures := 0 }

/-- An attempt fails. -/
def failed (T : Terms τ) (l : Lease τ) (now : τ) : Lease τ :=
  { l with clock := now, due := now + T.delay l.failures, failures := l.failures + 1 }

/-- The next attempt is due soon enough, both from now and from the last renewal. -/
structure Held (T : Terms τ) (l : Lease τ) : Prop where
  mark_le : l.mark ≤ l.clock
  soon : l.due ≤ l.clock + T.period + T.pauses l.failures
  recent : l.due ≤ l.mark + T.period + T.pauses l.failures + (l.failures + 1) * T.latency

namespace Held

variable [IsStrictOrderedRing τ] {T : Terms τ} {l : Lease τ} {now : τ}

theorem start (T : Terms τ) (now : τ) : Held T ⟨now, now, 0, now⟩ where
  mark_le := le_refl _
  soon := by simp [T.period_nonneg]
  recent := by
    have hperiod := T.period_nonneg
    have hlatency := T.latency_nonneg
    simp only [Terms.pauses_zero, Nat.cast_zero]
    linarith

theorem passed (h : l.Held T) (hnow : l.clock ≤ now) : (l.passed now).Held T where
  mark_le := h.mark_le.trans hnow
  soon := by
    have hsoon := h.soon
    simp only [Lease.passed]
    linarith
  recent := h.recent

/-- A renewal puts the next one off, and so does a loss: what is due was due anyway. -/
theorem marked (h : l.Held T) (hnow : l.clock ≤ now) : (l.marked now).Held T where
  mark_le := le_refl _
  soon := (h.passed hnow).soon
  recent := by
    have hsoon := (h.passed hnow).soon
    have hlatency : 0 ≤ ((l.failures : τ) + 1) * T.latency :=
      mul_nonneg (by positivity) T.latency_nonneg
    simp only [Lease.passed, Lease.marked] at hsoon ⊢
    linarith

/-- A success counts only if there was a renewal, or a loss, since the attempt was due. -/
theorem succeeded (h : l.Held T) (hnow : l.clock ≤ now) (hprompt : now ≤ l.due + T.latency)
    (hmark : l.due ≤ l.mark) : (l.succeeded T now).Held T where
  mark_le := h.mark_le.trans hnow
  soon := by simp [Lease.succeeded]
  recent := by
    simp only [Lease.succeeded, Terms.pauses_zero, Nat.cast_zero]
    linarith

theorem failed (h : l.Held T) (hnow : l.clock ≤ now) (hprompt : now ≤ l.due + T.latency) :
    (l.failed T now).Held T where
  mark_le := h.mark_le.trans hnow
  soon := by
    have hperiod := T.period_nonneg
    have hpauses := T.pauses_nonneg l.failures
    simp only [Lease.failed, Terms.pauses_succ]
    linarith
  recent := by
    have hrecent := h.recent
    simp only [Lease.failed, Terms.pauses_succ, Nat.cast_succ]
    linarith

/-- What happens before the attempt has ended in time is not long after the last renewal. -/
theorem within (h : l.Held T) {n : ℕ} (hn : l.failures ≤ n) (hprompt : now ≤ l.due + T.latency) :
    now ≤ l.mark + T.silence n := by
  have hrecent := h.recent
  have hsilence := T.silence_mono hn
  have hexpand : T.silence l.failures =
      T.period + T.pauses l.failures + (l.failures + 1) * T.latency + T.latency := by
    rw [Terms.silence]
    ring
  linarith

end Held

end Lease

end Lib
