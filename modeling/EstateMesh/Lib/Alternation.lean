import Mathlib.Data.List.Induction

/-!
# Histories that alternate

A history is a list of events.  Of two kinds of events, one that starts something and one
that stops it, a history alternates if between any two stops there is a start.  Written
from the left, a history alternates as long as nothing is stopped while a stop is pending,
that is while there was no start since the last one.
-/

universe u

namespace Lib

variable {α : Type u} {start stop : α → Prop} {xs ys : List α} {x : α}

/-- Between any two stops there is a start. -/
def Alternates (start stop : α → Prop) (xs : List α) : Prop :=
  ∀ pre mid suf x y, xs = pre ++ x :: mid ++ y :: suf → stop x → stop y → ∃ z ∈ mid, start z

/-- There was a stop, and no start since. -/
def Pending (start stop : α → Prop) (xs : List α) : Prop :=
  ∃ pre x suf, xs = pre ++ x :: suf ∧ stop x ∧ ∀ z ∈ suf, ¬ start z

/-- An event of a history is the last one or one of those before. -/
theorem split_concat {pre suf : List α} {y : α} (e : xs ++ [x] = pre ++ y :: suf) :
    (xs = pre ∧ x = y ∧ suf = []) ∨ ∃ suf', suf = suf' ++ [x] ∧ xs = pre ++ y :: suf' := by
  rcases List.eq_nil_or_concat suf with rfl | ⟨suf', z, rfl⟩
  · obtain ⟨hinit, hlast⟩ := List.append_inj' e rfl
    exact .inl ⟨hinit, (List.cons.inj hlast).1, rfl⟩
  · rw [List.concat_eq_append, ← List.cons_append, ← List.append_assoc] at e
    obtain ⟨hinit, hlast⟩ := List.append_inj' e rfl
    obtain rfl := (List.cons.inj hlast).1
    exact .inr ⟨suf', List.concat_eq_append, hinit⟩

theorem alternates_nil : Alternates start stop ([] : List α) := by
  intro pre mid suf x y e
  simp at e

theorem pending_concat_iff :
    Pending start stop (xs ++ [x]) ↔ stop x ∨ Pending start stop xs ∧ ¬ start x := by
  constructor
  · rintro ⟨pre, y, suf, e, hstop, hnone⟩
    rcases split_concat e with ⟨-, rfl, -⟩ | ⟨suf, rfl, rfl⟩
    · exact .inl hstop
    · rw [List.forall_mem_append, List.forall_mem_singleton] at hnone
      exact .inr ⟨⟨pre, y, suf, rfl, hstop, hnone.1⟩, hnone.2⟩
  · rintro (hstop | ⟨⟨pre, y, suf, rfl, hstop, hnone⟩, hx⟩)
    · exact ⟨xs, x, [], rfl, hstop, List.forall_mem_nil _⟩
    · refine ⟨pre, y, suf ++ [x], by rw [List.append_assoc, List.cons_append], hstop, ?_⟩
      rw [List.forall_mem_append, List.forall_mem_singleton]
      exact ⟨hnone, hx⟩

/-- A history goes on alternating unless something is stopped while a stop is pending. -/
theorem Alternates.concat (h : Alternates start stop xs)
    (hx : stop x → ¬ Pending start stop xs) : Alternates start stop (xs ++ [x]) := by
  intro pre mid suf y z e hy hz
  rcases split_concat e with ⟨rfl, rfl, -⟩ | ⟨suf, -, rfl⟩
  · by_contra hnone
    push Not at hnone
    exact hx hz ⟨pre, y, mid, rfl, hy, hnone⟩
  · exact h pre mid suf y z rfl hy hz

/-- What stops nothing may follow. -/
theorem Alternates.append (h : Alternates start stop xs) (hys : ∀ y ∈ ys, ¬ stop y) :
    Alternates start stop (xs ++ ys) := by
  induction ys using List.reverseRecOn with
  | nil => rwa [List.append_nil]
  | append_singleton ys y ih =>
      rw [List.forall_mem_append, List.forall_mem_singleton] at hys
      rw [← List.append_assoc]
      exact (ih hys.1).concat fun hstop ↦ absurd hstop hys.2

end Lib
