import Mathlib.Data.List.Basic
import Mathlib.Data.List.Forall2

/-!
# Joining with a separator

A join forgets where its parts end as soon as a part may contain the separator.
What is lost is exactly how many separators each part has: two joins of lists
that agree on these numbers, part by part, are equal only if the lists are.  The
last part needs no such agreement, since nothing follows it.
-/

universe u

namespace Lib

variable {α : Type u}

theorem intercalate_cons_concat (a : α) (x : List α) (xs : List (List α)) (u : List α) :
    [a].intercalate (x :: (xs ++ [u])) = x ++ a :: [a].intercalate (xs ++ [u]) := by
  rw [List.intercalate_cons_of_ne_nil (List.concat_ne_nil u xs)]
  exact List.append_assoc x [a] _

variable [DecidableEq α]

/-- Two texts of parts have the same number of separators in each part. -/
def SameSeparators (a : α) (xs ys : List (List α)) : Prop :=
  List.Forall₂ (fun x y ↦ x.count a = y.count a) xs ys

theorem SameSeparators.refl (a : α) (xs : List (List α)) : SameSeparators a xs xs :=
  List.forall₂_same.mpr fun _ _ ↦ rfl

/-- The first part of a text ends at the separator that its count singles out. -/
theorem append_cons_inj_of_count {a : α} {x y u v : List α} (h : x ++ a :: u = y ++ a :: v)
    (hcount : x.count a = y.count a) : x = y ∧ u = v := by
  -- were one part longer, it would contain the separator that ends the other
  rcases List.append_eq_append_iff.mp h with ⟨z, rfl, hz⟩ | ⟨z, rfl, hz⟩
  · cases z with
    | nil => exact ⟨(List.append_nil x).symm, (List.cons.inj hz).2⟩
    | cons b z =>
        obtain ⟨rfl, -⟩ := List.cons.inj hz
        rw [List.count_append, List.count_cons_self] at hcount
        omega
  · cases z with
    | nil => exact ⟨List.append_nil y, (List.cons.inj hz).2.symm⟩
    | cons b z =>
        obtain ⟨rfl, -⟩ := List.cons.inj hz
        rw [List.count_append, List.count_cons_self] at hcount
        omega

/-- A join determines its parts, given how many separators each part but the last
has. -/
theorem intercalate_inj_of_sameSeparators {a : α} {xs ys : List (List α)} {u v : List α}
    (hsame : SameSeparators a xs ys)
    (h : [a].intercalate (xs ++ [u]) = [a].intercalate (ys ++ [v])) : xs = ys ∧ u = v := by
  induction hsame with
  | nil =>
      simp only [List.nil_append, List.intercalate_singleton] at h
      exact ⟨rfl, h⟩
  | @cons x y xs ys hcount _ ih =>
      simp only [List.cons_append, intercalate_cons_concat] at h
      obtain ⟨rfl, hrest⟩ := append_cons_inj_of_count h hcount
      obtain ⟨rfl, rfl⟩ := ih hrest
      exact ⟨rfl, rfl⟩

/-- Two lists with the same join are equal exactly when their parts agree on the
numbers of separators. -/
theorem eq_iff_sameSeparators {a : α} {xs ys : List (List α)} {u v : List α}
    (h : [a].intercalate (xs ++ [u]) = [a].intercalate (ys ++ [v])) :
    (xs = ys ∧ u = v) ↔ SameSeparators a xs ys := by
  constructor
  · rintro ⟨rfl, -⟩
    exact SameSeparators.refl a xs
  · intro hsame
    exact intercalate_inj_of_sameSeparators hsame h

end Lib
