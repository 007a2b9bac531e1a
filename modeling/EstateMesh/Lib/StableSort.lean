import Mathlib.Data.List.Sort

/-!
# Stable sorting

Insertion sort by a total preorder keeps the order of elements that are ranked alike.
`a` comes before `b` in a list if `[a, b]` is a sublist of it; in a list without
duplicates this is a strict order, so the ranking together with the order of the list
determines the result (`pairwise_stable`).
-/

universe u

namespace Lib

variable {α : Type u} {xs : List α} {a b : α}

/-- Two elements of a list without duplicates come in one order only. -/
theorem not_sublist_swap (hnd : xs.Nodup) (h : [a, b].Sublist xs) : ¬ [b, a].Sublist xs := by
  induction xs with
  | nil => cases h
  | cons x xs ih =>
      obtain ⟨hx, hnd⟩ := List.nodup_cons.mp hnd
      intro h'
      cases h with
      | cons _ h =>
          cases h' with
          | cons _ h' => exact ih hnd h h'
          | cons_cons _ h' => exact hx (h.subset (List.mem_cons_of_mem _ (List.mem_singleton_self _)))
      | cons_cons _ h =>
          cases h' with
          | cons _ h' => exact hx (h'.subset (List.mem_cons_of_mem _ (List.mem_singleton_self _)))
          | cons_cons _ h' => exact hx (List.singleton_sublist.mp h)

/-- Of two different elements of a list one comes before the other. -/
theorem sublist_or_swap (ha : a ∈ xs) (hb : b ∈ xs) (hne : a ≠ b) :
    [a, b].Sublist xs ∨ [b, a].Sublist xs := by
  induction xs with
  | nil => cases ha
  | cons x xs ih =>
      rcases List.mem_cons.mp ha with rfl | ha'
      · rcases List.mem_cons.mp hb with rfl | hb'
        · exact absurd rfl hne
        · exact .inl ((List.singleton_sublist.mpr hb').cons_cons _)
      · rcases List.mem_cons.mp hb with rfl | hb'
        · exact .inr ((List.singleton_sublist.mpr ha').cons_cons _)
        · exact (ih ha' hb').imp (fun h ↦ h.cons x) fun h ↦ h.cons x

section Sorted

variable {r : α → α → Prop} [DecidableRel r]

/-- An element that is ranked before all others is put in front. -/
theorem orderedInsert_of_forall (h : ∀ b ∈ xs, r a b) : xs.orderedInsert r a = a :: xs := by
  cases xs with
  | nil => rfl
  | cons b xs => exact List.orderedInsert_cons_of_le r xs (h b List.mem_cons_self)

theorem filter_orderedInsert [IsTrans α r] {p : α → Bool} (h : xs.Pairwise r) :
    (xs.orderedInsert r a).filter p =
      if p a then (xs.filter p).orderedInsert r a else xs.filter p := by
  induction xs with
  | nil => cases hp : p a <;> simp [hp]
  | cons b xs ih =>
      obtain ⟨hb, hxs⟩ := List.pairwise_cons.mp h
      by_cases hab : r a b
      · -- everything that is left of the list is ranked behind `a`
        have hall : ∀ c ∈ (b :: xs).filter p, r a c := by
          intro c hc
          rcases List.mem_cons.mp (List.mem_filter.mp hc).1 with rfl | hc
          · exact hab
          · exact IsTrans.trans _ _ _ hab (hb c hc)
        rw [List.orderedInsert_cons_of_le r xs hab, List.filter_cons, orderedInsert_of_forall hall]
      · rw [List.orderedInsert_of_not_le r xs hab, List.filter_cons, ih hxs, List.filter_cons]
        cases hp : p b with
        | false => rfl
        | true =>
            cases hpa : p a with
            | false => rfl
            | true => simp [hab]

variable [Std.Total r] [IsTrans α r]

/-- The sorted list is in order, and elements that are ranked alike are in the order of
the list. -/
theorem pairwise_stable (hnd : xs.Nodup) :
    (xs.insertionSort r).Pairwise fun a b ↦ r a b ∧ (r b a → [a, b].Sublist xs) := by
  have hperm := List.perm_insertionSort r xs
  have hsorted : ∀ {a b}, [a, b].Sublist (xs.insertionSort r) → r a b :=
    List.pairwise_iff_forall_sublist.mp (List.pairwise_insertionSort r xs)
  refine List.pairwise_iff_forall_sublist.mpr fun {a b} hab ↦ ⟨hsorted hab, fun hba ↦ ?_⟩
  have hne : a ≠ b := by
    rintro rfl
    exact absurd (hab.nodup (hperm.nodup_iff.mpr hnd)) (by simp)
  have ha : a ∈ xs := hperm.subset (hab.subset List.mem_cons_self)
  have hb : b ∈ xs := hperm.subset (hab.subset (List.mem_cons_of_mem _ List.mem_cons_self))
  refine (sublist_or_swap ha hb hne).resolve_right fun hswap ↦ ?_
  exact not_sublist_swap (hperm.nodup_iff.mpr hnd) hab (List.pair_sublist_insertionSort hba hswap)

/-- What is ranked before, and not alike, comes before. -/
theorem sublist_of_ranked (ha : a ∈ xs) (hb : b ∈ xs) (hnot : ¬ r b a) :
    [a, b].Sublist (xs.insertionSort r) := by
  have hsorted : ∀ {a b}, [a, b].Sublist (xs.insertionSort r) → r a b :=
    List.pairwise_iff_forall_sublist.mp (List.pairwise_insertionSort r xs)
  have hne : a ≠ b := by
    rintro rfl
    exact hnot ((Std.Total.total a a : r a a ∨ r a a).elim id id)
  refine (sublist_or_swap ((List.mem_insertionSort r).mpr ha) ((List.mem_insertionSort r).mpr hb)
    hne).resolve_right fun hswap ↦ ?_
  exact hnot (hsorted hswap)

/-- Sorting and selecting may change places. -/
theorem filter_insertionSort (xs : List α) (p : α → Bool) :
    (xs.insertionSort r).filter p = (xs.filter p).insertionSort r := by
  induction xs with
  | nil => rfl
  | cons x xs ih =>
      rw [List.insertionSort_cons, filter_orderedInsert (List.pairwise_insertionSort r xs), ih,
        List.filter_cons]
      cases p x <;> rfl

end Sorted

end Lib
