import Mathlib.Data.List.Induction
import Mathlib.Data.List.Nodup

/-!
# Insertion-ordered dictionaries

A dictionary that remembers the order in which its keys were first inserted, as
an association list with pairwise distinct keys.  Assigning to a key that is
already present replaces the value *in place*; assigning to a new key appends
it.  Iteration order is therefore observable, and a dictionary cannot be
represented by a finite map here.

The distinctness of the keys is a field, so `set` is the only thing that has to
maintain it and nothing later re-proves it.
-/

universe u v u' v'

namespace Lib

/-! ## Association lists -/

section Entries

variable {κ : Type u} {α : Type v} [DecidableEq κ]

/-- Assign `v` to `k`: in place when `k` occurs, at the end otherwise. -/
def setEntry (k : κ) (v : α) : List (κ × α) → List (κ × α)
  | [] => [(k, v)]
  | (k', v') :: tail => if k' = k then (k, v) :: tail else (k', v') :: setEntry k v tail

/-- The value of the first entry with key `k`. -/
def getEntry (k : κ) : List (κ × α) → Option α
  | [] => none
  | (k', v') :: tail => if k' = k then some v' else getEntry k tail

theorem getEntry_setEntry (k k' : κ) (v : α) (xs : List (κ × α)) :
    getEntry k' (setEntry k v xs) = if k = k' then some v else getEntry k' xs := by
  induction xs with
  | nil => simp [setEntry, getEntry]
  | cons x xs ih =>
      obtain ⟨k₀, v₀⟩ := x
      by_cases h : k₀ = k
      · subst h
        simp only [setEntry, if_pos, getEntry]
        split <;> rfl
      · simp only [setEntry, if_neg h, getEntry, ih]
        by_cases h' : k₀ = k'
        · have hne : k ≠ k' := fun e ↦ h (h'.trans e.symm)
          simp [h', hne]
        · simp [h']

/-- The keys after an assignment: unchanged when the key occurs, extended at the
end when it does not. -/
theorem map_fst_setEntry (k : κ) (v : α) (xs : List (κ × α)) :
    (setEntry k v xs).map Prod.fst =
      if k ∈ xs.map Prod.fst then xs.map Prod.fst else xs.map Prod.fst ++ [k] := by
  induction xs with
  | nil => simp [setEntry]
  | cons x xs ih =>
      obtain ⟨k₀, v₀⟩ := x
      by_cases h : k₀ = k
      · subst h
        simp [setEntry]
      · have hne : k ≠ k₀ := fun e ↦ h e.symm
        simp only [setEntry, if_neg h, List.map_cons, ih, List.mem_cons, hne, false_or]
        split <;> simp

theorem getEntry_eq_none_iff (k : κ) (xs : List (κ × α)) :
    getEntry k xs = none ↔ k ∉ xs.map Prod.fst := by
  induction xs with
  | nil => simp [getEntry]
  | cons x xs ih =>
      obtain ⟨k₀, v₀⟩ := x
      by_cases h : k₀ = k
      · simp [getEntry, h]
      · have hne : k ≠ k₀ := fun e ↦ h e.symm
        simp only [getEntry, if_neg h, ih, List.map_cons, List.mem_cons, hne, false_or]

theorem mem_of_getEntry {k : κ} {v : α} {xs : List (κ × α)} (h : getEntry k xs = some v) :
    (k, v) ∈ xs := by
  induction xs with
  | nil => cases h
  | cons x xs ih =>
      obtain ⟨k₀, v₀⟩ := x
      rw [getEntry] at h
      split at h
      · rename_i e
        cases h
        rw [e]
        exact List.mem_cons_self
      · exact List.mem_cons_of_mem _ (ih h)

theorem getEntry_eq_some_iff {k : κ} {v : α} {xs : List (κ × α)}
    (hnd : (xs.map Prod.fst).Nodup) : getEntry k xs = some v ↔ (k, v) ∈ xs := by
  induction xs with
  | nil => simp [getEntry]
  | cons x xs ih =>
      obtain ⟨k₀, v₀⟩ := x
      rw [List.map_cons, List.nodup_cons] at hnd
      by_cases h : k₀ = k
      · subst h
        have hout : (k₀, v) ∉ xs := fun hm ↦ hnd.1 (List.mem_map.mpr ⟨_, hm, rfl⟩)
        simp [getEntry, hout, eq_comm]
      · have hne : k ≠ k₀ := fun e ↦ h e.symm
        simp [getEntry, h, hne, ih hnd.2]

/-- Entries with distinct keys are worked off one after the other.  What is seen at a key
is touched by the entry of that key alone. -/
theorem foldl_entries {σ : Type u'} {β : Type v'} {f : σ → κ × α → σ} (view : σ → β)
    (touch : α → β → β) {k : κ}
    (h : ∀ s x, view (f s x) = if x.1 = k then touch x.2 (view s) else view s)
    {xs : List (κ × α)} (hnd : (xs.map Prod.fst).Nodup) (s : σ) :
    view (xs.foldl f s) = (getEntry k xs).elim (view s) fun a ↦ touch a (view s) := by
  induction xs generalizing s with
  | nil => rfl
  | cons x xs ih =>
      obtain ⟨k₀, v₀⟩ := x
      rw [List.map_cons, List.nodup_cons] at hnd
      rw [List.foldl_cons, ih hnd.2, h, getEntry]
      by_cases e : k₀ = k
      · subst e
        rw [if_pos rfl, if_pos rfl, (getEntry_eq_none_iff k₀ xs).mpr hnd.1]
        rfl
      · rw [if_neg e, if_neg e]

end Entries

/-! ## Dictionaries -/

/-- An association list whose keys are pairwise distinct. -/
@[ext]
structure Dict (κ : Type u) (α : Type v) where
  /-- The entries, oldest key first. -/
  entries : List (κ × α)
  /-- No key occurs twice. -/
  nodup : (entries.map Prod.fst).Nodup

namespace Dict

variable {κ : Type u} {α : Type v}

/-- The dictionary without entries. -/
def empty : Dict κ α := ⟨[], List.nodup_nil⟩

instance : EmptyCollection (Dict κ α) := ⟨empty⟩
instance : Inhabited (Dict κ α) := ⟨empty⟩

/-- The keys, in insertion order. -/
def keys (d : Dict κ α) : List κ := d.entries.map Prod.fst

/-- The values, in insertion order of their keys. -/
def values (d : Dict κ α) : List α := d.entries.map Prod.snd

/-- Change every value, keeping the keys in place. -/
def mapValues (f : α → α) (d : Dict κ α) : Dict κ α where
  entries := d.entries.map fun x ↦ (x.1, f x.2)
  nodup := by
    rw [List.map_map]
    exact d.nodup

variable [DecidableEq κ]

/-- Look a key up. -/
def get? (d : Dict κ α) (k : κ) : Option α := getEntry k d.entries

/-- Assign to a key. -/
def set (d : Dict κ α) (k : κ) (v : α) : Dict κ α where
  entries := setEntry k v d.entries
  nodup := by
    rw [map_fst_setEntry]
    split
    · exact d.nodup
    · rename_i h
      exact List.nodup_append.mpr ⟨d.nodup, List.nodup_singleton k,
        fun a ha b hb e ↦ h (by rw [List.mem_singleton] at hb; exact hb ▸ e ▸ ha)⟩

/-- Remove a key, if it is there. -/
def erase (d : Dict κ α) (k : κ) : Dict κ α where
  entries := d.entries.filter fun x ↦ x.1 ≠ k
  nodup := d.nodup.sublist ((List.filter_sublist).map Prod.fst)

/-- The value at a key, after storing a default there when the key is absent. -/
def setDefault (d : Dict κ α) (k : κ) (v : α) : α × Dict κ α :=
  match d.get? k with
  | some v' => (v', d)
  | none => (v, d.set k v)

/-- The dictionary built by assigning the pairs of a list one after the other:
the last value of a key wins, its first position is kept. -/
def ofList (xs : List (κ × α)) : Dict κ α :=
  xs.foldl (fun d x ↦ d.set x.1 x.2) empty

/-- Overwrite and extend a dictionary by the entries of another. -/
def update (d e : Dict κ α) : Dict κ α :=
  e.entries.foldl (fun d x ↦ d.set x.1 x.2) d

@[simp] theorem get?_empty (k : κ) : (∅ : Dict κ α).get? k = none := rfl

@[simp] theorem get?_set_self (d : Dict κ α) (k : κ) (v : α) :
    (d.set k v).get? k = some v := by
  simp [get?, set, getEntry_setEntry]

theorem get?_set_of_ne (d : Dict κ α) {k k' : κ} (h : k ≠ k') (v : α) :
    (d.set k v).get? k' = d.get? k' := by
  simp [get?, set, getEntry_setEntry, h]

theorem get?_set (d : Dict κ α) (k k' : κ) (v : α) :
    (d.set k v).get? k' = if k = k' then some v else d.get? k' :=
  getEntry_setEntry k k' v d.entries

theorem get?_set_ne_none_iff {d : Dict κ α} {k k' : κ} {v : α} :
    (d.set k v).get? k' ≠ none ↔ d.get? k' ≠ none ∨ k = k' := by
  rw [get?_set]
  split
  · rename_i e
    exact iff_of_true nofun (.inr e)
  · rename_i e
    rw [or_iff_left e]

@[simp] theorem setDefault_fst (d : Dict κ α) (k : κ) (v : α) :
    (d.setDefault k v).1 = (d.get? k).getD v := by
  unfold setDefault
  split <;> simp_all

/-- Storing a default is not visible through lookups that supply the same
default. -/
@[simp] theorem getD_get?_setDefault (d : Dict κ α) (k k' : κ) (v : α) :
    ((d.setDefault k v).2.get? k').getD v = (d.get? k').getD v := by
  unfold setDefault
  split
  · rfl
  · rename_i h
    by_cases e : k = k'
    · subst e
      simp [h]
    · rw [get?_set_of_ne d e]

theorem get?_eq_some_iff {d : Dict κ α} {k : κ} {v : α} :
    d.get? k = some v ↔ (k, v) ∈ d.entries :=
  getEntry_eq_some_iff d.nodup

theorem get?_eq_none_iff {d : Dict κ α} {k : κ} : d.get? k = none ↔ k ∉ d.keys :=
  getEntry_eq_none_iff k d.entries

theorem mem_keys_set {d : Dict κ α} {k k' : κ} {v : α} :
    k' ∈ (d.set k v).keys ↔ k' ∈ d.keys ∨ k = k' := by
  have h := @get?_set_ne_none_iff κ α _ d k k' v
  simpa only [ne_eq, get?_eq_none_iff, not_not] using h

theorem mem_keys_setDefault {d : Dict κ α} {k k' : κ} {v : α}
    (h : k' ∈ (d.setDefault k v).2.keys) : k' ∈ d.keys ∨ k = k' := by
  unfold setDefault at h
  split at h
  · exact .inl h
  · exact mem_keys_set.mp h

theorem get?_erase (d : Dict κ α) (k k' : κ) :
    (d.erase k).get? k' = if k = k' then none else d.get? k' := by
  apply Option.ext
  intro v
  rw [get?_eq_some_iff, erase, List.mem_filter]
  split
  · rename_i e
    simp [e]
  · rename_i e
    simp [get?_eq_some_iff, Ne.symm e]

@[simp] theorem get?_mapValues (f : α → α) (d : Dict κ α) (k : κ) :
    (d.mapValues f).get? k = (d.get? k).map f := by
  cases h : d.get? k with
  | none =>
      refine get?_eq_none_iff.mpr ?_
      rw [keys, mapValues, List.map_map]
      exact get?_eq_none_iff.mp h
  | some v => exact get?_eq_some_iff.mpr (List.mem_map.mpr ⟨_, get?_eq_some_iff.mp h, rfl⟩)

/-- Assignment to a dictionary one pair after the other, seen through lookup. -/
theorem get?_foldl_set (xs : List (κ × α)) (d : Dict κ α) (k : κ) :
    (xs.foldl (fun d x ↦ d.set x.1 x.2) d).get? k =
      (getEntry k xs.reverse).or (d.get? k) := by
  induction xs using List.reverseRecOn with
  | nil => simp [getEntry]
  | append_singleton xs x ih =>
      rw [List.foldl_append, List.foldl_cons, List.foldl_nil, get?_set, ih,
        List.reverse_append, List.reverse_singleton, List.singleton_append]
      obtain ⟨k₀, v₀⟩ := x
      by_cases h : k₀ = k <;> simp [getEntry, h]

theorem mem_of_get?_ofList {xs : List (κ × α)} {k : κ} {v : α}
    (h : (ofList xs).get? k = some v) : (k, v) ∈ xs := by
  rw [ofList, get?_foldl_set, show (empty : Dict κ α).get? k = none from rfl, Option.or_none] at h
  exact List.mem_reverse.mp (mem_of_getEntry h)

theorem entries_set_of_not_mem {d : Dict κ α} {k : κ} (h : k ∉ d.keys) (v : α) :
    (d.set k v).entries = d.entries ++ [(k, v)] := by
  show setEntry k v d.entries = _
  replace h : k ∉ d.entries.map Prod.fst := h
  generalize d.entries = entries at h ⊢
  induction entries with
  | nil => rfl
  | cons x entries ih =>
      rw [List.map_cons, List.mem_cons, not_or] at h
      rw [setEntry, if_neg (Ne.symm h.1), ih h.2, List.cons_append]

/-- A list without repeated keys is the list of entries of its dictionary. -/
theorem entries_ofList {xs : List (κ × α)} (h : (xs.map Prod.fst).Nodup) :
    (ofList xs).entries = xs := by
  induction xs using List.reverseRecOn with
  | nil => rfl
  | append_singleton xs x ih =>
      rw [List.map_append, List.map_singleton, List.nodup_append] at h
      obtain ⟨hxs, -, hdisjoint⟩ := h
      have hnew : x.1 ∉ (ofList xs).keys := by
        rw [keys, ih hxs]
        exact fun hmem ↦ hdisjoint x.1 hmem x.1 (List.mem_singleton_self _) rfl
      rw [ofList, List.foldl_append, List.foldl_cons, List.foldl_nil]
      exact (entries_set_of_not_mem hnew x.2).trans (by rw [ih hxs])

/-- Nothing is assigned twice if no key is repeated. -/
theorem foldl_setEntry {xs : List (κ × α)} (h : (xs.map Prod.fst).Nodup) :
    xs.foldl (fun entries x ↦ setEntry x.1 x.2 entries) [] = xs := by
  have hentries : xs.foldl (fun entries x ↦ setEntry x.1 x.2 entries) (empty : Dict κ α).entries =
      (ofList xs).entries := List.foldl_hom Dict.entries fun _ _ ↦ rfl
  exact hentries.trans (entries_ofList h)

theorem get?_update (d e : Dict κ α) (k : κ) :
    (d.update e).get? k = (e.get? k).or (d.get? k) := by
  have hrev : getEntry k e.entries.reverse = getEntry k e.entries := by
    apply Option.ext
    intro v
    have hnd : (e.entries.reverse.map Prod.fst).Nodup := by
      rw [List.map_reverse]
      exact List.nodup_reverse.mpr e.nodup
    rw [getEntry_eq_some_iff hnd, getEntry_eq_some_iff e.nodup, List.mem_reverse]
  rw [update, get?_foldl_set, hrev]
  rfl

theorem mem_keys_update (d e : Dict κ α) (k : κ) :
    k ∈ (d.update e).keys ↔ k ∈ d.keys ∨ k ∈ e.keys := by
  rw [← not_iff_not, not_or, ← get?_eq_none_iff, ← get?_eq_none_iff, ← get?_eq_none_iff,
    get?_update, Option.or_eq_none_iff, and_comm]

/-! ## Keys that are compared up to some equivalence -/

/-- The values whose keys satisfy a test, oldest key first. -/
def valuesWhere (p : κ → Bool) (d : Dict κ α) : List α :=
  (d.entries.filter fun x ↦ p x.1).map Prod.snd

omit [DecidableEq κ] in
theorem valuesWhere_eq_nil_iff {p : κ → Bool} {d : Dict κ α} :
    d.valuesWhere p = [] ↔ ∀ k ∈ d.keys, ¬ p k := by
  simp [valuesWhere, keys, List.filter_eq_nil_iff]

/-- A key that passes the test is the only source of a value exactly when no
other key passes. -/
theorem valuesWhere_eq_singleton_iff {p : κ → Bool} {d : Dict κ α} {k : κ} {v : α}
    (hp : p k) (hk : d.get? k = some v) :
    d.valuesWhere p = [v] ↔ ∀ k' ∈ d.keys, p k' → k' = k := by
  have hmem : (k, v) ∈ d.entries.filter fun x ↦ p x.1 :=
    List.mem_filter.mpr ⟨get?_eq_some_iff.mp hk, hp⟩
  constructor
  · intro h k' hk' hp'
    obtain ⟨⟨k', v'⟩, hx, rfl⟩ := List.mem_map.mp hk'
    obtain ⟨y, hy⟩ : ∃ y, (d.entries.filter fun x ↦ p x.1) = [y] :=
      List.length_eq_one_iff.mp (by simpa [valuesWhere] using congrArg List.length h)
    have hmem' : (k', v') ∈ d.entries.filter fun x ↦ p x.1 := List.mem_filter.mpr ⟨hx, hp'⟩
    rw [hy, List.mem_singleton] at hmem hmem'
    exact congrArg Prod.fst (hmem'.trans hmem.symm)
  · intro h
    have hall : ∀ x ∈ d.entries.filter fun x ↦ p x.1, x = (k, v) := by
      rintro ⟨k', v'⟩ hx
      obtain ⟨hx, hp'⟩ := List.mem_filter.mp hx
      have e : k' = k := h k' (List.mem_map.mpr ⟨_, hx, rfl⟩) hp'
      subst e
      exact congrArg (Prod.mk k') (Option.some.inj ((get?_eq_some_iff.mpr hx).symm.trans hk))
    have hnd : (d.entries.filter fun x ↦ p x.1).Nodup := (List.Nodup.of_map _ d.nodup).filter _
    have hperm : (d.entries.filter fun x ↦ p x.1) = [(k, v)] := by
      apply List.perm_singleton.mp
      rw [List.perm_ext_iff_of_nodup hnd (List.nodup_singleton _)]
      exact fun x ↦ ⟨fun hx ↦ List.mem_singleton.mpr (hall x hx),
        fun hx ↦ List.mem_singleton.mp hx ▸ hmem⟩
    rw [valuesWhere, hperm]
    rfl

end Dict

end Lib
