import Mathlib.Data.List.ReduceOption
import Mathlib.Data.List.Forall2

/-!
# Computations that raise

Inversion rules for `Except`: a sequence of steps returns when every step does,
and a step applied to each element of a list returns what it returns for each.
-/

universe u v w

namespace Lib

variable {ε : Type u} {α β : Type v}

theorem bind_eq_ok_iff {x : Except ε α} {f : α → Except ε β} {b : β} :
    (x >>= f) = .ok b ↔ ∃ a, x = .ok a ∧ f a = .ok b := by
  cases x with
  | error e =>
      constructor
      · nofun
      · rintro ⟨_, ⟨⟩, _⟩
  | ok a =>
      constructor
      · exact fun h ↦ ⟨a, rfl, h⟩
      · rintro ⟨_, ⟨⟩, h⟩
        exact h

theorem ok_bind (a : α) (f : α → Except ε β) : (Except.ok a >>= f) = f a := rfl

theorem eq_ok_of_toOption {x : Except ε α} {a : α} (h : x.toOption = some a) : x = .ok a := by
  cases x with
  | error e => cases h
  | ok b => exact congrArg _ (Option.some.inj h)

theorem isSome_toOption {x : Except ε α} :
    x.toOption.isSome = true ↔ ∃ a, x = .ok a := by
  cases x with
  | error e => exact iff_of_false Bool.false_ne_true (by rintro ⟨a, ⟨⟩⟩)
  | ok a => exact iff_of_true rfl ⟨a, rfl⟩

theorem eq_error_of_map {f : α → β} {x : Except ε α} {e : ε} (h : x.map f = .error e) :
    x = .error e := by
  cases x with
  | error e' => exact congrArg _ (Except.error.inj h)
  | ok a => cases h

theorem eq_ok_of_mapError {ε' : Type u} {f : ε → ε'} {x : Except ε α} {a : α}
    (h : x.mapError f = .ok a) : x = .ok a := by
  cases x with
  | error e => cases h
  | ok b => exact congrArg _ (Except.ok.inj h)

/-- What a step returns for the elements of a list. -/
theorem mem_of_mapM_eq_ok {f : α → Except ε β} {xs : List α} {ys : List β}
    (h : xs.mapM f = .ok ys) {y : β} : y ∈ ys ↔ ∃ x ∈ xs, f x = .ok y := by
  induction xs generalizing ys with
  | nil =>
      cases h
      exact iff_of_false List.not_mem_nil (by rintro ⟨_, hx, _⟩; cases hx)
  | cons x xs ih =>
      rw [List.mapM_cons] at h
      obtain ⟨z, hz, h⟩ := bind_eq_ok_iff.mp h
      obtain ⟨zs, hzs, h⟩ := bind_eq_ok_iff.mp h
      cases h
      rw [List.mem_cons, ih hzs, List.exists_mem_cons_iff, hz]
      refine or_congr ⟨?_, ?_⟩ Iff.rfl
      · rintro rfl
        rfl
      · intro e
        exact (Except.ok.inj e).symm

/-- If a step returns for a list, it returns for every element. -/
theorem exists_of_mapM_eq_ok {f : α → Except ε β} {xs : List α} {ys : List β}
    (h : xs.mapM f = .ok ys) : ∀ x ∈ xs, ∃ y, f x = .ok y := by
  induction xs generalizing ys with
  | nil => nofun
  | cons x xs ih =>
      rw [List.mapM_cons] at h
      obtain ⟨y, hy, h⟩ := bind_eq_ok_iff.mp h
      obtain ⟨ys, hys, -⟩ := bind_eq_ok_iff.mp h
      exact List.forall_mem_cons.mpr ⟨⟨y, hy⟩, ih hys⟩

/-- What a step returns for a list, element by element. -/
theorem forall₂_of_mapM_eq_ok {f : α → Except ε β} {xs : List α} {ys : List β}
    (h : xs.mapM f = .ok ys) : List.Forall₂ (fun x y ↦ f x = .ok y) xs ys := by
  induction xs generalizing ys with
  | nil =>
      cases h
      exact .nil
  | cons x xs ih =>
      rw [List.mapM_cons] at h
      obtain ⟨y, hy, h⟩ := bind_eq_ok_iff.mp h
      obtain ⟨ys, hys, h⟩ := bind_eq_ok_iff.mp h
      cases h
      exact .cons hy (ih hys)

/-- What a step that may drop elements keeps is in the order of the list. -/
theorem sublist_of_mapM_eq_ok {γ : Type w} {f : α → Except ε (Option β)} {key : β → γ}
    {key' : α → γ} (hkey : ∀ x y, f x = .ok (some y) → key y = key' x) {xs : List α}
    {ys : List (Option β)} (h : xs.mapM f = .ok ys) :
    (ys.reduceOption.map key).Sublist (xs.map key') := by
  induction xs generalizing ys with
  | nil =>
      cases h
      exact List.Sublist.refl _
  | cons x xs ih =>
      rw [List.mapM_cons] at h
      obtain ⟨y, hy, h⟩ := bind_eq_ok_iff.mp h
      obtain ⟨ys, hys, h⟩ := bind_eq_ok_iff.mp h
      cases h
      cases y with
      | none =>
          rw [List.reduceOption_cons_of_none]
          exact (ih hys).cons _
      | some y =>
          rw [List.reduceOption_cons_of_some, List.map_cons, List.map_cons, hkey x y hy]
          exact (ih hys).cons_cons _

/-- Two steps that agree where it matters find the same where it matters. -/
theorem filter_of_mapM_eq_ok {f g : α → Except ε (Option β)} {p : β → Bool} {xs : List α}
    {ys zs : List (Option β)}
    (hfg : ∀ x ∈ xs, f x = g x ∨ ∀ y, f x = .ok (some y) ∨ g x = .ok (some y) → p y = false)
    (hf : xs.mapM f = .ok ys) (hg : xs.mapM g = .ok zs) :
    ys.reduceOption.filter p = zs.reduceOption.filter p := by
  induction xs generalizing ys zs with
  | nil =>
      cases hf
      cases hg
      rfl
  | cons x xs ih =>
      obtain ⟨hx, hxs⟩ := List.forall_mem_cons.mp hfg
      rw [List.mapM_cons] at hf hg
      obtain ⟨y, hy, hf⟩ := bind_eq_ok_iff.mp hf
      obtain ⟨ys, hys, hf⟩ := bind_eq_ok_iff.mp hf
      obtain ⟨z, hz, hg⟩ := bind_eq_ok_iff.mp hg
      obtain ⟨zs, hzs, hg⟩ := bind_eq_ok_iff.mp hg
      cases hf
      cases hg
      have hrest := ih hxs hys hzs
      rcases hx with heq | hdropped
      · cases (hy.symm.trans heq).trans hz
        cases y with
        | none => exact hrest
        | some y => simp only [List.reduceOption_cons_of_some, List.filter_cons, hrest]
      · have hdrop {w : Option β} {ws : List (Option β)} (hw : ∀ v, w = some v → p v = false) :
            (w :: ws).reduceOption.filter p = ws.reduceOption.filter p := by
          cases w with
          | none => rfl
          | some v => simp [hw v rfl]
        rw [hdrop fun v hv ↦ hdropped v (.inl (hv ▸ hy)),
          hdrop fun v hv ↦ hdropped v (.inr (hv ▸ hz)), hrest]

/-- Steps that agree on the elements of a list agree on the list. -/
theorem mapM_congr {f g : α → Except ε β} {xs : List α} (h : ∀ x ∈ xs, f x = g x) :
    xs.mapM f = xs.mapM g := by
  induction xs with
  | nil => rfl
  | cons x xs ih =>
      obtain ⟨hx, hxs⟩ := List.forall_mem_cons.mp h
      rw [List.mapM_cons, List.mapM_cons, hx, ih hxs]

/-- A step that does not raise for any element is a map. -/
theorem mapM_ok (g : α → β) (xs : List α) :
    (xs.mapM fun x ↦ (.ok (g x) : Except ε β)) = .ok (xs.map g) := by
  induction xs with
  | nil => rfl
  | cons x xs ih =>
      rw [List.mapM_cons, ih]
      rfl

/-- A step that returns for every element returns for the list. -/
theorem mapM_isOk {f : α → Except ε β} {xs : List α} (h : ∀ x ∈ xs, ∃ y, f x = .ok y) :
    ∃ ys, xs.mapM f = .ok ys := by
  induction xs with
  | nil => exact ⟨[], rfl⟩
  | cons x xs ih =>
      obtain ⟨hx, hxs⟩ := List.forall_mem_cons.mp h
      obtain ⟨y, hy⟩ := hx
      obtain ⟨ys, hys⟩ := ih hxs
      refine ⟨y :: ys, ?_⟩
      rw [List.mapM_cons, hy, hys]
      rfl

/-- A step that returns what is related to the results of another one. -/
theorem exists_mapM_of_mapM {γ : Type v} {f : α → Except ε β} {g : α → Except ε γ}
    {R : γ → β → Prop} {xs : List α} {ys : List β}
    (h : ∀ x ∈ xs, ∀ y, f x = .ok y → ∃ z, g x = .ok z ∧ R z y) (hf : xs.mapM f = .ok ys) :
    ∃ zs, xs.mapM g = .ok zs ∧ List.Forall₂ R zs ys := by
  induction xs generalizing ys with
  | nil =>
      cases hf
      exact ⟨[], rfl, .nil⟩
  | cons x xs ih =>
      obtain ⟨hx, hxs⟩ := List.forall_mem_cons.mp h
      rw [List.mapM_cons] at hf
      obtain ⟨y, hy, hf⟩ := bind_eq_ok_iff.mp hf
      obtain ⟨rest, hrest, hf⟩ := bind_eq_ok_iff.mp hf
      cases hf
      obtain ⟨z, hz, hzy⟩ := hx y hy
      obtain ⟨zs, hzs, hrel⟩ := ih hxs hrest
      refine ⟨z :: zs, ?_, .cons hzy hrel⟩
      rw [List.mapM_cons, hz, ok_bind, hzs]
      rfl

theorem bind_isOk_iff {x : Except ε α} {f : α → Except ε β} :
    (∃ b, (x >>= f) = .ok b) ↔ ∃ a, x = .ok a ∧ ∃ b, f a = .ok b := by
  simp only [bind_eq_ok_iff]
  rw [exists_comm]
  simp only [exists_and_left]

theorem mapM_isOk_iff {f : α → Except ε β} {xs : List α} :
    (∃ ys, xs.mapM f = .ok ys) ↔ ∀ x ∈ xs, ∃ y, f x = .ok y :=
  ⟨fun ⟨_, h⟩ ↦ exists_of_mapM_eq_ok h, mapM_isOk⟩

/-- What a test that may raise keeps of a list. -/
theorem filter_eq_ok_iff {α : Type} {f : α → Except ε Bool} {xs ys : List α} :
    ((xs.mapM fun x ↦ f x >>= fun keep ↦ pure (if keep then some x else none)) >>= fun kept ↦
        pure kept.reduceOption) = .ok ys ↔
      (∀ x ∈ xs, ∃ keep, f x = .ok keep) ∧ ys = xs.filter fun x ↦ (f x).toOption.getD false := by
  have hkept : (∀ x ∈ xs, ∃ keep, f x = .ok keep) →
      (xs.mapM fun x ↦ f x >>= fun keep ↦ pure (if keep then some x else none)) =
        .ok (xs.map fun x ↦ if (f x).toOption.getD false then some x else none) := by
    intro h
    rw [← mapM_ok]
    refine mapM_congr fun x hx ↦ ?_
    obtain ⟨keep, hkeep⟩ := h x hx
    rw [hkeep]
    rfl
  have hfilter : (xs.map fun x ↦ if (f x).toOption.getD false then some x else none).reduceOption =
      xs.filter fun x ↦ (f x).toOption.getD false := by
    rw [List.reduceOption, List.filterMap_map, ← List.filterMap_eq_filter]
    rfl
  constructor
  · intro h
    obtain ⟨kept, hmapM, hys⟩ := bind_eq_ok_iff.mp h
    have hall : ∀ x ∈ xs, ∃ keep, f x = .ok keep := by
      intro x hx
      obtain ⟨y, hy⟩ := exists_of_mapM_eq_ok hmapM x hx
      obtain ⟨keep, hkeep, -⟩ := bind_eq_ok_iff.mp hy
      exact ⟨keep, hkeep⟩
    cases (hkept hall).symm.trans hmapM
    cases hys
    exact ⟨hall, hfilter⟩
  · rintro ⟨hall, rfl⟩
    rw [hkept hall, ok_bind, hfilter]
    rfl

/-! ## Lists that correspond -/

section Corresponding

variable {α β γ δ : Type} {R : α → β → Prop} {S : α → γ → Prop} {T : β → δ → Prop}

theorem exists_of_forall₂ {xs : List α} {ys : List β} {b : β} (h : List.Forall₂ R xs ys)
    (hb : b ∈ ys) : ∃ a ∈ xs, R a b := by
  induction h with
  | nil => cases hb
  | @cons x y xs ys hxy _ ih =>
      rcases List.mem_cons.mp hb with rfl | hb
      · exact ⟨x, List.mem_cons_self, hxy⟩
      · obtain ⟨a, ha, hab⟩ := ih hb
        exact ⟨a, List.mem_cons_of_mem x ha, hab⟩

theorem countP_of_forall₂ {p : α → Bool} {q : β → Bool}
    (hpq : ∀ x y, R x y → (p x = true ↔ q y = true)) {xs : List α} {ys : List β}
    (h : List.Forall₂ R xs ys) : xs.countP p = ys.countP q := by
  induction h with
  | nil => rfl
  | cons hxy _ ih => rw [List.countP_cons, List.countP_cons, ih, if_congr (hpq _ _ hxy) rfl rfl]

/-- Two lists correspond if the lists that they come from do. -/
theorem forall₂_square {U : γ → δ → Prop} (h : ∀ a b c d, R a b → S a c → T b d → U c d)
    {as : List α} {bs : List β} {cs : List γ} {ds : List δ} (hR : List.Forall₂ R as bs)
    (hS : List.Forall₂ S as cs) (hT : List.Forall₂ T bs ds) : List.Forall₂ U cs ds := by
  induction hR generalizing cs ds with
  | nil =>
      cases hS
      cases hT
      exact .nil
  | cons hab _ ih =>
      cases hS with
      | cons hac hS =>
          cases hT with
          | cons hbd hT => exact .cons (h _ _ _ _ hab hac hbd) (ih hS hT)

/-- Two lists that come from one list correspond. -/
theorem forall₂_common {S' : α → δ → Prop} {U : γ → δ → Prop}
    (h : ∀ a c d, S a c → S' a d → U c d) {as : List α} {cs : List γ} {ds : List δ}
    (hS : List.Forall₂ S as cs) (hS' : List.Forall₂ S' as ds) : List.Forall₂ U cs ds := by
  refine forall₂_square (R := Eq) ?_ (List.forall₂_refl as) hS hS'
  rintro a _ c d rfl
  exact h a c d

/-- Where two lists that come from one list have the same view, so have the parts that come
from one element. -/
theorem exists_of_map_eq {ζ : Type} {f : β → ζ} {g : γ → ζ} {as : List α} {bs : List β}
    {cs : List γ} (hR : List.Forall₂ R as bs) (hS : List.Forall₂ S as cs)
    (hmap : bs.map f = cs.map g) : ∀ a ∈ as, ∃ b c, R a b ∧ S a c ∧ f b = g c := by
  induction hR generalizing cs with
  | nil => exact List.forall_mem_nil _
  | cons hab _ ih =>
      cases hS with
      | cons hac hS =>
          obtain ⟨hhead, htail⟩ := List.cons.inj hmap
          exact List.forall_mem_cons.mpr ⟨⟨_, _, hab, hac, hhead⟩, ih hS htail⟩

end Corresponding

end Lib
