import Mathlib.Order.Defs.PartialOrder
import Mathlib.Data.List.Basic

/-!
# Deterministic labelled machines

A machine takes a state and a label to at most one next state; a label that is
not enabled is answered by `none`.  Nondeterminism lives in the choice of the
labels, so a run is simply a list of labels, and the runs of an open system are
all lists its environment may choose.

Two ways of constraining a run are needed throughout.  `Along P s is` says that
every step taken meets `P` *before* it is taken, and `Always Q s is` says that
every state reached satisfies `Q`.  The rules below connect them: an invariant
preserved by the steps that meet `P` holds always along such a run, and when the
steps that miss `P` break the invariant, the two are equivalent.
-/

universe u v w x

namespace Lib

/-- A partial deterministic transition function with labels. -/
abbrev Machine (σ : Type u) (ι : Type v) := σ → ι → Option σ

namespace Machine

variable {σ : Type u} {ι : Type v}

/-- The machine of a total step function: every label is enabled. -/
def ofTotal (step : σ → ι → σ) : Machine σ ι := fun s i ↦ some (step s i)

@[simp] theorem ofTotal_eq_some {step : σ → ι → σ} {s t : σ} {i : ι} :
    ofTotal step s i = some t ↔ step s i = t := by
  simp [ofTotal]

variable (M : Machine σ ι)

/-- Take the steps of a list of labels in order. -/
def run : σ → List ι → Option σ
  | s, [] => some s
  | s, i :: is => (M s i).bind fun t ↦ run t is

/-- Some run leads from one state to the other. -/
def Reachable (s t : σ) : Prop := ∃ is, M.run s is = some t

/-- Every step of the run meets `P` in the state it is taken from. -/
def Along (P : σ → ι → Prop) : σ → List ι → Prop
  | _, [] => True
  | s, i :: is => P s i ∧ ∀ t, M s i = some t → Along P t is

/-- Every state of the run satisfies `Q`, the first one included. -/
def Always (Q : σ → Prop) : σ → List ι → Prop
  | s, [] => Q s
  | s, i :: is => Q s ∧ ∀ t, M s i = some t → Always Q t is

/-- Whether a constraint holds along a run can be computed by running it. -/
instance decidableAlong (P : σ → ι → Prop) [∀ s i, Decidable (P s i)] :
    ∀ (s : σ) (is : List ι), Decidable (M.Along P s is)
  | _, [] => .isTrue trivial
  | s, i :: is =>
      match h : M s i with
      | none =>
          decidable_of_iff (P s i) ⟨fun hP ↦ ⟨hP, fun t ht ↦ by cases h.symm.trans ht⟩, And.left⟩
      | some t =>
          have := decidableAlong P t is
          decidable_of_iff (P s i ∧ M.Along P t is)
            ⟨fun hP ↦ ⟨hP.1, fun t' ht ↦ Option.some.inj (h.symm.trans ht) ▸ hP.2⟩,
              fun hP ↦ ⟨hP.1, hP.2 t h⟩⟩

/-- The steps that a run takes, each with the state it is taken from. -/
def steps : σ → List ι → List (σ × ι)
  | _, [] => []
  | s, i :: is =>
      match M s i with
      | none => []
      | some t => (s, i) :: steps t is

variable {M}

/-! ## Runs -/

@[simp] theorem run_nil (s : σ) : M.run s [] = some s := rfl

theorem run_cons (s : σ) (i : ι) (is : List ι) :
    M.run s (i :: is) = (M s i).bind fun t ↦ M.run t is := rfl

theorem run_cons_eq_some {s u : σ} {i : ι} {is : List ι} :
    M.run s (i :: is) = some u ↔ ∃ t, M s i = some t ∧ M.run t is = some u := by
  rw [run_cons, Option.bind_eq_some_iff]

theorem run_singleton {s t : σ} {i : ι} (h : M s i = some t) : M.run s [i] = some t :=
  run_cons_eq_some.mpr ⟨t, h, rfl⟩

theorem run_append (s : σ) (is js : List ι) :
    M.run s (is ++ js) = (M.run s is).bind fun t ↦ M.run t js := by
  induction is generalizing s with
  | nil => rfl
  | cons i is ih =>
      simp only [List.cons_append, run_cons, Option.bind_assoc]
      exact Option.bind_congr fun t _ ↦ ih t

namespace Reachable

theorem refl (s : σ) : M.Reachable s s := ⟨[], rfl⟩

theorem trans {s t u : σ} (h : M.Reachable s t) (h' : M.Reachable t u) : M.Reachable s u := by
  obtain ⟨is, his⟩ := h
  obtain ⟨js, hjs⟩ := h'
  refine ⟨is ++ js, ?_⟩
  rw [run_append, his]
  exact hjs

theorem step {s t u : σ} {i : ι} (h : M.Reachable s t) (hi : M t i = some u) :
    M.Reachable s u :=
  h.trans ⟨[i], by rw [run_cons, hi]; rfl⟩

/-- The invariant rule: what holds at the start and survives every step holds in
every reachable state. -/
theorem invariant {Q : σ → Prop} (hstep : ∀ s i t, Q s → M s i = some t → Q t)
    {s t : σ} (h : M.Reachable s t) (hs : Q s) : Q t := by
  obtain ⟨is, his⟩ := h
  induction is generalizing s with
  | nil => exact Option.some.inj his ▸ hs
  | cons i is ih =>
      obtain ⟨u, hu, hrest⟩ := run_cons_eq_some.mp his
      exact ih (hstep s i u hs hu) hrest

end Reachable

/-! ## Constrained runs -/

theorem Always.head {Q : σ → Prop} {s : σ} {is : List ι} (h : M.Always Q s is) : Q s := by
  cases is with
  | nil => exact h
  | cons i is => exact h.1

theorem Always.mono {Q R : σ → Prop} (hQR : ∀ s, Q s → R s) {s : σ} {is : List ι}
    (h : M.Always Q s is) : M.Always R s is := by
  induction is generalizing s with
  | nil => exact hQR s h
  | cons i is ih => exact ⟨hQR s h.1, fun t ht ↦ ih (h.2 t ht)⟩

/-- A run satisfies `Q` always exactly when each of its prefixes ends in `Q`. -/
theorem always_iff {Q : σ → Prop} {s : σ} {is : List ι} :
    M.Always Q s is ↔ ∀ js ks, is = js ++ ks → ∀ t, M.run s js = some t → Q t := by
  induction is generalizing s with
  | nil =>
      constructor
      · intro h js ks e t ht
        obtain ⟨rfl, -⟩ := List.append_eq_nil_iff.mp e.symm
        exact Option.some.inj ht ▸ h
      · exact fun h ↦ h [] [] rfl s rfl
  | cons i is ih =>
      constructor
      · rintro ⟨hs, hrest⟩ js ks e t ht
        cases js with
        | nil => exact Option.some.inj ht ▸ hs
        | cons j js =>
            obtain ⟨rfl, rfl⟩ := List.cons.inj e
            obtain ⟨u, hu, hjs⟩ := run_cons_eq_some.mp ht
            exact ih.mp (hrest u hu) js ks rfl t hjs
      · intro h
        refine ⟨h [] _ rfl s rfl, fun t ht ↦ ih.mpr ?_⟩
        intro js ks e u hu
        exact h (i :: js) ks (by rw [e]; rfl) u (run_cons_eq_some.mpr ⟨t, ht, hu⟩)

/-- The guarded invariant rule: an invariant that the steps meeting `P` preserve
holds always along a run whose steps all meet `P`. -/
theorem Along.always {P : σ → ι → Prop} {Q : σ → Prop}
    (hstep : ∀ s i t, Q s → P s i → M s i = some t → Q t)
    {s : σ} {is : List ι} (h : M.Along P s is) (hs : Q s) : M.Always Q s is := by
  induction is generalizing s with
  | nil => exact hs
  | cons i is ih => exact ⟨hs, fun t ht ↦ ih (h.2 t ht) (hstep s i t hs h.1 ht)⟩

/-- A run whose labels all meet `P` meets it along the way. -/
theorem along_of_forall {P : ι → Prop} {s : σ} {is : List ι} (h : ∀ i ∈ is, P i) :
    M.Along (fun _ i ↦ P i) s is := by
  induction is generalizing s with
  | nil => trivial
  | cons i is ih =>
      obtain ⟨hi, his⟩ := List.forall_mem_cons.mp h
      exact ⟨hi, fun t _ ↦ ih his⟩

/-- What is met along a run is met along its end. -/
theorem Along.of_run {P : σ → ι → Prop} {s t : σ} {is js : List ι} (h : M.Along P s (is ++ js))
    (hrun : M.run s is = some t) : M.Along P t js := by
  induction is generalizing s with
  | nil =>
      obtain rfl := Option.some.inj hrun
      exact h
  | cons i is ih =>
      obtain ⟨u, hu, hrest⟩ := run_cons_eq_some.mp hrun
      exact ih (h.2 u hu) hrest

theorem Along.and {P R : σ → ι → Prop} {s : σ} {is : List ι} (h : M.Along P s is)
    (h' : M.Along R s is) : M.Along (fun s i ↦ P s i ∧ R s i) s is := by
  induction is generalizing s with
  | nil => trivial
  | cons i is ih => exact ⟨⟨h.1, h'.1⟩, fun t ht ↦ ih (h.2 t ht) (h'.2 t ht)⟩

/-- The state at the end of a run. -/
theorem Always.last {Q : σ → Prop} {s t : σ} {is : List ι} (h : M.Always Q s is)
    (hrun : M.run s is = some t) : Q t :=
  always_iff.mp h is [] (List.append_nil is).symm t hrun

/-- The invariant rule for whole runs. -/
theorem always_of_keeps {Q : σ → Prop} (hstep : ∀ s i t, Q s → M s i = some t → Q t) {s : σ}
    (hs : Q s) (is : List ι) : M.Always Q s is := by
  induction is generalizing s with
  | nil => exact hs
  | cons i is ih => exact ⟨hs, fun t ht ↦ ih (hstep s i t hs ht)⟩

theorem steps_cons {s t : σ} {i : ι} (h : M s i = some t) (is : List ι) :
    M.steps s (i :: is) = (s, i) :: M.steps t is := by
  simp only [steps, h]

/-- The steps of a run carry its first labels. -/
theorem steps_labels (s : σ) (is : List ι) : (M.steps s is).map Prod.snd <+: is := by
  induction is generalizing s with
  | nil => exact List.prefix_refl []
  | cons i is ih =>
      cases h : M s i with
      | none => simp [steps, h]
      | some t =>
          simp only [steps, h, List.map_cons]
          exact (List.prefix_cons_inj i).mpr (ih t)

/-- A step of a run lies between two runs. -/
theorem exists_of_mem_steps {s t : σ} {i : ι} {is : List ι} (h : (t, i) ∈ M.steps s is) :
    ∃ pre post u, is = pre ++ i :: post ∧ M.run s pre = some t ∧ M t i = some u := by
  induction is generalizing s with
  | nil => cases h
  | cons j is ih =>
      cases hj : M s j with
      | none =>
          simp only [steps, hj] at h
          cases h
      | some u =>
          rw [steps_cons hj] at h
          rcases List.mem_cons.mp h with e | h
          · cases e
            exact ⟨[], is, u, rfl, rfl, hj⟩
          · obtain ⟨pre, post, v, rfl, hpre, hv⟩ := ih h
            exact ⟨j :: pre, post, v, rfl, run_cons_eq_some.mpr ⟨u, hj, hpre⟩, hv⟩

/-- A run takes the step of each of its labels. -/
theorem mem_steps_of_run {s t u : σ} {i : ι} {pre post : List ι}
    (h : M.run s (pre ++ i :: post) = some u) (hpre : M.run s pre = some t) :
    (t, i) ∈ M.steps s (pre ++ i :: post) := by
  induction pre generalizing s with
  | nil =>
      obtain rfl := Option.some.inj hpre
      obtain ⟨v, hv, -⟩ := run_cons_eq_some.mp h
      rw [List.nil_append, steps_cons hv]
      exact List.mem_cons_self
  | cons j pre ih =>
      obtain ⟨v, hv, hrest⟩ := run_cons_eq_some.mp h
      obtain ⟨v', hv', hpre⟩ := run_cons_eq_some.mp hpre
      cases hv.symm.trans hv'
      rw [List.cons_append, steps_cons hv]
      exact List.mem_cons_of_mem _ (ih hrest hpre)

/-- The invariant rule with a history: what a step preserves, when it is added to what was
done before, holds at the end of a run. -/
theorem run_steps {J : σ → List (σ × ι) → Prop}
    (hkeep : ∀ s pre i t, J s pre → M s i = some t → J t (pre ++ [(s, i)])) {s t : σ}
    {is : List ι} {past : List (σ × ι)} (h : M.run s is = some t) (hs : J s past) :
    J t (past ++ M.steps s is) := by
  induction is generalizing s past with
  | nil =>
      obtain rfl : s = t := Option.some.inj h
      rw [steps, List.append_nil]
      exact hs
  | cons i is ih =>
      obtain ⟨u, hu, hrest⟩ := run_cons_eq_some.mp h
      have hend := ih hrest (hkeep s past i u hs hu)
      simp only [steps, hu]
      rwa [List.append_assoc] at hend

/-- The same for a run that may get stuck. -/
theorem exists_of_steps {J : σ → List (σ × ι) → Prop}
    (hkeep : ∀ s pre i t, J s pre → M s i = some t → J t (pre ++ [(s, i)])) {s : σ}
    {past : List (σ × ι)} (hs : J s past) (is : List ι) : ∃ t, J t (past ++ M.steps s is) := by
  induction is generalizing s past with
  | nil => exact ⟨s, by rwa [steps, List.append_nil]⟩
  | cons i is ih =>
      cases ht : M s i with
      | none => exact ⟨s, by simpa only [steps, ht, List.append_nil] using hs⟩
      | some t =>
          obtain ⟨u, hu⟩ := ih (hkeep s past i t hs ht)
          refine ⟨u, ?_⟩
          simp only [steps, ht]
          rwa [List.append_assoc] at hu

/-- The rule for the steps of a run: an invariant of the states and of what was done to
reach them says something of every step and what came before it. -/
theorem Along.steps {P : σ → ι → Prop} {J : σ → List (σ × ι) → Prop}
    {Q : List (σ × ι) → σ × ι → Prop}
    (hkeep : ∀ s pre i t, J s pre → P s i → M s i = some t → J t (pre ++ [(s, i)]))
    (hQ : ∀ s pre i, J s pre → P s i → Q pre (s, i)) {s : σ} {is : List ι} {past : List (σ × ι)}
    (h : M.Along P s is) (hs : J s past) {pre suf : List (σ × ι)} {x : σ × ι}
    (e : M.steps s is = pre ++ x :: suf) : Q (past ++ pre) x := by
  induction is generalizing s past pre with
  | nil => exact absurd e (List.append_ne_nil_of_right_ne_nil pre (List.cons_ne_nil x suf)).symm
  | cons i is ih =>
      cases ht : M s i with
      | none =>
          simp only [Machine.steps, ht] at e
          exact absurd e (List.append_ne_nil_of_right_ne_nil pre (List.cons_ne_nil x suf)).symm
      | some t =>
          simp only [Machine.steps, ht] at e
          cases pre with
          | nil =>
              obtain ⟨rfl, -⟩ := List.cons.inj e
              rw [List.append_nil]
              exact hQ s past i hs h.1
          | cons y pre =>
              obtain ⟨rfl, e'⟩ := List.cons.inj e
              have hrest := ih (h.2 t ht) (hkeep s past i t hs h.1 ht) e'
              rwa [List.append_assoc] at hrest

/-- When moreover the invariant implies `Q` and every step that misses `P` breaks
`Q`, the runs that keep `Q` are exactly the runs whose steps all meet `P`. -/
theorem always_iff_along {P : σ → ι → Prop} {J Q : σ → Prop} (hQ : ∀ s, J s → Q s)
    (hkeep : ∀ s i t, J s → P s i → M s i = some t → J t)
    (hbreak : ∀ s i, J s → ¬ P s i → ∃ t, M s i = some t ∧ ¬ Q t)
    {s : σ} {is : List ι} (hs : J s) : M.Always Q s is ↔ M.Along P s is := by
  refine ⟨fun h ↦ ?_, fun h ↦ (h.always hkeep hs).mono hQ⟩
  induction is generalizing s with
  | nil => trivial
  | cons i is ih =>
      have hP : P s i := by
        by_contra hP
        obtain ⟨t, ht, hnot⟩ := hbreak s i hs hP
        exact hnot (h.2 t ht).head
      exact ⟨hP, fun t ht ↦ ih (hkeep s i t hs hP ht) (h.2 t ht)⟩

/-- The same for a total machine and a constraint on labels alone, in the runs
whose labels are all from one class. -/
theorem always_iff_forall {step : σ → ι → σ} {A P : ι → Prop} {J Q : σ → Prop}
    (hQ : ∀ s, J s → Q s) (hkeep : ∀ s i, J s → A i → P i → J (step s i))
    (hbreak : ∀ s i, J s → A i → ¬ P i → ¬ Q (step s i))
    {s : σ} {is : List ι} (hs : J s) (hA : ∀ i ∈ is, A i) :
    (ofTotal step).Always Q s is ↔ ∀ i ∈ is, P i := by
  induction is generalizing s with
  | nil => exact iff_of_true (hQ s hs) (List.forall_mem_nil P)
  | cons i is ih =>
      obtain ⟨hi, his⟩ := List.forall_mem_cons.mp hA
      rw [List.forall_mem_cons]
      constructor
      · rintro ⟨-, hrest⟩
        have hnext := hrest (step s i) rfl
        have hP : P i := by
          by_contra hP
          exact hbreak s i hs hi hP hnext.head
        exact ⟨hP, (ih (hkeep s i hs hi hP) his).mp hnext⟩
      · rintro ⟨hP, hrest⟩
        refine ⟨hQ s hs, fun t ht ↦ ?_⟩
        rw [← ofTotal_eq_some.mp ht]
        exact (ih (hkeep s i hs hi hP) his).mpr hrest

/-! ## Runs that differ in hidden steps -/

section Hidden

variable {R : σ → σ → Prop} {keep : ι → Bool}

/-- A run is related to the run without its hidden steps. -/
theorem run_filter {is : List ι}
    (hhidden : ∀ s i t u, i ∈ is → keep i = false → M s i = some t → R s u → R t u)
    (hkept : ∀ s i t u, i ∈ is → keep i = true → M s i = some t → R s u →
      ∃ v, M u i = some v ∧ R t v)
    {s t u : σ} (h : M.run s is = some t) (hsu : R s u) :
    ∃ v, M.run u (is.filter keep) = some v ∧ R t v := by
  induction is generalizing s u with
  | nil =>
      cases h
      exact ⟨u, rfl, hsu⟩
  | cons i is ih =>
      have hrest {s u : σ} (h : M.run s is = some t) (hsu : R s u) :=
        ih (fun s j t u hj ↦ hhidden s j t u (List.mem_cons_of_mem i hj))
          (fun s j t u hj ↦ hkept s j t u (List.mem_cons_of_mem i hj)) h hsu
      obtain ⟨s', hs', h⟩ := run_cons_eq_some.mp h
      rw [List.filter_cons]
      cases hi : keep i with
      | false => exact hrest h (hhidden s i s' u List.mem_cons_self hi hs' hsu)
      | true =>
          obtain ⟨u', hu', hrel⟩ := hkept s i s' u List.mem_cons_self hi hs' hsu
          obtain ⟨v, hv, htv⟩ := hrest h hrel
          exact ⟨v, run_cons_eq_some.mpr ⟨u', hu', hv⟩, htv⟩

/-- The unwinding rule: two runs with the same visible steps end in states that are related to a
common one. -/
theorem exists_common_of_filter_eq
    (hhidden : ∀ s i t u, keep i = false → M s i = some t → R s u → R t u)
    (hkept : ∀ s i t u, keep i = true → M s i = some t → R s u → ∃ v, M u i = some v ∧ R t v)
    {s t t' : σ} {is js : List ι} (hrefl : R s s) (h : M.run s is = some t)
    (h' : M.run s js = some t') (hvisible : is.filter keep = js.filter keep) :
    ∃ v, R t v ∧ R t' v := by
  obtain ⟨v, hv, htv⟩ := run_filter (fun s i t u _ ↦ hhidden s i t u)
    (fun s i t u _ ↦ hkept s i t u) h hrefl
  obtain ⟨v', hv', htv'⟩ := run_filter (fun s i t u _ ↦ hhidden s i t u)
    (fun s i t u _ ↦ hkept s i t u) h' hrefl
  rw [hvisible] at hv
  cases hv.symm.trans hv'
  exact ⟨v, htv, htv'⟩

end Hidden

/-! ## A machine above another one -/

section Refines

variable {τ : Type w} {κ : Type x} {N : Machine τ κ} {view : σ → τ} {labels : σ → ι → List κ}

/-- Every step of a machine is some steps of another one, on a view of its states. -/
def Refines (M : Machine σ ι) (N : Machine τ κ) (view : σ → τ) (labels : σ → ι → List κ) : Prop :=
  ∀ s i t, M s i = some t → N.run (view s) (labels s i) = some (view t)

/-- What some steps are on the other machine. -/
def stepsBelow (N : Machine τ κ) (view : σ → τ) (labels : σ → ι → List κ) (past : List (σ × ι)) :
    List (τ × κ) :=
  past.flatMap fun x ↦ N.steps (view x.1) (labels x.1 x.2)

/-- The rule for the machine above: it preserves what the other one preserves. -/
theorem Refines.step {J : τ → List (τ × κ) → Prop} (hrefines : M.Refines N view labels)
    (hkeep : ∀ s pre i t, J s pre → N s i = some t → J t (pre ++ [(s, i)])) {s t : σ} {i : ι}
    {past : List (σ × ι)} (hs : J (view s) (stepsBelow N view labels past)) (h : M s i = some t) :
    J (view t) (stepsBelow N view labels (past ++ [(s, i)])) := by
  have hrun := run_steps hkeep (hrefines s i t h) hs
  rw [stepsBelow, List.flatMap_append, List.flatMap_singleton]
  exact hrun

end Refines

end Machine

/-! ## Clocked runs -/

section Clocked

variable {τ : Type w} [LE τ] {ι : Type v}

/-- The labels carry readings of a clock that starts at `t₀` and never goes
back. -/
def Clocked : τ → List (τ × ι) → Prop
  | _, [] => True
  | t₀, (t, _) :: is => t₀ ≤ t ∧ Clocked t is

theorem Clocked.of_append {t₀ : τ} {is js : List (τ × ι)} (h : Clocked t₀ (is ++ js)) :
    Clocked t₀ is := by
  induction is generalizing t₀ with
  | nil => trivial
  | cons i is ih => exact ⟨h.1, ih h.2⟩

/-- Two neighbouring readings are in order. -/
theorem Clocked.le_of_append {t₀ t u : τ} {is : List (τ × ι)} {i j : ι}
    (h : Clocked t₀ (is ++ [(t, i)] ++ [(u, j)])) : t ≤ u := by
  induction is generalizing t₀ with
  | nil => exact h.2.1
  | cons i is ih => exact ih h.2

end Clocked

end Lib
