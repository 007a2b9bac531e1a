import Mathlib.Data.Sum.Basic
import Mathlib.Tactic.Common

/-!
# Queries that go unnoticed

A query may write to the state as long as nothing that comes later can tell.  A run
consists of inputs, which are answered, and of queries in between, and each of them
takes some time.  `unnoticed` is the rule: find a relation between the state of a run
with queries and that of the run without them, which may depend on the time, such that
an input is answered alike in related states and leaves related states, and a query
leaves a state related to what it was related to.
-/

universe u v w x y

namespace Lib

variable {τ : Type u} {σ : Type v} {ι : Type w} {κ : Type x} {ο : Type y}

/-- Each entry of the list may start when the one before it has ended, the first one at
`t`. -/
def InOrder (starts : τ → ι → Prop) (ends : ι → τ) : τ → List ι → Prop
  | _, [] => True
  | t, i :: is => starts t i ∧ InOrder starts ends (ends i) is

theorem InOrder.and {starts : τ → ι → Prop} {ends : ι → τ} {P : ι → Prop} {t : τ} {is : List ι}
    (h : InOrder starts ends t is) (hP : ∀ i ∈ is, P i) :
    InOrder (fun t i ↦ starts t i ∧ P i) ends t is := by
  induction is generalizing t with
  | nil => trivial
  | cons i is ih =>
      obtain ⟨hi, his⟩ := List.forall_mem_cons.mp hP
      exact ⟨⟨h.1, hi⟩, ih h.2 his⟩

/-- The answers to the inputs of a run, and the state that the run ends in. -/
def replies (step : σ → ι → ο × σ) (query : σ → κ → σ) : σ → List (ι ⊕ κ) → List ο × σ
  | s, [] => ([], s)
  | s, .inl i :: is =>
      let answer := step s i
      let rest := replies step query answer.2 is
      (answer.1 :: rest.1, rest.2)
  | s, .inr q :: is => replies step query (query s q) is

variable {step : σ → ι → ο × σ} {query : σ → κ → σ} {starts : τ → ι ⊕ κ → Prop}
  {ends : ι ⊕ κ → τ} {R : τ → σ → σ → Prop}

/-- A run answers its inputs as it does without its queries. -/
theorem unnoticed
    (hstep : ∀ t s s' i, R t s s' → starts t (.inl i) →
      (step s i).1 = (step s' i).1 ∧ R (ends (.inl i)) (step s i).2 (step s' i).2)
    (hquery : ∀ t s s' q, R t s s' → starts t (.inr q) → R (ends (.inr q)) (query s q) s')
    {t : τ} {s s' : σ} {run : List (ι ⊕ κ)} (hrun : InOrder starts ends t run) (hs : R t s s') :
    (replies step query s run).1 = (replies step query s' (run.filter Sum.isLeft)).1 ∧
      ∃ t', R t' (replies step query s run).2
        (replies step query s' (run.filter Sum.isLeft)).2 := by
  induction run generalizing t s s' with
  | nil => exact ⟨rfl, t, hs⟩
  | cons x run ih =>
      obtain ⟨hstarts, hrest⟩ := hrun
      cases x with
      | inl i =>
          obtain ⟨hanswer, hnext⟩ := hstep t s s' i hs hstarts
          obtain ⟨hanswers, hend⟩ := ih hrest hnext
          rw [List.filter_cons_of_pos rfl]
          simp only [replies]
          exact ⟨List.cons_eq_cons.mpr ⟨hanswer, hanswers⟩, hend⟩
      | inr q =>
          rw [List.filter_cons_of_neg Bool.false_ne_true]
          exact ih hrest (hquery t s s' q hs hstarts)

end Lib
