import Mathlib.Data.Sigma.Basic
import Mathlib.Tactic.Common

/-!
# Programs over a signature of operations

`Prog Op Ans ε α` is a program that performs operations from `Op`, continues on
the answer (of type `Ans o` for the operation `o`), and ends by returning an `α`
or by raising an `ε`.  The tree is inductive, so a program ends after finitely
many operations whatever the answers are; loops are recursions on something that
decreases, and termination is never a separate proof.

What a program does is described at three levels.

* `Trace p t r`: with *some* answers, `p` performs exactly the operations of `t`
  and ends in `r`.  Nothing is assumed about the answers, so what holds of every
  trace holds whatever else happens in the world between two operations.
* `exec h p s`: the answers come from a handler `h` that threads a state.
* `Follows P s p post`: `p` respects the typestate protocol `P`.  This is the
  weakest precondition of `post` for an automaton that watches the operations.
-/

universe u

namespace Lib

/-- A program over the operations `Op` with answers `Ans`, which may raise. -/
inductive Prog (Op : Type) (Ans : Op → Type) (ε α : Type)
  | /-- Return a value. -/ ret (a : α)
  | /-- Raise an exception. -/ raise (e : ε)
  | /-- Perform an operation and continue on its answer. -/
    op (o : Op) (k : Ans o → Prog Op Ans ε α)

namespace Prog

variable {Op : Type} {Ans : Op → Type} {ε α β : Type}

/-- Sequencing; an exception skips the continuation. -/
def bind : Prog Op Ans ε α → (α → Prog Op Ans ε β) → Prog Op Ans ε β
  | ret a, f => f a
  | raise e, _ => raise e
  | op o k, f => op o fun a ↦ bind (k a) f

/-- Handle the exceptions of a program. -/
def handle : Prog Op Ans ε α → (ε → Prog Op Ans ε α) → Prog Op Ans ε α
  | ret a, _ => ret a
  | raise e, f => f e
  | op o k, f => op o fun a ↦ handle (k a) f

/-- The program that performs one operation and returns its answer. -/
def perform (o : Op) : Prog Op Ans ε (Ans o) := op o ret

instance instMonad : Monad (Prog Op Ans ε) where
  pure := ret
  bind := bind

instance instMonadExcept : MonadExcept ε (Prog Op Ans ε) where
  throw := raise
  tryCatch := handle

@[simp] theorem pure_eq (a : α) : (pure a : Prog Op Ans ε α) = ret a := rfl

@[simp] theorem throw_eq (e : ε) : (throw e : Prog Op Ans ε α) = raise e := rfl

@[simp] theorem ret_bind (a : α) (f : α → Prog Op Ans ε β) : ret a >>= f = f a := rfl

@[simp] theorem raise_bind (e : ε) (f : α → Prog Op Ans ε β) :
    (raise e : Prog Op Ans ε α) >>= f = raise e := rfl

@[simp] theorem op_bind (o : Op) (k : Ans o → Prog Op Ans ε α) (f : α → Prog Op Ans ε β) :
    op o k >>= f = op o fun a ↦ k a >>= f := rfl

@[simp] theorem perform_bind (o : Op) (f : Ans o → Prog Op Ans ε β) :
    perform o >>= f = op o f := rfl

@[simp] theorem tryCatch_ret (a : α) (f : ε → Prog Op Ans ε α) :
    tryCatch (ret a : Prog Op Ans ε α) f = ret a := rfl

@[simp] theorem tryCatch_raise (e : ε) (f : ε → Prog Op Ans ε α) :
    tryCatch (raise e : Prog Op Ans ε α) f = f e := rfl

@[simp] theorem tryCatch_op (o : Op) (k : Ans o → Prog Op Ans ε α)
    (f : ε → Prog Op Ans ε α) :
    tryCatch (op o k) f = op o fun a ↦ tryCatch (k a) f := rfl

instance instLawfulMonad : LawfulMonad (Prog Op Ans ε) := LawfulMonad.mk' _
  (fun p ↦ by
    change p >>= ret = p
    induction p with
    | ret a => rfl
    | raise e => rfl
    | op o k ih => exact congrArg (op o) (funext ih))
  (fun _ _ ↦ rfl)
  (fun p f g ↦ by
    induction p with
    | ret a => rfl
    | raise e => rfl
    | op o k ih => exact congrArg (op o) (funext ih))

/-! ## Traces -/

/-- An operation together with the answer it was given. -/
abbrev Performed (Op : Type) (Ans : Op → Type) := Σ o : Op, Ans o

/-- `Trace p t r`: there are answers on which `p` performs the operations of `t`,
in this order, and ends in `r`. -/
inductive Trace : Prog Op Ans ε α → List (Performed Op Ans) → Except ε α → Prop
  | ret (a : α) : Trace (ret a) [] (.ok a)
  | raise (e : ε) : Trace (raise e) [] (.error e)
  | op {o : Op} {k : Ans o → Prog Op Ans ε α} {a : Ans o} {t : List (Performed Op Ans)}
      {r : Except ε α} : Trace (k a) t r → Trace (op o k) (⟨o, a⟩ :: t) r

@[simp] theorem trace_ret {a : α} {t : List (Performed Op Ans)} {r : Except ε α} :
    Trace (ret a) t r ↔ t = [] ∧ r = .ok a := by
  constructor
  · intro h
    cases h
    exact ⟨rfl, rfl⟩
  · rintro ⟨rfl, rfl⟩
    exact .ret a

@[simp] theorem trace_raise {e : ε} {t : List (Performed Op Ans)} {r : Except ε α} :
    Trace (raise e) t r ↔ t = [] ∧ r = .error e := by
  constructor
  · intro h
    cases h
    exact ⟨rfl, rfl⟩
  · rintro ⟨rfl, rfl⟩
    exact .raise e

theorem trace_op {o : Op} {k : Ans o → Prog Op Ans ε α} {t : List (Performed Op Ans)}
    {r : Except ε α} :
    Trace (op o k) t r ↔ ∃ a t', t = ⟨o, a⟩ :: t' ∧ Trace (k a) t' r := by
  constructor
  · intro h
    cases h with
    | op h' => exact ⟨_, _, rfl, h'⟩
  · rintro ⟨a, t', rfl, h⟩
    exact .op h

/-- The traces of a sequence: a trace of the first part that returns, followed by
one of the continuation, or a trace of the first part that raises. -/
theorem trace_bind {p : Prog Op Ans ε α} {f : α → Prog Op Ans ε β}
    {t : List (Performed Op Ans)} {r : Except ε β} :
    Trace (p >>= f) t r ↔
      (∃ a t₁ t₂, t = t₁ ++ t₂ ∧ Trace p t₁ (.ok a) ∧ Trace (f a) t₂ r) ∨
        ∃ e, Trace p t (.error e) ∧ r = .error e := by
  induction p generalizing t with
  | ret a =>
      rw [ret_bind]
      constructor
      · exact fun h ↦ .inl ⟨a, [], t, rfl, .ret a, h⟩
      · rintro (⟨a', t₁, t₂, rfl, h₁, h₂⟩ | ⟨e, h, -⟩)
        · obtain ⟨rfl, e⟩ := trace_ret.mp h₁
          cases e
          exact h₂
        · cases h
  | raise e =>
      rw [raise_bind, trace_raise]
      constructor
      · rintro ⟨rfl, rfl⟩
        exact .inr ⟨e, .raise e, rfl⟩
      · rintro (⟨a', t₁, t₂, -, h₁, -⟩ | ⟨e', h, rfl⟩)
        · cases h₁
        · obtain ⟨rfl, e⟩ := trace_raise.mp h
          cases e
          exact ⟨rfl, rfl⟩
  | op o k ih =>
      rw [op_bind, trace_op]
      constructor
      · rintro ⟨a, t', rfl, h⟩
        rcases (ih a).mp h with ⟨b, t₁, t₂, rfl, h₁, h₂⟩ | ⟨e, h', rfl⟩
        · exact .inl ⟨b, ⟨o, a⟩ :: t₁, t₂, rfl, .op h₁, h₂⟩
        · exact .inr ⟨e, .op h', rfl⟩
      · rintro (⟨b, t₁, t₂, rfl, h₁, h₂⟩ | ⟨e, h, rfl⟩)
        · obtain ⟨a, t', rfl, h'⟩ := trace_op.mp h₁
          exact ⟨a, t' ++ t₂, rfl, (ih a).mpr (.inl ⟨b, t', t₂, rfl, h', h₂⟩)⟩
        · obtain ⟨a, t', rfl, h'⟩ := trace_op.mp h
          exact ⟨a, t', rfl, (ih a).mpr (.inr ⟨e, h', rfl⟩)⟩

/-- The traces of a program under a handler for its exceptions. -/
theorem trace_tryCatch {p : Prog Op Ans ε α} {f : ε → Prog Op Ans ε α}
    {t : List (Performed Op Ans)} {r : Except ε α} :
    Trace (tryCatch p f) t r ↔
      (∃ e t₁ t₂, t = t₁ ++ t₂ ∧ Trace p t₁ (.error e) ∧ Trace (f e) t₂ r) ∨
        ∃ a, Trace p t (.ok a) ∧ r = .ok a := by
  induction p generalizing t with
  | ret a =>
      rw [tryCatch_ret, trace_ret]
      constructor
      · rintro ⟨rfl, rfl⟩
        exact .inr ⟨a, .ret a, rfl⟩
      · rintro (⟨e, t₁, t₂, -, h₁, -⟩ | ⟨a', h, rfl⟩)
        · cases h₁
        · obtain ⟨rfl, e⟩ := trace_ret.mp h
          cases e
          exact ⟨rfl, rfl⟩
  | raise e =>
      rw [tryCatch_raise]
      constructor
      · exact fun h ↦ .inl ⟨e, [], t, rfl, .raise e, h⟩
      · rintro (⟨e', t₁, t₂, rfl, h₁, h₂⟩ | ⟨a, h, -⟩)
        · obtain ⟨rfl, e⟩ := trace_raise.mp h₁
          cases e
          exact h₂
        · cases h
  | op o k ih =>
      rw [tryCatch_op, trace_op]
      constructor
      · rintro ⟨a, t', rfl, h⟩
        rcases (ih a).mp h with ⟨e, t₁, t₂, rfl, h₁, h₂⟩ | ⟨b, h', rfl⟩
        · exact .inl ⟨e, ⟨o, a⟩ :: t₁, t₂, rfl, .op h₁, h₂⟩
        · exact .inr ⟨b, .op h', rfl⟩
      · rintro (⟨e, t₁, t₂, rfl, h₁, h₂⟩ | ⟨b, h, rfl⟩)
        · obtain ⟨a, t', rfl, h'⟩ := trace_op.mp h₁
          exact ⟨a, t' ++ t₂, rfl, (ih a).mpr (.inl ⟨e, t', t₂, rfl, h', h₂⟩)⟩
        · obtain ⟨a, t', rfl, h'⟩ := trace_op.mp h
          exact ⟨a, t', rfl, (ih a).mpr (.inr ⟨b, h', rfl⟩)⟩

/-- A program cannot end at two different points of one list of performed
operations. -/
theorem Trace.unique {p : Prog Op Ans ε α} {t t' u u' : List (Performed Op Ans)}
    {r r' : Except ε α} (h : Trace p t r) (h' : Trace p t' r') (e : t ++ u = t' ++ u') :
    t = t' ∧ r = r' := by
  induction h generalizing t' with
  | ret a =>
      obtain ⟨rfl, rfl⟩ := trace_ret.mp h'
      exact ⟨rfl, rfl⟩
  | raise a =>
      obtain ⟨rfl, rfl⟩ := trace_raise.mp h'
      exact ⟨rfl, rfl⟩
  | op _ ih =>
      obtain ⟨a', t'', rfl, h''⟩ := trace_op.mp h'
      obtain ⟨ehead, etail⟩ := List.cons.inj e
      cases ehead
      obtain ⟨rfl, rfl⟩ := ih h'' etail
      exact ⟨rfl, rfl⟩

/-! ## The operations of a program -/

/-- Whatever the answers, the program performs only operations that satisfy `P`. -/
def Performs (P : Op → Prop) : Prog Op Ans ε α → Prop
  | ret _ | raise _ => True
  | op o k => P o ∧ ∀ a, Performs P (k a)

section Performs

variable {P : Op → Prop}

theorem performs_bind {p : Prog Op Ans ε α} {f : α → Prog Op Ans ε β} (hp : Performs P p)
    (hf : ∀ a, Performs P (f a)) : Performs P (p >>= f) := by
  induction p with
  | ret a => exact hf a
  | raise e => trivial
  | op o k ih => exact ⟨hp.1, fun a ↦ ih a (hp.2 a)⟩

theorem performs_tryCatch {p : Prog Op Ans ε α} {f : ε → Prog Op Ans ε α} (hp : Performs P p)
    (hf : ∀ e, Performs P (f e)) : Performs P (tryCatch p f) := by
  induction p with
  | ret a => trivial
  | raise e => exact hf e
  | op o k ih => exact ⟨hp.1, fun a ↦ ih a (hp.2 a)⟩

theorem Performs.mono {P' : Op → Prop} {p : Prog Op Ans ε α} (h : Performs P p)
    (hP : ∀ o, P o → P' o) : Performs P' p := by
  induction p with
  | ret a => trivial
  | raise e => trivial
  | op o k ih => exact ⟨hP o h.1, fun a ↦ ih a (h.2 a)⟩

theorem Performs.of_trace {p : Prog Op Ans ε α} (h : Performs P p)
    {t : List (Performed Op Ans)} {r : Except ε α} (ht : Trace p t r) : ∀ x ∈ t, P x.1 := by
  induction ht with
  | ret a => exact List.forall_mem_nil _
  | raise e => exact List.forall_mem_nil _
  | op _ ih => exact List.forall_mem_cons.mpr ⟨h.1, ih (h.2 _)⟩

end Performs

/-! ## The operations on good answers -/

/-- As long as the answers satisfy `A`, the program performs only operations that
satisfy `P`. -/
def PerformsGiven (A : Performed Op Ans → Prop) (P : Op → Prop) : Prog Op Ans ε α → Prop
  | ret _ | raise _ => True
  | op o k => P o ∧ ∀ a, A ⟨o, a⟩ → PerformsGiven A P (k a)

section PerformsGiven

variable {A : Performed Op Ans → Prop} {P : Op → Prop}

theorem Performs.given {p : Prog Op Ans ε α} (h : Performs P p) : PerformsGiven A P p := by
  induction p with
  | ret a => trivial
  | raise e => trivial
  | op o k ih => exact ⟨h.1, fun a _ ↦ ih a (h.2 a)⟩

theorem performsGiven_bind {p : Prog Op Ans ε α} {f : α → Prog Op Ans ε β}
    (hp : PerformsGiven A P p) (hf : ∀ a, PerformsGiven A P (f a)) :
    PerformsGiven A P (p >>= f) := by
  induction p with
  | ret a => exact hf a
  | raise e => trivial
  | op o k ih => exact ⟨hp.1, fun a ha ↦ ih a (hp.2 a ha)⟩

theorem PerformsGiven.mono {P' : Op → Prop} {p : Prog Op Ans ε α} (h : PerformsGiven A P p)
    (hP : ∀ o, P o → P' o) : PerformsGiven A P' p := by
  induction p with
  | ret a => trivial
  | raise e => trivial
  | op o k ih => exact ⟨hP o h.1, fun a ha ↦ ih a (h.2 a ha)⟩

end PerformsGiven

/-- As long as the answers satisfy `A`, the program performs only operations that satisfy
`P`, and ends in `post`. -/
def Keeps (A : Performed Op Ans → Prop) (P : Op → Prop) :
    Prog Op Ans ε α → (Except ε α → Prop) → Prop
  | ret a, post => post (.ok a)
  | raise e, post => post (.error e)
  | op o k, post => P o ∧ ∀ a, A ⟨o, a⟩ → Keeps A P (k a) post

section Keeps

variable {A : Performed Op Ans → Prop} {P : Op → Prop}

theorem Keeps.mono {p : Prog Op Ans ε α} {post post' : Except ε α → Prop}
    (h : Keeps A P p post) (hpost : ∀ r, post r → post' r) : Keeps A P p post' := by
  induction p with
  | ret a => exact hpost _ h
  | raise e => exact hpost _ h
  | op o k ih => exact ⟨h.1, fun a ha ↦ ih a (h.2 a ha)⟩

theorem Keeps.of_trace {p : Prog Op Ans ε α} {post : Except ε α → Prop} (h : Keeps A P p post)
    {t : List (Performed Op Ans)} {r : Except ε α} (ht : Trace p t r) (hgood : ∀ x ∈ t, A x) :
    (∀ x ∈ t, P x.1) ∧ post r := by
  induction ht with
  | ret a => exact ⟨List.forall_mem_nil _, h⟩
  | raise e => exact ⟨List.forall_mem_nil _, h⟩
  | op _ ih =>
      obtain ⟨ha, hrest⟩ := List.forall_mem_cons.mp hgood
      obtain ⟨hperforms, hpost⟩ := ih (h.2 _ ha) hrest
      exact ⟨List.forall_mem_cons.mpr ⟨h.1, hperforms⟩, hpost⟩

end Keeps

/-! ## Handlers -/

section Exec

variable {σ : Type u}

/-- Run a program against a handler that answers every operation from a state.
The result carries the trace, the ending and the final state. -/
def exec (h : σ → (o : Op) → Ans o × σ) :
    Prog Op Ans ε α → σ → List (Performed Op Ans) × Except ε α × σ
  | ret a, s => ([], .ok a, s)
  | raise e, s => ([], .error e, s)
  | op o k, s =>
      let answer := h s o
      let rest := exec h (k answer.1) answer.2
      (⟨o, answer.1⟩ :: rest.1, rest.2)

/-- What a handler makes a program do is one of its traces. -/
theorem exec_trace (h : σ → (o : Op) → Ans o × σ) (p : Prog Op Ans ε α) (s : σ) :
    Trace p (exec h p s).1 (exec h p s).2.1 := by
  induction p generalizing s with
  | ret a => exact .ret a
  | raise e => exact .raise e
  | op o k ih => exact .op (ih _ _)

/-- Running a sequence whose first part returns. -/
theorem exec_bind {h : σ → (o : Op) → Ans o × σ} {p : Prog Op Ans ε α}
    {f : α → Prog Op Ans ε β} {s : σ} {a : α} (ha : (exec h p s).2.1 = .ok a) :
    exec h (p >>= f) s =
      ((exec h p s).1 ++ (exec h (f a) (exec h p s).2.2).1,
        (exec h (f a) (exec h p s).2.2).2) := by
  induction p generalizing s with
  | ret b =>
      cases ha
      rfl
  | raise e => cases ha
  | op o k ih =>
      have hk := ih _ ha
      simp only [op_bind, exec, hk]
      rfl

/-- The same for a program that performs them on good answers only, if the answers are
good. -/
theorem exec_invariant_given {h : σ → (o : Op) → Ans o × σ} {A : Performed Op Ans → Prop}
    {P : Op → Prop} {I : σ → Prop}
    (hstep : ∀ s o, P o → I s → A ⟨o, (h s o).1⟩ ∧ I (h s o).2) {p : Prog Op Ans ε α}
    (hp : PerformsGiven A P p) {s : σ} (hs : I s) : I (exec h p s).2.2 := by
  induction p generalizing s with
  | ret a => exact hs
  | raise e => exact hs
  | op o k ih =>
      obtain ⟨hgood, hnext⟩ := hstep s o hp.1 hs
      exact ih _ (hp.2 _ hgood) hnext

/-- From states that the operations of a program cannot tell apart, the program does the
same and ends in such states. -/
theorem exec_agree {h : σ → (o : Op) → Ans o × σ} {A : Performed Op Ans → Prop}
    {P : Op → Prop} {R : σ → σ → Prop}
    (hstep : ∀ s s' o, P o → R s s' →
      A ⟨o, (h s' o).1⟩ ∧ (h s o).1 = (h s' o).1 ∧ R (h s o).2 (h s' o).2)
    {p : Prog Op Ans ε α} (hp : PerformsGiven A P p) {s s' : σ} (hs : R s s') :
    (exec h p s).1 = (exec h p s').1 ∧ (exec h p s).2.1 = (exec h p s').2.1 ∧
      R (exec h p s).2.2 (exec h p s').2.2 := by
  induction p generalizing s s' with
  | ret a => exact ⟨rfl, rfl, hs⟩
  | raise e => exact ⟨rfl, rfl, hs⟩
  | op o k ih =>
      obtain ⟨hgood, hanswer, hnext⟩ := hstep s s' o hp.1 hs
      simp only [exec]
      rw [hanswer]
      obtain ⟨htrace, hend, hstates⟩ := ih _ (hp.2 _ hgood) hnext
      exact ⟨congrArg _ htrace, hend, hstates⟩

end Exec

/-! ## Typestate protocols -/

/-- An automaton that watches the operations of a program: which operations are
allowed in a state, and the state after an operation was answered. -/
structure Protocol (Op : Type) (Ans : Op → Type) (τ : Type u) where
  /-- The operations allowed in a state. -/
  allows : τ → Op → Prop
  /-- The state after an operation and its answer. -/
  next : τ → (o : Op) → Ans o → τ

section Follows

variable {τ : Type u}

/-- From state `s` the program performs only allowed operations, whatever the
answers, and ends with the automaton and the result in `post`. -/
def Follows (P : Protocol Op Ans τ) : Prog Op Ans ε α → τ → (τ → Except ε α → Prop) → Prop
  | ret a, s, post => post s (.ok a)
  | raise e, s, post => post s (.error e)
  | op o k, s, post => P.allows s o ∧ ∀ a, Follows P (k a) (P.next s o a) post

variable {P : Protocol Op Ans τ}

@[simp] theorem follows_ret {a : α} {s : τ} {post : τ → Except ε α → Prop} :
    Follows P (ret a) s post ↔ post s (.ok a) := Iff.rfl

@[simp] theorem follows_raise {e : ε} {s : τ} {post : τ → Except ε α → Prop} :
    Follows P (raise e : Prog Op Ans ε α) s post ↔ post s (.error e) := Iff.rfl

@[simp] theorem follows_op {o : Op} {k : Ans o → Prog Op Ans ε α} {s : τ}
    {post : τ → Except ε α → Prop} :
    Follows P (op o k) s post ↔ P.allows s o ∧ ∀ a, Follows P (k a) (P.next s o a) post :=
  Iff.rfl

theorem Follows.mono {p : Prog Op Ans ε α} {s : τ} {post post' : τ → Except ε α → Prop}
    (h : Follows P p s post) (hpost : ∀ s r, post s r → post' s r) : Follows P p s post' := by
  induction p generalizing s with
  | ret a => exact hpost _ _ h
  | raise e => exact hpost _ _ h
  | op o k ih => exact ⟨h.1, fun a ↦ ih a (h.2 a)⟩

/-- Sequencing: the continuation starts where the first part left the automaton. -/
theorem follows_bind {p : Prog Op Ans ε α} {f : α → Prog Op Ans ε β} {s : τ}
    {post : τ → Except ε β → Prop} :
    Follows P (p >>= f) s post ↔
      Follows P p s fun s' r ↦
        match r with
        | .ok a => Follows P (f a) s' post
        | .error e => post s' (.error e) := by
  induction p generalizing s with
  | ret a => rfl
  | raise e => rfl
  | op o k ih => exact and_congr Iff.rfl (forall_congr' fun a ↦ ih a)

theorem follows_tryCatch {p : Prog Op Ans ε α} {f : ε → Prog Op Ans ε α} {s : τ}
    {post : τ → Except ε α → Prop} :
    Follows P (tryCatch p f) s post ↔
      Follows P p s fun s' r ↦
        match r with
        | .ok a => post s' (.ok a)
        | .error e => Follows P (f e) s' post := by
  induction p generalizing s with
  | ret a => rfl
  | raise e => rfl
  | op o k ih => exact and_congr Iff.rfl (forall_congr' fun a ↦ ih a)

/-- The automaton after a list of performed operations. -/
def Protocol.after (P : Protocol Op Ans τ) : τ → List (Performed Op Ans) → τ
  | s, [] => s
  | s, ⟨o, a⟩ :: t => P.after (P.next s o a) t

/-- Every operation in a trace of a program that follows the protocol is allowed
where it stands. -/
theorem Follows.allows {p : Prog Op Ans ε α} {s : τ} {post : τ → Except ε α → Prop}
    (h : Follows P p s post) {t : List (Performed Op Ans)} {r : Except ε α} (ht : Trace p t r)
    {pre suf : List (Performed Op Ans)} {o : Op} {a : Ans o} (e : t = pre ++ ⟨o, a⟩ :: suf) :
    P.allows (P.after s pre) o := by
  induction ht generalizing s pre with
  | ret b => cases pre <;> cases e
  | raise b => cases pre <;> cases e
  | op _ ih =>
      cases pre with
      | nil =>
          obtain ⟨e', -⟩ := List.cons.inj e
          cases e'
          exact h.1
      | cons x pre =>
          obtain ⟨rfl, e'⟩ := List.cons.inj e
          exact ih (h.2 _) e'

end Follows

end Prog

end Lib
