import EstateMesh.Lib.Prog

/-!
# Monitors

A monitor watches the operations of a program and expects something of their answers.
`Ends M p s post` says that `p`, watched from state `s`, ends with the monitor and its
result in `post` as long as the answers are as expected.  It is the weakest precondition
for a program in an environment that keeps its side of a contract; unlike `Follows` it
allows every operation and assumes something of the answers.
-/

universe u

namespace Lib

namespace Prog

variable {Op : Type} {Ans : Op → Type} {ε α β : Type} {τ : Type u}

/-- An automaton that watches the operations of a program. -/
structure Monitor (Op : Type) (Ans : Op → Type) (τ : Type u) where
  /-- What is expected of an operation and its answer in a state. -/
  expects : τ → Performed Op Ans → Prop
  /-- The state after an operation and its answer. -/
  next : τ → Performed Op Ans → τ

namespace Monitor

variable {M : Monitor Op Ans τ}

/-- As long as the answers are as expected, the program ends with the monitor and the
result in `post`. -/
def Ends (M : Monitor Op Ans τ) : Prog Op Ans ε α → τ → (τ → Except ε α → Prop) → Prop
  | ret a, s, post => post s (.ok a)
  | raise e, s, post => post s (.error e)
  | op o k, s, post => ∀ a, M.expects s ⟨o, a⟩ → Ends M (k a) (M.next s ⟨o, a⟩) post

/-- The monitor after some operations. -/
def after (M : Monitor Op Ans τ) (s : τ) (t : List (Performed Op Ans)) : τ := t.foldl M.next s

/-- Every operation and its answer are as expected where they stand. -/
def Meets (M : Monitor Op Ans τ) : τ → List (Performed Op Ans) → Prop
  | _, [] => True
  | s, x :: t => M.expects s x ∧ Meets M (M.next s x) t

theorem Ends.mono {p : Prog Op Ans ε α} {s : τ} {post post' : τ → Except ε α → Prop}
    (h : Ends M p s post) (hpost : ∀ s r, post s r → post' s r) : Ends M p s post' := by
  induction p generalizing s with
  | ret a => exact hpost _ _ h
  | raise e => exact hpost _ _ h
  | op o k ih => exact fun a ha ↦ ih a (h a ha)

/-- Sequencing: the continuation starts where the first part left the monitor. -/
theorem ends_bind {p : Prog Op Ans ε α} {f : α → Prog Op Ans ε β} {s : τ}
    {post : τ → Except ε β → Prop} :
    Ends M (p >>= f) s post ↔
      Ends M p s fun s' r ↦
        match r with
        | .ok a => Ends M (f a) s' post
        | .error e => post s' (.error e) := by
  induction p generalizing s with
  | ret a => rfl
  | raise e => rfl
  | op o k ih => exact forall₂_congr fun a _ ↦ ih a

/-- A handler starts where the exception left the monitor. -/
theorem ends_tryCatch {p : Prog Op Ans ε α} {f : ε → Prog Op Ans ε α} {s : τ}
    {post : τ → Except ε α → Prop} :
    Ends M (tryCatch p f) s post ↔
      Ends M p s fun s' r ↦
        match r with
        | .ok a => post s' (.ok a)
        | .error e => Ends M (f e) s' post := by
  induction p generalizing s with
  | ret a => rfl
  | raise e => rfl
  | op o k ih => exact forall₂_congr fun a _ ↦ ih a

/-- What the operations of a program keep holds at its end. -/
theorem ends_of_performs {P : Op → Prop} {I : τ → Prop}
    (hstep : ∀ s o a, P o → I s → I (M.next s ⟨o, a⟩)) {p : Prog Op Ans ε α}
    (hp : Performs P p) {s : τ} (hs : I s) : Ends M p s fun s' _ ↦ I s' := by
  induction p generalizing s with
  | ret a => exact hs
  | raise e => exact hs
  | op o k ih => exact fun a _ ↦ ih a (hp.2 a) (hstep s o a hp.1 hs)

/-- A trace that is as expected ends where the program ends. -/
theorem Ends.of_trace {p : Prog Op Ans ε α} {s : τ} {post : τ → Except ε α → Prop}
    (h : Ends M p s post) {t : List (Performed Op Ans)} {r : Except ε α} (ht : Trace p t r)
    (hmeets : M.Meets s t) : post (M.after s t) r := by
  induction ht generalizing s with
  | ret a => exact h
  | raise e => exact h
  | op _ ih => exact ih (h _ hmeets.1) hmeets.2

end Monitor

end Prog

end Lib
