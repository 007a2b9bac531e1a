import EstateMesh.Lib.Machine
import EstateMesh.Lib.Prog
import Mathlib.Logic.Function.Basic

/-!
# Cooperative tasks on one event loop

Several tasks, each running a `Prog`, share a state.  Only one task runs at a
time, and it runs without interruption from one *awaited* operation to the next:
the operations in between are atomic with respect to all other tasks.  When the
running task reaches an awaited operation it issues it and gives up the loop;
some later step delivers the answer and resumes it.  While the loop is idle the
environment may also act on the shared state directly.

The loop is a `Machine`: its labels say which task is started, which answer
arrives, and what the environment answers to each operation, so the runs of the
machine are all the interleavings.  Every step is recorded in `history` together
with the shared state it started from, which makes properties of runs properties
of states.

`Invariant.step` is the proof rule.  It reasons about the shared state and the
*running* task only; the suspended tasks enter through the typestate protocols
that their programs follow.
-/

namespace Lib.EventLoop

/-- How operations meet the shared state: which of them suspend the task, and
how each is answered, given a reading of the environment. -/
structure Runtime (Op : Type) (Ans : Op → Type) (σ η : Type) where
  /-- Whether the operation suspends the task until an answer is delivered. -/
  awaits : Op → Bool
  /-- Answer an operation and update the shared state. -/
  perform : η → σ → (o : Op) → Ans o × σ

/-- One observable step of the loop. -/
inductive Obs (γ ξ Op : Type) (Ans : Op → Type)
  | /-- A task was started for a call. -/ spawned (i : ℕ) (c : γ)
  | /-- The running task performed an operation without suspending. -/
    did (i : ℕ) (p : Prog.Performed Op Ans)
  | /-- The running task issued an awaited operation and was suspended. -/
    issued (i : ℕ) (o : Op)
  | /-- An awaited operation was answered and its task resumed. -/
    answered (i : ℕ) (p : Prog.Performed Op Ans)
  | /-- The running task ended. -/ ended (i : ℕ)
  | /-- The environment acted on the shared state. -/ acted (x : ξ)

/-- A recorded step: the shared state it started from, and what happened. -/
structure Entry (σ γ ξ Op : Type) (Ans : Op → Type) where
  /-- The shared state before the step. -/
  before : σ
  /-- What happened. -/
  obs : Obs γ ξ Op Ans

/-- The labels of the loop machine. -/
inductive Label (γ ξ η : Type)
  | /-- Start a task for a call. -/ spawn (c : γ)
  | /-- Let the running task take its next step. -/ step (e : η)
  | /-- Deliver the answer that the task awaits. -/ deliver (i : ℕ) (e : η)
  | /-- Let the environment act. -/ act (x : ξ)

/-- The state of the event loop. -/
structure Loop (σ γ ξ Op : Type) (Ans : Op → Type) (ε α : Type) where
  /-- The state the tasks share. -/
  shared : σ
  /-- The tasks started so far: the call each serves and what is left of its program. -/
  tasks : ℕ → Option (γ × Prog Op Ans ε α)
  /-- The number of tasks started so far. -/
  next : ℕ
  /-- The task that holds the loop, if any. -/
  current : Option ℕ
  /-- The steps taken so far, oldest first. -/
  history : List (Entry σ γ ξ Op Ans)

variable {σ γ ξ η Op : Type} {Ans : Op → Type} {ε α : Type}

/-- The loop before any task was started. -/
def Loop.init (s : σ) : Loop σ γ ξ Op Ans ε α := ⟨s, fun _ ↦ none, 0, none, []⟩

/-- Record a step that starts from the present shared state. -/
def Loop.record (L : Loop σ γ ξ Op Ans ε α) (o : Obs γ ξ Op Ans) :
    List (Entry σ γ ξ Op Ans) := L.history ++ [⟨L.shared, o⟩]

variable (R : Runtime Op Ans σ η) (program : γ → Prog Op Ans ε α) (effect : ξ → σ → σ)

/-- The loop machine. -/
def step : Machine (Loop σ γ ξ Op Ans ε α) (Label γ ξ η)
  | L, .spawn c =>
      match L.current with
      | some _ => none
      | none => some
          { L with
            tasks := Function.update L.tasks L.next (some (c, program c))
            next := L.next + 1
            current := some L.next
            history := L.record (.spawned L.next c) }
  | L, .step e =>
      match L.current with
      | none => none
      | some i =>
          match L.tasks i with
          | none => none
          | some (_, .ret _) => some { L with current := none, history := L.record (.ended i) }
          | some (_, .raise _) => some { L with current := none, history := L.record (.ended i) }
          | some (c, .op o k) =>
              if R.awaits o then
                some { L with current := none, history := L.record (.issued i o) }
              else
                let answer := R.perform e L.shared o
                some
                  { L with
                    shared := answer.2
                    tasks := Function.update L.tasks i (some (c, k answer.1))
                    history := L.record (.did i ⟨o, answer.1⟩) }
  | L, .deliver i e =>
      match L.current with
      | some _ => none
      | none =>
          match L.tasks i with
          | some (c, .op o k) =>
              if R.awaits o then
                let answer := R.perform e L.shared o
                some
                  { L with
                    shared := answer.2
                    tasks := Function.update L.tasks i (some (c, k answer.1))
                    current := some i
                    history := L.record (.answered i ⟨o, answer.1⟩) }
              else none
          | _ => none
  | L, .act x =>
      match L.current with
      | some _ => none
      | none => some
          { L with shared := effect x L.shared, history := L.record (.acted x) }

variable {R program effect}

/-! ## What a step can do -/

theorem step_spawn {L L' : Loop σ γ ξ Op Ans ε α} {c : γ}
    (h : step R program effect L (.spawn c : Label γ ξ η) = some L') :
    L.current = none ∧ L' =
      { L with
        tasks := Function.update L.tasks L.next (some (c, program c))
        next := L.next + 1
        current := some L.next
        history := L.record (.spawned L.next c) } := by
  cases hc : L.current with
  | some i => simp [step, hc] at h
  | none => exact ⟨rfl, by simpa [step, hc] using h.symm⟩

theorem step_act {L L' : Loop σ γ ξ Op Ans ε α} {x : ξ}
    (h : step R program effect L (.act x : Label γ ξ η) = some L') :
    L.current = none ∧
      L' = { L with shared := effect x L.shared, history := L.record (.acted x) } := by
  cases hc : L.current with
  | some i => simp [step, hc] at h
  | none => exact ⟨rfl, by simpa [step, hc] using h.symm⟩

theorem step_deliver {L L' : Loop σ γ ξ Op Ans ε α} {i : ℕ} {e : η}
    (h : step R program effect L (.deliver i e : Label γ ξ η) = some L') :
    L.current = none ∧ ∃ c o k, L.tasks i = some (c, .op o k) ∧ R.awaits o = true ∧ L' =
      { L with
        shared := (R.perform e L.shared o).2
        tasks := Function.update L.tasks i (some (c, k (R.perform e L.shared o).1))
        current := some i
        history := L.record (.answered i ⟨o, (R.perform e L.shared o).1⟩) } := by
  cases hc : L.current with
  | some j => simp [step, hc] at h
  | none =>
      refine ⟨rfl, ?_⟩
      simp only [step, hc] at h
      split at h
      · rename_i c o k ht
        split at h
        · rename_i ho
          exact ⟨c, o, k, ht, ho, (Option.some.inj h).symm⟩
        · cases h
      · cases h

/-- A step of the running task ends it, issues an awaited operation, or performs
one that does not suspend. -/
theorem step_step {L L' : Loop σ γ ξ Op Ans ε α} {e : η}
    (h : step R program effect L (.step e : Label γ ξ η) = some L') :
    ∃ i c p, L.current = some i ∧ L.tasks i = some (c, p) ∧
      (((∀ o k, p ≠ .op o k) ∧
          L' = { L with current := none, history := L.record (.ended i) }) ∨
        ∃ o k, p = .op o k ∧
          ((R.awaits o = true ∧
              L' = { L with current := none, history := L.record (.issued i o) }) ∨
            (R.awaits o = false ∧ L' =
              { L with
                shared := (R.perform e L.shared o).2
                tasks := Function.update L.tasks i (some (c, k (R.perform e L.shared o).1))
                history := L.record (.did i ⟨o, (R.perform e L.shared o).1⟩) }))) := by
  cases hc : L.current with
  | none => simp [step, hc] at h
  | some i =>
      cases ht : L.tasks i with
      | none => simp [step, hc, ht] at h
      | some cp =>
          obtain ⟨c, p⟩ := cp
          refine ⟨i, c, p, rfl, ht, ?_⟩
          cases p with
          | ret a =>
              refine .inl ⟨fun _ _ e ↦ (by cases e), ?_⟩
              simpa [step, hc, ht] using h.symm
          | raise a =>
              refine .inl ⟨fun _ _ e ↦ (by cases e), ?_⟩
              simpa [step, hc, ht] using h.symm
          | op o k =>
              refine .inr ⟨o, k, rfl, ?_⟩
              simp only [step, hc, ht] at h
              split at h
              · rename_i ho
                exact .inl ⟨ho, by simpa [hc] using h.symm⟩
              · rename_i ho
                exact .inr ⟨by simpa using ho, by simpa [hc] using h.symm⟩

/-! ## The invariant rule -/

section Invariant

variable {τ : Type} (P : γ → Prog.Protocol Op Ans τ) (start : γ → τ)

/-- The running task, with its call and the state of the protocol it follows. -/
abbrev Running (γ τ : Type) := Option (ℕ × γ × τ)

/-- Every task follows the protocol of its call, from the state that `st` assigns
to it. -/
def Follow (tasks : ℕ → Option (γ × Prog Op Ans ε α)) (st : ℕ → τ) : Prop :=
  ∀ i c p, tasks i = some (c, p) → Prog.Follows (P c) p (st i) fun _ _ ↦ True

/-- The running task of a loop under an assignment of protocol states. -/
def running (L : Loop σ γ ξ Op Ans ε α) (st : ℕ → τ) : Running γ τ :=
  L.current.bind fun i ↦ (L.tasks i).map fun cp ↦ (i, cp.1, st i)

/-- `J` holds of the shared state, the history and the running task, for some
protocol states that all tasks follow. -/
def Invariant (J : σ → List (Entry σ γ ξ Op Ans) → Running γ τ → Prop)
    (L : Loop σ γ ξ Op Ans ε α) : Prop :=
  ∃ st, Follow P L.tasks st ∧ J L.shared L.history (running L st)

variable {P start} {J : σ → List (Entry σ γ ξ Op Ans) → Running γ τ → Prop}

theorem Invariant.init {s : σ} (t₀ : τ) (h : J s [] none) :
    Invariant P J (Loop.init s : Loop σ γ ξ Op Ans ε α) :=
  ⟨fun _ ↦ t₀, (by intro i c p hi; cases hi), h⟩

/-- Replacing one task by a program that follows the protocol from a new state. -/
theorem Follow.update {tasks : ℕ → Option (γ × Prog Op Ans ε α)} {st : ℕ → τ}
    (h : Follow P tasks st) (i : ℕ) (c : γ) {p : Prog Op Ans ε α} {t : τ}
    (hp : Prog.Follows (P c) p t fun _ _ ↦ True) :
    Follow P (Function.update tasks i (some (c, p))) (Function.update st i t) := by
  intro j c' p' hj
  by_cases e : j = i
  · subst e
    simp only [Function.update_self, Option.some.injEq, Prod.mk.injEq] at hj ⊢
    obtain ⟨rfl, rfl⟩ := hj
    exact hp
  · simp only [Function.update_of_ne e] at hj ⊢
    exact h j c' p' hj

/-- What has to be proved of `J` for each kind of step, under a side condition
`C` on the steps considered.  Each clause sees the shared state, the history and
the protocol state of the running task; `deliver` resumes a task whose protocol
state is only known to allow the operation it awaited. -/
structure Preserved (R : Runtime Op Ans σ η) (effect : ξ → σ → σ)
    (P : γ → Prog.Protocol Op Ans τ) (start : γ → τ)
    (J : σ → List (Entry σ γ ξ Op Ans) → Running γ τ → Prop)
    (C : Loop σ γ ξ Op Ans ε α → Label γ ξ η → Prop) : Prop where
  /-- Starting a task. -/
  spawn : ∀ (L : Loop σ γ ξ Op Ans ε α) (c : γ), C L (.spawn c) →
    J L.shared L.history none →
    J L.shared (L.record (.spawned L.next c)) (some (L.next, c, start c))
  /-- The end of the running task. -/
  ended : ∀ (L : Loop σ γ ξ Op Ans ε α) (i : ℕ) (c : γ) (t : τ),
    J L.shared L.history (some (i, c, t)) → J L.shared (L.record (.ended i)) none
  /-- Issuing an awaited operation. -/
  issue : ∀ (L : Loop σ γ ξ Op Ans ε α) (e : η) (i : ℕ) (c : γ) (t : τ) (o : Op)
    (k : Ans o → Prog Op Ans ε α), L.current = some i → L.tasks i = some (c, .op o k) →
    C L (.step e) → R.awaits o = true → (P c).allows t o →
    J L.shared L.history (some (i, c, t)) → J L.shared (L.record (.issued i o)) none
  /-- Performing an operation that does not suspend. -/
  perform : ∀ (L : Loop σ γ ξ Op Ans ε α) (e : η) (i : ℕ) (c : γ) (t : τ) (o : Op)
    (k : Ans o → Prog Op Ans ε α), L.current = some i → L.tasks i = some (c, .op o k) →
    C L (.step e) → R.awaits o = false → (P c).allows t o →
    J L.shared L.history (some (i, c, t)) →
    J (R.perform e L.shared o).2 (L.record (.did i ⟨o, (R.perform e L.shared o).1⟩))
      (some (i, c, (P c).next t o (R.perform e L.shared o).1))
  /-- Delivering an answer. -/
  deliver : ∀ (L : Loop σ γ ξ Op Ans ε α) (e : η) (i : ℕ) (c : γ) (t : τ) (o : Op)
    (k : Ans o → Prog Op Ans ε α), L.tasks i = some (c, .op o k) →
    C L (.deliver i e) → R.awaits o = true → (P c).allows t o → J L.shared L.history none →
    J (R.perform e L.shared o).2 (L.record (.answered i ⟨o, (R.perform e L.shared o).1⟩))
      (some (i, c, (P c).next t o (R.perform e L.shared o).1))
  /-- An action of the environment. -/
  act : ∀ (L : Loop σ γ ξ Op Ans ε α) (x : ξ), C L (.act x) →
    J L.shared L.history none → J (effect x L.shared) (L.record (.acted x)) none

/-- The invariant rule for the event loop. -/
theorem Invariant.step {C : Loop σ γ ξ Op Ans ε α → Label γ ξ η → Prop}
    (hprog : ∀ c, Prog.Follows (P c) (program c) (start c) fun _ _ ↦ True)
    (hJ : Preserved R effect P start J C)
    {L L' : Loop σ γ ξ Op Ans ε α} {l : Label γ ξ η} (hL : Invariant P J L) (hC : C L l)
    (h : EventLoop.step R program effect L l = some L') : Invariant P J L' := by
  obtain ⟨st, hst, hj⟩ := hL
  cases l with
  | spawn c =>
      obtain ⟨hc, rfl⟩ := step_spawn h
      have hidle : J L.shared L.history none := by simpa [running, hc] using hj
      refine ⟨_, hst.update L.next c (hprog c), ?_⟩
      simpa [running] using hJ.spawn L c hC hidle
  | act x =>
      obtain ⟨hc, rfl⟩ := step_act h
      have hidle : J L.shared L.history none := by simpa [running, hc] using hj
      exact ⟨st, hst, by simpa [running, hc] using hJ.act L x hC hidle⟩
  | deliver i e =>
      obtain ⟨hc, c, o, k, ht, ho, rfl⟩ := step_deliver h
      have hidle : J L.shared L.history none := by simpa [running, hc] using hj
      obtain ⟨hallow, hk⟩ := hst i c _ ht
      refine ⟨_, hst.update i c (hk _), ?_⟩
      simpa [running] using hJ.deliver L e i c (st i) o k ht hC ho hallow hidle
  | step e =>
      obtain ⟨i, c, p, hc, ht, hcase⟩ := step_step h
      have hrun : J L.shared L.history (some (i, c, st i)) := by
        simpa [running, hc, ht] using hj
      rcases hcase with ⟨-, rfl⟩ | ⟨o, k, rfl, ⟨ho, rfl⟩ | ⟨ho, rfl⟩⟩
      · exact ⟨st, hst, hJ.ended L i c (st i) hrun⟩
      · exact ⟨st, hst, hJ.issue L e i c (st i) o k hc ht hC ho (hst i c _ ht).1 hrun⟩
      · obtain ⟨hallow, hk⟩ := hst i c _ ht
        refine ⟨_, hst.update i c (hk _), ?_⟩
        simpa [running, hc] using hJ.perform L e i c (st i) o k hc ht hC ho hallow hrun

end Invariant

end Lib.EventLoop
