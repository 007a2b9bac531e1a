import EstateMesh.Lib.Prog

/-!
# Programs with operations left out

An `Eraser` names operations whose answers a program should not depend on.
`E.Erases p q` says that `q` is `p` without them: `p` goes on as `q` does after a
good answer to such an operation, and raises a stray exception after any other.
`Erases.exec_eq` compares the runs of the two in the same environment, where an
oracle answers the operations that `q` lacks: they are the same when all its answers
are good, and `Erases.good_of_exec_eq` says that they are not the same otherwise.
-/

universe u

namespace Lib.Prog

variable {Op : Type} {Ans : Op → Type} {ε α β : Type}

/-- Operations to leave out, the answers to them that should make no difference, and
the exceptions that the other answers cause. -/
structure Eraser (Op : Type) (Ans : Op → Type) (ε : Type) where
  gone : Op → Bool
  good : Performed Op Ans → Prop
  stray : ε → Prop

namespace Eraser

variable (E : Eraser Op Ans ε)

/-- A program that does not end in a stray exception before it has done anything. -/
def Steady (q : Prog Op Ans ε α) : Prop := ∀ e, E.stray e → q ≠ raise e

/-- The second program is the first one without some operations. -/
inductive Erases : Prog Op Ans ε α → Prog Op Ans ε α → Prop
  | ret (a : α) : Erases (ret a) (ret a)
  | raise (e : ε) : Erases (raise e) (raise e)
  | kept {o : Op} {k k' : Ans o → Prog Op Ans ε α} (ho : E.gone o = false)
      (hk : ∀ a, Erases (k a) (k' a)) : Erases (op o k) (op o k')
  | gone {o : Op} {k : Ans o → Prog Op Ans ε α} {q : Prog Op Ans ε α} (ho : E.gone o = true)
      (hgood : ∀ a, E.good ⟨o, a⟩ → Erases (k a) q)
      (hstray : ∀ a, ¬ E.good ⟨o, a⟩ → ∃ e, E.stray e ∧ k a = Prog.raise e)
      (hsteady : E.Steady q) : Erases (op o k) q

variable {E}

@[simp] theorem steady_ret (a : α) : E.Steady (ret a : Prog Op Ans ε α) := nofun

@[simp] theorem steady_op {o : Op} (k : Ans o → Prog Op Ans ε α) : E.Steady (op o k) := nofun

theorem steady_raise {e : ε} (h : ¬ E.stray e) : E.Steady (raise e : Prog Op Ans ε α) := by
  rintro e' hstray ⟨⟩
  exact h hstray

theorem Steady.bind {q : Prog Op Ans ε α} {f : α → Prog Op Ans ε β} (hq : E.Steady q)
    (hf : ∀ a, E.Steady (f a)) : E.Steady (q >>= f) := by
  cases q with
  | ret a => exact hf a
  | raise e => exact steady_raise fun hstray ↦ hq e hstray rfl
  | op o k => exact steady_op _

/-! ## Rules -/

/-- A program is itself without operations that it does not perform. -/
theorem erases_self {p : Prog Op Ans ε α} (h : Performs (fun o ↦ E.gone o = false) p) :
    E.Erases p p := by
  induction p with
  | ret a => exact .ret a
  | raise e => exact .raise e
  | op o k ih => exact .kept h.1 fun a ↦ ih a (h.2 a)

theorem Erases.bind {p q : Prog Op Ans ε α} {f g : α → Prog Op Ans ε β} (h : E.Erases p q)
    (hf : ∀ a, E.Erases (f a) (g a)) (hsteady : ∀ a, E.Steady (g a)) :
    E.Erases (p >>= f) (q >>= g) := by
  induction h with
  | ret a => exact hf a
  | raise e => exact .raise e
  | kept ho _ ih => exact .kept ho fun a ↦ ih a
  | gone ho _ hstray hq ih =>
      refine .gone ho (fun a ha ↦ ih a ha) (fun a ha ↦ ?_) (hq.bind hsteady)
      obtain ⟨e, he, hk⟩ := hstray a ha
      exact ⟨e, he, by rw [hk]; rfl⟩

/-- A handler that lets stray exceptions pass. -/
theorem Erases.tryCatch {p q : Prog Op Ans ε α} {f : ε → Prog Op Ans ε α} (h : E.Erases p q)
    (hf : ∀ e, E.Erases (f e) (f e)) (hpass : ∀ e, E.stray e → f e = Prog.raise e)
    (hsteady : ∀ e, ¬ E.stray e → E.Steady (f e)) :
    E.Erases (tryCatch p f) (tryCatch q f) := by
  induction h with
  | ret a => exact .ret a
  | raise e => exact hf e
  | kept ho _ ih => exact .kept ho fun a ↦ ih a
  | @gone o k q ho _ hstray hq ih =>
      refine .gone ho (fun a ha ↦ ih a ha) (fun a ha ↦ ?_) ?_
      · obtain ⟨e, he, hk⟩ := hstray a ha
        exact ⟨e, he, by rw [hk]; exact hpass e he⟩
      · cases q with
        | ret a => exact steady_ret a
        | raise e => exact hsteady e fun he ↦ hq e he rfl
        | op o k => exact steady_op _

/-! ## Runs -/

section Exec

variable {σ : Type u} (E) (oracle : ℕ → (o : Op) → Ans o) (h : σ → (o : Op) → Ans o × σ)

/-- An environment in which an oracle answers the operations that are left out. -/
def besides (s : ℕ × σ) (o : Op) : Ans o × (ℕ × σ) :=
  if E.gone o then (oracle s.1 o, (s.1 + 1, s.2)) else ((h s.2 o).1, (s.1, (h s.2 o).2))

variable {E oracle h}

theorem besides_gone {o : Op} (ho : E.gone o = true) (n : ℕ) (s : σ) :
    E.besides oracle h (n, s) o = (oracle n o, (n + 1, s)) := by
  rw [besides, ho]
  rfl

theorem besides_kept {o : Op} (ho : E.gone o = false) (n : ℕ) (s : σ) :
    E.besides oracle h (n, s) o = ((h s o).1, (n, (h s o).2)) := by
  rw [besides, ho]
  rfl

/-- Both programs do the same as long as the answers of the oracle are good. -/
theorem Erases.exec_eq {p q : Prog Op Ans ε α} (hpq : E.Erases p q) {n : ℕ} {s : σ}
    (hgood : ∀ x ∈ (exec (E.besides oracle h) p (n, s)).1, E.gone x.1 = true → E.good x) :
    ((exec (E.besides oracle h) p (n, s)).1.filter fun x ↦ !E.gone x.1) = (exec h q s).1 ∧
      (exec (E.besides oracle h) p (n, s)).2.1 = (exec h q s).2.1 ∧
      (exec (E.besides oracle h) p (n, s)).2.2.2 = (exec h q s).2.2 := by
  induction hpq generalizing n s with
  | ret a => exact ⟨rfl, rfl, rfl⟩
  | raise e => exact ⟨rfl, rfl, rfl⟩
  | kept ho _ ih =>
      simp only [exec, besides_kept ho] at hgood ⊢
      obtain ⟨htrace, hend⟩ := ih _ (List.forall_mem_cons.mp hgood).2
      rw [List.filter_cons_of_pos (by simp [ho]), htrace]
      exact ⟨rfl, hend⟩
  | gone ho _ _ _ ih =>
      simp only [exec, besides_gone ho] at hgood ⊢
      obtain ⟨hfirst, hrest⟩ := List.forall_mem_cons.mp hgood
      rw [List.filter_cons_of_neg (by simp [ho])]
      exact ih _ (hfirst ho) hrest

/-- They do not otherwise: the program that is left does not end where the other one
raises. -/
theorem Erases.good_of_exec_eq {p q : Prog Op Ans ε α} (hpq : E.Erases p q) {n : ℕ} {s : σ}
    (htrace : ((exec (E.besides oracle h) p (n, s)).1.filter fun x ↦ !E.gone x.1) =
      (exec h q s).1)
    (hend : (exec (E.besides oracle h) p (n, s)).2.1 = (exec h q s).2.1) :
    ∀ x ∈ (exec (E.besides oracle h) p (n, s)).1, E.gone x.1 = true → E.good x := by
  induction hpq generalizing n s with
  | ret a => exact List.forall_mem_nil _
  | raise e => exact List.forall_mem_nil _
  | kept ho _ ih =>
      simp only [exec, besides_kept ho] at htrace hend ⊢
      rw [List.filter_cons_of_pos (by simp [ho])] at htrace
      have hrest := ih _ (List.cons.inj htrace).2 hend
      exact List.forall_mem_cons.mpr ⟨fun h ↦ absurd (ho.symm.trans h) Bool.false_ne_true, hrest⟩
  | @gone o k q ho _ hstray hsteady ih =>
      simp only [exec, besides_gone ho] at htrace hend ⊢
      rw [List.filter_cons_of_neg (by simp [ho])] at htrace
      by_cases hgood : E.good ⟨o, oracle n o⟩
      · exact List.forall_mem_cons.mpr ⟨fun _ ↦ hgood, ih _ hgood htrace hend⟩
      · obtain ⟨e, he, hk⟩ := hstray _ hgood
        have ht := exec_trace h q s
        rw [← htrace, ← hend, hk] at ht
        cases ht
        exact absurd rfl (hsteady e he)

end Exec

end Eraser

end Lib.Prog
