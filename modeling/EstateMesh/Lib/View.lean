import EstateMesh.Lib.Prog

/-!
# What a program is seen to do

A `View` looks at the operations of a program through marks, and says which
answers the program is prepared to handle.  `V.Explains p good` specifies `p`
through the view: a trace all of whose answers are handled shows marks and a
result that satisfy `good`, and any other trace ends in a stray exception.  The
two cases exclude each other as soon as `good` excludes stray exceptions, so an
`Explains` is also an exact account of when `good` holds.

The rules follow the structure of programs, as those of a Hoare logic do.
-/

namespace Lib.Prog

variable {Op : Type} {Ans : Op → Type} {ε μ : Type}

/-- A way of looking at programs. -/
structure View (Op : Type) (Ans : Op → Type) (ε μ : Type) where
  /-- What is seen of an operation and its answer. -/
  mark : Performed Op Ans → Option μ
  /-- The answers that programs handle. -/
  handled : Performed Op Ans → Prop
  /-- The exceptions that an answer which is not handled causes. -/
  stray : ε → Prop

namespace View

variable {α β : Type} (V : View Op Ans ε μ)

/-- What is seen of a trace. -/
def marks (t : List (Performed Op Ans)) : List μ := t.filterMap V.mark

/-- Every answer of the trace is handled. -/
def Handled (t : List (Performed Op Ans)) : Prop := ∀ x ∈ t, V.handled x

/-- The program ends in a stray exception. -/
def Strays (p : Prog Op Ans ε α) : Prop := ∀ t r, Trace p t r → ∃ e, r = .error e ∧ V.stray e

/-- Handled traces show marks and a result that satisfy `good`; the other traces
end in a stray exception. -/
def Explains (p : Prog Op Ans ε α) (good : List μ → Except ε α → Prop) : Prop :=
  ∀ t r, Trace p t r →
    V.Handled t ∧ good (V.marks t) r ∨ ¬ V.Handled t ∧ ∃ e, r = .error e ∧ V.stray e

variable {V}

theorem handled_append {t t' : List (Performed Op Ans)} :
    V.Handled (t ++ t') ↔ V.Handled t ∧ V.Handled t' := List.forall_mem_append

theorem marks_append (t t' : List (Performed Op Ans)) :
    V.marks (t ++ t') = V.marks t ++ V.marks t' := List.filterMap_append

theorem marks_cons (x : Performed Op Ans) (t : List (Performed Op Ans)) :
    V.marks (x :: t) = (V.mark x).toList ++ V.marks t := by
  unfold marks
  cases hx : V.mark x with
  | none => rw [List.filterMap_cons_none hx]; rfl
  | some m => rw [List.filterMap_cons_some hx]; rfl

theorem Explains.mono {p : Prog Op Ans ε α} {good good' : List μ → Except ε α → Prop}
    (h : V.Explains p good) (hgood : ∀ m r, good m r → good' m r) : V.Explains p good' := by
  intro t r ht
  exact (h t r ht).imp_left fun h' ↦ ⟨h'.1, hgood _ _ h'.2⟩

theorem explains_ret {a : α} {good : List μ → Except ε α → Prop} (h : good [] (.ok a)) :
    V.Explains (ret a) good := by
  intro t r ht
  obtain ⟨rfl, rfl⟩ := trace_ret.mp ht
  exact .inl ⟨nofun, h⟩

theorem explains_raise {e : ε} {good : List μ → Except ε α → Prop} (h : good [] (.error e)) :
    V.Explains (raise e) good := by
  intro t r ht
  obtain ⟨rfl, rfl⟩ := trace_raise.mp ht
  exact .inl ⟨nofun, h⟩

theorem explains_op {o : Op} {k : Ans o → Prog Op Ans ε α} {good : List μ → Except ε α → Prop}
    (hk : ∀ a, V.handled ⟨o, a⟩ →
      V.Explains (k a) fun m r ↦ good ((V.mark ⟨o, a⟩).toList ++ m) r)
    (hstray : ∀ a, ¬ V.handled ⟨o, a⟩ → V.Strays (k a)) : V.Explains (op o k) good := by
  intro t r ht
  obtain ⟨a, t', rfl, ht'⟩ := trace_op.mp ht
  by_cases ha : V.handled ⟨o, a⟩
  · rw [marks_cons]
    refine (hk a ha t' r ht').imp (fun h ↦ ⟨?_, h.2⟩) (fun h ↦ ⟨?_, h.2⟩)
    · exact List.forall_mem_cons.mpr ⟨ha, h.1⟩
    · exact fun hall ↦ h.1 (List.forall_mem_cons.mp hall).2
  · exact .inr ⟨fun hall ↦ ha (List.forall_mem_cons.mp hall).1, hstray a ha t' r ht'⟩

theorem explains_bind {p : Prog Op Ans ε α} {f : α → Prog Op Ans ε β}
    {mid : List μ → Except ε α → Prop} {good : List μ → Except ε β → Prop}
    (hp : V.Explains p mid)
    (hok : ∀ m a, mid m (.ok a) → V.Explains (f a) fun m' r ↦ good (m ++ m') r)
    (herror : ∀ m e, mid m (.error e) → good m (.error e)) : V.Explains (p >>= f) good := by
  intro t r ht
  rcases trace_bind.mp ht with ⟨a, t₁, t₂, rfl, h₁, h₂⟩ | ⟨e, h, rfl⟩
  · rcases hp t₁ _ h₁ with ⟨hh, hmid⟩ | ⟨-, e, he, -⟩
    · rw [marks_append, handled_append]
      refine (hok _ a hmid t₂ r h₂).imp (fun h ↦ ⟨⟨hh, h.1⟩, h.2⟩) (fun h ↦ ⟨?_, h.2⟩)
      exact fun hall ↦ h.1 hall.2
    · cases he
  · refine (hp t _ h).imp (fun h' ↦ ⟨h'.1, herror _ e h'.2⟩) (fun h' ↦ ⟨h'.1, ?_⟩)
    obtain ⟨e', he', hstray⟩ := h'.2
    cases he'
    exact ⟨e, rfl, hstray⟩

/-- A handler that lets stray exceptions pass. -/
theorem explains_tryCatch {p : Prog Op Ans ε α} {f : ε → Prog Op Ans ε α}
    {mid good : List μ → Except ε α → Prop} (hp : V.Explains p mid)
    (hok : ∀ m a, mid m (.ok a) → good m (.ok a))
    (herror : ∀ m e, mid m (.error e) → V.Explains (f e) fun m' r ↦ good (m ++ m') r)
    (hpass : ∀ e, V.stray e → f e = raise e) : V.Explains (tryCatch p f) good := by
  intro t r ht
  rcases trace_tryCatch.mp ht with ⟨e, t₁, t₂, rfl, h₁, h₂⟩ | ⟨a, h, rfl⟩
  · rcases hp t₁ _ h₁ with ⟨hh, hmid⟩ | ⟨hh, e', he', hstray⟩
    · rw [marks_append, handled_append]
      refine (herror _ e hmid t₂ r h₂).imp (fun h ↦ ⟨⟨hh, h.1⟩, h.2⟩) (fun h ↦ ⟨?_, h.2⟩)
      exact fun hall ↦ h.1 hall.2
    · cases he'
      rw [hpass e hstray] at h₂
      obtain ⟨rfl, rfl⟩ := trace_raise.mp h₂
      exact .inr ⟨fun hall ↦ hh (handled_append.mp hall).1, e, rfl, hstray⟩
  · rcases hp t _ h with ⟨hh, hmid⟩ | ⟨-, e, he, -⟩
    · exact .inl ⟨hh, hok _ a hmid⟩
    · cases he

/-! ## Views of everything -/

/-- The view that looks at marks only and takes every answer as it comes. -/
def ofMark (mark : Performed Op Ans → Option μ) : View Op Ans ε μ where
  mark := mark
  handled _ := True
  stray _ := False

variable {mark : Performed Op Ans → Option μ}

/-- Through such a view a specification is about every trace. -/
theorem Explains.of_trace {p : Prog Op Ans ε α} {good : List μ → Except ε α → Prop}
    (h : (ofMark mark).Explains p good) {t : List (Performed Op Ans)} {r : Except ε α}
    (ht : Trace p t r) : good (t.filterMap mark) r := by
  rcases h t r ht with ⟨-, hgood⟩ | ⟨hnot, -⟩
  · exact hgood
  · exact absurd (fun _ _ ↦ trivial) hnot

theorem ofMark_op {o : Op} {k : Ans o → Prog Op Ans ε α} {good : List μ → Except ε α → Prop}
    (hk : ∀ a, (ofMark mark).Explains (k a) fun m r ↦ good ((mark ⟨o, a⟩).toList ++ m) r) :
    (ofMark mark).Explains (op o k) good :=
  explains_op (fun a _ ↦ hk a) fun _ hnot ↦ absurd trivial hnot

theorem ofMark_tryCatch {p : Prog Op Ans ε α} {f : ε → Prog Op Ans ε α}
    {mid good : List μ → Except ε α → Prop} (hp : (ofMark mark).Explains p mid)
    (hok : ∀ m a, mid m (.ok a) → good m (.ok a))
    (herror : ∀ m e, mid m (.error e) →
      (ofMark mark).Explains (f e) fun m' r ↦ good (m ++ m') r) :
    (ofMark mark).Explains (tryCatch p f) good :=
  explains_tryCatch hp hok herror fun _ hstray ↦ hstray.elim

end View

end Lib.Prog
