import EstateMesh.Lib.Queries
import EstateMesh.Mesh.Admission
import EstateMesh.Mesh.BreakerHistory
import EstateMesh.Mesh.Prediction
import EstateMesh.Mesh.SharedCircuits

/-!
# Resolutions in between

`resolve` writes to the breaker: a check makes an open circuit half-open when its window
has passed.  Under one policy nobody can tell.  A half-open circuit answers as an open one
whose window has passed, and since a circuit that has been opened has the failures that
the policy asks for, a failure opens it either way.

So a run with any number of resolutions in between is answered as it is without them
(`resolve_is_read_only`): every check of the run, and every call that is served in it.
-/

namespace EstateMesh

open Lib Prog

/-! ## Circuits that answer alike -/

namespace CircuitState

/-- A circuit that is not closed has the failures that the policy asks for. -/
def Seasoned (policy : MeshPolicy) (c : CircuitState) : Prop :=
  c.state ≠ .closed → policy.circuitFailureThreshold ≤ c.failures

/-- The entry of a service with additional checks, all before `now`, beside the entry
without them. -/
structure Ahead (now : ℚ) (policy : MeshPolicy) (c c' : CircuitState) : Prop where
  seasoned : c'.Seasoned policy
  checked : c = c' ∨ c = c'.checked now policy

variable {now now' : ℚ} {policy : MeshPolicy} {c c' : CircuitState}

/-- A second check has nothing left to do. -/
theorem checked_checked (c : CircuitState) :
    (c.checked now policy).checked now policy = c.checked now policy := by
  by_cases h : c.state = .opened ∧ c.admits now policy = true
  · refine checked_of_ne_opened ?_ now policy
    rw [checked, if_pos h]
    rintro ⟨⟩
  · have hc : c.checked now policy = c := if_neg h
    rw [hc, hc]

/-- A window that has passed stays passed. -/
theorem admits_mono (hle : now ≤ now') (h : c.admits now policy = true) :
    c.admits now' policy = true := by
  obtain ⟨failures, state, openedAt⟩ := c
  cases state with
  | closed => rfl
  | halfOpen => rfl
  | opened =>
      cases openedAt with
      | none => cases h
      | some t =>
          have hwindow : (policy.recoverySeconds : ℚ) ≤ now - t := of_decide_eq_true h
          exact decide_eq_true (hwindow.trans (sub_le_sub_right hle t))

theorem Seasoned.checked (h : c.Seasoned policy) : (c.checked now policy).Seasoned policy := by
  unfold CircuitState.checked
  split
  · rename_i hopened
    intro _
    exact h (by rw [hopened.1]; rintro ⟨⟩)
  · exact h

theorem Seasoned.failed (h : c.Seasoned policy) : (c.failed now policy).Seasoned policy := by
  unfold CircuitState.failed
  split
  · rename_i hopens
    intro _
    rcases hopens with hhalf | hreached
    · exact (h (by rw [hhalf]; rintro ⟨⟩)).trans (Nat.le_succ _)
    · exact hreached
  · intro hstate
    exact (h hstate).trans (Nat.le_succ _)

/-- A failure opens a circuit that has been opened before, checked or not. -/
theorem Seasoned.failed_checked (h : c.Seasoned policy) :
    (c.checked now policy).failed now' policy = c.failed now' policy := by
  unfold CircuitState.checked
  split
  · rename_i hopened
    have hreached : policy.circuitFailureThreshold ≤ c.failures + 1 :=
      (h (by rw [hopened.1]; rintro ⟨⟩)).trans (Nat.le_succ _)
    rw [CircuitState.failed, CircuitState.failed, if_pos (.inr hreached), if_pos (.inr hreached)]
  · rfl

namespace Ahead

theorem refl (h : c.Seasoned policy) : c.Ahead now policy c := ⟨h, .inl rfl⟩

theorem failures_eq (h : c.Ahead now policy c') : c.failures = c'.failures := by
  rcases h.checked with rfl | rfl
  · rfl
  · exact checked_failures c' now policy

theorem openedAt_eq (h : c.Ahead now policy c') : c.openedAt = c'.openedAt := by
  rcases h.checked with rfl | rfl
  · rfl
  · exact checked_openedAt c' now policy

theorem admits_eq (h : c.Ahead now policy c') : c.admits now policy = c'.admits now policy := by
  rcases h.checked with rfl | rfl
  · rfl
  · exact admits_checked c' now policy

theorem mono (h : c.Ahead now policy c') (hle : now ≤ now') : c.Ahead now' policy c' := by
  refine ⟨h.seasoned, ?_⟩
  rcases h.checked with rfl | rfl
  · exact .inl rfl
  · by_cases hturned : c'.state = .opened ∧ c'.admits now policy = true
    · right
      rw [CircuitState.checked, CircuitState.checked, if_pos hturned,
        if_pos ⟨hturned.1, admits_mono hle hturned.2⟩]
    · exact .inl (if_neg hturned)

/-- An additional check. -/
theorem query (h : c.Ahead now policy c') : (c.checked now policy).Ahead now policy c' := by
  refine ⟨h.seasoned, .inr ?_⟩
  rcases h.checked with rfl | rfl
  · rfl
  · exact checked_checked c'

/-- A check of both. -/
theorem check (h : c.Ahead now policy c') :
    (c.checked now policy).Ahead now policy (c'.checked now policy) := by
  have heq : c.checked now policy = c'.checked now policy := by
    rcases h.checked with rfl | rfl
    · rfl
    · exact checked_checked c'
  rw [heq]
  exact refl h.seasoned.checked

/-- A failure of both. -/
theorem fail (h : c.Ahead now policy c') :
    (c.failed now policy).Ahead now policy (c'.failed now policy) := by
  have heq : c.failed now policy = c'.failed now policy := by
    rcases h.checked with rfl | rfl
    · rfl
    · exact h.seasoned.failed_checked
  rw [heq]
  exact refl h.seasoned.failed

end Ahead

end CircuitState

/-! ## Operations -/

/-- The operations that use the policy, if they use any. -/
def MeshOp.Under (policy : MeshPolicy) : MeshOp → Prop
  | .canAttempt _ policy' | .failure _ policy' => policy' = policy
  | _ => True

/-- The answers of an engine whose policies do not change. -/
def GivesPolicy (policyOf : String → MeshPolicy) : Performed MeshOp MeshOp.Ans → Prop
  | ⟨.getPolicy capabilityId, policy⟩ => policy = policyOf capabilityId
  | _ => True

section Under

variable {py : Builtins} {cfg : MeshConfig} {request : InvokeRequest} {policy : MeshPolicy}
  {correlationId : String} {service : ServiceKey}

theorem MeshOp.Tries.under {o : MeshOp} (h : o.Tries service policy) : o.Under policy := by
  cases o with
  | canAttempt _ _ => exact h.2
  | failure _ _ => exact h.2
  | _ => trivial

theorem MeshOp.Asks.under {o : MeshOp} (h : o.Asks policy) : o.Under policy := by
  cases o with
  | canAttempt _ policy' => exact h
  | failure _ _ => exact h.elim
  | _ => trivial

theorem candidateLoop_under (candidates : List Value) (attempts : List Attempt) :
    Performs (MeshOp.Under policy)
      (MeshEngine.candidateLoop py cfg request policy correlationId candidates attempts) :=
  (candidateLoop_tries candidates attempts).mono fun _ ⟨_, _, _, _, h⟩ ↦ h.under

theorem serveCandidates_under (candidates : List Value) :
    Performs (MeshOp.Under policy)
      (MeshEngine.serveCandidates py cfg request policy correlationId candidates) := by
  rw [MeshEngine.serveCandidates]
  cases candidates.mapM MeshEngine.candidateId with
  | error e => trivial
  | ok providers =>
      simp only [MeshM.lift, ret_bind, perform_bind]
      refine ⟨trivial, fun event ↦ ?_⟩
      refine performs_bind (publishEvent_performs (fun _ _ ↦ trivial) cfg event) fun _ ↦ ?_
      refine performs_bind (candidateLoop_under candidates []) fun outcome ↦ ?_
      cases outcome with
      | inl result => trivial
      | inr attempts =>
          refine ⟨trivial, fun event ↦ ?_⟩
          exact performs_bind (publishEvent_performs (fun _ _ ↦ trivial) cfg event) fun _ ↦ trivial

end Under

/-- A call uses the policy of its capability, if that is what the engine gives it. -/
theorem asking_given {α : Type} {cfg : MeshConfig} {supplied : Option String}
    {capabilityId : String} {request : String → ResolveRequest}
    {serve : String → MeshPolicy → List Value → MeshM α} {policyOf : String → MeshPolicy}
    {P : MeshOp → Prop} (hpreliminary : ∀ o, o.IsPreliminary → P o)
    (hserve : ∀ correlationId candidates,
      Performs P (serve correlationId (policyOf capabilityId) candidates)) :
    PerformsGiven (GivesPolicy policyOf) P
      (asking cfg supplied capabilityId request serve) := by
  rw [asking]
  refine performsGiven_bind ((correlationId_performs supplied).mono hpreliminary).given ?_
  intro correlationId
  simp only [perform_bind, registryCandidates_eq, op_bind]
  refine ⟨hpreliminary _ trivial, fun policy hpolicy ↦ ⟨hpreliminary _ trivial, fun answer _ ↦ ?_⟩⟩
  obtain rfl : policy = policyOf capabilityId := hpolicy
  dsimp only
  cases registryOutcome answer with
  | error fault => trivial
  | ok candidates => exact (hserve correlationId candidates).given

theorem resolve_given (cfg : MeshConfig) (request : ResolveRequest)
    (policyOf : String → MeshPolicy) :
    PerformsGiven (GivesPolicy policyOf) (MeshOp.Asks (policyOf request.capabilityId))
      (MeshEngine.resolve cfg request) := by
  rw [resolve_eq_asking]
  refine asking_given (fun o h ↦ ?_) fun correlationId candidates ↦
    routeCandidates_asks request correlationId _ candidates
  cases o with
  | uuid => trivial
  | getPolicy _ => trivial
  | registry _ _ => trivial
  | _ => exact h.elim

theorem call_given (py : Builtins) (cfg : MeshConfig) (call : MeshCall)
    (policyOf : String → MeshPolicy) :
    PerformsGiven (GivesPolicy policyOf) (MeshOp.Under (policyOf call.capabilityId))
      (call.program py cfg) := by
  cases call with
  | resolve request =>
      rw [MeshCall.program, map_eq_pure_bind]
      refine performsGiven_bind ?_ fun _ ↦ trivial
      exact (resolve_given cfg request policyOf).mono fun o h ↦ h.under
  | invoke request =>
      rw [MeshCall.program, map_eq_pure_bind, invoke_eq_asking]
      refine performsGiven_bind ?_ fun _ ↦ trivial
      refine asking_given (fun o h ↦ ?_) fun correlationId candidates ↦
        serveCandidates_under candidates
      cases o with
      | canAttempt _ _ => exact h.elim
      | failure _ _ => exact h.elim
      | _ => trivial

/-! ## Engines that answer alike -/

/-- An engine whose circuits have been checked in between, beside one whose circuits
have not; both have the same policies. -/
structure MeshState.Ahead (policyOf : String → MeshPolicy) (policy : MeshPolicy) (now : ℚ)
    (s s' : MeshState) : Prop where
  policies : s.getPolicy = policyOf
  policies' : s'.getPolicy = policyOf
  circuits : ∀ id, (s.circuits.stateOf id).Ahead now policy (s'.circuits.stateOf id)

namespace MeshState.Ahead

variable {policyOf : String → MeshPolicy} {policy : MeshPolicy} {now now' : ℚ}
  {s s' : MeshState}

theorem mono (h : s.Ahead policyOf policy now s') (hle : now ≤ now') :
    s.Ahead policyOf policy now' s' :=
  ⟨h.policies, h.policies', fun id ↦ (h.circuits id).mono hle⟩

/-- A call on both breakers. -/
theorem step (h : s.Ahead policyOf policy now s') (call : BreakerCall) :
    MeshState.Ahead policyOf policy now
      { s with circuits := s.circuits.step policy (now, call) }
      { s' with circuits := s'.circuits.step policy (now, call) } := by
  refine ⟨h.policies, h.policies', fun id ↦ ?_⟩
  cases call with
  | canAttempt id' =>
      simp only [CircuitBreaker.step, CircuitBreaker.stateOf_canAttempt]
      split
      · exact (h.circuits id').check
      · exact h.circuits id
  | failure id' =>
      simp only [CircuitBreaker.step, CircuitBreaker.stateOf_failure]
      split
      · exact (h.circuits id').fail
      · exact h.circuits id
  | success id' =>
      simp only [CircuitBreaker.step, CircuitBreaker.stateOf_success]
      split
      · exact .refl fun hstate ↦ absurd rfl hstate
      · exact h.circuits id
  | reset id' =>
      simp only [CircuitBreaker.step, CircuitBreaker.stateOf_reset]
      split
      · exact .refl fun hstate ↦ absurd rfl hstate
      · exact h.circuits id

theorem canAttempt_eq (h : s.Ahead policyOf policy now s') (id : ServiceKey) :
    (s.circuits.canAttempt now id policy).1 = (s'.circuits.canAttempt now id policy).1 := by
  rw [CircuitBreaker.canAttempt_fst, CircuitBreaker.canAttempt_fst]
  exact (h.circuits id).admits_eq

/-- An operation of a call on both engines. -/
theorem perform {host : Host} (h : s.Ahead policyOf policy host.monotonic s') {o : MeshOp}
    (ho : o.Under policy) :
    GivesPolicy policyOf ⟨o, (MeshEngine.perform host s' o).1⟩ ∧
      (MeshEngine.perform host s o).1 = (MeshEngine.perform host s' o).1 ∧
      MeshState.Ahead policyOf policy host.monotonic (MeshEngine.perform host s o).2
        (MeshEngine.perform host s' o).2 := by
  cases o with
  | canAttempt id policy' =>
      obtain rfl : policy' = policy := ho
      exact ⟨trivial, h.canAttempt_eq id, h.step (.canAttempt id)⟩
  | failure id policy' =>
      obtain rfl : policy' = policy := ho
      exact ⟨trivial, rfl, h.step (.failure id)⟩
  | success id => exact ⟨trivial, rfl, h.step (.success id)⟩
  | getPolicy capabilityId =>
      have hgiven := congrFun h.policies capabilityId
      have hgiven' := congrFun h.policies' capabilityId
      exact ⟨hgiven', hgiven.trans hgiven'.symm, h⟩
  | emit eventType correlationId payload =>
      exact ⟨trivial, rfl, h.policies, h.policies', h.circuits⟩
  | _ => exact ⟨trivial, rfl, h⟩

/-- An operation of a resolution on the one engine only. -/
theorem query {host : Host} (h : s.Ahead policyOf policy host.monotonic s') {o : MeshOp}
    (ho : o.Asks policy) :
    GivesPolicy policyOf ⟨o, (MeshEngine.perform host s o).1⟩ ∧
      MeshState.Ahead policyOf policy host.monotonic (MeshEngine.perform host s o).2 s' := by
  cases o with
  | canAttempt id policy' =>
      obtain rfl : policy' = policy := ho
      refine ⟨trivial, h.policies, h.policies', fun id' ↦ ?_⟩
      simp only [MeshEngine.perform, CircuitBreaker.stateOf_canAttempt]
      split
      · rename_i e
        rw [e]
        exact (h.circuits id).query
      · exact h.circuits id'
  | getPolicy capabilityId => exact ⟨congrFun h.policies capabilityId, h⟩
  | emit eventType correlationId payload =>
      exact ⟨trivial, h.policies, h.policies', h.circuits⟩
  | uuid => exact ⟨trivial, h⟩
  | registry _ _ => exact ⟨trivial, h⟩
  | _ => exact ho.elim

end MeshState.Ahead

/-! ## Sessions -/

/-- The readings of the environment for the operations of a call, and when the call is
over. -/
structure Session where
  hosts : ℕ → Host
  finished : ℚ

namespace Session

/-- The monotonic clock does not go back from `t` to the end of the session. -/
structure Forward (t : ℚ) (x : Session) : Prop where
  started : t ≤ (x.hosts 0).monotonic
  forward : Monotone fun n ↦ (x.hosts n).monotonic
  finished : ∀ n, (x.hosts n).monotonic ≤ x.finished

/-- Answer the operations of a call, each from the reading that is its turn. -/
def answer (x : Session) (s : ℕ × MeshState) (o : MeshOp) : MeshOp.Ans o × (ℕ × MeshState) :=
  let outcome := MeshEngine.perform (x.hosts s.1) s.2 o
  (outcome.1, (s.1 + 1, outcome.2))

variable {policyOf : String → MeshPolicy} {policy : MeshPolicy} {t : ℚ} {x : Session}
  {s s' : MeshState} {ε α : Type} {p : Prog MeshOp MeshOp.Ans ε α}

/-- The step of the clock from one operation of a session to the next. -/
theorem Forward.tick (h : x.Forward t) {n : ℕ}
    (hs : s.Ahead policyOf policy (x.hosts n).monotonic s') :
    s.Ahead policyOf policy (x.hosts (n + 1)).monotonic s' :=
  hs.mono (h.forward n.le_succ)

/-- Both engines do the same for a call that uses the policy. -/
theorem Forward.agree (h : x.Forward t) (hs : s.Ahead policyOf policy t s')
    (hp : PerformsGiven (GivesPolicy policyOf) (MeshOp.Under policy) p) :
    (exec x.answer p (0, s)).1 = (exec x.answer p (0, s')).1 ∧
      (exec x.answer p (0, s)).2.1 = (exec x.answer p (0, s')).2.1 ∧
      (exec x.answer p (0, s)).2.2.2.Ahead policyOf policy x.finished
        (exec x.answer p (0, s')).2.2.2 := by
  let R (s s' : ℕ × MeshState) : Prop :=
    s.1 = s'.1 ∧ s.2.Ahead policyOf policy (x.hosts s.1).monotonic s'.2
  have hstart : R (0, s) (0, s') := ⟨rfl, hs.mono h.started⟩
  have hstep : ∀ s s' o, MeshOp.Under policy o → R s s' →
      GivesPolicy policyOf ⟨o, (x.answer s' o).1⟩ ∧ (x.answer s o).1 = (x.answer s' o).1 ∧
        R (x.answer s o).2 (x.answer s' o).2 := by
    rintro ⟨n, s⟩ ⟨n', s'⟩ o ho ⟨rfl, hs⟩
    obtain ⟨hgood, hanswer, hnext⟩ := hs.perform ho
    exact ⟨hgood, hanswer, rfl, h.tick hnext⟩
  obtain ⟨htrace, hend, -, hstates⟩ := exec_agree hstep hp hstart
  exact ⟨htrace, hend, hstates.mono (h.finished _)⟩

/-- A program of checks on the one engine only. -/
theorem Forward.unseen (h : x.Forward t) (hs : s.Ahead policyOf policy t s')
    (hp : PerformsGiven (GivesPolicy policyOf) (MeshOp.Asks policy) p) :
    (exec x.answer p (0, s)).2.2.2.Ahead policyOf policy x.finished s' := by
  let I (s : ℕ × MeshState) : Prop := s.2.Ahead policyOf policy (x.hosts s.1).monotonic s'
  have hstart : I (0, s) := hs.mono h.started
  have hend : I (exec x.answer p (0, s)).2.2 := by
    refine exec_invariant_given ?_ hp hstart
    rintro ⟨n, s⟩ o ho hs
    obtain ⟨hgood, hnext⟩ := hs.query ho
    exact ⟨hgood, h.tick hnext⟩
  exact hend.mono (h.finished _)

end Session

/-! ## Runs -/

/-- What is done to the engine in a run: a call on its breaker, or a call that it
serves. -/
inductive MeshInput
  | breaker (now : ℚ) (call : BreakerCall)
  | serve (call : MeshCall) (session : Session)

/-- A resolution that is put in between. -/
structure MeshQuery where
  request : ResolveRequest
  session : Session

/-- What is answered to an input. -/
inductive MeshReply
  | done
  | checked (admitted : Bool)
  | served (operations : List (Performed MeshOp MeshOp.Ans))
      (outcome : Except Fault (MeshResolution ⊕ InvokeResult))

/-- Answer an input; the calls on the breaker are made with the policy. -/
def MeshInput.step (py : Builtins) (cfg : MeshConfig) (policy : MeshPolicy) (s : MeshState) :
    MeshInput → MeshReply × MeshState
  | .breaker now call =>
      (match call with
        | .canAttempt id => .checked (s.circuits.canAttempt now id policy).1
        | _ => .done,
      { s with circuits := s.circuits.step policy (now, call) })
  | .serve call session =>
      let run := exec session.answer (call.program py cfg) (0, s)
      (.served run.1 run.2.1, run.2.2.2)

/-- The engine after a resolution. -/
def MeshQuery.effect (cfg : MeshConfig) (s : MeshState) (q : MeshQuery) : MeshState :=
  (exec q.session.answer (MeshEngine.resolve cfg q.request) (0, s)).2.2.2

/-- When an entry of a run may start. -/
def entryStarts (t : ℚ) : MeshInput ⊕ MeshQuery → Prop
  | .inl (.breaker now _) => t ≤ now
  | .inl (.serve _ session) => session.Forward t
  | .inr q => q.session.Forward t

/-- When an entry of a run ends. -/
def entryEnds : MeshInput ⊕ MeshQuery → ℚ
  | .inl (.breaker now _) => now
  | .inl (.serve _ session) => session.finished
  | .inr q => q.session.finished

/-- An entry of a run is for a capability with the policy, if it is for one. -/
def EntryUses (policyOf : String → MeshPolicy) (policy : MeshPolicy) :
    MeshInput ⊕ MeshQuery → Prop
  | .inl (.breaker _ _) => True
  | .inl (.serve call _) => policyOf call.capabilityId = policy
  | .inr q => policyOf q.request.capabilityId = policy

/-- The replies of a new engine, and what becomes of it. -/
def engineRun (py : Builtins) (cfg : MeshConfig) (policy : MeshPolicy)
    (policies : Dict String MeshPolicy) (run : List (MeshInput ⊕ MeshQuery)) :
    List MeshReply × MeshState :=
  replies (MeshInput.step py cfg policy) (MeshQuery.effect cfg) { policies := policies } run

section Runs

variable {py : Builtins} {cfg : MeshConfig} {policyOf : String → MeshPolicy} {policy : MeshPolicy}
  {t : ℚ} {s s' : MeshState}

/-- The step lemma for an input. -/
theorem MeshState.Ahead.input (h : s.Ahead policyOf policy t s') {x : MeshInput}
    (hstarts : entryStarts t (.inl x)) (huses : EntryUses policyOf policy (.inl x)) :
    (x.step py cfg policy s).1 = (x.step py cfg policy s').1 ∧
      (x.step py cfg policy s).2.Ahead policyOf policy (entryEnds (.inl x))
        (x.step py cfg policy s').2 := by
  cases x with
  | breaker now call =>
      have hnow := h.mono hstarts
      refine ⟨?_, hnow.step call⟩
      cases call with
      | canAttempt id => exact congrArg MeshReply.checked (hnow.canAttempt_eq id)
      | _ => rfl
  | serve call session =>
      obtain rfl : policyOf call.capabilityId = policy := huses
      obtain ⟨htrace, hend, hstates⟩ := Session.Forward.agree hstarts h (call_given py cfg call policyOf)
      simp only [MeshInput.step]
      exact ⟨by rw [htrace, hend], hstates⟩

/-- The step lemma for a resolution in between. -/
theorem MeshState.Ahead.between (h : s.Ahead policyOf policy t s') {q : MeshQuery}
    (hstarts : entryStarts t (.inr q)) (huses : EntryUses policyOf policy (.inr q)) :
    (q.effect cfg s).Ahead policyOf policy (entryEnds (.inr q)) s' := by
  obtain rfl : policyOf q.request.capabilityId = policy := huses
  exact Session.Forward.unseen hstarts h (resolve_given cfg q.request policyOf)

end Runs

/-- A resolution is a query.  In a run of a new engine in which all calls are made under
one policy and the clock does not go back, what is answered to every check and done for
every call is what is answered and done without the resolutions in between, and so are
the counters of failures and the times of opening. -/
theorem resolve_is_read_only (py : Builtins) (cfg : MeshConfig) (policy : MeshPolicy)
    (policies : Dict String MeshPolicy) (t₀ : ℚ) (run : List (MeshInput ⊕ MeshQuery))
    (hpolicy : ∀ x ∈ run, EntryUses (MeshState.getPolicy { policies := policies }) policy x)
    (hclock : InOrder entryStarts entryEnds t₀ run) :
    (engineRun py cfg policy policies run).1 =
        (engineRun py cfg policy policies (run.filter Sum.isLeft)).1 ∧
      ∀ id,
        ((engineRun py cfg policy policies run).2.circuits.stateOf id).failures =
            ((engineRun py cfg policy policies (run.filter Sum.isLeft)).2.circuits.stateOf
              id).failures ∧
          ((engineRun py cfg policy policies run).2.circuits.stateOf id).openedAt =
            ((engineRun py cfg policy policies (run.filter Sum.isLeft)).2.circuits.stateOf
              id).openedAt := by
  let policyOf := MeshState.getPolicy { policies := policies }
  have hinit : MeshState.Ahead policyOf policy t₀ { policies := policies }
      { policies := policies } :=
    ⟨rfl, rfl, fun id ↦ .refl fun hstate ↦ absurd rfl hstate⟩
  obtain ⟨hreplies, t, hend⟩ := unnoticed
    (R := fun t (s s' : MeshState) ↦ s.Ahead policyOf policy t s')
    (fun _ _ _ _ h hx ↦ h.input hx.1 hx.2) (fun _ _ _ _ h hx ↦ h.between hx.1 hx.2)
    (hclock.and hpolicy) hinit
  exact ⟨hreplies, fun id ↦ ⟨(hend.circuits id).failures_eq, (hend.circuits id).openedAt_eq⟩⟩

/-- A service fails three times, and a resolution asks about it before it is checked
again. -/
def probedRun : List (MeshInput ⊕ MeshQuery) :=
  List.replicate 3 (.inl (.breaker 0 (.failure "svc.a"))) ++
    [.inr
      { request := (notesRequest ∅).resolveRequest (some "run-2")
        session :=
          { hosts := fun _ ↦ { offers [describe "svc.a" "http://a.internal"] with monotonic := 100 }
            finished := 100 } },
      .inl (.breaker 101 (.canAttempt "svc.a")), .inl (.breaker 102 (.failure "svc.a")),
      .inl (.breaker 103 (.canAttempt "svc.a"))]

/-- The resolution turns the circuit, and the replies are what they are without it. -/
theorem probed_run_is_answered_alike :
    ((engineRun default notesConfig {} ∅ (probedRun.take 4)).2.circuits.stateOf "svc.a").state =
        .halfOpen ∧
      ((engineRun default notesConfig {} ∅ ((probedRun.take 4).filter Sum.isLeft)).2.circuits.stateOf
        "svc.a").state = .opened ∧
      (engineRun default notesConfig {} ∅ probedRun).1 =
        (engineRun default notesConfig {} ∅ (probedRun.filter Sum.isLeft)).1 := by
  have hpolicy : ∀ x ∈ probedRun, EntryUses (MeshState.getPolicy { policies := ∅ }) {} x := by
    simp only [probedRun, List.replicate, List.cons_append, List.nil_append, List.forall_mem_cons]
    exact ⟨trivial, trivial, trivial, rfl, trivial, trivial, trivial, List.forall_mem_nil _⟩
  have hclock : InOrder entryStarts entryEnds 0 probedRun := by
    simp only [probedRun, List.replicate, List.cons_append, List.nil_append, InOrder, entryStarts,
      entryEnds]
    refine ⟨le_rfl, le_rfl, le_rfl, ⟨?_, fun _ _ _ ↦ le_rfl, fun _ ↦ le_rfl⟩, ?_⟩ <;> norm_num
  refine ⟨?_, ?_, (resolve_is_read_only default notesConfig {} ∅ 0 probedRun hpolicy hclock).1⟩
  · decide +kernel
  · decide +kernel

end EstateMesh
