import EstateMesh.Mesh.Probing
import EstateMesh.Mesh.RegistryAnswers

/-!
# Admission

A request is sent to a service that the breaker has just admitted: nothing that the
call does in between can open the circuit, and no other call gets the loop.  So no
request is ever sent to a service whose circuit is open, whatever the policies are
and however the calls interleave (`not_opened_of_sending`), and the first one after an
opening finds the circuit half-open: it is the probe (`probe_of_sending`).
-/

namespace EstateMesh

open Lib Prog EventLoop Machine

/-! ## The protocol -/

/-- The protocol of admission: a request is sent to the service that the breaker has
just admitted. -/
def admissionProtocol : Protocol MeshOp MeshOp.Ans (Option ServiceKey) where
  allows
    | admitted, .upstream s _ => admitted = some s
    | _, _ => True
  next
    | _, .canAttempt s _, answer => if answer = true then some s else none
    | _, .success _, _ | _, .failure _ _, _ | _, .registry _ _, _ | _, .publish _ _, _
    | _, .upstream _ _, _ => none
    | admitted, _, _ => admitted

/-- The operations by which an attempt is concluded. -/
def MeshOp.Concludes (policy : MeshPolicy) : MeshOp → Prop
  | .failure _ policy' => policy' = policy
  | .monotonic | .success _ | .emit _ _ _ | .publish _ _ => True
  | _ => False

/-- The operations by which a service is tried. -/
def MeshOp.Tries (serviceId : ServiceKey) (policy : MeshPolicy) : MeshOp → Prop
  | .canAttempt s policy' | .failure s policy' => s = serviceId ∧ policy' = policy
  | .success s | .upstream s _ => s = serviceId
  | .time | .monotonic | .emit _ _ _ | .publish _ _ => True
  | _ => False

/-- The operations by which the service of one of some candidates is tried. -/
def MeshOp.TriesSome (candidates : List Value) (policy : MeshPolicy) (o : MeshOp) : Prop :=
  ∃ candidate ∈ candidates, ∃ service,
    MeshEngine.candidateService candidate = .ok service ∧ o.Tries service.key policy

/-- The operations other than requests to providers. -/
def MeshOp.SendsNothing : MeshOp → Prop
  | .upstream _ _ => False
  | _ => True

theorem follows_of_sendsNothing {α : Type} {p : MeshM α} (h : Performs MeshOp.SendsNothing p)
    (admitted : Option ServiceKey) : Follows admissionProtocol p admitted fun _ _ ↦ True := by
  induction p generalizing admitted with
  | ret a => trivial
  | raise e => trivial
  | op o k ih =>
      refine ⟨?_, fun a ↦ ih a (h.2 a) _⟩
      cases o with
      | upstream _ _ => exact h.1.elim
      | _ => trivial

section Admission

variable {py : Builtins} {cfg : MeshConfig} {request : InvokeRequest} {policy : MeshPolicy}
  {correlationId url : String} {service : Service}

theorem publishEvent_sendsNothing (event : MeshEvent) :
    Performs MeshOp.SendsNothing (MeshEngine.publishEvent cfg event) :=
  publishEvent_performs (fun _ _ ↦ trivial) cfg event

theorem handleResponse_tries (n : ℕ) (attempts : List Attempt) (started : ℚ)
    (response : Response) :
    Performs (fun o ↦ o.Concludes policy ∧ o.Tries service.key policy)
      (MeshEngine.handleResponse py cfg request policy correlationId service url n attempts
        started response) := by
  unfold MeshEngine.handleResponse
  simp only [perform_bind]
  refine ⟨⟨trivial, trivial⟩, fun finished ↦ ?_⟩
  split
  · refine ⟨⟨trivial, rfl⟩, fun _ ↦ ⟨⟨trivial, trivial⟩, fun event ↦ ?_⟩⟩
    refine performs_bind (publishEvent_performs (fun _ _ ↦ ⟨trivial, trivial⟩) cfg event)
      fun _ ↦ ?_
    exact performs_bind (performs_liftBody _) fun _ ↦ trivial
  · exact ⟨⟨rfl, rfl, rfl⟩, fun _ ↦ trivial⟩

theorem handleResponse_concludes (n : ℕ) (attempts : List Attempt) (started : ℚ)
    (response : Response) :
    Performs (MeshOp.Concludes policy)
      (MeshEngine.handleResponse py cfg request policy correlationId service url n attempts
        started response) :=
  (handleResponse_tries n attempts started response).mono fun _ h ↦ h.1

theorem handleFault_tries (n : ℕ) (attempts : List Attempt) (fault : Fault) :
    Performs (fun o ↦ o.Concludes policy ∧ o.Tries service.key policy)
      (MeshEngine.handleFault policy service n attempts fault) := by
  cases fault with
  | mesh code detail => trivial
  | python e => trivial
  | body e => trivial
  | httpx e =>
      rw [MeshEngine.handleFault]
      split
      · exact ⟨⟨rfl, rfl, rfl⟩, fun _ ↦ trivial⟩
      · trivial

theorem handleFault_concludes (n : ℕ) (attempts : List Attempt) (fault : Fault) :
    Performs (MeshOp.Concludes policy)
      (MeshEngine.handleFault policy service n attempts fault) :=
  (handleFault_tries n attempts fault).mono fun _ h ↦ h.1

theorem attemptOnce_tries (n : ℕ) (attempts : List Attempt) :
    Performs (MeshOp.Tries service.key policy)
      (MeshEngine.attemptOnce py cfg request policy correlationId service url n attempts) := by
  unfold MeshEngine.attemptOnce
  simp only [perform_bind]
  refine ⟨trivial, fun now ↦ ⟨trivial, fun started ↦ ?_⟩⟩
  refine performs_tryCatch ⟨rfl, fun answer ↦ ?_⟩ fun fault ↦
    (handleFault_tries n attempts fault).mono fun _ h ↦ h.2
  cases answer with
  | error e => trivial
  | ok response =>
      exact (handleResponse_tries n attempts started response).mono fun _ h ↦ h.2

theorem attemptLoop_tries (ns : List ℕ) (attempts : List Attempt) :
    Performs (MeshOp.Tries service.key policy)
      (MeshEngine.attemptLoop py cfg request policy correlationId service url ns attempts) := by
  induction ns generalizing attempts with
  | nil => trivial
  | cons n ns ih =>
      rw [MeshEngine.attemptLoop]
      refine performs_bind (attemptOnce_tries n attempts) fun outcome ↦ ?_
      cases outcome with
      | inl result => trivial
      | inr attempts =>
          refine ⟨⟨rfl, rfl⟩, fun admitted ↦ ?_⟩
          cases admitted with
          | false => trivial
          | true => exact ih attempts

/-- The loop tries the services of its candidates. -/
theorem candidateLoop_tries (candidates : List Value) (attempts : List Attempt) :
    Performs (MeshOp.TriesSome candidates policy)
      (MeshEngine.candidateLoop py cfg request policy correlationId candidates attempts) := by
  induction candidates generalizing attempts with
  | nil => trivial
  | cons candidate candidates ih =>
      rw [MeshEngine.candidateLoop]
      have hrest (attempts : List Attempt) :
          Performs (MeshOp.TriesSome (candidate :: candidates) policy)
          (MeshEngine.candidateLoop py cfg request policy correlationId candidates attempts) :=
        (ih attempts).mono fun o ⟨candidate, hmem, h⟩ ↦
          ⟨candidate, List.mem_cons_of_mem _ hmem, h⟩
      cases hservice : MeshEngine.candidateService candidate with
      | error e => trivial
      | ok service =>
          have hhead (o : MeshOp) (h : o.Tries service.key policy) :
              o.TriesSome (candidate :: candidates) policy :=
            ⟨candidate, List.mem_cons_self, service, hservice, h⟩
          simp only [MeshM.lift, ret_bind, perform_bind]
          refine ⟨hhead _ ⟨rfl, rfl⟩, fun admitted ↦ ?_⟩
          cases admitted with
          | false => exact hrest _
          | true =>
              simp only [if_true]
              split
              · rw [ret_bind]
                refine performs_bind ((attemptLoop_tries _ attempts).mono hhead) fun outcome ↦ ?_
                cases outcome with
                | inl result => trivial
                | inr attempts => exact hrest attempts
              · trivial

theorem MeshOp.Concludes.sendsNothing {o : MeshOp} (h : o.Concludes policy) : o.SendsNothing := by
  cases o with
  | upstream _ _ => exact h.elim
  | _ => trivial

theorem attemptOnce_admission (n : ℕ) (attempts : List Attempt) :
    Follows admissionProtocol
      (MeshEngine.attemptOnce py cfg request policy correlationId service url n attempts)
      (some service.key) fun _ _ ↦ True := by
  unfold MeshEngine.attemptOnce
  simp only [perform_bind]
  refine ⟨trivial, fun now ↦ ⟨trivial, fun started ↦ ?_⟩⟩
  dsimp only
  rw [tryCatch_op]
  refine ⟨rfl, fun answer ↦ follows_of_sendsNothing ?_ _⟩
  refine Performs.mono (P := MeshOp.Concludes policy) ?_ fun _ h ↦ h.sendsNothing
  cases answer with
  | error e => exact handleFault_concludes n attempts (.httpx e)
  | ok response =>
      exact performs_tryCatch (handleResponse_concludes n attempts started response)
        (handleFault_concludes n attempts)

theorem attemptLoop_admission (ns : List ℕ) (attempts : List Attempt) :
    Follows admissionProtocol
      (MeshEngine.attemptLoop py cfg request policy correlationId service url ns attempts)
      (some service.key) fun _ _ ↦ True := by
  induction ns generalizing attempts with
  | nil => trivial
  | cons n ns ih =>
      rw [MeshEngine.attemptLoop, follows_bind]
      apply (attemptOnce_admission n attempts).mono
      intro admitted outcome _
      cases outcome with
      | error fault => trivial
      | ok outcome =>
          cases outcome with
          | inl result => trivial
          | inr attempts =>
              refine ⟨trivial, fun answer ↦ ?_⟩
              cases answer with
              | false => trivial
              | true => exact ih attempts

theorem candidateLoop_admission (candidates : List Value) (attempts : List Attempt)
    (admitted : Option ServiceKey) :
    Follows admissionProtocol
      (MeshEngine.candidateLoop py cfg request policy correlationId candidates attempts) admitted
      fun _ _ ↦ True := by
  induction candidates generalizing attempts admitted with
  | nil => trivial
  | cons candidate candidates ih =>
      rw [MeshEngine.candidateLoop]
      cases MeshEngine.candidateService candidate with
      | error e => trivial
      | ok service =>
          simp only [MeshM.lift, ret_bind, perform_bind]
          refine ⟨trivial, fun answer ↦ ?_⟩
          cases answer with
          | false => exact ih _ _
          | true =>
              simp only [if_true]
              split
              · rw [ret_bind, follows_bind]
                apply (attemptLoop_admission _ attempts).mono
                intro admitted outcome _
                cases outcome with
                | error fault => trivial
                | ok outcome =>
                    cases outcome with
                    | inl result => trivial
                    | inr attempts => exact ih attempts admitted
              · trivial

theorem serveCandidates_admission (candidates : List Value) (admitted : Option ServiceKey) :
    Follows admissionProtocol
      (MeshEngine.serveCandidates py cfg request policy correlationId candidates) admitted
      fun _ _ ↦ True := by
  rw [MeshEngine.serveCandidates]
  cases candidates.mapM MeshEngine.candidateId with
  | error e => trivial
  | ok providers =>
      simp only [MeshM.lift, ret_bind, perform_bind]
      refine ⟨trivial, fun event ↦ ?_⟩
      rw [follows_bind]
      apply (follows_of_sendsNothing (publishEvent_sendsNothing event) _).mono
      intro admitted outcome _
      cases outcome with
      | error fault => trivial
      | ok _ =>
          dsimp only
          rw [follows_bind]
          apply (candidateLoop_admission candidates [] admitted).mono
          intro admitted outcome _
          cases outcome with
          | error fault => trivial
          | ok outcome =>
              cases outcome with
              | inl result => trivial
              | inr attempts =>
                  refine ⟨trivial, fun event ↦ follows_of_sendsNothing ?_ _⟩
                  exact performs_bind (publishEvent_sendsNothing event) fun _ ↦ trivial

end Admission

theorem sendsNothing_of_isPreliminary (o : MeshOp) (h : o.IsPreliminary) : o.SendsNothing := by
  cases o with
  | upstream _ _ => exact h.elim
  | _ => trivial

theorem resolve_sendsNothing (cfg : MeshConfig) (request : ResolveRequest) :
    Performs MeshOp.SendsNothing (MeshEngine.resolve cfg request) := by
  rw [resolve_eq_asking]
  refine asking_performs _ _ _ _ _ sendsNothing_of_isPreliminary fun correlationId policy candidates ↦ ?_
  refine (routeCandidates_asks request correlationId policy candidates).mono fun o h ↦ ?_
  cases o with
  | upstream _ _ => exact h.elim
  | _ => trivial

/-- Both calls follow the protocol of admission. -/
theorem call_admission (py : Builtins) (cfg : MeshConfig) (call : MeshCall) :
    Follows admissionProtocol (call.program py cfg) none fun _ _ ↦ True := by
  cases call with
  | resolve request =>
      refine follows_of_sendsNothing ?_ none
      rw [MeshCall.program, map_eq_pure_bind]
      exact performs_bind (resolve_sendsNothing cfg request) fun _ ↦ trivial
  | invoke request =>
      have hpreliminary : Performs MeshOp.SendsNothing (MeshEngine.obtainCandidates cfg request) :=
        (obtainCandidates_performs cfg request).mono sendsNothing_of_isPreliminary
      rw [MeshCall.program, map_eq_pure_bind, follows_bind, MeshEngine.invoke, follows_bind]
      apply (follows_of_sendsNothing hpreliminary none).mono
      intro admitted outcome _
      cases outcome with
      | error fault => trivial
      | ok obtained =>
          apply (serveCandidates_admission obtained.2.2 admitted).mono
          intro admitted outcome _
          cases outcome <;> trivial

/-! ## On the loop -/

/-- The call that runs, and what it does next. -/
def nextOp (L : MeshLoop) : Option (MeshCall × MeshOp) :=
  match L.current.bind L.tasks with
  | some (call, .op o _) => some (call, o)
  | _ => none

theorem CircuitState.checked_ne_opened {c : CircuitState} {now : ℚ} {policy : MeshPolicy}
    (h : c.admits now policy = true) : (c.checked now policy).state ≠ .opened := by
  unfold checked
  split
  · rintro ⟨⟩
  · rename_i hnot
    exact fun hopened ↦ hnot ⟨hopened, h⟩

/-- The circuit of the service that the running call was admitted to is not open. -/
def AdmissionInvariant (state : MeshState) (_ : List MeshEntry)
    (running : Running MeshCall (Option ServiceKey)) : Prop :=
  ∀ i call s, running = some (i, call, some s) → (state.circuits.stateOf s).state ≠ .opened

theorem admissionInvariant_preserved :
    Preserved (ε := Fault) (α := MeshResolution ⊕ InvokeResult) meshRuntime MeshAct.effect
      (fun _ ↦ admissionProtocol) (fun _ ↦ none) AdmissionInvariant fun _ _ ↦ True where
  spawn _ _ _ _ := by rintro _ _ _ ⟨⟩
  ended _ _ _ _ _ := by rintro _ _ _ ⟨⟩
  act _ _ _ _ := by rintro _ _ _ ⟨⟩
  issue _ _ _ _ _ _ _ _ _ _ _ _ _ := by rintro _ _ _ ⟨⟩
  deliver L host i c admitted o k _ _ ho _ _ := by
    intro _ _ s h
    cases o with
    | registry _ _ => cases h
    | publish _ _ => cases h
    | upstream _ _ => cases h
    | _ => cases ho
  perform L host i c admitted o k _ _ _ ho _ h := by
    intro _ _ s hrunning
    obtain ⟨-, -, hs⟩ : i = _ ∧ c = _ ∧ _ := by simpa using hrunning
    cases o with
    | registry _ _ => cases ho
    | publish _ _ => cases ho
    | upstream _ _ => cases ho
    | success _ => cases hs
    | failure _ _ => cases hs
    | canAttempt s' policy =>
        change (if (L.shared.circuits.canAttempt host.monotonic s' policy).1 = true then some s'
          else none) = some s at hs
        obtain ⟨rfl, hadmits⟩ := CircuitBreaker.admits_of_canAttempt hs
        change ((L.shared.circuits.canAttempt host.monotonic s' policy).2.stateOf s').state ≠ _
        rw [CircuitBreaker.stateOf_canAttempt, if_pos rfl]
        exact CircuitState.checked_ne_opened hadmits
    | _ =>
        have hadmitted : admitted = some s := hs
        exact h i c s (by rw [hadmitted])

/-- No request is sent to a service whose circuit is open. -/
theorem not_opened_of_sending {L : MeshLoop}
    (h : Invariant (fun _ ↦ admissionProtocol) AdmissionInvariant L) {call : MeshCall} {s : ServiceKey}
    {outgoing : UpstreamRequest} (hnext : nextOp L = some (call, .upstream s outgoing)) :
    (L.shared.circuits.stateOf s).state ≠ .opened := by
  obtain ⟨st, hfollow, hJ⟩ := h
  unfold nextOp at hnext
  split at hnext
  · rename_i htask
    cases hnext
    obtain ⟨i, hcurrent, htask⟩ := Option.bind_eq_some_iff.mp htask
    have hadmitted : st i = some s := (hfollow i call _ htask).1
    refine hJ i call s ?_
    rw [running, hcurrent, Option.bind_some, htask, Option.map_some, hadmitted]
  · cases hnext

/-! ## The first request after an opening -/

/-- The step records an outcome of a service, or resets its circuit. -/
def settles (s : ServiceKey) (x : MeshEntry) : Bool :=
  match x.obs with
  | .did _ ⟨.success s', _⟩ => s' = s
  | .did _ ⟨.failure s' _, _⟩ => s' = s
  | .acted (.reset s') => s' = s
  | _ => false

/-- Whether the circuit of a service has been open, and no outcome of it was recorded since. -/
def openedSince (s : ServiceKey) (history : List MeshEntry) : Bool :=
  history.foldl
    (fun opened x ↦ !settles s x && (opened || (x.before.circuits.stateOf s).state = .opened)) false

theorem openedSince_append (s : ServiceKey) (history : List MeshEntry) (x : MeshEntry) :
    openedSince s (history ++ [x]) =
      (!settles s x &&
        (openedSince s history || (x.before.circuits.stateOf s).state = .opened)) := by
  rw [openedSince, List.foldl_append]
  rfl

/-- After an opening, requests are sent while the circuit is half-open. -/
def SendsHalfOpen (s : ServiceKey) (history : List MeshEntry) : Prop :=
  ∀ pre x suf, history = pre ++ x :: suf → ∀ i outgoing, x.obs = .issued i (.upstream s outgoing) →
    openedSince s pre = true → (x.before.circuits.stateOf s).state = .halfOpen

theorem SendsHalfOpen.append {s : ServiceKey} {history : List MeshEntry} {x : MeshEntry}
    (h : SendsHalfOpen s history)
    (hx : ∀ i outgoing, x.obs = .issued i (.upstream s outgoing) → openedSince s history = true →
      (x.before.circuits.stateOf s).state = .halfOpen) : SendsHalfOpen s (history ++ [x]) := by
  intro pre y suf e i outgoing hy
  rcases List.eq_nil_or_concat suf with rfl | ⟨suf', z, rfl⟩
  · obtain ⟨rfl, e'⟩ := List.append_inj' e rfl
    cases e'
    exact hx i outgoing hy
  · rw [List.concat_eq_append, ← List.cons_append, ← List.append_assoc] at e
    obtain ⟨rfl, -⟩ := List.append_inj' e rfl
    exact h pre y suf' rfl i outgoing hy

/-- A circuit that has been open closes only with an outcome. -/
def OpeningInvariant (s : ServiceKey) (state : MeshState) (history : List MeshEntry)
    (running : Running MeshCall (Option ServiceKey)) : Prop :=
  AdmissionInvariant state history running ∧ SendsHalfOpen s history ∧
    (openedSince s history = true → (state.circuits.stateOf s).state ≠ .closed)

/-- A step that sends no request to the service keeps the history, and a step that leaves the
circuit open or half-open, unless it records an outcome, the rest. -/
theorem OpeningInvariant.record {s : ServiceKey} {L : MeshLoop}
    {running : Running MeshCall (Option ServiceKey)} {state : MeshState}
    (h : OpeningInvariant s L.shared L.history running) (o : Obs MeshCall MeshAct MeshOp MeshOp.Ans)
    (ho : ∀ i outgoing, o ≠ .issued i (.upstream s outgoing))
    (hstate : settles s ⟨L.shared, o⟩ = false → (L.shared.circuits.stateOf s).state ≠ .closed →
      (state.circuits.stateOf s).state ≠ .closed) :
    SendsHalfOpen s (L.record o) ∧
      (openedSince s (L.record o) = true → (state.circuits.stateOf s).state ≠ .closed) := by
  refine ⟨h.2.1.append fun i outgoing e ↦ absurd e (ho i outgoing), fun hopened ↦ ?_⟩
  rw [Loop.record, openedSince_append, Bool.and_eq_true, Bool.not_eq_true', Bool.or_eq_true,
    decide_eq_true_iff] at hopened
  obtain ⟨hsettles, hopened | hopened⟩ := hopened
  · exact hstate hsettles (h.2.2 hopened)
  · exact hstate hsettles (by rw [hopened]; decide)

theorem CircuitState.checked_ne_closed {c : CircuitState} (h : c.state ≠ .closed) (now : ℚ)
    (policy : MeshPolicy) : (c.checked now policy).state ≠ .closed := by
  unfold checked
  split
  · rintro ⟨⟩
  · exact h

/-- An operation that records no outcome does not close a circuit. -/
theorem perform_ne_closed {s : ServiceKey} {state : MeshState} {i : ℕ} {o : MeshOp} (host : Host)
    {a : MeshOp.Ans o} (hsettles : settles s ⟨state, .did i ⟨o, a⟩⟩ = false)
    (hs : (state.circuits.stateOf s).state ≠ .closed) :
    ((MeshEngine.perform host state o).2.circuits.stateOf s).state ≠ .closed := by
  cases o with
  | success s' =>
      have hne : ¬ s = s' := fun e ↦ of_decide_eq_false hsettles e.symm
      change ((state.circuits.success s').stateOf s).state ≠ .closed
      rwa [CircuitBreaker.stateOf_success, if_neg hne]
  | failure s' policy =>
      have hne : ¬ s = s' := fun e ↦ of_decide_eq_false hsettles e.symm
      change ((state.circuits.failure host.monotonic s' policy).stateOf s).state ≠ .closed
      rwa [CircuitBreaker.stateOf_failure, if_neg hne]
  | canAttempt s' policy =>
      change ((state.circuits.canAttempt host.monotonic s' policy).2.stateOf s).state ≠ .closed
      rw [CircuitBreaker.stateOf_canAttempt]
      split
      · rename_i e
        exact CircuitState.checked_ne_closed (e ▸ hs) host.monotonic policy
      · exact hs
  | _ => exact hs

theorem openingInvariant_preserved (s : ServiceKey) :
    Preserved (ε := Fault) (α := MeshResolution ⊕ InvokeResult) meshRuntime MeshAct.effect
      (fun _ ↦ admissionProtocol) (fun _ ↦ none) (OpeningInvariant s) fun _ _ ↦ True where
  spawn L c hC h :=
    ⟨admissionInvariant_preserved.spawn L c hC h.1, h.record _ (by rintro _ _ ⟨⟩) fun _ hs ↦ hs⟩
  ended L i c t h :=
    ⟨admissionInvariant_preserved.ended L i c t h.1, h.record _ (by rintro _ _ ⟨⟩) fun _ hs ↦ hs⟩
  act L x hC h := by
    refine ⟨admissionInvariant_preserved.act L x hC h.1, h.record _ (by rintro _ _ ⟨⟩) ?_⟩
    intro hsettles hs
    obtain ⟨s'⟩ := x
    have hne : ¬ s = s' := fun e ↦ of_decide_eq_false hsettles e.symm
    change ((L.shared.circuits.reset s').stateOf s).state ≠ .closed
    rwa [CircuitBreaker.stateOf_reset, if_neg hne]
  issue L host i c admitted o k hcurrent htask hC ho hallow h := by
    refine ⟨admissionInvariant_preserved.issue L host i c admitted o k hcurrent htask hC ho hallow
      h.1, h.2.1.append ?_, fun hopened ↦ ?_⟩
    · -- the breaker has just admitted the call
      rintro _ outgoing ⟨⟩ hopened
      have hadmitted : admitted = some s := hallow
      have hnot := h.1 i c s (by rw [hadmitted])
      have hclosed := h.2.2 hopened
      show (L.shared.circuits.stateOf s).state = .halfOpen
      cases hstate : (L.shared.circuits.stateOf s).state with
      | closed => exact absurd hstate hclosed
      | opened => exact absurd hstate hnot
      | halfOpen => rfl
    · rw [Loop.record, openedSince_append, Bool.and_eq_true, Bool.or_eq_true,
        decide_eq_true_iff] at hopened
      rcases hopened.2 with hopened | hopened
      · exact h.2.2 hopened
      · rw [show (L.shared.circuits.stateOf s).state = .opened from hopened]
        decide
  deliver L host i c admitted o k htask hC ho hallow h := by
    refine ⟨admissionInvariant_preserved.deliver L host i c admitted o k htask hC ho hallow h.1,
      h.record _ (by rintro _ _ ⟨⟩) fun _ hs ↦ ?_⟩
    cases o with
    | registry _ _ => exact hs
    | publish _ _ => exact hs
    | upstream _ _ => exact hs
    | _ => cases ho
  perform L host i c admitted o k hcurrent htask hC ho hallow h := by
    refine ⟨admissionInvariant_preserved.perform L host i c admitted o k hcurrent htask hC ho hallow
      h.1, h.record _ (by rintro _ _ ⟨⟩) fun hsettles hs ↦ ?_⟩
    exact perform_ne_closed host hsettles hs

/-- The first request that is sent to a service after its circuit has opened is its probe, unless
another one is in flight: it finds the circuit half-open. -/
theorem probe_of_sending (py : Builtins) (cfg : MeshConfig) (s₀ : MeshState)
    {labels : List MeshLabel} {L : MeshLoop}
    (hrun : (meshStep py cfg).run (Loop.init s₀) labels = some L) {s : ServiceKey}
    {pre suf : List MeshEntry} {x : MeshEntry} (hsplit : L.history = pre ++ x :: suf) {i : ℕ}
    {outgoing : UpstreamRequest} (hx : x.obs = .issued i (.upstream s outgoing))
    (hopened : openedSince s pre = true) :
    probe s (pre ++ [x]) = some ((probe s pre).getD i) := by
  have hinit : Invariant (fun _ ↦ admissionProtocol) (OpeningInvariant s)
      (Loop.init s₀ : MeshLoop) := by
    refine Invariant.init none ⟨by rintro _ _ _ ⟨⟩, fun pre x suf e ↦ ?_, by rintro ⟨⟩⟩
    cases pre <;> cases e
  obtain ⟨_, _, -, hsends, -⟩ : Invariant (fun _ ↦ admissionProtocol) (OpeningInvariant s) L :=
    Reachable.invariant (M := meshStep py cfg)
      (fun L l L' hL hstep ↦
        hL.step (call_admission py cfg) (openingInvariant_preserved s) trivial hstep)
      ⟨labels, hrun⟩ hinit
  have hhalf := hsends pre x suf hsplit i outgoing hx hopened
  rw [probe_append, probeStep, hx]
  dsimp only
  cases hprobe : probe s pre with
  | none => rw [if_pos ⟨rfl, hhalf, rfl⟩]; rfl
  | some j => rw [if_neg (by rintro ⟨-, -, ⟨⟩⟩)]; rfl

end EstateMesh
