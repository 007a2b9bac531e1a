import EstateMesh.Mesh.Engine

/-!
# What a call has done before it sends

The facts about an invocation that matter when it sends a request to a provider
are few: which identifier it minted, when it last read the clock, and which
service the breaker has just admitted.  `callProtocol` is the automaton that
keeps them.  It allows a request to a provider only for the admitted service and
only with the headers that belong to the invocation, and it forgets the admitted
service at every await, because other calls may run there.

Both calls of the engine follow the protocol (`call_follows`), whatever they are
answered.
-/

namespace EstateMesh

open Lib Prog

/-- The calls of the engine. -/
inductive MeshCall
  | resolve (request : ResolveRequest)
  | invoke (request : InvokeRequest)

/-- The program that serves a call. -/
def MeshCall.program (py : Builtins) (cfg : MeshConfig) :
    MeshCall → MeshM (MeshResolution ⊕ InvokeResult)
  | .resolve request => Sum.inl <$> MeshEngine.resolve cfg request
  | .invoke request => Sum.inr <$> MeshEngine.invoke py cfg request

/-- What a call has done so far. -/
structure Progress where
  /-- The first identifier it minted. -/
  minted : Option String := none
  /-- Its last reading of the wall clock. -/
  now : Option ℚ := none
  /-- The service that the breaker admitted, until the next await or check. -/
  admitted : Option ServiceKey := none

namespace Progress

/-- The progress after an operation and its answer. -/
def next (p : Progress) : (o : MeshOp) → MeshOp.Ans o → Progress
  | .uuid, u => { p with minted := p.minted.or (some u) }
  | .time, t => { p with now := some t }
  | .canAttempt s _, answer => { p with admitted := if answer = true then some s else none }
  | .registry _ _, _ | .publish _ _, _ | .upstream _ _, _ => { p with admitted := none }
  | _, _ => p

/-- The progress of a call that has performed these operations. -/
def of (t : List (Performed MeshOp MeshOp.Ans)) : Progress :=
  t.foldl (fun p x ↦ p.next x.1 x.2) {}

end Progress

/-- The correlation id of an invocation that minted an identifier. -/
def InvokeRequest.correlation (request : InvokeRequest) (minted : Option String) : String :=
  if request.correlationId.getD "" = "" then "GA-MESH-RUN-" ++ minted.getD ""
  else request.correlationId.getD ""

/-- The headers of an invocation: those of the request, overwritten by those that
identify the caller. -/
def InvokeRequest.upstreamHeaders (py : Builtins) (cfg : MeshConfig) (request : InvokeRequest)
    (correlationId : String) (now : ℚ) (url : String) : Dict String String :=
  request.headers.update
    (MeshEngine.identityHeaders py cfg request.callerService correlationId
      (toString (truncate now)) request.method url)

section Protocol

variable (py : Builtins) (cfg : MeshConfig)

/-- The protocol of a call. -/
def callProtocol (call : MeshCall) : Protocol MeshOp MeshOp.Ans Progress where
  allows
    | p, .upstream s outgoing =>
        p.admitted = some s ∧ ∃ request now, call = .invoke request ∧ p.now = some now ∧
          outgoing.headers = request.upstreamHeaders py cfg (request.correlation p.minted) now
            outgoing.url
    | _, _ => True
  next := Progress.next

theorem callProtocol_after (call : MeshCall) (t : List (Performed MeshOp MeshOp.Ans)) :
    (callProtocol py cfg call).after {} t = Progress.of t := by
  suffices ∀ p : Progress, (callProtocol py cfg call).after p t =
      t.foldl (fun p x ↦ p.next x.1 x.2) p from this {}
  intro p
  induction t generalizing p with
  | nil => rfl
  | cons x t ih => exact ih (p.next x.1 x.2)

/-- An invocation under way: its correlation id is settled. -/
def UnderWay (request : InvokeRequest) (correlationId : String) (p : Progress) : Prop :=
  request.correlation p.minted = correlationId

variable {py cfg} {request : InvokeRequest} {correlationId : String}

theorem follows_lift {α : Type} {call : MeshCall} {x : Except PyError α} {st : Progress}
    {post : Progress → Except Fault α → Prop} (hok : ∀ a, x = .ok a → post st (.ok a))
    (herror : ∀ e, x = .error e → post st (.error (.python e))) :
    Follows (callProtocol py cfg call) (MeshM.lift x) st post := by
  cases x with
  | ok a => exact hok a rfl
  | error e => exact herror e rfl

theorem publishEvent_follows (event : MeshEvent) {st : Progress}
    (h : UnderWay request correlationId st) :
    Follows (callProtocol py cfg (.invoke request)) (MeshEngine.publishEvent cfg event) st
      fun st' _ ↦ UnderWay request correlationId st' := by
  unfold MeshEngine.publishEvent
  split
  · exact h
  · simp only [perform_bind, follows_op]
    refine ⟨trivial, fun answer ↦ ?_⟩
    cases answer with
    | ok response => exact h
    | error e =>
        simp only
        split <;> exact h

variable {policy : MeshPolicy} {service : Service} {url : String}

theorem handleResponse_follows (n : ℕ) (attempts : List Attempt) (started : ℚ)
    (response : Response) {st : Progress} (h : UnderWay request correlationId st) :
    Follows (callProtocol py cfg (.invoke request))
      (MeshEngine.handleResponse py cfg request policy correlationId service url n attempts
        started response) st fun st' _ ↦ UnderWay request correlationId st' := by
  unfold MeshEngine.handleResponse
  simp only [perform_bind, follows_op]
  refine ⟨trivial, fun finished ↦ ?_⟩
  split
  · refine ⟨trivial, fun _ ↦ ⟨trivial, fun event ↦ ?_⟩⟩
    dsimp only
    rw [follows_bind]
    apply Follows.mono (publishEvent_follows event h)
    intro st' r h'
    cases r with
    | error _ => exact h'
    | ok _ =>
        cases hbody : MeshEngine.capturedBody py cfg response <;> exact h'
  · exact ⟨trivial, fun _ ↦ h⟩

theorem handleFault_follows (n : ℕ) (attempts : List Attempt) (fault : Fault)
    {st : Progress} (h : UnderWay request correlationId st) :
    Follows (callProtocol py cfg (.invoke request))
      (MeshEngine.handleFault policy service n attempts fault) st
      fun st' _ ↦ UnderWay request correlationId st' := by
  cases fault with
  | mesh _ _ => exact h
  | python _ => exact h
  | body _ => exact h
  | httpx e =>
      simp only [MeshEngine.handleFault]
      split
      · exact ⟨trivial, fun _ ↦ h⟩
      · exact h

/-- An attempt reads the clock and sends its request at once, while the service is
still admitted. -/
theorem attemptOnce_follows (n : ℕ) (attempts : List Attempt) {st : Progress}
    (h : UnderWay request correlationId st) (hs : st.admitted = some service.key) :
    Follows (callProtocol py cfg (.invoke request))
      (MeshEngine.attemptOnce py cfg request policy correlationId service url n attempts) st
      fun st' _ ↦ UnderWay request correlationId st' := by
  unfold MeshEngine.attemptOnce
  simp only [perform_bind, follows_op]
  refine ⟨trivial, fun now ↦ ⟨trivial, fun started ↦ ?_⟩⟩
  rw [follows_tryCatch]
  refine ⟨⟨hs, request, now, rfl, rfl, ?_⟩, fun answer ↦ ?_⟩
  · change request.headers.update _ = _
    rw [← h]
    rfl
  · have hsent : UnderWay request correlationId
        ({ st with now := some now, admitted := none } : Progress) := h
    cases answer with
    | error e => exact handleFault_follows n attempts _ hsent
    | ok response =>
        apply Follows.mono (handleResponse_follows n attempts started response hsent)
        intro st' r h'
        cases r with
        | ok _ => exact h'
        | error fault => exact handleFault_follows n attempts fault h'

theorem attemptLoop_follows (ns : List ℕ) (attempts : List Attempt) {st : Progress}
    (h : UnderWay request correlationId st) (hs : st.admitted = some service.key) :
    Follows (callProtocol py cfg (.invoke request))
      (MeshEngine.attemptLoop py cfg request policy correlationId service url ns attempts) st
      fun st' _ ↦ UnderWay request correlationId st' := by
  induction ns generalizing attempts st with
  | nil => exact h
  | cons n ns ih =>
      unfold MeshEngine.attemptLoop
      rw [follows_bind]
      apply Follows.mono (attemptOnce_follows n attempts h hs)
      intro st' r h'
      cases r with
      | error _ => exact h'
      | ok outcome =>
          cases outcome with
          | inl result => exact h'
          | inr attempts' =>
              simp only [perform_bind, follows_op]
              refine ⟨trivial, fun answer ↦ ?_⟩
              cases answer with
              | false => exact h'
              | true => exact ih attempts' h' rfl

theorem candidateLoop_follows (candidates : List Value) (attempts : List Attempt)
    {st : Progress} (h : UnderWay request correlationId st) :
    Follows (callProtocol py cfg (.invoke request))
      (MeshEngine.candidateLoop py cfg request policy correlationId candidates attempts) st
      fun st' _ ↦ UnderWay request correlationId st' := by
  induction candidates generalizing attempts st with
  | nil => exact h
  | cons candidate candidates ih =>
      unfold MeshEngine.candidateLoop
      rw [follows_bind]
      apply follows_lift _ fun _ _ ↦ h
      intro service _
      simp only [perform_bind, follows_op]
      refine ⟨trivial, fun answer ↦ ?_⟩
      cases answer with
      | false => exact ih _ h
      | true =>
          simp only [if_pos]
          rw [follows_bind]
          apply follows_lift _ fun _ _ ↦ h
          intro url _
          have hnext : UnderWay request correlationId
              ({ st with admitted := some service.key } : Progress) := h
          dsimp only
          rw [follows_bind]
          apply Follows.mono (attemptLoop_follows _ attempts hnext rfl)
          intro st' r h'
          cases r with
          | error _ => exact h'
          | ok outcome =>
              cases outcome with
              | inl result => exact h'
              | inr attempts' => exact ih attempts' h'

/-! ## The calls -/

/-- Asking the registry keeps whatever an exchange with it keeps. -/
theorem registryCandidates_follows (call : MeshCall) (I : Progress → Prop)
    (resolveRequest : ResolveRequest) {st : Progress}
    (h : I { st with admitted := none }) :
    Follows (callProtocol py cfg call) (MeshEngine.registryCandidates cfg resolveRequest policy) st
      fun st' _ ↦ I st' := by
  unfold MeshEngine.registryCandidates
  simp only [perform_bind, follows_op]
  refine ⟨trivial, fun answer ↦ ?_⟩
  cases answer with
  | error e =>
      simp only
      split <;> exact h
  | ok response =>
      simp only
      split
      · exact h
      split
      · exact h
      split
      · exact h
      · rw [follows_bind]
        apply follows_lift _ fun _ _ ↦ h
        intro candidates _
        simp only
        split <;> exact h

theorem partitionCandidates_follows (call : MeshCall) (candidates eligible blocked : List Value)
    (st : Progress) :
    Follows (callProtocol py cfg call)
      (MeshEngine.partitionCandidates policy candidates eligible blocked) st
      fun _ _ ↦ True := by
  induction candidates generalizing eligible blocked st with
  | nil => trivial
  | cons candidate candidates ih =>
      unfold MeshEngine.partitionCandidates
      rw [follows_bind]
      apply follows_lift _ fun _ _ ↦ trivial
      intro serviceId _
      simp only [follows_bind]
      apply follows_lift _ fun _ _ ↦ trivial
      intro key _
      refine ⟨trivial, fun answer ↦ ?_⟩
      cases answer with
      | true => exact ih _ _ _
      | false => exact ih _ _ _

/-- The correlation id is minted first, or not at all. -/
theorem correlationId_follows (supplied : Option String) (call : MeshCall) :
    Follows (callProtocol py cfg call) (MeshEngine.correlationId supplied) {}
      fun st r ↦ ∃ minted, st = { minted := minted } ∧
        r = .ok (if supplied.getD "" = "" then "GA-MESH-RUN-" ++ minted.getD ""
          else supplied.getD "") := by
  unfold MeshEngine.correlationId
  split
  · exact ⟨trivial, fun u ↦ ⟨some u, rfl, rfl⟩⟩
  · exact ⟨none, rfl, rfl⟩

theorem resolve_follows (resolveRequest : ResolveRequest) :
    Follows (callProtocol py cfg (.resolve resolveRequest)) (MeshEngine.resolve cfg resolveRequest)
      {} fun _ _ ↦ True := by
  unfold MeshEngine.resolve
  rw [follows_bind]
  apply Follows.mono (correlationId_follows _ _)
  rintro st r ⟨minted, rfl, rfl⟩
  simp only [perform_bind, follows_op]
  refine ⟨trivial, fun policy ↦ ?_⟩
  rw [follows_bind]
  apply Follows.mono (registryCandidates_follows _ (fun _ ↦ True) resolveRequest trivial)
  intro st r _
  cases r with
  | error _ => trivial
  | ok candidates =>
      simp only [follows_bind]
      apply Follows.mono (partitionCandidates_follows _ candidates [] [] st)
      intro st r _
      cases r with
      | error _ => trivial
      | ok split =>
          obtain ⟨eligible, blocked⟩ := split
          cases eligible with
          | nil => exact ⟨trivial, fun _ ↦ trivial⟩
          | cons selected _ =>
              simp only [follows_bind]
              apply follows_lift _ fun _ _ ↦ trivial
              intro selectedService _
              exact ⟨trivial, fun _ ↦ trivial⟩

theorem obtainCandidates_follows :
    Follows (callProtocol py cfg (.invoke request)) (MeshEngine.obtainCandidates cfg request) {}
      fun st r ↦ ∀ corr policy candidates, r = .ok (corr, policy, candidates) →
        UnderWay request corr st := by
  unfold MeshEngine.obtainCandidates
  rw [follows_bind]
  apply Follows.mono (correlationId_follows _ _)
  rintro st r ⟨minted, rfl, rfl⟩
  simp only [perform_bind, follows_op]
  refine ⟨trivial, fun policy ↦ ?_⟩
  have hstart : UnderWay request (request.correlation minted)
      ({ minted := minted } : Progress) := rfl
  rw [follows_bind]
  apply Follows.mono (registryCandidates_follows _ (UnderWay request _) _ hstart)
  intro st r h
  cases r with
  | error _ => rintro _ _ _ ⟨⟩
  | ok candidates =>
      rintro corr _ _ ⟨⟩
      exact h

theorem serveCandidates_follows (candidates : List Value) {st : Progress}
    (h : UnderWay request correlationId st) :
    Follows (callProtocol py cfg (.invoke request))
      (MeshEngine.serveCandidates py cfg request policy correlationId candidates) st
      fun _ _ ↦ True := by
  unfold MeshEngine.serveCandidates
  rw [follows_bind]
  apply follows_lift _ fun _ _ ↦ trivial
  intro providers _
  simp only [perform_bind, follows_op]
  refine ⟨trivial, fun event ↦ ?_⟩
  rw [follows_bind]
  apply Follows.mono (publishEvent_follows event h)
  intro st r h
  cases r with
  | error _ => trivial
  | ok _ =>
      dsimp only
      rw [follows_bind]
      apply Follows.mono (candidateLoop_follows candidates [] h)
      intro st r h
      cases r with
      | error _ => trivial
      | ok outcome =>
          cases outcome with
          | inl result => trivial
          | inr attempts =>
              refine ⟨trivial, fun event ↦ ?_⟩
              rw [follows_bind]
              apply Follows.mono (publishEvent_follows event h)
              intro st r _
              cases r <;> trivial

theorem invoke_follows :
    Follows (callProtocol py cfg (.invoke request)) (MeshEngine.invoke py cfg request) {}
      fun _ _ ↦ True := by
  unfold MeshEngine.invoke
  rw [follows_bind]
  apply Follows.mono obtainCandidates_follows
  intro st r h
  cases r with
  | error _ => trivial
  | ok obtained => exact serveCandidates_follows _ (h _ _ _ rfl)

end Protocol

/-- Both calls follow the protocol. -/
theorem call_follows (py : Builtins) (cfg : MeshConfig) (call : MeshCall) :
    Follows (callProtocol py cfg call) (call.program py cfg) {} fun _ _ ↦ True := by
  cases call with
  | resolve request =>
      rw [MeshCall.program, map_eq_pure_bind, follows_bind]
      apply Follows.mono (resolve_follows request)
      intro st r _
      cases r <;> trivial
  | invoke request =>
      rw [MeshCall.program, map_eq_pure_bind, follows_bind]
      apply Follows.mono invoke_follows
      intro st r _
      cases r <;> trivial

end EstateMesh
