import EstateMesh.Mesh.Attempts
import EstateMesh.Mesh.Telemetry

/-!
# What a resolution says of an invocation

`resolve` asks the breaker about every candidate before it selects one, and
`invoke` asks about a candidate when it comes to it.  Both questions change the
breaker, but at a fixed reading of the clock a question does not change the
answer to any other (`Alike`), so the two agree: the first candidate that is
admitted is the one that is selected and the one that is called.

They agree as long as the invocation gets to its candidates.  It publishes an
event before, and one after if it has nobody to call, and an exception there that
is not an `HTTPError` ends it before it has done what the resolution says.
-/

namespace EstateMesh

open Lib Prog

/-! ## Admission -/

/-- The key under which the breaker has the service of a candidate. -/
def candidateKey (candidate : Value) : Except PyError ServiceKey :=
  (MeshEngine.candidateService candidate).map Service.key

theorem candidateKey_eq {candidate : Value} {service : Service}
    (h : MeshEngine.candidateService candidate = .ok service) :
    candidateKey candidate = .ok service.key := by
  rw [candidateKey, h]
  rfl

/-- Whether the breaker lets a request through to a candidate. -/
def CircuitBreaker.admits (b : CircuitBreaker) (now : ℚ) (policy : MeshPolicy)
    (candidate : Value) : Bool :=
  match candidateKey candidate with
  | .ok s => (b.stateOf s).admits now policy
  | .error _ => false

/-- Two breakers let the same requests through at a reading of the clock. -/
def Alike (now : ℚ) (policy : MeshPolicy) (b b' : CircuitBreaker) : Prop :=
  ∀ s, (b'.stateOf s).admits now policy = (b.stateOf s).admits now policy

theorem CircuitState.admits_checked (c : CircuitState) (now : ℚ) (policy : MeshPolicy) :
    (c.checked now policy).admits now policy = c.admits now policy := by
  unfold checked
  split
  · rename_i h
    rw [h.2]
    exact admits_of_ne_opened (by rintro ⟨⟩) now policy
  · rfl

/-- A check changes no answer at the same reading of the clock. -/
theorem Alike.canAttempt {now : ℚ} {policy : MeshPolicy} {b b' : CircuitBreaker}
    (h : Alike now policy b b') (s : ServiceKey) :
    Alike now policy b (b'.canAttempt now s policy).2 := by
  intro s'
  rw [CircuitBreaker.stateOf_canAttempt]
  split
  · rename_i e
    rw [CircuitState.admits_checked, e, h s]
  · exact h s'

/-! ## A fixed clock -/

section Frozen

variable {now : ℚ} {answer : Except HttpxError Response} {hosts : ℕ → Host}
  {b : CircuitBreaker} {policy : MeshPolicy}

section Asking

variable {α : Type} (cfg : MeshConfig) (supplied : Option String) (capabilityId : String)
  (request : String → ResolveRequest) (serve : String → MeshPolicy → List Value → MeshM α)
  (s : MeshState)

end Asking

/-! ## Before the first request -/

/-- The publications before the first request to a provider go unnoticed. -/
def EarlyUnnoticed (t : List (Performed MeshOp MeshOp.Ans)) : Prop :=
  ∀ x ∈ t.takeWhile fun x ↦ !isUpstream x, isUnnoticed x = true

theorem requestsSent_append (t t' : List (Performed MeshOp MeshOp.Ans)) :
    requestsSent (t ++ t') = requestsSent t + requestsSent t' := List.countP_append

theorem requestsSent_eq_zero {t : List (Performed MeshOp MeshOp.Ans)} :
    requestsSent t = 0 ↔ ∀ x ∈ t, isUpstream x = false := by
  rw [requestsSent, List.countP_eq_zero]
  exact forall₂_congr fun x _ ↦ by rw [Bool.not_eq_true]

theorem earlyUnnoticed_append {t t' : List (Performed MeshOp MeshOp.Ans)}
    (hnone : requestsSent t = 0) :
    EarlyUnnoticed (t ++ t') ↔ (∀ x ∈ t, isUnnoticed x = true) ∧ EarlyUnnoticed t' := by
  have hall : ∀ x ∈ t, (!isUpstream x) = true := by
    intro x hx
    rw [requestsSent_eq_zero.mp hnone x hx]
    rfl
  unfold EarlyUnnoticed
  rw [List.takeWhile_append_of_pos hall, List.forall_mem_append]

theorem earlyUnnoticed_upstream {serviceId : ServiceKey} {outgoing : UpstreamRequest}
    {answer : Except HttpxError Response} (t : List (Performed MeshOp MeshOp.Ans)) :
    EarlyUnnoticed (⟨.upstream serviceId outgoing, answer⟩ :: t) := List.forall_mem_nil _

/-- The operations that are neither requests nor publications. -/
def MeshOp.isSilent : MeshOp → Bool
  | .publish _ _ | .upstream _ _ => false
  | _ => true

theorem silent {t : List (Performed MeshOp MeshOp.Ans)} (h : ∀ x ∈ t, x.1.isSilent = true) :
    requestsSent t = 0 ∧ ∀ x ∈ t, isUnnoticed x = true := by
  rw [requestsSent_eq_zero, ← forall₂_and]
  rintro ⟨o, a⟩ hx
  have ho := h _ hx
  cases o with
  | publish _ _ => cases ho
  | upstream _ _ => cases ho
  | _ => exact ⟨rfl, rfl⟩

theorem MeshOp.IsPreliminary.isSilent {o : MeshOp} (h : o.IsPreliminary) : o.isSilent = true := by
  cases o with
  | publish _ _ => cases h
  | upstream _ _ => cases h
  | _ => rfl

/-- Every candidate names its service by something that the breaker can look up. -/
def Keyed (candidates : List Value) : Prop :=
  ∀ candidate ∈ candidates, ∃ service, MeshEngine.candidateService candidate = .ok service

theorem CircuitBreaker.admits_eq {candidate : Value} {service : Service}
    (h : MeshEngine.candidateService candidate = .ok service) :
    b.admits now policy candidate = (b.stateOf service.key).admits now policy := by
  rw [CircuitBreaker.admits, candidateKey_eq h]

section Loops

variable {candidates : List Value} {s : ℕ × MeshState}

variable {py : Builtins} {cfg : MeshConfig} {request : InvokeRequest} {correlationId : String}

/-- Where a candidate is called for a path. -/
def candidateUrl (path : String) (candidate : Value) : Except PyError String := do
  MeshEngine.targetUrl (← candidate.getItem "endpoint") path

/-- The first request of a list of operations goes to a candidate. -/
def CallsFirst (candidate : Value) (path : String) (t : List (Performed MeshOp MeshOp.Ans)) :
    Prop :=
  ∃ before key outgoing answer after,
    t = before ++ ⟨.upstream key outgoing, answer⟩ :: after ∧ requestsSent before = 0 ∧
      candidateKey candidate = .ok key ∧ candidateUrl path candidate = .ok outgoing.url

theorem CallsFirst.prepend {candidate : Value} {path : String}
    {t t' : List (Performed MeshOp MeshOp.Ans)} (h : CallsFirst candidate path t')
    (hnone : requestsSent t = 0) : CallsFirst candidate path (t ++ t') := by
  obtain ⟨before, key, outgoing, answer, after, rfl, hbefore, h⟩ := h
  refine ⟨t ++ before, key, outgoing, answer, after, (List.append_assoc _ _ _).symm, ?_, h⟩
  rw [requestsSent_append, hnone, hbefore]

theorem CallsFirst.checked {candidate : Value} {path : String} {x : Performed MeshOp MeshOp.Ans}
    {t : List (Performed MeshOp MeshOp.Ans)} (hx : x.1.isSilent = true)
    (h : CallsFirst candidate path t ∧ EarlyUnnoticed t) :
    EarlyUnnoticed (x :: t) ∧ CallsFirst candidate path (x :: t) := by
  obtain ⟨hnone, hunnoticed⟩ := silent (List.forall_mem_singleton.mpr hx)
  exact ⟨(earlyUnnoticed_append hnone).mpr ⟨hunnoticed, h.2⟩, h.1.prepend hnone⟩

theorem CallsFirst.append {candidate : Value} {path : String}
    {t : List (Performed MeshOp MeshOp.Ans)} (h : CallsFirst candidate path t)
    (hearly : EarlyUnnoticed t) (t' : List (Performed MeshOp MeshOp.Ans)) :
    EarlyUnnoticed (t ++ t') ∧ CallsFirst candidate path (t ++ t') := by
  obtain ⟨before, key, outgoing, answer, after, rfl, hnone, h⟩ := h
  have happend : before ++ ⟨.upstream key outgoing, answer⟩ :: after ++ t' =
      before ++ ⟨.upstream key outgoing, answer⟩ :: (after ++ t') := List.append_assoc _ _ _
  rw [happend]
  refine ⟨(earlyUnnoticed_append hnone).mpr ⟨?_, earlyUnnoticed_upstream _⟩, ?_⟩
  · exact ((earlyUnnoticed_append hnone).mp hearly).1
  · exact ⟨before, key, outgoing, answer, after ++ t', rfl, hnone, h⟩

end Loops

/-! ## Both calls -/

/-- Every candidate is reported as passed over. -/
def AllSkipped (capabilityId : String) (candidates : List Value)
    (t : List (Performed MeshOp MeshOp.Ans)) : Prop :=
  ∃ services, candidates.mapM MeshEngine.candidateService = .ok services ∧
    .gaveUp (.object [("capability_id", .str capabilityId),
      ("attempts", .list (services.map fun service ↦
        (Attempt.openCircuitSkip service.id).toValue)),
      ("reason", .str "all providers exhausted")]) ∈ t.filterMap note

/-- What serving a list of candidates comes to. -/
def Arrives (admits : Value → Bool) (path capabilityId : String) (candidates : List Value)
    (t : List (Performed MeshOp MeshOp.Ans)) (r : Except Fault InvokeResult) : Prop :=
  match candidates.filter admits with
  | [] => requestsSent t = 0 ∧ (EarlyUnnoticed t ∧ AllSkipped capabilityId candidates t ∧
        r = .error (.mesh 502 "all mesh providers exhausted") ∨
      ¬ EarlyUnnoticed t ∧ ∃ e, r = .error (.httpx e))
  | selected :: _ =>
      match candidateUrl path selected with
      | .ok _ => EarlyUnnoticed t ∧ CallsFirst selected path t ∨
          ¬ EarlyUnnoticed t ∧ requestsSent t = 0 ∧ ∃ e, r = .error (.httpx e)
      | .error _ => ∃ fault, r = .error fault ∧ IsForeign fault

/-- Operations that nobody notices change nothing of that. -/
theorem Arrives.prepend {admits : Value → Bool} {path capabilityId : String}
    {candidates : List Value} {t t' : List (Performed MeshOp MeshOp.Ans)}
    {r : Except Fault InvokeResult} (h : Arrives admits path capabilityId candidates t' r)
    (hnone : requestsSent t = 0) (hunnoticed : ∀ x ∈ t, isUnnoticed x = true) :
    Arrives admits path capabilityId candidates (t ++ t') r := by
  have hearly : EarlyUnnoticed (t ++ t') ↔ EarlyUnnoticed t' := by
    rw [earlyUnnoticed_append hnone, and_iff_right hunnoticed]
  unfold Arrives at h ⊢
  rw [hearly, requestsSent_append, hnone, Nat.zero_add]
  split at h
  · refine h.imp_right (Or.imp_left ?_)
    rintro ⟨he, ⟨services, hservices, hmem⟩, hr⟩
    refine ⟨he, ⟨services, hservices, ?_⟩, hr⟩
    rw [List.filterMap_append]
    exact List.mem_append_right _ hmem
  · split at h
    · exact h.imp_left fun h ↦ ⟨h.1, h.2.prepend hnone⟩
    · exact h

section Serving

variable {candidates : List Value} {n : ℕ} {s : MeshState} {py : Builtins} {cfg : MeshConfig}
  {request : InvokeRequest} {correlationId : String}

end Serving

end Frozen

theorem Offers.unique {answer : Except HttpxError Response} {offered offered' : List Value}
    (h : Offers answer offered) (h' : Offers answer offered') : offered' = offered := by
  obtain ⟨response, entries, rfl, -, hjson, hlist⟩ := h
  obtain ⟨_, _, ⟨⟩, -, hjson', hlist'⟩ := h'
  cases hjson.symm.trans hjson'
  cases hlist.symm.trans hlist'
  rfl

theorem AllSkipped.keyed {capabilityId : String} {candidates : List Value}
    {t : List (Performed MeshOp MeshOp.Ans)} (h : AllSkipped capabilityId candidates t) :
    Keyed candidates := by
  obtain ⟨services, hservices, -⟩ := h
  exact exists_of_mapM_eq_ok hservices

section Predicts

variable {request : InvokeRequest} {answer : Except HttpxError Response} {admits : Value → Bool}
  {offered : List Value} {t : List (Performed MeshOp MeshOp.Ans)}
  {r : Except Fault InvokeResult}

end Predicts

end EstateMesh
