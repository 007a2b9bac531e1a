import EstateMesh.Lib.Fallible
import EstateMesh.Mesh.Failover

/-!
# The answers of the registry

Both calls of the engine ask the registry once and go on with the candidates that
it offers, or refuse.  What becomes of an answer does not depend on the call:
`registryOutcome` says it in one place.  The status of the answer is checked, and
so is that the candidates are a list with something in it; that the body is JSON,
that it is an object, and that a candidate says whose it is and where, is taken
for granted.  `IsClosedAnswer` names the answers for which nothing is amiss with
that.
-/

namespace EstateMesh

open Lib Prog

/-! ## What becomes of an answer -/

/-- What `_registry_candidates` makes of the end of its exchange. -/
def registryOutcome : Except HttpxError Response → Except Fault (List Value)
  | .error e =>
      if e.isHTTPError then .error (.mesh 503 ("registry unavailable: " ++ e.className))
      else .error (.httpx e)
  | .ok response =>
      if response.statusCode = 404 then .error (.mesh 404 "capability not registered")
      else if 400 ≤ response.statusCode then
        .error (.mesh 503 "no health-qualified runtime provider available")
      else
        match response.json with
        | .error e => .error (.python e)
        | .ok payload =>
            match payload.getD "candidates" (.list []) with
            | .error e => .error (.python e)
            | .ok (.list (c :: cs)) => .ok (c :: cs)
            | .ok _ => .error (.mesh 503 "registry returned no runtime candidates")

/-- What a call posts to the registry. -/
def registryQuery (request : ResolveRequest) (policy : MeshPolicy) : Value :=
  .object [("capability_id", .str request.capabilityId),
    ("environment", .str request.environment), ("allow_degraded", .bool policy.allowDegraded)]

/-- Asking the registry is one exchange and what becomes of its answer. -/
theorem registryCandidates_eq (cfg : MeshConfig) (request : ResolveRequest)
    (policy : MeshPolicy) :
    MeshEngine.registryCandidates cfg request policy =
      op (MeshOp.registry (cfg.registryUrl ++ "/v1/resolve") (registryQuery request policy))
        fun answer ↦ ofExcept (registryOutcome answer) := by
  rw [MeshEngine.registryCandidates, perform_bind, registryQuery]
  congr 1
  funext answer
  cases answer with
  | error e =>
      show (if _ then _ else _) = ofExcept (if _ then _ else _)
      split <;> rfl
  | ok response =>
      dsimp only [registryOutcome]
      split
      · rfl
      split
      · rfl
      cases response.json with
      | error e => rfl
      | ok payload =>
          dsimp only
          cases payload.getD "candidates" (.list []) with
          | error e => rfl
          | ok candidates =>
              cases candidates with
              | list cs => cases cs <;> rfl
              | _ => rfl

/-- The answer offers a list of candidates. -/
def Offers (answer : Except HttpxError Response) (candidates : List Value) : Prop :=
  ∃ response entries, answer = .ok response ∧ response.statusCode < 400 ∧
    response.json = .ok (.dict entries) ∧
    PyDict.getD entries "candidates" (.list []) = .list candidates

/-- The list that the engine goes on with is offered, and it is not empty. -/
theorem registryOutcome_eq_ok {answer : Except HttpxError Response} {candidates : List Value} :
    registryOutcome answer = .ok candidates ↔ Offers answer candidates ∧ candidates ≠ [] := by
  constructor
  · intro h
    cases answer with
    | error e =>
        dsimp only [registryOutcome] at h
        split at h <;> cases h
    | ok response =>
        dsimp only [registryOutcome] at h
        split at h
        · cases h
        split at h
        · cases h
        rename_i hstatus
        split at h
        · cases h
        · rename_i payload hjson
          cases payload with
          | dict entries =>
              dsimp only [Value.getD] at h
              split at h
              · cases h
              · rename_i c cs hcandidates
                cases h
                exact ⟨⟨response, entries, rfl, not_le.mp hstatus, hjson,
                  Except.ok.inj hcandidates⟩, List.cons_ne_nil c cs⟩
              · cases h
          | _ => cases h
  · rintro ⟨⟨response, entries, rfl, hstatus, hjson, hcandidates⟩, hne⟩
    obtain ⟨c, cs, rfl⟩ := List.exists_cons_of_ne_nil hne
    have hfound : ¬ response.statusCode = 404 := by omega
    simp only [registryOutcome, hfound, not_le.mpr hstatus, hjson, Value.getD, hcandidates,
      if_false]

/-- The operations by which a call obtains its candidates. -/
def MeshOp.IsPreliminary : MeshOp → Prop
  | .uuid | .getPolicy _ | .registry _ _ => True
  | _ => False

/-- Publishing an event performs publications only. -/
theorem publishEvent_performs {P : MeshOp → Prop} (hpublish : ∀ url event, P (.publish url event))
    (cfg : MeshConfig) (event : MeshEvent) : Performs P (MeshEngine.publishEvent cfg event) := by
  rw [MeshEngine.publishEvent]
  split
  · trivial
  · simp only [perform_bind]
    refine ⟨hpublish _ _, fun answer ↦ ?_⟩
    cases answer with
    | ok response => trivial
    | error e =>
        dsimp only
        split <;> trivial

/-- Raising what the decoder of a body raises performs nothing. -/
theorem performs_liftBody {α : Type} {P : MeshOp → Prop} (x : Except PyError α) :
    Performs P (MeshM.liftBody x) := by
  cases x <;> trivial

section Asking

variable {α : Type} (cfg : MeshConfig) (supplied : Option String) (capabilityId : String)
  (request : String → ResolveRequest) (serve : String → MeshPolicy → List Value → MeshM α)

/-- A call that obtains candidates and serves them. -/
def asking : MeshM α := do
  let correlationId ← MeshEngine.correlationId supplied
  let policy ← MeshM.getPolicy capabilityId
  let candidates ← MeshEngine.registryCandidates cfg (request correlationId) policy
  serve correlationId policy candidates

theorem correlationId_mints : Performs (· = .uuid) (MeshEngine.correlationId supplied) := by
  rw [MeshEngine.correlationId]
  split
  · exact ⟨rfl, fun _ ↦ trivial⟩
  · trivial

theorem correlationId_performs :
    Performs MeshOp.IsPreliminary (MeshEngine.correlationId supplied) :=
  (correlationId_mints supplied).mono fun _ h ↦ h ▸ trivial

/-- A call performs the preliminaries, and what it takes to serve the candidates. -/
theorem asking_performs {P : MeshOp → Prop} (hpreliminary : ∀ o, o.IsPreliminary → P o)
    (hserve : ∀ correlationId policy candidates, Performs P (serve correlationId policy candidates)) :
    Performs P (asking cfg supplied capabilityId request serve) := by
  rw [asking]
  refine performs_bind ((correlationId_performs supplied).mono hpreliminary) fun correlationId ↦ ?_
  simp only [perform_bind, registryCandidates_eq, op_bind]
  refine ⟨hpreliminary _ trivial, fun policy ↦ ⟨hpreliminary _ trivial, fun answer ↦ ?_⟩⟩
  dsimp only
  cases registryOutcome answer with
  | error fault => trivial
  | ok candidates => exact hserve correlationId policy candidates

theorem obtainCandidates_performs (request : InvokeRequest) :
    Performs MeshOp.IsPreliminary (MeshEngine.obtainCandidates cfg request) :=
  asking_performs cfg _ _ _ (fun correlationId policy candidates ↦
    pure (correlationId, policy, candidates)) (fun _ h ↦ h) fun _ _ _ ↦ trivial

/-- What the registry answers first. -/
def registryAnswer : List (Performed MeshOp MeshOp.Ans) → Option (Except HttpxError Response)
  | [] => none
  | ⟨.registry _ _, answer⟩ :: _ => some answer
  | _ :: t => registryAnswer t

theorem mem_of_registryAnswer {t : List (Performed MeshOp MeshOp.Ans)}
    {answer : Except HttpxError Response} (h : registryAnswer t = some answer) :
    ∃ url json, (⟨.registry url json, answer⟩ : Performed MeshOp MeshOp.Ans) ∈ t := by
  fun_induction registryAnswer t with
  | case1 => cases h
  | case2 url json answer' t =>
      cases h
      exact ⟨url, json, List.mem_cons_self⟩
  | case3 x t _ ih =>
      obtain ⟨url, json, hmem⟩ := ih h
      exact ⟨url, json, List.mem_cons_of_mem x hmem⟩

/-- Identifiers that are minted before the registry is asked make no difference. -/
theorem registryAnswer_append {t t' : List (Performed MeshOp MeshOp.Ans)}
    (h : ∀ x ∈ t, x.1 = .uuid) : registryAnswer (t ++ t') = registryAnswer t' := by
  induction t with
  | nil => rfl
  | cons x t ih =>
      obtain ⟨hx, hrest⟩ := List.forall_mem_cons.mp h
      obtain ⟨o, a⟩ := x
      cases hx
      exact ih hrest

variable {cfg supplied capabilityId request serve}

/-- The registry answers a call.  What it answers decides whether the call ends there,
having done nothing else, or goes on to serve the candidates. -/
theorem asking_trace {t : List (Performed MeshOp MeshOp.Ans)} {r : Except Fault α}
    (ht : Trace (asking cfg supplied capabilityId request serve) t r) :
    ∃ answer, registryAnswer t = some answer ∧
      match registryOutcome answer with
      | .error fault => r = .error fault ∧ ∀ x ∈ t, x.1.IsPreliminary
      | .ok candidates => ∃ correlationId policy t₁ t₂, t = t₁ ++ t₂ ∧
          (∀ x ∈ t₁, x.1.IsPreliminary) ∧ Trace (serve correlationId policy candidates) t₂ r := by
  rcases trace_bind.mp ht with ⟨correlationId, t₁, t₂, rfl, h₁, h₂⟩ | ⟨fault, h, -⟩
  · have huuid := (correlationId_mints supplied).of_trace h₁
    have hfirst := (correlationId_performs supplied).of_trace h₁
    simp only [perform_bind, registryCandidates_eq, op_bind] at h₂
    obtain ⟨policy, t₃, rfl, h₃⟩ := trace_op.mp h₂
    obtain ⟨answer, t₄, rfl, h₄⟩ := trace_op.mp h₃
    refine ⟨answer, registryAnswer_append huuid, ?_⟩
    generalize registryOutcome answer = outcome at h₄
    cases outcome with
    | error fault =>
        obtain ⟨rfl, rfl⟩ := trace_raise.mp h₄
        refine ⟨rfl, List.forall_mem_append.mpr ⟨hfirst, ?_⟩⟩
        exact List.forall_mem_cons.mpr ⟨trivial, List.forall_mem_singleton.mpr trivial⟩
    | ok candidates =>
        refine ⟨correlationId, policy, t₁ ++ [_, _], t₄, (List.append_assoc t₁ [_, _] t₄).symm, ?_, h₄⟩
        refine List.forall_mem_append.mpr ⟨hfirst, ?_⟩
        exact List.forall_mem_cons.mpr ⟨trivial, List.forall_mem_singleton.mpr trivial⟩
  · rw [MeshEngine.correlationId] at h
    split at h
    · obtain ⟨_, _, -, h'⟩ := trace_op.mp h
      cases h'
    · cases h

end Asking

/-- The operations of a resolution under a policy. -/
def MeshOp.Asks (policy : MeshPolicy) : MeshOp → Prop
  | .canAttempt _ policy' => policy' = policy
  | .uuid | .getPolicy _ | .registry _ _ | .emit _ _ _ => True
  | _ => False

/-- What `resolve` does with its candidates. -/
def routeCandidates (request : ResolveRequest) (correlationId : String) (policy : MeshPolicy)
    (candidates : List Value) : MeshM MeshResolution := do
  let (eligible, blocked) ← MeshEngine.partitionCandidates policy candidates [] []
  match eligible with
  | [] => do
      let _ ← MeshM.emit .routeBlocked correlationId
        (.object [("capability_id", .str request.capabilityId),
          ("blocked_by_open_circuit", .list blocked)])
      throw (.mesh 503 "all health-qualified providers are blocked by open circuits")
  | selected :: _ => do
      let selectedService ← MeshM.lift (MeshEngine.candidateId selected)
      let _ ← MeshM.emit .routeResolved correlationId
        (.object [("capability_id", .str request.capabilityId),
          ("environment", .str request.environment), ("selected_service", selectedService),
          ("candidate_count", .int eligible.length), ("open_circuit_skips", .list blocked)])
      pure
        { correlationId := correlationId
          capabilityId := request.capabilityId
          environment := request.environment
          selected := selected
          candidates := eligible
          policy := policy }

theorem partitionCandidates_asks {policy : MeshPolicy} (candidates eligible blocked : List Value) :
    Performs (MeshOp.Asks policy)
      (MeshEngine.partitionCandidates policy candidates eligible blocked) := by
  induction candidates generalizing eligible blocked with
  | nil => trivial
  | cons candidate candidates ih =>
      rw [MeshEngine.partitionCandidates]
      cases MeshEngine.candidateId candidate with
      | error e => trivial
      | ok id =>
          cases hkey : MeshEngine.serviceKey id with
          | error e =>
              simp only [MeshM.lift, ret_bind, hkey, raise_bind]
              trivial
          | ok key =>
              simp only [MeshM.lift, ret_bind, hkey, perform_bind]
              refine ⟨rfl, fun admitted ↦ ?_⟩
              cases admitted with
              | true => exact ih _ _
              | false => exact ih _ _

theorem routeCandidates_asks (request : ResolveRequest) (correlationId : String)
    (policy : MeshPolicy) (candidates : List Value) :
    Performs (MeshOp.Asks policy) (routeCandidates request correlationId policy candidates) := by
  rw [routeCandidates]
  refine performs_bind (partitionCandidates_asks candidates [] []) ?_
  rintro ⟨eligible, blocked⟩
  cases eligible with
  | nil => exact ⟨trivial, fun _ ↦ trivial⟩
  | cons selected rest =>
      cases hid : MeshEngine.candidateId selected with
      | error e =>
          simp only [hid, MeshM.lift, raise_bind]
          trivial
      | ok id =>
          simp only [hid, MeshM.lift, ret_bind]
          exact ⟨trivial, fun _ ↦ trivial⟩

theorem resolve_eq_asking (cfg : MeshConfig) (request : ResolveRequest) :
    MeshEngine.resolve cfg request =
      asking cfg request.correlationId request.capabilityId (fun _ ↦ request)
        (routeCandidates request) := rfl

/-- The request by which an invocation asks for providers. -/
def InvokeRequest.resolveRequest (request : InvokeRequest) (correlationId : Option String) :
    ResolveRequest where
  capabilityId := request.capabilityId
  environment := request.environment
  callerService := request.callerService
  correlationId := correlationId
  capabilityId_ne := request.capabilityId_ne
  environment_ne := request.environment_ne
  callerService_ne := request.callerService_ne

theorem invoke_eq_asking (py : Builtins) (cfg : MeshConfig) (request : InvokeRequest) :
    MeshEngine.invoke py cfg request =
      asking cfg request.correlationId request.capabilityId
        (fun correlationId ↦ request.resolveRequest (some correlationId))
        (fun correlationId policy candidates ↦
          MeshEngine.serveCandidates py cfg request policy correlationId candidates) := by
  simp only [MeshEngine.invoke, MeshEngine.obtainCandidates, asking, bind_assoc, pure_bind]
  rfl

end EstateMesh
