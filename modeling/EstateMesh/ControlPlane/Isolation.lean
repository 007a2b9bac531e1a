import EstateMesh.ControlPlane.Endpoints
import EstateMesh.Dispatch.Liveness
import EstateMesh.Dispatch.Logs
import EstateMesh.Resolver.NonInterference

/-!
# A harvest disturbs nothing

The evidence profile allows a harvest no destructive probe.  Of its probes, four change nothing;
the topology is read through a sweep of the live table, as anybody reads it, and the canary
leaves a record behind.  So the process that a harvest has probed and the one it has not, which
was asked for its topology at the same times, tell each other apart by their logs and by the
records of the canaries only, whatever traffic they serve meanwhile; and a canary that nobody
else touches is never executed (`harvest_disturbs_nothing`).
-/

namespace EstateMesh

open Lib Machine

/-! ## Resolvers up to their logs -/

namespace GlobalResolver

/-- Two resolvers have the same documents and the same live table. -/
structure SameLive (s t : GlobalResolver) : Prop where
  registries : t.registries = s.registries
  nodes : ∀ id, t.nodes.get? id = s.nodes.get? id

variable {r : Renderer} {py : Builtins} {s t u : GlobalResolver} {now : ℚ}

theorem SameLive.refl (s : GlobalResolver) : SameLive s s := ⟨rfl, fun _ ↦ rfl⟩

theorem SameLive.symm (h : SameLive s t) : SameLive t s :=
  ⟨h.registries.symm, fun id ↦ (h.nodes id).symm⟩

theorem SameLive.trans (h : SameLive s t) (h' : SameLive t u) : SameLive s u :=
  ⟨h'.registries.trans h.registries, fun id ↦ (h'.nodes id).trans (h.nodes id)⟩

theorem SameLive.sameBut (h : SameLive s t) (id : String) : SameBut id s t :=
  ⟨h.registries, fun id' _ ↦ h.nodes id'⟩

theorem SameLive.of_sameBut (h : ∀ id, SameBut id s t) : SameLive s t where
  registries := (h "").registries
  nodes id := by
    by_cases hid : id = ""
    · exact (h "ga://").nodes id (by rw [hid]; decide)
    · exact (h "").nodes id hid

/-- A call finds no difference. -/
theorem SameLive.step {label : ℚ × ResolverCall} (h : SameLive s u)
    (hstep : GlobalResolver.step r py s label = some t) :
    ∃ v, GlobalResolver.step r py u label = some v ∧ SameLive t v := by
  obtain ⟨v, hv, -⟩ := (h.sameBut "").kept hstep
  refine ⟨v, hv, .of_sameBut fun id ↦ ?_⟩
  obtain ⟨v', hv', hsame⟩ := (h.sameBut id).kept hstep
  cases hv.symm.trans hv'
  exact hsame

theorem sameLive_emit (s : GlobalResolver) (now : ℚ) (eventType : EstateEventType)
    (source : String) (payload : Value) : SameLive s (s.emit now eventType source payload).2 :=
  ⟨rfl, fun _ ↦ rfl⟩

/-- A reload replaces the documents, and looks at nothing else. -/
theorem SameLive.reloaded (h : SameLive s t) (root : RegistryRoot) :
    SameLive (s.reloaded root) (t.reloaded root) := by
  unfold GlobalResolver.reloaded
  cases load root with
  | error e => exact h
  | ok registries => exact ⟨rfl, h.nodes⟩

theorem SameLive.candidateNodes (h : SameLive s t) (capabilityId : String)
    (runtimePreference : List Value) (securityClass : Option String) :
    GlobalResolver.candidateNodes py t capabilityId runtimePreference securityClass =
      GlobalResolver.candidateNodes py s capabilityId runtimePreference securityClass := by
  simp only [GlobalResolver.candidateNodes, (h.sameBut "").index, candidateOf, h.nodes]

theorem SameLive.matchingRoutes (h : SameLive s t) (capabilityId : String)
    (source ioClass : Option String) :
    GlobalResolver.matchingRoutes py t capabilityId source ioClass =
      GlobalResolver.matchingRoutes py s capabilityId source ioClass := by
  simp only [GlobalResolver.matchingRoutes, (h.sameBut "").index]

theorem sameLive_of_resolve {params : ResolveParams} {resolution : Resolution}
    (h : s.resolve py now params = .ok (resolution, t)) : SameLive s t := by
  obtain ⟨-, -, hnodes, hregistries⟩ := resolve_eq_ok h
  exact ⟨hregistries, fun id ↦ by rw [hnodes]⟩

/-- What is resolved does not depend on the log. -/
theorem SameLive.resolve (h : SameLive s t) {params : ResolveParams} {resolution : Resolution}
    {s' : GlobalResolver} (hresolve : s.resolve py now params = .ok (resolution, s')) :
    ∃ t', t.resolve py now params = .ok (resolution, t') ∧ SameLive s' t' := by
  obtain ⟨x, hx, rfl⟩ := parts_of_resolve hresolve
  have hindex := (h.sameBut "").index py
  have hparts : Parts.Of py t params x := by
    refine ⟨(hindex .capabilities).symm ▸ hx.spec, ?_, hx.runtimePreference, ?_⟩
    · rw [h.matchingRoutes, hx.matching]
    · rw [h.candidateNodes, hx.found]
  obtain ⟨t', ht'⟩ := @resolve_of_parts py t now params x hparts
  exact ⟨t', ht', ((sameLive_of_resolve hresolve).symm.trans h).trans (sameLive_of_resolve ht')⟩

end GlobalResolver

/-! ## Fabrics up to their logs and some records -/

namespace DispatchFabric

variable {W : Type} {hidden : List String} {F F' G : DispatchFabric W} {now : ℚ} {id : String}

/-- Two fabrics are alike: what they differ in are their logs and the records of some
dispatches. -/
structure Alike (hidden : List String) (F G : DispatchFabric W) : Prop where
  resolver : GlobalResolver.SameLive F.resolver G.resolver
  executors : G.executors = F.executors
  records : ∀ id, id ∉ hidden → G.records.get? id = F.records.get? id

theorem Alike.refl (hidden : List String) (F : DispatchFabric W) : Alike hidden F F :=
  ⟨.refl _, rfl, fun _ _ ↦ rfl⟩

theorem Alike.symm (h : Alike hidden F G) : Alike hidden G F :=
  ⟨h.resolver.symm, h.executors.symm, fun id hid ↦ (h.records id hid).symm⟩

theorem Alike.trans (h : Alike hidden F F') (h' : Alike hidden F' G) : Alike hidden F G :=
  ⟨h.resolver.trans h'.resolver, h'.executors.trans h.executors,
    fun id hid ↦ (h'.records id hid).trans (h.records id hid)⟩

theorem Alike.get (h : Alike hidden F G) (hid : id ∉ hidden) : G.get id = F.get id := by
  rw [DispatchFabric.get, h.records id hid]
  rfl

theorem Alike.store (h : Alike hidden F G) (id : String) (record : DispatchRecord) :
    Alike hidden (F.store id record) (G.store id record) where
  resolver := h.resolver
  executors := h.executors
  records id' hid' := by
    show (G.records.set id record).get? id' = (F.records.set id record).get? id'
    rw [Dict.get?_set, Dict.get?_set, h.records id' hid']

/-- Reporting an event is writing to the logs. -/
theorem alike_emit (hidden : List String) (F : DispatchFabric W) (now : ℚ)
    (record : DispatchRecord) (payload : DispatchPayload) :
    Alike hidden F (F.emit now record payload) :=
  ⟨GlobalResolver.sameLive_emit _ _ _ _ _, rfl, fun _ _ ↦ rfl⟩

theorem Alike.emit (h : Alike hidden F G) (now : ℚ) (record : DispatchRecord)
    (payload : DispatchPayload) :
    Alike hidden (F.emit now record payload) (G.emit now record payload) :=
  ((alike_emit hidden F now record payload).symm.trans h).trans
    (alike_emit hidden G now record payload)

/-- A visible record is about to be executed. -/
theorem Alike.beginExecute (h : Alike hidden F G) (hid : id ∉ hidden) :
    (∃ e, F.beginExecute now id = .error e ∧ G.beginExecute now id = .error e) ∨
      ∃ executor F' G', F.beginExecute now id = .ok (executor, F') ∧
        G.beginExecute now id = .ok (executor, G') ∧ Alike hidden F' G' := by
  unfold DispatchFabric.beginExecute
  rw [h.get hid]
  cases F.get id with
  | error e => exact .inl ⟨e, rfl, rfl⟩
  | ok record =>
      dsimp only
      split
      · exact .inl ⟨_, rfl, rfl⟩
      · rw [h.executors]
        cases F.executors.get? (record.target.getD "") with
        | none => exact .inr ⟨_, _, _, rfl, rfl, (h.store id _).emit now _ _⟩
        | some executor => exact .inr ⟨_, _, _, rfl, rfl, (h.store id _).emit now _ _⟩

theorem Alike.finishExecute (h : Alike hidden F G) (hid : id ∉ hidden)
    (outcome : Except String Value) :
    Alike hidden (F.finishExecute now id outcome) (G.finishExecute now id outcome) := by
  unfold DispatchFabric.finishExecute
  rw [h.records id hid]
  cases F.records.get? id with
  | none => exact h
  | some record =>
      cases outcome with
      | ok result => exact (h.store id _).emit now _ _
      | error error => exact (h.store id _).emit now _ _

theorem Alike.completeStage (h : Alike hidden F G) (hid : id ∉ hidden) (organ : String)
    (evidence : PyDict) :
    Alike hidden (F.completeStage now id organ evidence).2
      (G.completeStage now id organ evidence).2 := by
  unfold DispatchFabric.completeStage
  rw [h.get hid]
  cases F.get id with
  | error e => exact h
  | ok record =>
      dsimp only
      split
      · exact h
      · cases record.nextProofStage with
        | none => exact h
        | some expected =>
            dsimp only
            split
            · exact h
            · split
              · exact ((h.store id _).emit now _ _).emit now _ _
              · exact (h.store id _).emit now _ _

theorem Alike.fail (h : Alike hidden F G) (hid : id ∉ hidden) (reason : String)
    (retryable : Bool) :
    Alike hidden (F.fail now id reason retryable).2 (G.fail now id reason retryable).2 := by
  unfold DispatchFabric.fail
  rw [h.get hid]
  cases F.get id with
  | error e => exact h
  | ok record => exact (h.store id _).emit now _ _

/-- A dispatch is resolved, and recorded if a node was found. -/
theorem Alike.createDispatch (h : Alike hidden F G) (py : Builtins) (uuid : String)
    (params : DispatchParams) :
    Alike hidden (F.createDispatch now py uuid params).2
      (G.createDispatch now py uuid params).2 := by
  unfold DispatchFabric.createDispatch
  cases hresolve : F.resolver.resolve py now params.resolveParams with
  | error e =>
      cases hresolve' : G.resolver.resolve py now params.resolveParams with
      | error e' => exact h
      | ok outcome =>
          obtain ⟨t, ht, -⟩ := h.resolver.symm.resolve hresolve'
          cases hresolve.symm.trans ht
  | ok outcome =>
      obtain ⟨resolution, resolver⟩ := outcome
      obtain ⟨resolver', hresolver', hsame⟩ := h.resolver.resolve hresolve
      rw [hresolver']
      dsimp only
      have hresolved : Alike hidden { F with resolver := resolver }
          { G with resolver := resolver' } := ⟨hsame, h.executors, h.records⟩
      cases resolution.selected with
      | none => exact hresolved
      | some selected => exact (hresolved.store _ _).emit now _ _

/-- What a dispatch leaves behind, other than its record, is in the logs. -/
theorem alike_createDispatch (F : DispatchFabric W) (now : ℚ) (py : Builtins) (uuid : String)
    (params : DispatchParams) (hid : mintedId uuid ∈ hidden) :
    Alike hidden F (F.createDispatch now py uuid params).2 := by
  unfold DispatchFabric.createDispatch
  cases hresolve : F.resolver.resolve py now params.resolveParams with
  | error e => exact .refl hidden F
  | ok outcome =>
      obtain ⟨resolution, resolver⟩ := outcome
      have hresolved : Alike hidden F { F with resolver := resolver } :=
        ⟨GlobalResolver.sameLive_of_resolve hresolve, rfl, fun _ _ ↦ rfl⟩
      dsimp only
      cases resolution.selected with
      | none => exact hresolved
      | some selected =>
          let record := newRecord now uuid params resolution selected
          have hstored :
              Alike hidden F ({ F with resolver := resolver }.store (mintedId uuid) record) := by
            refine ⟨hresolved.resolver, rfl, fun id hne ↦ Dict.get?_set_of_ne F.records ?_ record⟩
            rintro rfl
            exact hne hid
          exact hstored.trans (alike_emit hidden _ now record (.dispatched selected))

/-- The resolver does something by itself. -/
theorem Alike.withResolver (h : Alike hidden F G) (py : Builtins) (call : ResolverCall)
    {s t : GlobalResolver}
    (hs : GlobalResolver.step default py F.resolver (now, call) = some s)
    (ht : GlobalResolver.step default py G.resolver (now, call) = some t) :
    Alike hidden { F with resolver := s } { G with resolver := t } := by
  obtain ⟨t', ht', hsame⟩ := h.resolver.step hs
  cases ht.symm.trans ht'
  exact ⟨hsame, h.executors, h.records⟩

theorem dispatch_of_not_execute (F : DispatchFabric W) (now : ℚ) (py : Builtins) (world : W)
    (uuid : String) {params : DispatchParams} (h : params.execute = false) :
    (F.dispatch now py world uuid params).2 = (F.createDispatch now py uuid params).2 := by
  unfold DispatchFabric.dispatch
  generalize F.createDispatch now py uuid params = outcome
  obtain ⟨answer, G⟩ := outcome
  cases answer with
  | error e => rfl
  | ok id =>
      dsimp only
      rw [h]
      rfl

end DispatchFabric

/-! ## What the traffic is about -/

/-- The dispatch that a request is about. -/
def Request.dispatchId? {W : Type} : Request W → Option String
  | ⟨_, uuid, .dispatch _⟩ => some (DispatchFabric.mintedId uuid)
  | ⟨_, _, .execute id⟩ | ⟨_, _, .completeStage id _ _⟩ | ⟨_, _, .fail id _ _⟩ => some id
  | _ => none

/-- The dispatch that a step of the server is about. -/
def ServerLabel.dispatchId? {W : Type} : ServerLabel W → Option String
  | start id => some id
  | finish run _ => some run.dispatchId
  | call request => request.dispatchId?

/-- The dispatch that a step of the server would mint. -/
def ServerLabel.mintedId? {W : Type} : ServerLabel W → Option String
  | call ⟨_, uuid, .dispatch _⟩ => some (DispatchFabric.mintedId uuid)
  | _ => none

theorem ServerLabel.dispatchId?_of_mintedId? {W : Type} {label : ServerLabel W} {id : String}
    (h : label.mintedId? = some id) : label.dispatchId? = some id := by
  cases label with
  | call request =>
      obtain ⟨world, uuid, call⟩ := request
      cases call with
      | dispatch params => exact h
      | _ => cases h
  | _ => cases h

namespace PlaneLabel

variable {W : Type}

/-- The dispatch that the traffic is about. -/
def dispatchId? : PlaneLabel W → Option String
  | server label => label.dispatchId?
  | _ => none

/-- The dispatch that a canary would mint. -/
def canaryId? : PlaneLabel W → Option String
  | probe (.canary _) uuid => some (DispatchFabric.mintedId uuid)
  | _ => none

/-- The dispatch that a step would mint. -/
def mintedId? : PlaneLabel W → Option String
  | server label => label.mintedId?
  | label => label.canaryId?

/-- What happens without a harvest: the traffic, and the sweeps of those who read the
topology. -/
def isVisible : PlaneLabel W → Bool
  | probe .topology _ => true
  | probe _ _ => false
  | _ => true

end PlaneLabel

/-- The dispatches that canaries would mint. -/
def canaryIds {W : Type} (labels : List (ℚ × PlaneLabel W)) : List String :=
  labels.filterMap fun label ↦ label.2.canaryId?

/-! ## One step -/

section Step

variable {W : Type} {hidden : List String} {now : ℚ}

namespace DispatchFabric

variable {F G : DispatchFabric W}

/-- A request is served alike. -/
theorem Alike.step (h : Alike hidden F G) (py : Builtins) {request : Request W}
    (hvisible : ∀ id, request.dispatchId? = some id → id ∉ hidden)
    (hatomic : Pool.isAtomic F request = true) :
    Alike hidden (DispatchFabric.step py F (now, request))
      (DispatchFabric.step py G (now, request)) := by
  obtain ⟨world, uuid, call⟩ := request
  cases call with
  | dispatch params =>
      have hexecute : params.execute = false := by
        simp only [Pool.isAtomic, Bool.and_eq_true, Bool.not_eq_true'] at hatomic
        exact hatomic.1
      simp only [DispatchFabric.step, dispatch_of_not_execute _ _ _ _ _ hexecute]
      exact h.createDispatch py uuid params
  | registerExecutor nodeId executor =>
      refine ⟨h.resolver, ?_, h.records⟩
      exact congrArg (Dict.set · nodeId executor) h.executors
  | execute id => cases hatomic
  | completeStage id organ evidence => exact h.completeStage (hvisible id rfl) organ evidence
  | fail id reason retryable => exact h.fail (hvisible id rfl) reason retryable
  | advertise id capabilities resources health metadata =>
      simp only [DispatchFabric.step, withResolver_eq]
      exact h.withResolver py (.advertise id capabilities resources health metadata) rfl rfl
  | heartbeat id health resources =>
      simp only [DispatchFabric.step, withResolver_eq]
      exact h.withResolver py (.heartbeat id health resources) rfl rfl
  | expire ttlSeconds => exact h.withResolver py (.expire ttlSeconds) rfl rfl
  | topology =>
      simp only [DispatchFabric.step, withResolver_eq]
      exact h.withResolver py .topology rfl rfl
  | resolve params =>
      simp only [DispatchFabric.step, withResolver_eq]
      exact h.withResolver py (.resolve params) rfl rfl
  | reload root => exact ⟨h.resolver.reloaded root, h.executors, h.records⟩

/-- What is one step for one fabric is one for the other. -/
theorem Alike.isAtomic (h : Alike hidden F G) {request : Request W}
    (hvisible : ∀ id, request.dispatchId? = some id → id ∉ hidden) :
    Pool.isAtomic G request = Pool.isAtomic F request := by
  obtain ⟨world, uuid, call⟩ := request
  cases call with
  | dispatch params =>
      rw [Pool.isAtomic, h.records _ (hvisible _ rfl)]
      rfl
  | _ => rfl

end DispatchFabric

/-- A step of the server is taken alike. -/
theorem alike_serverStep (py : Builtins) {P P' : Pool W} {G : DispatchFabric W}
    {label : ServerLabel W} (h : DispatchFabric.Alike hidden P.fabric G)
    (hvisible : ∀ id, label.dispatchId? = some id → id ∉ hidden)
    (hstep : serverStep py P (now, label) = some P') :
    ∃ G', serverStep py { P with fabric := G } (now, label) = some { P' with fabric := G' } ∧
      DispatchFabric.Alike hidden P'.fabric G' := by
  cases label with
  | start id =>
      simp only [serverStep, Pool.step] at hstep ⊢
      rcases h.beginExecute (hvisible id rfl) with
        ⟨e, hF, hG⟩ | ⟨executor, F', G', hF, hG, hnext⟩
      · rw [hF] at hstep
        cases hstep
        exact ⟨G, by rw [hG], h⟩
      · rw [hF] at hstep
        rw [hG]
        cases executor with
        | none =>
            cases hstep
            exact ⟨G', rfl, hnext⟩
        | some executor =>
            cases hstep
            exact ⟨G', rfl, hnext⟩
  | finish run world =>
      have hid := hvisible run.dispatchId rfl
      have houtcome : Pool.outcome { P with fabric := G } run world = P.outcome run world := by
        simp only [Pool.outcome, h.records _ hid, h.executors]
      simp only [serverStep, houtcome] at hstep ⊢
      obtain ⟨outcome, hP, hstep⟩ := Option.bind_eq_some_iff.mp hstep
      rw [hP, Option.bind_some]
      simp only [Pool.step] at hstep ⊢
      split at hstep
      · rename_i hrun
        cases hstep
        exact ⟨_, if_pos hrun, h.finishExecute hid outcome⟩
      · cases hstep
  | call request =>
      simp only [serverStep, Pool.step] at hstep ⊢
      rw [h.isAtomic hvisible]
      split at hstep
      · rename_i hserved
        rw [if_pos hserved]
        split at hstep
        · rename_i hatomic
          cases hstep
          exact ⟨_, if_pos hatomic, h.step py hvisible hatomic⟩
        · cases hstep
      · cases hstep

namespace ControlPlane

variable {s t u : ControlPlane W}

/-- Two processes differ in what their fabrics may differ in. -/
structure Alike (hidden : List String) (s u : ControlPlane W) : Prop where
  rest : u = s.withFabric u.pool.fabric
  fabric : DispatchFabric.Alike hidden s.pool.fabric u.pool.fabric

theorem Alike.refl (hidden : List String) (s : ControlPlane W) : Alike hidden s s :=
  ⟨rfl, .refl hidden _⟩

/-- The traffic is served alike. -/
theorem Alike.kept (h : Alike hidden s u) (r : Renderer) (py : Builtins) {label : PlaneLabel W}
    (hvisible : label.isVisible = true)
    (hids : ∀ id, label.dispatchId? = some id → id ∉ hidden)
    (hstep : planeStep r py s (now, label) = some t) :
    ∃ v, planeStep r py u (now, label) = some v ∧ Alike hidden t v := by
  obtain ⟨rest, hfabric⟩ := h
  generalize u.pool.fabric = G at rest hfabric
  subst rest
  cases label with
  | server label =>
      obtain ⟨P', hP', rfl⟩ := Option.map_eq_some_iff.mp hstep
      obtain ⟨G', hG', hnext⟩ := alike_serverStep py hfabric hids hP'
      exact ⟨_, Option.map_eq_some_iff.mpr ⟨_, hG', rfl⟩, rfl, hnext⟩
  | setPolicy capabilityId policy =>
      cases hstep
      exact ⟨_, rfl, rfl, hfabric⟩
  | resetCircuit serviceId =>
      cases hstep
      exact ⟨_, rfl, rfl, hfabric⟩
  | engine host op =>
      cases hstep
      exact ⟨_, rfl, rfl, hfabric⟩
  | probe request uuid =>
      cases request with
      | topology =>
          cases hstep
          refine ⟨_, rfl, rfl, ?_⟩
          simp only [ProbeRequest.answer, globalTopology, DispatchFabric.withResolver_eq]
          exact hfabric.withResolver py .topology rfl rfl
      | _ => cases hvisible

/-- The other probes leave nothing behind but logs and the record of the canary. -/
theorem Alike.absorb (h : Alike hidden s u) (r : Renderer) (py : Builtins) {label : PlaneLabel W}
    (hvisible : label.isVisible = false)
    (hids : ∀ id, label.canaryId? = some id → id ∈ hidden)
    (hstep : planeStep r py s (now, label) = some t) : Alike hidden t u := by
  cases label with
  | probe request uuid =>
      obtain ⟨-, hanswer⟩ := Option.ite_none_right_eq_some.mp hstep
      cases hanswer
      cases request with
      | topology => cases hvisible
      | canary packetId =>
          refine ⟨h.rest, .trans (.symm ?_) h.fabric⟩
          exact DispatchFabric.alike_createDispatch _ now py uuid _ (hids _ rfl)
      | _ => exact h
  | _ => cases hvisible

end ControlPlane

/-! ## The other records -/

/-- What becomes of the record of an id in a step of the server. -/
inductive Evolved (now : ℚ) (P P' : Pool W) (label : ServerLabel W) (id : String) : Prop
  | same (h : P'.fabric.records.get? id = P.fabric.records.get? id)
  | acted {record : DispatchRecord} (a : RecordAct) (hid : label.dispatchId? = some id)
      (hrecord : P.fabric.records.get? id = some record)
      (hnext : P'.fabric.records.get? id = some (a.apply now record))
  | minted (hid : label.mintedId? = some id) (hnone : P.fabric.records.get? id = none)

theorem Evolved.act {P P' : Pool W} {label : ServerLabel W} {id id' : String} (a : RecordAct)
    (hid : label.dispatchId? = some id') (hfabric : P'.fabric = P.fabric.act now id' a) :
    Evolved now P P' label id := by
  by_cases hne : id' = id
  · subst hne
    cases hrecord : P.fabric.records.get? id' with
    | none => exact .same (by rw [hfabric, DispatchFabric.act_of_none now hrecord])
    | some record =>
        exact .acted a hid hrecord (by rw [hfabric, DispatchFabric.act_get?_self now hrecord])
  · exact .same (by rw [hfabric, DispatchFabric.act_get?_of_ne now hne])

/-- The inversion lemma of the server, for one record. -/
theorem evolved_of_serverStep (py : Builtins) {P P' : Pool W} {label : ServerLabel W}
    (hstep : serverStep py P (now, label) = some P') (id : String) :
    Evolved now P P' label id := by
  cases label with
  | start id' =>
      have hstep : Pool.step py P (now, .start id') = some P' := hstep
      cases Pool.step_stepped py hstep with
      | rejected => exact .same rfl
      | awaited _ _ => exact .act .await rfl rfl
      | started _ _ => exact .act .begin rfl rfl
  | finish run world =>
      obtain ⟨outcome, -, hstep⟩ := Option.bind_eq_some_iff.mp hstep
      cases Pool.step_stepped py hstep with
      | finished _ => exact .act (.finish outcome) rfl rfl
  | call request =>
      obtain ⟨-, hstep⟩ := Option.ite_none_right_eq_some.mp hstep
      cases Pool.step_stepped py hstep with
      | called hatomic =>
          have hstepped := DispatchFabric.step_stepped py P.fabric (now, request)
          generalize DispatchFabric.step py P.fabric (now, request) = F at hstepped
          cases hstepped with
          | silent hsilent => exact .same (congrArg (·.get? id) hsilent.1)
          | executed _ => cases hatomic
          | accepted _ _ _ => exact .act (.accept _ _) rfl rfl
          | failed _ => exact .act (.fail _ _) rfl rfl
          | @created _ _ uuid params _ hcreated =>
              simp only [Pool.isAtomic, Bool.and_eq_true, Option.isNone_iff_eq_none] at hatomic
              obtain ⟨resolution, selected, hrecords, -⟩ := hcreated
              by_cases hne : DispatchFabric.mintedId uuid = id
              · subst hne
                exact .minted rfl hatomic.2
              · refine .same ?_
                show F.records.get? id = _
                rw [hrecords, Dict.get?_set_of_ne _ hne]
          | createdExecuted hexecute _ _ =>
              rw [Pool.isAtomic, hexecute] at hatomic
              cases hatomic

/-- A record is as the dispatch of a canary made it. -/
def IsCanary (record : DispatchRecord) : Prop :=
  ∃ now uuid packetId resolution selected, record =
    DispatchFabric.newRecord now uuid (ProbeRequest.canaryParams packetId) resolution selected

/-- What becomes of the record of an id in a step of the process. -/
inductive ControlPlane.Evolved (now : ℚ) (s t : ControlPlane W) (label : PlaneLabel W)
    (id : String) : Prop
  | same (h : t.pool.fabric.records.get? id = s.pool.fabric.records.get? id)
  | acted {record : DispatchRecord} (a : RecordAct) (hid : label.dispatchId? = some id)
      (hrecord : s.pool.fabric.records.get? id = some record)
      (hnext : t.pool.fabric.records.get? id = some (a.apply now record))
  | minted (hid : label.dispatchId? = some id) (hminted : label.mintedId? = some id)
      (hnone : s.pool.fabric.records.get? id = none)
  | canary {record : DispatchRecord} (hminted : label.mintedId? = some id)
      (hnone : s.pool.fabric.records.get? id = none)
      (hnext : t.pool.fabric.records.get? id = some record) (hcanary : IsCanary record)

/-- The inversion lemma of the process, for one record. -/
theorem ControlPlane.evolved_of_step (r : Renderer) (py : Builtins) {s t : ControlPlane W}
    {label : PlaneLabel W} (hstep : planeStep r py s (now, label) = some t) (id : String) :
    ControlPlane.Evolved now s t label id := by
  cases label with
  | server label =>
      obtain ⟨P', hP', rfl⟩ := Option.map_eq_some_iff.mp hstep
      cases evolved_of_serverStep py hP' id with
      | same h => exact .same h
      | acted a hid hrecord hnext => exact .acted a hid hrecord hnext
      | minted hid hnone => exact .minted (ServerLabel.dispatchId?_of_mintedId? hid) hid hnone
  | probe request uuid =>
      obtain ⟨hfresh, hanswer⟩ := Option.ite_none_right_eq_some.mp hstep
      cases hanswer
      cases request with
      | topology =>
          exact .same (congrArg (·.get? id) (DispatchFabric.withResolver_silent s.pool.fabric _).1)
      | canary packetId =>
          rcases DispatchFabric.createDispatch_created now py s.pool.fabric uuid
            (ProbeRequest.canaryParams packetId) with ⟨e, -, hsilent⟩ | ⟨-, hcreated⟩
          · exact .same (congrArg (·.get? id) hsilent.1)
          · obtain ⟨resolution, selected, hrecords, -⟩ := hcreated
            have hget := congrArg (·.get? id) hrecords
            by_cases hne : DispatchFabric.mintedId uuid = id
            · subst hne
              exact .canary rfl (Option.isNone_iff_eq_none.mp hfresh)
                (hget.trans (Dict.get?_set_self _ _ _))
                ⟨now, uuid, packetId, resolution, selected, rfl⟩
            · exact .same (hget.trans (Dict.get?_set_of_ne _ hne _))
      | _ => exact .same rfl
  | _ =>
      cases hstep
      exact .same rfl

/-- A dispatch was never recorded, or its record is that of a canary. -/
def ControlPlane.Waiting (s : ControlPlane W) (id : String) : Prop :=
  ∀ record, s.pool.fabric.records.get? id = some record → IsCanary record

/-- A record of a canary that the traffic is not about stays as it is. -/
theorem ControlPlane.Waiting.step (r : Renderer) (py : Builtins) {s t : ControlPlane W}
    {label : PlaneLabel W} {id : String} (h : s.Waiting id) (hid : label.dispatchId? ≠ some id)
    (hstep : planeStep r py s (now, label) = some t) : t.Waiting id := by
  intro record hrecord
  cases evolved_of_step r py hstep id with
  | same hsame => exact h record (hsame.symm.trans hrecord)
  | acted _ habout _ _ => exact absurd habout hid
  | minted habout _ _ => exact absurd habout hid
  | canary _ _ hnext hcanary =>
      cases hnext.symm.trans hrecord
      exact hcanary

end Step

/-- A harvest disturbs nothing.  In every run whose traffic is not about the records of the
canaries, the process ends as the one does that was asked for nothing but its topology: with the
same mesh, the same documents, the same live table, the same runs in flight and the same
records, other than those of the canaries.  These are as their dispatches made them. -/
theorem harvest_disturbs_nothing {W : Type} (r : Renderer) (py : Builtins) (s t : ControlPlane W)
    (labels : List (ℚ × PlaneLabel W)) (hrun : (planeStep r py).run s labels = some t)
    (halone : ∀ label ∈ labels, ∀ id, label.2.dispatchId? = some id → id ∉ canaryIds labels) :
    (∃ t', (planeStep r py).run s (labels.filter fun label ↦ label.2.isVisible) = some t' ∧
      t'.config = t.config ∧ t'.engine = t.engine ∧ t'.executors = t.executors ∧
      t'.resolver.registries = t.resolver.registries ∧
      (∀ nodeId, t'.resolver.nodes.get? nodeId = t.resolver.nodes.get? nodeId) ∧
      t'.pool.fabric.executors = t.pool.fabric.executors ∧ t'.pool.inFlight = t.pool.inFlight ∧
      ∀ id, id ∉ canaryIds labels →
        t'.pool.fabric.records.get? id = t.pool.fabric.records.get? id) ∧
    ∀ id ∈ canaryIds labels, s.pool.fabric.records.get? id = none →
      ∀ record, t.pool.fabric.records.get? id = some record → IsCanary record := by
  refine ⟨?_, fun id hid hnew ↦ ?_⟩
  · obtain ⟨t', hrun', halike⟩ : ∃ t', (planeStep r py).run s
        (labels.filter fun label ↦ label.2.isVisible) = some t' ∧
          ControlPlane.Alike (canaryIds labels) t t' := by
      refine run_filter ?_ ?_ hrun (.refl _ s)
      · rintro s ⟨now, label⟩ t u hmem hvisible hstep h
        refine h.absorb r py hvisible (fun id hid ↦ ?_) hstep
        exact List.mem_filterMap.mpr ⟨(now, label), hmem, hid⟩
      · rintro s ⟨now, label⟩ t u hmem hvisible hstep h
        exact h.kept r py hvisible (halone (now, label) hmem) hstep
    refine ⟨t', hrun', ?_⟩
    rw [halike.rest]
    obtain ⟨-, hresolver, hexecutors, hrecords⟩ := halike
    exact ⟨rfl, rfl, rfl, hresolver.registries, hresolver.nodes, hexecutors, rfl, hrecords⟩
  · have hguard : ∀ label ∈ labels, label.2.dispatchId? ≠ some id :=
      fun label hmem h ↦ halone label hmem id h hid
    have hwaiting : s.Waiting id := by
      intro record hrecord
      cases hnew.symm.trans hrecord
    have halways : (planeStep r py).Always (fun u ↦ u.Waiting id) s labels := by
      refine (along_of_forall hguard).always ?_ hwaiting
      rintro s ⟨now, label⟩ t h hne hstep
      exact h.step r py hne hstep
    exact halways.last hrun

/-- Registries that declare one node, for the capability of the canary. -/
def inferRegistries : Registries
  | .nodes => [(.str "nodes", .list [.object [("canonical_id", .str "ga://node/eden"),
      ("capabilities", .list [.str "model.infer"])]])]
  | .capabilities => [(.str "capabilities", .list [.object
      [("canonical_id", .str "ga://capability/model.infer")]])]
  | _ => []

/-- A process over these registries, without executors. -/
def inferPlane : ControlPlane Unit where
  config := notesConfig
  pool := serving ∅ inferRegistries

/-- A canary is sent after the node has reported, and a packet follows it. -/
def canaryFirst : List (ℚ × PlaneLabel Unit) :=
  [(0, .server (.call ⟨(), "", .heartbeat "ga://node/eden" "online" none⟩)), (1, .probe .ready ""),
    (2, .probe .topology ""), (3, .probe (.canary "conformance-canary") "c"),
    (4, .server (.call ⟨(), "d", .dispatch { packetId := "p", capability := "model.infer" }⟩))]

/-- The canary is left as it is, and without it the packet is dispatched too. -/
theorem canary_is_left_alone : ∃ t t' record,
    (planeStep default default).run inferPlane canaryFirst = some t ∧
      t.pool.fabric.records.get? "dispatch-c" = some record ∧ IsCanary record ∧
      (planeStep default default).run inferPlane
        (canaryFirst.filter fun label ↦ label.2.isVisible) = some t' ∧
      t'.pool.fabric.records.get? "dispatch-d" = t.pool.fabric.records.get? "dispatch-d" := by
  have hview : ((planeStep default default).run inferPlane canaryFirst).map (fun t ↦
      (t.pool.fabric.records.get? "dispatch-c").isSome) = some true := by
    decide +kernel
  obtain ⟨t, ht, hrecord⟩ := Option.map_eq_some_iff.mp hview
  obtain ⟨record, hrecord⟩ := Option.isSome_iff_exists.mp hrecord
  have halone : ∀ label ∈ canaryFirst, ∀ id, label.2.dispatchId? = some id →
      id ∉ canaryIds canaryFirst := by
    simp [canaryFirst, canaryIds, PlaneLabel.dispatchId?, ServerLabel.dispatchId?,
      Request.dispatchId?, PlaneLabel.canaryId?, DispatchFabric.mintedId]
  obtain ⟨⟨t', ht', -, -, -, -, -, -, -, hrecords⟩, hcanary⟩ :=
    harvest_disturbs_nothing default default inferPlane t canaryFirst ht halone
  exact ⟨t, t', record, ht, hrecord, hcanary _ (by decide) rfl record hrecord, ht',
    hrecords _ (by decide)⟩

end EstateMesh
