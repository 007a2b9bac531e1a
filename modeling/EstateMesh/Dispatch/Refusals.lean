import EstateMesh.Dispatch.AuditTrail
import EstateMesh.Resolver.Liveness

/-!
# Refused operations

An operation of the fabric that raises `ResolutionError` has changed nothing: it looks the
record up and checks it before it writes anything.  The one exception is a dispatch that no
node can serve, which the fabric refuses after the resolver has recorded the resolution
(`refused_operations_change_nothing`).
-/

namespace EstateMesh

open Lib

/-- A computation raises `ResolutionError`. -/
def Refuses {α : Type} (outcome : Except ResolverFault α) : Prop :=
  ∃ detail statusCode, outcome = .error (.resolution detail statusCode)

theorem Refuses.resolution {α : Type} (detail : String) (statusCode : ℕ) :
    Refuses (.error (.resolution detail statusCode) : Except ResolverFault α) :=
  ⟨detail, statusCode, rfl⟩

theorem Refuses.of_faultOf {α : Type} {outcome : Except ResolverFault α} {detail : String}
    {statusCode : ℕ} (h : DispatchFabric.faultOf outcome = some (.resolution detail statusCode)) :
    Refuses outcome := by
  cases outcome with
  | error e => exact ⟨detail, statusCode, congrArg _ (Option.some.inj h)⟩
  | ok a => cases h

theorem not_refuses_ok {α : Type} (a : α) : ¬ Refuses (.ok a) := by rintro ⟨_, _, ⟨⟩⟩

/-- The operations of the fabric that answer with a snapshot. -/
inductive Operation
  | dispatch (params : DispatchParams)
  | execute (dispatchId : String)
  | completeStage (dispatchId organ : String) (evidence : PyDict)
  | fail (dispatchId reason : String) (retryable : Bool)
  | snapshot (dispatchId : String)

namespace DispatchFabric

variable {W : Type} {py : Builtins} {now : ℚ} {world : W} {uuid id : String}

/-- Perform an operation: its answer, and the fabric that it leaves behind. -/
def perform (py : Builtins) (now : ℚ) (world : W) (uuid : String) (self : DispatchFabric W) :
    Operation → Except ResolverFault DispatchSnapshot × DispatchFabric W
  | .dispatch params => self.dispatch now py world uuid params
  | .execute dispatchId => self.execute now world dispatchId
  | .completeStage dispatchId organ evidence => self.completeStage now dispatchId organ evidence
  | .fail dispatchId reason retryable => self.fail now dispatchId reason retryable
  | .snapshot dispatchId => (self.snapshot dispatchId, self)

/-- Nothing differs but that the resolver may have recorded a resolution. -/
structure Untouched (now : ℚ) (F F' : DispatchFabric W) : Prop where
  records : F'.records = F.records
  events : F'.events = F.events
  executors : F'.executors = F.executors
  nodes : F'.resolver.nodes = F.resolver.nodes
  registries : F'.resolver.registries = F.resolver.registries
  resolverEvents : F'.resolver.events = F.resolver.events ∨
    ∃ source payload,
      F'.resolver.events = (F.resolver.emit now .routeResolved source payload).2.events

theorem Untouched.refl (F : DispatchFabric W) : Untouched now F F :=
  ⟨rfl, rfl, rfl, rfl, rfl, .inl rfl⟩

theorem Untouched.of_eq {F F' : DispatchFabric W} (h : F' = F) : Untouched now F F' := by
  rw [h]
  exact .refl F

/-! ## Dispatches -/

/-- The resolver after a resolution that returns. -/
theorem emit_of_resolve {s next : GlobalResolver} {params : ResolveParams} {resolution : Resolution}
    (h : s.resolve py now params = .ok (resolution, next)) :
    ∃ source payload, next = (s.emit now .routeResolved source payload).2 := by
  rw [GlobalResolver.resolve] at h
  dsimp only at h
  split at h
  · obtain ⟨matching, -, h⟩ := bind_eq_ok_iff.mp h
    obtain ⟨runtimePreference, -, h⟩ := bind_eq_ok_iff.mp h
    obtain ⟨found, -, h⟩ := bind_eq_ok_iff.mp h
    cases h
    exact ⟨_, _, rfl⟩
  · cases h

theorem createDispatch_untouched {F : DispatchFabric W} {params : DispatchParams}
    {e : ResolverFault} (h : (F.createDispatch now py uuid params).1 = .error e) :
    Untouched now F (F.createDispatch now py uuid params).2 := by
  rw [createDispatch] at h ⊢
  cases hresolve : F.resolver.resolve py now params.resolveParams with
  | error e' => exact .refl F
  | ok outcome =>
      obtain ⟨resolution, next⟩ := outcome
      obtain ⟨source, payload, rfl⟩ := emit_of_resolve hresolve
      rw [hresolve] at h
      dsimp only at h ⊢
      cases hselected : resolution.selected with
      | none => exact ⟨rfl, rfl, rfl, rfl, rfl, .inr ⟨source, payload, rfl⟩⟩
      | some selected =>
          rw [hselected] at h
          cases h

theorem dispatch_untouched {F : DispatchFabric W} {params : DispatchParams} {e : ResolverFault}
    (h : (F.dispatch now py world uuid params).1 = .error e) :
    Untouched now F (F.dispatch now py world uuid params).2 := by
  obtain ⟨hdispatch, he⟩ := dispatch_of_error h
  rw [hdispatch]
  exact createDispatch_untouched he

/-! ## The other operations -/

/-- Any operation that raises, whatever it raises. -/
theorem perform_untouched {F : DispatchFabric W} {op : Operation} {e : ResolverFault}
    (h : (F.perform py now world uuid op).1 = .error e) :
    Untouched now F (F.perform py now world uuid op).2 := by
  cases op with
  | dispatch params => exact dispatch_untouched h
  | execute id =>
      refine .of_eq ((execute_raises F now world id).resolve_left fun hnone ↦ ?_)
      rw [show (F.execute now world id).1 = .error e from h] at hnone
      cases hnone
  | completeStage id organ evidence =>
      refine .of_eq ((completeStage_raises F now id organ evidence).resolve_left fun hnone ↦ ?_)
      rw [show (F.completeStage now id organ evidence).1 = .error e from h] at hnone
      cases hnone
  | fail id reason retryable =>
      refine .of_eq ((fail_raises F now id reason retryable).resolve_left fun hnone ↦ ?_)
      rw [show (F.fail now id reason retryable).1 = .error e from h] at hnone
      cases hnone
  | snapshot id => exact .refl F

/-! ## When operations are refused -/

theorem isExecutable_eq_false {state : DispatchState} :
    state.isExecutable = false ↔ state ≠ .dispatched ∧ state ≠ .retryable := by
  cases state <;> simp [DispatchState.isExecutable]

theorem isProvable_eq_false {state : DispatchState} :
    state.isProvable = false ↔
      state ∉ [.executed, .verifying, .proving, .remembering, .reconciling] :=
  decide_eq_false_iff_not

theorem execute_refuses {F : DispatchFabric W} (h : F.records.get? id = none ∨
    ∃ record, F.records.get? id = some record ∧ record.state.isExecutable = false) :
    Refuses (F.execute now world id).1 := by
  unfold execute beginExecute
  rcases h with hnone | ⟨record, hrecord, hstate⟩
  · rw [get_of_none hnone]
    exact .resolution _ _
  · rw [get_of_some hrecord]
    dsimp only
    rw [if_pos hstate]
    exact .resolution _ _

/-- What `execute` refuses: unknown ids, and records that are neither new nor retryable. -/
theorem execute_refuses_iff {F : DispatchFabric W} :
    Refuses (F.execute now world id).1 ↔
      F.records.get? id = none ∨
        ∃ record, F.records.get? id = some record ∧ record.state.isExecutable = false := by
  refine ⟨fun h ↦ ?_, execute_refuses⟩
  cases hrecord : F.records.get? id with
  | none => exact .inl rfl
  | some record =>
      refine .inr ⟨record, rfl, Bool.eq_false_iff.mpr fun hstate ↦ ?_⟩
      obtain ⟨snapshot, hok⟩ := execute_returns now world hrecord hstate
      rw [hok] at h
      exact not_refuses_ok snapshot h

/-- The stage that an organ reports is not the one that is due. -/
def OutOfOrder (record : DispatchRecord) (organ : String) : Prop :=
  ∃ expected, record.nextProofStage = some expected ∧ organ ≠ expected.name

theorem completeStage_refuses {F : DispatchFabric W} {organ : String} {evidence : PyDict}
    (h : F.records.get? id = none ∨ ∃ record, F.records.get? id = some record ∧
      (record.state.isProvable = false ∨ OutOfOrder record organ)) :
    Refuses (F.completeStage now id organ evidence).1 := by
  unfold completeStage
  rcases h with hnone | ⟨record, hrecord, h⟩
  · rw [get_of_none hnone]
    exact .resolution _ _
  · rw [get_of_some hrecord]
    dsimp only
    by_cases hstate : record.state.isProvable = false
    · rw [if_pos hstate]
      exact .resolution _ _
    · obtain ⟨expected, hnext, hne⟩ := h.resolve_left hstate
      rw [if_neg hstate, hnext]
      dsimp only
      rw [if_pos hne]
      exact .resolution _ _

/-- What `completeStage` refuses: unknown ids, records that are not being proved, and stages
that are not due. -/
theorem completeStage_refuses_iff {F : DispatchFabric W} {organ : String} {evidence : PyDict} :
    Refuses (F.completeStage now id organ evidence).1 ↔
      F.records.get? id = none ∨ ∃ record, F.records.get? id = some record ∧
        (record.state.isProvable = false ∨ OutOfOrder record organ) := by
  refine ⟨fun h ↦ ?_, completeStage_refuses⟩
  have hcompleted := completeStage_completed now F id organ evidence
  generalize F.completeStage now id organ evidence = outcome at hcompleted h
  cases hcompleted with
  | rejected hnot =>
      cases hrecord : F.records.get? id with
      | none => exact .inl rfl
      | some record =>
          refine .inr ⟨record, rfl, ?_⟩
          cases hstate : record.state.isProvable with
          | false => exact .inl rfl
          | true => exact .inr (hnot record hrecord hstate)
  | full hrecord _ _ =>
      rw [snapshot_of_some hrecord] at h
      exact absurd h (not_refuses_ok _)
  | accepted hrecord _ _ _ =>
      rw [snapshot_of_some (act_get?_self now hrecord _)] at h
      exact absurd h (not_refuses_ok _)

end DispatchFabric

open DispatchFabric

/-- A refused operation of the fabric leaves everything as it was, but that the resolver may
have recorded a resolution; and `execute` and `completeStage` refuse exactly what they have
to. -/
theorem refused_operations_change_nothing (W : Type) (py : Builtins) (now : ℚ) (world : W)
    (uuid : String) (F : DispatchFabric W) :
    (∀ op, Refuses (F.perform py now world uuid op).1 →
        Untouched now F (F.perform py now world uuid op).2) ∧
      (∀ id, Refuses (F.execute now world id).1 ↔
        F.records.get? id = none ∨ ∃ record, F.records.get? id = some record ∧
          record.state ≠ .dispatched ∧ record.state ≠ .retryable) ∧
      ∀ id organ evidence, Refuses (F.completeStage now id organ evidence).1 ↔
        F.records.get? id = none ∨ ∃ record, F.records.get? id = some record ∧
          (record.state ∉ [.executed, .verifying, .proving, .remembering, .reconciling] ∨
            ∃ expected, record.nextProofStage = some expected ∧ organ ≠ expected.name) := by
  refine ⟨?_, fun id ↦ ?_, fun id organ evidence ↦ ?_⟩
  · rintro op ⟨detail, statusCode, h⟩
    exact perform_untouched h
  · simp only [execute_refuses_iff, isExecutable_eq_false]
  · simp only [completeStage_refuses_iff, isProvable_eq_false, OutOfOrder]

/-- A request for a security class that no node has. -/
def unservedParams : DispatchParams where
  packetId := "packet-1"
  capability := "notes"
  securityClass := some "top"

/-- A dispatch that no node can serve is refused, and only the resolver remembers it. -/
theorem unserved_dispatch_changes_nothing :
    Refuses ((init soloRegistries : DispatchFabric Unit).perform default 0 () "1"
        (.dispatch unservedParams)).1 ∧
      Untouched 0 (init soloRegistries : DispatchFabric Unit)
        ((init soloRegistries : DispatchFabric Unit).perform default 0 () "1"
          (.dispatch unservedParams)).2 := by
  have hrefuses : Refuses ((init soloRegistries : DispatchFabric Unit).perform default 0 () "1"
      (.dispatch unservedParams)).1 := by
    have hfault : faultOf ((init soloRegistries : DispatchFabric Unit).perform default 0 () "1"
        (.dispatch unservedParams)).1 =
        some (.resolution "no eligible execution target for notes" 503) := by
      decide +kernel
    exact .of_faultOf hfault
  exact ⟨hrefuses, (refused_operations_change_nothing Unit default 0 () "1" _).1 _ hrefuses⟩

end EstateMesh
