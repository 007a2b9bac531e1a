import EstateMesh.Dispatch.Concurrent
import EstateMesh.Resolver.OfflineEvents

/-!
# The two logs

The fabric keeps every event it reports, and it hands each one to the resolver, which mixes
them with its own and keeps the last thousand.  Whoever reads the events of the resolver sees
the end of the log of the fabric, in its order and without a gap (`logs_agree`).
-/

namespace EstateMesh

open Lib Machine

/-- An event of this type is one of the fabric. -/
def EstateEventType.isDispatch : EstateEventType → Bool
  | nodeOnline | nodeHeartbeat | nodeOffline | routeResolved => false
  | packetDispatched | awaitingExecutor | workerBusy | packetExecuted | packetFailed
  | stageCompleted | packetCompleted => true

/-- The event of the resolver that carries an event of the fabric. -/
def DispatchEvent.carried (event : DispatchEvent) : EstateEvent :=
  ⟨event.payload.eventType, event.source, event.timestamp, event.toValue⟩

/-- The events of the fabric among those of a resolver. -/
def GlobalResolver.dispatchEvents (self : GlobalResolver) : List EstateEvent :=
  self.events.filter fun event ↦ event.eventType.isDispatch

/-- What the resolver shows of the log of the fabric. -/
structure DispatchFabric.LogsAgree {W : Type} (F : DispatchFabric W) : Prop where
  recent : F.resolver.events.length ≤ 1000
  suffix : F.resolver.dispatchEvents <:+ F.events.map DispatchEvent.carried
  /-- Until the log of the resolver is full, it has them all. -/
  complete : F.resolver.events.length < 1000 →
    F.resolver.dispatchEvents = F.events.map DispatchEvent.carried

@[simp] theorem DispatchPayload.isDispatch_eventType (payload : DispatchPayload) :
    payload.eventType.isDispatch = true := by
  cases payload <;> rfl

namespace GlobalResolver

variable {r : Renderer} {py : Builtins} {s : GlobalResolver} {now : ℚ}

/-- The resolver emits no event of the fabric by itself. -/
theorem isDispatch_emitted {call : ResolverCall} {event : EstateEvent}
    (h : event ∈ emitted py (s, (now, call))) : event.eventType.isDispatch = false := by
  have hoffline {ttlSeconds : ℤ} (h : event ∈ s.offlineEvents now ttlSeconds) :
      event.eventType.isDispatch = false := by
    obtain ⟨nodeId, -, rfl⟩ := List.mem_map.mp h
    rfl
  cases call with
  | advertise id capabilities resources health metadata =>
      simp only [emitted] at h
      split at h
      · rename_i houtcome
        obtain rfl := List.mem_singleton.mp h
        rw [(events_of_advertise houtcome).1]
        rfl
      · cases h
  | heartbeat id health resources =>
      simp only [emitted] at h
      split at h
      · obtain rfl := List.mem_singleton.mp h
        rfl
      · cases h
  | expire ttlSeconds => exact hoffline h
  | topology => exact hoffline h
  | resolve params =>
      simp only [emitted] at h
      split at h
      · obtain rfl := List.mem_singleton.mp h
        rfl
      · cases h
  | reload root => cases h

end GlobalResolver

namespace DispatchFabric

variable {W : Type} {F : DispatchFabric W} {past : List EstateEvent}

/-- The log of the resolver is the end of a history in which the events of the fabric are
those of its log. -/
structure Carried (F : DispatchFabric W) (past : List EstateEvent) : Prop where
  logged : F.resolver.Logged past
  dispatch : (past.filter fun event ↦ event.eventType.isDispatch) =
    F.events.map DispatchEvent.carried

theorem Carried.logsAgree (h : F.Carried past) : F.LogsAgree := by
  have hevents : F.resolver.events = past.drop (past.length - 1000) := by
    rw [h.logged, lastItems, if_neg (by decide)]
  have hlength : F.resolver.events.length = min past.length 1000 := by
    rw [hevents, List.length_drop]
    omega
  refine ⟨hlength ▸ min_le_right _ _, ?_, fun hfull ↦ ?_⟩
  · rw [GlobalResolver.dispatchEvents, ← h.dispatch, hevents]
    exact (List.drop_suffix _ _).filter _
  · have hshort : past.length - 1000 = 0 := by omega
    rw [GlobalResolver.dispatchEvents, ← h.dispatch, hevents, hshort, List.drop_zero]

/-! ## What a step keeps -/

/-- The fabric reports an event. -/
theorem Carried.emit (h : F.Carried past) (now : ℚ) (record : DispatchRecord)
    (payload : DispatchPayload) :
    (F.emit now record payload).Carried (past ++ [(eventOf now record payload).carried]) where
  logged := h.logged.emit rfl
  dispatch := by
    rw [List.filter_append, h.dispatch, emit_events, List.map_append]
    simp [DispatchEvent.carried, eventOf]

theorem Carried.foldl_emit (h : F.Carried past) (now : ℚ) (record : DispatchRecord)
    (payloads : List DispatchPayload) :
    ∃ past', (payloads.foldl (fun self payload ↦ self.emit now record payload) F).Carried past' := by
  induction payloads generalizing F past with
  | nil => exact ⟨past, h⟩
  | cons payload payloads ih => exact ih (h.emit now record payload)

/-- A record changes. -/
theorem Carried.act (h : F.Carried past) (now : ℚ) (id : String) (a : RecordAct) :
    ∃ past', (F.act now id a).Carried past' := by
  cases hrecord : F.records.get? id with
  | none =>
      rw [act_of_none now hrecord]
      exact ⟨past, h⟩
  | some record =>
      rw [act_of_some now hrecord]
      have hstored : (F.store id (a.apply now record)).Carried past := ⟨h.logged, h.dispatch⟩
      exact hstored.foldl_emit now _ _

/-- A dispatch is executed. -/
theorem Carried.executed {F' : DispatchFabric W} {now : ℚ} {world : W} {id : String}
    (h : F.Carried past) (hexecuted : Executed F now world id F') : ∃ past', F'.Carried past' := by
  cases hexecuted with
  | rejected _ => exact ⟨past, h⟩
  | awaited _ _ _ => exact h.act now id .await
  | ran _ _ _ =>
      obtain ⟨past', h'⟩ := h.act now id .begin
      exact h'.act now id _

/-- The resolver does something by itself. -/
theorem Carried.resolver (h : F.Carried past) (py : Builtins) {now : ℚ} (call : ResolverCall)
    {next : GlobalResolver}
    (hstep : GlobalResolver.step default py F.resolver (now, call) = some next) :
    ∃ past', Carried { F with resolver := next } past' := by
  refine ⟨past ++ GlobalResolver.emitted py (F.resolver, (now, call)), h.logged.of_step hstep, ?_⟩
  have hown : ((GlobalResolver.emitted py (F.resolver, (now, call))).filter
      fun event ↦ event.eventType.isDispatch) = [] := by
    rw [List.filter_eq_nil_iff]
    intro event hevent
    rw [GlobalResolver.isDispatch_emitted hevent]
    exact Bool.false_ne_true
  rw [List.filter_append, hown, List.append_nil]
  exact h.dispatch

theorem withResolver_eq {α : Type} (F : DispatchFabric W)
    (outcome : Except ResolverFault (α × GlobalResolver)) :
    F.withResolver outcome = { F with resolver := F.resolver.after outcome } := by
  cases outcome <;> rfl

/-- A dispatch is resolved, and recorded if a node was found. -/
theorem Carried.create (h : F.Carried past) (now : ℚ) (py : Builtins) (uuid : String)
    (params : DispatchParams) : ∃ past', (F.createDispatch now py uuid params).2.Carried past' := by
  have hresolved : ∃ past', Carried
      { F with resolver := F.resolver.after (F.resolver.resolve py now params.resolveParams) }
      past' := h.resolver py (.resolve params.resolveParams) rfl
  unfold createDispatch
  cases houtcome : F.resolver.resolve py now params.resolveParams with
  | error e => exact ⟨past, h⟩
  | ok outcome =>
      obtain ⟨resolution, resolver⟩ := outcome
      rw [houtcome] at hresolved
      obtain ⟨past', h'⟩ := hresolved
      dsimp only
      cases resolution.selected with
      | none => exact ⟨past', h'⟩
      | some selected =>
          let record := newRecord now uuid params resolution selected
          have hstored : Carried ({ F with resolver := resolver }.store record.dispatchId record)
              past' := ⟨h'.logged, h'.dispatch⟩
          exact ⟨_, hstored.emit now record (.dispatched selected)⟩

/-- One call of the control plane. -/
theorem Carried.step (h : F.Carried past) (py : Builtins) (l : ℚ × Request W) :
    ∃ past', (step py F l).Carried past' := by
  obtain ⟨now, world, uuid, call⟩ := l
  cases call with
  | dispatch params =>
      obtain ⟨past', h'⟩ := h.create now py uuid params
      show ∃ past', (F.dispatch now py world uuid params).2.Carried past'
      unfold DispatchFabric.dispatch
      generalize F.createDispatch now py uuid params = outcome at h'
      obtain ⟨answer, G⟩ := outcome
      cases answer with
      | error e => exact ⟨past', h'⟩
      | ok id =>
          dsimp only
          split
          · exact h'.executed (execute_executed now G world id)
          · exact ⟨past', h'⟩
  | registerExecutor nodeId executor => exact ⟨past, h.logged, h.dispatch⟩
  | execute id => exact h.executed (execute_executed now F world id)
  | completeStage id organ evidence =>
      show ∃ past', (F.completeStage now id organ evidence).2.Carried past'
      have hcompleted := completeStage_completed now F id organ evidence
      generalize F.completeStage now id organ evidence = outcome at hcompleted
      cases hcompleted with
      | rejected _ => exact ⟨past, h⟩
      | full _ _ _ => exact ⟨past, h⟩
      | accepted _ _ _ _ => exact h.act now id _
  | fail id reason retryable =>
      show ∃ past', (F.fail now id reason retryable).2.Carried past'
      rw [fail_eq]
      exact h.act now id _
  | advertise id capabilities resources health metadata =>
      simp only [DispatchFabric.step, withResolver_eq]
      exact h.resolver py (.advertise id capabilities resources health metadata) rfl
  | heartbeat id health resources =>
      simp only [DispatchFabric.step, withResolver_eq]
      exact h.resolver py (.heartbeat id health resources) rfl
  | expire ttlSeconds => exact h.resolver py (.expire ttlSeconds) rfl
  | topology =>
      simp only [DispatchFabric.step, withResolver_eq]
      exact h.resolver py .topology rfl
  | resolve params =>
      simp only [DispatchFabric.step, withResolver_eq]
      exact h.resolver py (.resolve params) rfl
  | reload root =>
      exact ⟨past, (GlobalResolver.reloaded_events F.resolver root).trans h.logged, h.dispatch⟩

theorem init_carried (registries : Registries) :
    (init registries : DispatchFabric W).Carried [] where
  logged := by simp [GlobalResolver.Logged, init, lastItems]
  dispatch := rfl

end DispatchFabric

/-! ## Runs -/

/-- One step of the pool. -/
theorem Pool.carried_step {W : Type} {P P' : Pool W} (py : Builtins) {l : ℚ × PoolLabel W}
    (h : ∃ past, P.fabric.Carried past) (hstep : step py P l = some P') :
    ∃ past, P'.fabric.Carried past := by
  obtain ⟨past, h⟩ := h
  obtain ⟨now, label⟩ := l
  cases step_stepped py hstep with
  | rejected => exact ⟨past, h⟩
  | awaited _ _ => exact h.act now _ .await
  | started _ _ => exact h.act now _ .begin
  | finished _ => exact h.act now _ (.finish _)
  | called _ => exact h.step py (now, _)

/-- In every state of every run of the control plane, and of every interleaving of executor
runs with other calls, the resolver shows the end of the log of the fabric, and all of it
until its own log is full. -/
theorem logs_agree (W : Type) (py : Builtins) (registries : Registries) :
    (∀ calls : List (ℚ × Request W),
      (DispatchFabric.machine py W).Always DispatchFabric.LogsAgree
        (DispatchFabric.init registries) calls) ∧
    ∀ labels : List (ℚ × PoolLabel W),
      (Pool.step py).Always (fun P : Pool W ↦ P.fabric.LogsAgree) (Pool.init registries) labels := by
  refine ⟨fun calls ↦ ?_, fun labels ↦ ?_⟩
  · refine Always.mono (Q := fun F ↦ ∃ past, DispatchFabric.Carried F past)
      (fun F ⟨_, h⟩ ↦ h.logsAgree) (Machine.always_of_keeps ?_ ?_ calls)
    · rintro F l F' ⟨past, h⟩ hstep
      rw [← Machine.ofTotal_eq_some.mp hstep]
      exact h.step py l
    · exact ⟨[], DispatchFabric.init_carried registries⟩
  · refine Always.mono (Q := fun P : Pool W ↦ ∃ past, P.fabric.Carried past)
      (fun P ⟨_, h⟩ ↦ h.logsAgree) (Machine.always_of_keeps ?_ ?_ labels)
    · exact fun P l P' h hstep ↦ Pool.carried_step py h hstep
    · exact ⟨[], DispatchFabric.init_carried registries⟩

end EstateMesh
