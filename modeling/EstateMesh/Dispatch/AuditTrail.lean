import EstateMesh.Dispatch.Concurrent

/-!
# The event log as an audit trail

The events that the fabric keeps about a dispatch, read in order, say how its
record came to be what it is: `replay` computes the state, the proof chain, the
result and the error from the events alone, and agrees with the record in every
state of every run, whether calls follow one another or executors run while
other calls are served.  It does so because every act reports itself
(`audit_apply`), and because a call that raises reports nothing.
-/

namespace EstateMesh

open Lib

/-- What the events of a dispatch are to reconstruct. -/
structure AuditView where
  state : DispatchState
  proofChain : List Organ := []
  result : Value := .none
  error : Option String := none

/-- The record as an auditor sees it. -/
def DispatchRecord.audit (record : DispatchRecord) : AuditView where
  state := record.state
  proofChain := record.proofChain
  result := record.result
  error := record.error

namespace AuditView

/-- The view after one more event, if there is a dispatch to view. -/
def next (view : Option AuditView) : DispatchPayload → Option AuditView
  -- whatever was known under this id, a new dispatch starts from nothing
  | .dispatched _ => some { state := .dispatched }
  | .awaitingExecutor => view.map fun v ↦ { v with state := .awaitingExecutor }
  | .busy => view.map fun v ↦ { v with state := .running }
  | .executed result => view.map fun v ↦ { v with state := .executed, result := result }
  | .raised error => view.map fun v ↦ { v with state := .failed, error := some error }
  | .failed reason retryable =>
      view.map fun v ↦
        { v with state := if retryable then .retryable else .failed, error := some reason }
  | .stageCompleted organ _ =>
      view.map fun v ↦
        { v with state := stateByOrgan organ, proofChain := v.proofChain ++ [organ] }
  | .completed chain => view.map fun v ↦ { v with state := .completed, proofChain := chain }

/-- The view after a list of events. -/
def replay (log : List DispatchPayload) : Option AuditView := log.foldl next none

theorem replay_append (log payloads : List DispatchPayload) :
    replay (log ++ payloads) = payloads.foldl next (replay log) := List.foldl_append

end AuditView

/-- Organs are told apart by their names. -/
theorem Organ.name_injective : Function.Injective Organ.name := by
  intro organ organ' h
  cases organ <;> cases organ' <;> first | rfl | exact absurd h (by decide)

/-- The view depends on what the source puts into an event only: its type and its
payload. -/
theorem AuditView.next_congr {view : Option AuditView} {p q : DispatchPayload}
    (htype : p.eventType = q.eventType) (hvalue : p.toValue = q.toValue) :
    next view p = next view q := by
  cases p <;> cases q <;> try cases htype
  case dispatched.dispatched => rfl
  case awaitingExecutor.awaitingExecutor => rfl
  case busy.busy => rfl
  case executed.executed =>
    cases hvalue
    rfl
  case raised.raised =>
    cases hvalue
    rfl
  case raised.failed => cases hvalue
  case failed.raised => cases hvalue
  case failed.failed =>
    cases hvalue
    rfl
  case stageCompleted.stageCompleted organ evidence organ' evidence' =>
    have hname : organ.name = organ'.name := by
      simp only [DispatchPayload.toValue, Value.object, List.map_cons] at hvalue
      injection hvalue with hentries
      injection hentries with hentry
      injection hentry with _ horgan
      injection horgan
    cases Organ.name_injective hname
    rfl
  case completed.completed chain chain' =>
    have hnames : (chain.map fun organ ↦ Value.str organ.name) =
        chain'.map fun organ ↦ Value.str organ.name := by
      simp only [DispatchPayload.toValue, Value.object, List.map_cons] at hvalue
      injection hvalue with hentries
      injection hentries with hentry
      injection hentry with _ hchain
      injection hchain
    have hinjective : Function.Injective fun organ : Organ ↦ Value.str organ.name := by
      intro organ organ' h
      exact Organ.name_injective (Value.str.inj h)
    cases hinjective.list_map hnames
    rfl

/-! ## Every act reports itself -/

/-- Replaying what an act reports takes the view of the record to the view of the
record afterwards. -/
theorem RecordAct.audit_apply (now : ℚ) (record : DispatchRecord) (a : RecordAct) :
    (a.payloads (a.apply now record).proofChain).foldl AuditView.next (some record.audit) =
      some (a.apply now record).audit := by
  cases a with
  | await => rfl
  | begin => rfl
  | finish outcome => cases outcome <;> rfl
  | accept organ evidence => cases organ <;> rfl
  | fail reason retryable => rfl

/-- The log says what the record is. -/
def Audited (log : List DispatchPayload) (record : DispatchRecord) : Prop :=
  AuditView.replay log = some record.audit

theorem Audited.new (log : List DispatchPayload) (now : ℚ) (uuid : String)
    (params : DispatchParams) (resolution : Resolution) (selected : Candidate) :
    Audited (log ++ [.dispatched selected])
      (DispatchFabric.newRecord now uuid params resolution selected) := by
  unfold Audited
  rw [AuditView.replay_append]
  rfl

theorem Audited.apply {log : List DispatchPayload} {record : DispatchRecord}
    (h : Audited log record) (now : ℚ) (a : RecordAct) :
    Audited (log ++ a.payloads (a.apply now record).proofChain) (a.apply now record) := by
  unfold Audited
  rw [AuditView.replay_append, h]
  exact a.audit_apply now record

namespace DispatchFabric

variable {W : Type} {py : Builtins} {registries : Registries} {F : DispatchFabric W}

/-- One call of the control plane. -/
theorem audited_step (h : EveryDispatch Audited F) (l : ℚ × Request W) :
    EveryDispatch Audited (step py F l) :=
  h.step (fun _ _ _ _ _ _ ↦ Audited.new _ _ _ _ _ _) (fun now _ _ a h _ ↦ h.apply now a) l

/-- An act on a dispatch, whether there is one or not. -/
theorem audited_act (h : EveryDispatch Audited F) (now : ℚ) (id : String) (a : RecordAct) :
    EveryDispatch Audited (F.act now id a) := by
  cases hrecord : F.records.get? id with
  | none => rwa [act_of_none now hrecord]
  | some record => exact h.act now hrecord ((h id record hrecord).2.apply now a)

/-! ## Calls that raise -/

/-- What an operation raises. -/
def faultOf {α : Type} : Except ResolverFault α → Option ResolverFault
  | .error e => some e
  | .ok _ => none

/-- What a call raises. -/
def fault (r : Renderer) (py : Builtins) (self : DispatchFabric W) :
    ℚ × Request W → Option ResolverFault
  | (now, ⟨world, uuid, call⟩) =>
      match call with
      | .dispatch params => faultOf (self.dispatch now py world uuid params).1
      | .execute dispatchId => faultOf (self.execute now world dispatchId).1
      | .completeStage dispatchId organ evidence =>
          faultOf (self.completeStage now dispatchId organ evidence).1
      | .fail dispatchId reason retryable => faultOf (self.fail now dispatchId reason retryable).1
      | .advertise canonicalId capabilities resources health metadata =>
          faultOf (self.resolver.advertise py now canonicalId capabilities resources health metadata)
      | .heartbeat canonicalId health resources =>
          faultOf (self.resolver.heartbeat py now canonicalId health resources)
      | .topology => faultOf (self.resolver.topology py now)
      | .resolve params => faultOf (self.resolver.resolve py now params)
      | .reload root => faultOf (self.resolver.reload r py root).1
      | .registerExecutor _ _ | .expire _ => none

/-- A dispatch that may be executed is. -/
theorem execute_returns {record : DispatchRecord} {id : String} (now : ℚ) (world : W)
    (hrecord : F.records.get? id = some record) (hstate : record.state.isExecutable = true) :
    ∃ snapshot, (F.execute now world id).1 = .ok snapshot := by
  unfold execute
  generalize hb : F.beginExecute now id = begun
  have hbegun := beginExecute_begun now F id
  rw [hb] at hbegun
  cases hbegun with
  | rejected hnot => cases (hnot record hrecord).symm.trans hstate
  | awaited hrecord' _ _ => exact ⟨_, snapshot_of_some (act_get?_self now hrecord' .await)⟩
  | begun hrecord' _ _ =>
      have hrunning := act_get?_self now hrecord' .begin
      dsimp only
      rw [get_of_some hrunning]
      dsimp only
      rw [finishExecute_eq]
      exact ⟨_, snapshot_of_some (act_get?_self now hrunning _)⟩

theorem execute_raises (F : DispatchFabric W) (now : ℚ) (world : W) (id : String) :
    faultOf (F.execute now world id).1 = none ∨ (F.execute now world id).2 = F := by
  have hbegun := beginExecute_begun now F id
  generalize hb : F.beginExecute now id = begun at hbegun
  cases hbegun with
  | rejected h =>
      refine .inr ?_
      unfold execute
      rw [hb]
  | awaited hrecord hstate _ =>
      obtain ⟨snapshot, hok⟩ := execute_returns now world hrecord hstate
      rw [hok]
      exact .inl rfl
  | begun hrecord hstate _ =>
      obtain ⟨snapshot, hok⟩ := execute_returns now world hrecord hstate
      rw [hok]
      exact .inl rfl

theorem completeStage_raises (F : DispatchFabric W) (now : ℚ) (id organ : String)
    (evidence : PyDict) :
    faultOf (F.completeStage now id organ evidence).1 = none ∨
      (F.completeStage now id organ evidence).2 = F := by
  have hcompleted := completeStage_completed now F id organ evidence
  generalize F.completeStage now id organ evidence = outcome at hcompleted
  cases hcompleted with
  | rejected h => exact .inr rfl
  | full hrecord hstate hnext => exact .inr rfl
  | accepted hrecord hstate hnext horgan =>
      rw [snapshot_of_some (act_get?_self now hrecord _)]
      exact .inl rfl

theorem fail_raises (F : DispatchFabric W) (now : ℚ) (id reason : String) (retryable : Bool) :
    faultOf (F.fail now id reason retryable).1 = none ∨
      (F.fail now id reason retryable).2 = F := by
  rw [fail_eq]
  cases hrecord : F.records.get? id with
  | none => exact .inr (act_of_none now hrecord _)
  | some record =>
      refine .inl ?_
      have hself := act_get?_self now hrecord (.fail reason retryable)
      rw [← fail_eq] at hself
      unfold fail at hself ⊢
      rw [get_of_some hrecord] at hself ⊢
      dsimp only at hself ⊢
      rw [snapshot_of_some hself]
      rfl

/-- Once its record exists, a dispatch returns. -/
theorem dispatch_returns {F : DispatchFabric W} {now : ℚ} {uuid : String} {params : DispatchParams}
    (world : W) (h : ∃ id, (F.createDispatch now py uuid params).1 = .ok id) :
    ∃ snapshot, (F.dispatch now py world uuid params).1 = .ok snapshot := by
  obtain ⟨id, hid⟩ := h
  unfold dispatch
  generalize hG : F.createDispatch now py uuid params = outcome at hid
  have hcreated := createDispatch_created now py F uuid params
  rw [hG] at hcreated
  obtain ⟨answer, G⟩ := outcome
  rcases hcreated with ⟨e, rfl, -⟩ | ⟨rfl, resolution, selected, hrecords, -⟩
  · cases hid
  · have hrecord : G.records.get? (mintedId uuid) =
        some (newRecord now uuid params resolution selected) := by
      rw [hrecords, Dict.get?_set_self]
    dsimp only
    split
    · have hexecuted := execute_executed now G world (mintedId uuid)
      generalize (G.execute now world (mintedId uuid)).2 = G' at hexecuted ⊢
      obtain ⟨record', hrecord'⟩ : ∃ record', G'.records.get? (mintedId uuid) = some record' := by
        cases hexecuted with
        | rejected _ => exact ⟨_, hrecord⟩
        | awaited h _ _ => exact ⟨_, act_get?_self now h _⟩
        | ran h _ _ => exact ⟨_, act_get?_self now (act_get?_self now h _) _⟩
      exact ⟨_, snapshot_of_some hrecord'⟩
    · exact ⟨_, snapshot_of_some hrecord⟩

/-- What a dispatch that raises leaves behind is what the resolution did. -/
theorem dispatch_of_error {F : DispatchFabric W} {now : ℚ} {world : W} {uuid : String}
    {params : DispatchParams} {e : ResolverFault}
    (h : (F.dispatch now py world uuid params).1 = .error e) :
    F.dispatch now py world uuid params = (.error e, (F.createDispatch now py uuid params).2) ∧
      (F.createDispatch now py uuid params).1 = .error e := by
  cases hid : (F.createDispatch now py uuid params).1 with
  | ok id =>
      obtain ⟨snapshot, hok⟩ := dispatch_returns world ⟨id, hid⟩
      cases h.symm.trans hok
  | error e' =>
      unfold dispatch at h ⊢
      generalize F.createDispatch now py uuid params = outcome at hid h
      obtain ⟨answer, G⟩ := outcome
      subst hid
      cases h
      exact ⟨rfl, rfl⟩

/-- A dispatch that raises has at most had its resolution recorded by the resolver. -/
theorem dispatch_raises (F : DispatchFabric W) (now : ℚ) (world : W) (uuid : String)
    (params : DispatchParams) :
    faultOf (F.dispatch now py world uuid params).1 = none ∨
      Silent F (F.dispatch now py world uuid params).2 := by
  cases h : (F.dispatch now py world uuid params).1 with
  | ok snapshot => exact .inl rfl
  | error e =>
      obtain ⟨hdispatch, he⟩ := dispatch_of_error h
      rw [hdispatch]
      rcases createDispatch_created now py F uuid params with ⟨_, -, hsilent⟩ | ⟨hok, -⟩
      · exact .inr hsilent
      · cases he.symm.trans hok

theorem withResolver_events {α : Type} (F : DispatchFabric W)
    (outcome : Except ResolverFault (α × GlobalResolver)) :
    (F.withResolver outcome).events = F.events := (withResolver_silent F outcome).2

/-- A call that raises adds no event to the log of the fabric. -/
theorem fault_events (r : Renderer) (py : Builtins) (F : DispatchFabric W) (l : ℚ × Request W) :
    fault r py F l = none ∨ (step py F l).events = F.events := by
  obtain ⟨now, world, uuid, call⟩ := l
  cases call with
  | dispatch params => exact (dispatch_raises F now world uuid params).imp_right And.right
  | registerExecutor nodeId executor => exact .inl rfl
  | execute id =>
      exact (execute_raises F now world id).imp_right (congrArg DispatchFabric.events)
  | completeStage id organ evidence =>
      exact (completeStage_raises F now id organ evidence).imp_right
        (congrArg DispatchFabric.events)
  | fail id reason retryable =>
      exact (fail_raises F now id reason retryable).imp_right (congrArg DispatchFabric.events)
  | advertise => exact .inr (withResolver_events F _)
  | heartbeat => exact .inr (withResolver_events F _)
  | expire => exact .inl rfl
  | topology => exact .inr (withResolver_events F _)
  | resolve => exact .inr (withResolver_events F _)
  | reload => exact .inr rfl

end DispatchFabric

/-! ## Runs -/

namespace Pool

variable {W : Type} {P P' : Pool W}

/-- One step of the pool, however its executor runs end. -/
theorem audited_step (py : Builtins) (h : P.fabric.EveryDispatch Audited) {l : ℚ × PoolLabel W}
    (hstep : step py P l = some P') : P'.fabric.EveryDispatch Audited := by
  obtain ⟨now, label⟩ := l
  cases step_stepped py hstep with
  | rejected => exact h
  | awaited _ _ => exact DispatchFabric.audited_act h now _ .await
  | started _ _ => exact DispatchFabric.audited_act h now _ .begin
  | finished _ => exact DispatchFabric.audited_act h now _ (.finish _)
  | called _ => exact DispatchFabric.audited_step h (now, _)

end Pool

/-- The event log is a complete audit trail.  In every state of every run of the
control plane, and of every interleaving of executor runs with other calls, the
events of a dispatch replay to exactly the state, the proof chain, the result and
the error of its record; and a call that raises adds no event. -/
theorem event_log_replays (W : Type) (r : Renderer) (py : Builtins) (registries : Registries) :
    (∀ calls : List (ℚ × Request W),
      (DispatchFabric.machine py W).Always (DispatchFabric.EveryDispatch Audited)
        (DispatchFabric.init registries) calls) ∧
    (∀ labels : List (ℚ × PoolLabel W),
      (Pool.step py).Always (fun P : Pool W ↦ P.fabric.EveryDispatch Audited)
        (Pool.init registries) labels) ∧
    ∀ (F : DispatchFabric W) (l : ℚ × Request W),
      DispatchFabric.fault r py F l = none ∨ (DispatchFabric.step py F l).events = F.events := by
  refine ⟨fun calls ↦ ?_, fun labels ↦ ?_, DispatchFabric.fault_events r py⟩
  · apply Machine.always_of_keeps
    · intro F l F' h hstep
      rw [← Machine.ofTotal_eq_some.mp hstep]
      exact DispatchFabric.audited_step h l
    · exact DispatchFabric.everyDispatch_init registries
  · apply Machine.always_of_keeps
    · intro P l P' h hstep
      exact Pool.audited_step py h hstep
    · exact DispatchFabric.everyDispatch_init registries

/-- The trail of a dispatch that ran, was proved once, and was then failed. -/
example : DispatchFabric.soloView (fun F record ↦
    ((AuditView.replay (F.log "dispatch-1")).map fun v ↦ (v.state, v.proofChain, v.error),
      record.state))
    (DispatchFabric.executedCalls ++ DispatchFabric.stageCalls [.seca] ++
      [.fail "dispatch-1" "lost" true]) =
    some (some (.retryable, [.seca], some "lost"), .retryable) := by
  decide +kernel

end EstateMesh
