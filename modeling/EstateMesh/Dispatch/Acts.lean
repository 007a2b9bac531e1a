import EstateMesh.Dispatch.Fabric

/-!
# What a call does to a record

The calls of the fabric change a record in five ways only: it starts to wait for
an executor, it starts to run, a run of it ends, a stage of its proof is
accepted, or it is failed.  `RecordAct` names these ways, `act` performs one,
and the equations below say which of them each operation performs and when.
`Stepped` puts the equations together: it is everything that one call of the
control plane can do to the records and to the event log.
-/

namespace EstateMesh

open Lib

/-- The ways in which a record changes. -/
inductive RecordAct
  | await
  | begin
  | finish (outcome : Except String Value)
  | accept (organ : Organ) (evidence : PyDict)
  | fail (reason : String) (retryable : Bool)

namespace RecordAct

/-- The record afterwards. -/
def apply (now : ℚ) (record : DispatchRecord) : RecordAct → DispatchRecord
  | await => { record with state := .awaitingExecutor, updatedAt := now }
  | begin => { record with state := .running, updatedAt := now }
  | finish (.ok result) => { record with result := result, state := .executed, updatedAt := now }
  | finish (.error error) =>
      { record with state := .failed, error := some error, updatedAt := now }
  | accept organ _ =>
      { record with
        proofChain := record.proofChain ++ [organ]
        updatedAt := now
        state := stateByOrgan organ }
  | fail reason retryable =>
      { record with
        error := some reason
        state := if retryable then .retryable else .failed
        updatedAt := now }

/-- What the events say, given the proof chain afterwards. -/
def payloads (chain : List Organ) : RecordAct → List DispatchPayload
  | await => [.awaitingExecutor]
  | begin => [.busy]
  | finish (.ok result) => [.executed result]
  | finish (.error error) => [.raised error]
  | accept organ evidence =>
      if stateByOrgan organ = .completed then
        [.stageCompleted organ evidence, .completed chain]
      else [.stageCompleted organ evidence]
  | fail reason retryable => [.failed reason retryable]

/-- No act changes whose record it is. -/
@[simp] theorem apply_dispatchId (now : ℚ) (record : DispatchRecord) (a : RecordAct) :
    (a.apply now record).dispatchId = record.dispatchId := by
  cases a with
  | finish outcome => cases outcome <;> rfl
  | _ => rfl

/-- No act changes where the record is to be executed. -/
@[simp] theorem apply_target (now : ℚ) (record : DispatchRecord) (a : RecordAct) :
    (a.apply now record).target = record.target := by
  cases a with
  | finish outcome => cases outcome <;> rfl
  | _ => rfl

end RecordAct

/-- The event that reports a payload about a record. -/
def eventOf (now : ℚ) (record : DispatchRecord) (payload : DispatchPayload) : DispatchEvent :=
  ⟨now, record.dispatchId, record.packetId, record.source, record.target, payload⟩

namespace DispatchFabric

variable {W : Type} (self : DispatchFabric W) (now : ℚ) (dispatchId : String)

/-- Change a record and report the change. -/
def act (a : RecordAct) : DispatchFabric W :=
  match self.records.get? dispatchId with
  | none => self
  | some record =>
      let record := a.apply now record
      (a.payloads record.proofChain).foldl (fun self payload ↦ self.emit now record payload)
        (self.store dispatchId record)

/-! ## The effect of an act -/

@[simp] theorem emit_events (record : DispatchRecord) (payload : DispatchPayload) :
    (self.emit now record payload).events = self.events ++ [eventOf now record payload] := rfl

/-- Reporting several payloads about a record. -/
theorem foldl_emit (record : DispatchRecord) (payloads : List DispatchPayload) :
    let F := payloads.foldl (fun self payload ↦ self.emit now record payload) self
    F.records = self.records ∧ F.executors = self.executors ∧
      F.events = self.events ++ payloads.map (eventOf now record) := by
  induction payloads generalizing self with
  | nil => exact ⟨rfl, rfl, (List.append_nil _).symm⟩
  | cons payload payloads ih =>
      obtain ⟨h₁, h₂, h₃⟩ := ih (self.emit now record payload)
      refine ⟨h₁, h₂, h₃.trans ?_⟩
      rw [emit_events, List.append_assoc]
      rfl

variable {self dispatchId}

theorem act_of_none (h : self.records.get? dispatchId = none) (a : RecordAct) :
    self.act now dispatchId a = self := by
  unfold act
  rw [h]

theorem act_of_some {record : DispatchRecord} (h : self.records.get? dispatchId = some record)
    (a : RecordAct) :
    self.act now dispatchId a =
      (a.payloads (a.apply now record).proofChain).foldl
        (fun self payload ↦ self.emit now (a.apply now record) payload)
        (self.store dispatchId (a.apply now record)) := by
  unfold act
  rw [h]

theorem act_spec {record : DispatchRecord} (h : self.records.get? dispatchId = some record)
    (a : RecordAct) :
    (self.act now dispatchId a).records =
        self.records.set dispatchId (a.apply now record) ∧
      (self.act now dispatchId a).executors = self.executors ∧
      (self.act now dispatchId a).events = self.events ++
        (a.payloads (a.apply now record).proofChain).map (eventOf now (a.apply now record)) := by
  rw [act_of_some now h]
  exact foldl_emit (self.store dispatchId (a.apply now record)) now _ _

/-- The record itself afterwards. -/
theorem act_get?_self {record : DispatchRecord} (h : self.records.get? dispatchId = some record)
    (a : RecordAct) :
    (self.act now dispatchId a).records.get? dispatchId = some (a.apply now record) := by
  rw [(act_spec now h a).1, Dict.get?_set_self]

/-- The other records are unchanged. -/
theorem act_get?_of_ne {dispatchId' : String} (h : dispatchId ≠ dispatchId') (a : RecordAct) :
    (self.act now dispatchId a).records.get? dispatchId' = self.records.get? dispatchId' := by
  cases hr : self.records.get? dispatchId with
  | none => rw [act_of_none now hr]
  | some record => rw [(act_spec now hr a).1, Dict.get?_set_of_ne _ h]

/-! ## Operations as acts -/

theorem get_of_some {record : DispatchRecord} (h : self.records.get? dispatchId = some record) :
    self.get dispatchId = .ok record := by
  unfold get
  rw [h]

theorem get_of_none (h : self.records.get? dispatchId = none) :
    self.get dispatchId = .error (.resolution ("unknown dispatch " ++ dispatchId) 404) := by
  unfold get
  rw [h]

theorem snapshot_of_some {record : DispatchRecord}
    (h : self.records.get? dispatchId = some record) :
    self.snapshot dispatchId = .ok ⟨record, record.nextProofStage⟩ := by
  unfold snapshot
  rw [get_of_some h]
  rfl

theorem fail_eq (reason : String) (retryable : Bool) :
    (self.fail now dispatchId reason retryable).2 =
      self.act now dispatchId (.fail reason retryable) := by
  unfold fail
  cases h : self.records.get? dispatchId with
  | none => rw [get_of_none h, act_of_none now h]
  | some record =>
      rw [get_of_some h, act_of_some now h]
      rfl

theorem finishExecute_eq (outcome : Except String Value) :
    self.finishExecute now dispatchId outcome = self.act now dispatchId (.finish outcome) := by
  unfold finishExecute act
  cases self.records.get? dispatchId with
  | none => rfl
  | some record => cases outcome <;> rfl

/-- What the first part of `execute` does. -/
inductive Begun (F : DispatchFabric W) (now : ℚ) (dispatchId : String) :
    Except ResolverFault (Option (Executor W) × DispatchFabric W) → Prop
  | rejected {e : ResolverFault}
      (h : ∀ record, F.records.get? dispatchId = some record → record.state.isExecutable = false) :
      Begun F now dispatchId (.error e)
  | awaited {record : DispatchRecord} (h : F.records.get? dispatchId = some record)
      (hstate : record.state.isExecutable = true)
      (hexecutor : F.executors.get? (record.target.getD "") = none) :
      Begun F now dispatchId (.ok (none, F.act now dispatchId .await))
  | begun {record : DispatchRecord} {executor : Executor W}
      (h : F.records.get? dispatchId = some record) (hstate : record.state.isExecutable = true)
      (hexecutor : F.executors.get? (record.target.getD "") = some executor) :
      Begun F now dispatchId (.ok (some executor, F.act now dispatchId .begin))

theorem beginExecute_begun (F : DispatchFabric W) (dispatchId : String) :
    Begun F now dispatchId (F.beginExecute now dispatchId) := by
  unfold beginExecute
  cases h : F.records.get? dispatchId with
  | none =>
      rw [get_of_none h]
      refine .rejected fun record hrecord ↦ ?_
      cases h.symm.trans hrecord
  | some record =>
      rw [get_of_some h]
      dsimp only
      split
      · rename_i hstate
        refine .rejected fun record' hrecord ↦ ?_
        cases h.symm.trans hrecord
        exact hstate
      · rename_i hstate
        have hexecutable : record.state.isExecutable = true := by simpa using hstate
        cases hexecutor : F.executors.get? (record.target.getD "") with
        | none =>
            have hawaited : Begun F now dispatchId _ := .awaited h hexecutable hexecutor
            rwa [act_of_some now h] at hawaited
        | some executor =>
            have hbegun : Begun F now dispatchId _ := .begun h hexecutable hexecutor
            rwa [act_of_some now h] at hbegun

/-- What `execute` does to the fabric. -/
inductive Executed (F : DispatchFabric W) (now : ℚ) (world : W) (dispatchId : String) :
    DispatchFabric W → Prop
  | rejected
      (h : ∀ record, F.records.get? dispatchId = some record → record.state.isExecutable = false) :
      Executed F now world dispatchId F
  | awaited {record : DispatchRecord} (h : F.records.get? dispatchId = some record)
      (hstate : record.state.isExecutable = true)
      (hexecutor : F.executors.get? (record.target.getD "") = none) :
      Executed F now world dispatchId (F.act now dispatchId .await)
  | ran {record : DispatchRecord} {executor : Executor W}
      (h : F.records.get? dispatchId = some record) (hstate : record.state.isExecutable = true)
      (hexecutor : F.executors.get? (record.target.getD "") = some executor) :
      Executed F now world dispatchId
        ((F.act now dispatchId .begin).act now dispatchId
          (.finish (executor world (RecordAct.begin.apply now record))))

theorem execute_executed (F : DispatchFabric W) (world : W) (dispatchId : String) :
    Executed F now world dispatchId (F.execute now world dispatchId).2 := by
  unfold execute
  generalize hb : F.beginExecute now dispatchId = begun
  have hbegun := beginExecute_begun now F dispatchId
  rw [hb] at hbegun
  cases hbegun with
  | rejected h => exact .rejected h
  | awaited h hstate hexecutor => exact .awaited h hstate hexecutor
  | begun h hstate hexecutor =>
      dsimp only
      rw [get_of_some (act_get?_self now h .begin)]
      dsimp only
      rw [finishExecute_eq]
      exact .ran h hstate hexecutor

/-- Executing a record whose executor is registered. -/
theorem execute_ran {F : DispatchFabric W} {record : DispatchRecord} {executor : Executor W}
    (world : W) (h : F.records.get? dispatchId = some record)
    (hstate : record.state.isExecutable = true)
    (hexecutor : F.executors.get? (record.target.getD "") = some executor) :
    (F.execute now world dispatchId).2 =
      (F.act now dispatchId .begin).act now dispatchId
        (.finish (executor world (RecordAct.begin.apply now record))) := by
  have hexecuted := execute_executed now F world dispatchId
  generalize (F.execute now world dispatchId).2 = F' at hexecuted
  cases hexecuted with
  | rejected hnot => cases (hnot record h).symm.trans hstate
  | awaited h' _ hnone =>
      cases h.symm.trans h'
      cases hexecutor.symm.trans hnone
  | ran h' _ hexecutor' =>
      cases h.symm.trans h'
      cases hexecutor.symm.trans hexecutor'
      rfl

/-- What `completeStage` does: an answer and a fabric. -/
inductive StageCompleted (F : DispatchFabric W) (now : ℚ) (dispatchId organ : String)
    (evidence : PyDict) : Except ResolverFault DispatchSnapshot × DispatchFabric W → Prop
  | rejected {e : ResolverFault}
      (h : ∀ record, F.records.get? dispatchId = some record → record.state.isProvable = true →
        ∃ expected, record.nextProofStage = some expected ∧ organ ≠ expected.name) :
      StageCompleted F now dispatchId organ evidence (.error e, F)
  | full {record : DispatchRecord} (h : F.records.get? dispatchId = some record)
      (hstate : record.state.isProvable = true) (hnext : record.nextProofStage = none) :
      StageCompleted F now dispatchId organ evidence (F.snapshot dispatchId, F)
  | accepted {record : DispatchRecord} {expected : Organ}
      (h : F.records.get? dispatchId = some record) (hstate : record.state.isProvable = true)
      (hnext : record.nextProofStage = some expected) (horgan : organ = expected.name) :
      StageCompleted F now dispatchId organ evidence
        ((F.act now dispatchId (.accept expected evidence)).snapshot dispatchId,
          F.act now dispatchId (.accept expected evidence))

theorem completeStage_completed (F : DispatchFabric W) (dispatchId organ : String)
    (evidence : PyDict) :
    StageCompleted F now dispatchId organ evidence
      (F.completeStage now dispatchId organ evidence) := by
  unfold completeStage
  cases h : F.records.get? dispatchId with
  | none =>
      rw [get_of_none h]
      refine .rejected fun record hrecord ↦ ?_
      cases h.symm.trans hrecord
  | some record =>
      rw [get_of_some h]
      dsimp only
      split
      · rename_i hstate
        refine .rejected fun record' hrecord hprovable ↦ ?_
        cases h.symm.trans hrecord
        cases hstate.symm.trans hprovable
      · rename_i hstate
        have hprovable : record.state.isProvable = true := by simpa using hstate
        cases hnext : record.nextProofStage with
        | none => exact .full h hprovable hnext
        | some expected =>
            dsimp only
            split
            · rename_i horgan
              refine .rejected fun record' hrecord _ ↦ ?_
              cases h.symm.trans hrecord
              exact ⟨expected, hnext, horgan⟩
            · rename_i horgan
              have haccepted : StageCompleted F now dispatchId organ evidence _ :=
                .accepted h hprovable hnext (not_not.mp horgan)
              rw [act_of_some now h] at haccepted
              cases expected <;> exact haccepted

/-- Accepting the stage that is due. -/
theorem completeStage_accept {F : DispatchFabric W} {record : DispatchRecord} {expected : Organ}
    (h : F.records.get? dispatchId = some record) (hstate : record.state.isProvable = true)
    (hnext : record.nextProofStage = some expected) (evidence : PyDict) :
    (F.completeStage now dispatchId expected.name evidence).2 =
      F.act now dispatchId (.accept expected evidence) := by
  have hcompleted := completeStage_completed now F dispatchId expected.name evidence
  generalize F.completeStage now dispatchId expected.name evidence = outcome at hcompleted
  cases hcompleted with
  | rejected hnot =>
      obtain ⟨expected', hnext', hne⟩ := hnot record h hstate
      cases hnext.symm.trans hnext'
      exact absurd rfl hne
  | full h' _ hnone =>
      cases h.symm.trans h'
      cases hnone.symm.trans hnext
  | accepted h' _ hnext' _ =>
      cases h.symm.trans h'
      cases hnext.symm.trans hnext'
      rfl

/-! ## One call -/

/-- No record and no event changes. -/
def Silent (F F' : DispatchFabric W) : Prop := F'.records = F.records ∧ F'.events = F.events

theorem Silent.refl (F : DispatchFabric W) : Silent F F := ⟨rfl, rfl⟩

/-- The id that a dispatch mints. -/
def mintedId (uuid : String) : String := "dispatch-" ++ uuid

/-- A new dispatch was recorded. -/
def Created (F : DispatchFabric W) (now : ℚ) (uuid : String) (params : DispatchParams)
    (F' : DispatchFabric W) : Prop :=
  ∃ resolution selected,
    let record := newRecord now uuid params resolution selected
    F'.records = F.records.set (mintedId uuid) record ∧ F'.executors = F.executors ∧
      F'.events = F.events ++ [eventOf now record (.dispatched selected)]

theorem createDispatch_created (py : Builtins) (F : DispatchFabric W) (uuid : String)
    (params : DispatchParams) :
    (∃ e, (F.createDispatch now py uuid params).1 = .error e ∧
        Silent F (F.createDispatch now py uuid params).2) ∨
      (F.createDispatch now py uuid params).1 = .ok (mintedId uuid) ∧
        Created F now uuid params (F.createDispatch now py uuid params).2 := by
  unfold createDispatch
  cases F.resolver.resolve py now params.resolveParams with
  | error e => exact .inl ⟨e, rfl, .refl F⟩
  | ok outcome =>
      obtain ⟨resolution, resolver⟩ := outcome
      dsimp only
      cases resolution.selected with
      | none => exact .inl ⟨_, rfl, rfl, rfl⟩
      | some selected => exact .inr ⟨rfl, resolution, selected, rfl, rfl, rfl⟩

/-- Everything that one call can do to the records and to the event log. -/
inductive Stepped (F : DispatchFabric W) : ℚ × Request W → DispatchFabric W → Prop
  | silent {l : ℚ × Request W} {F' : DispatchFabric W} (h : Silent F F') : Stepped F l F'
  | executed {now : ℚ} {world : W} {uuid dispatchId : String} {F' : DispatchFabric W}
      (h : Executed F now world dispatchId F') :
      Stepped F (now, ⟨world, uuid, .execute dispatchId⟩) F'
  | accepted {now : ℚ} {world : W} {uuid dispatchId : String} {evidence : PyDict}
      {record : DispatchRecord} {expected : Organ}
      (h : F.records.get? dispatchId = some record) (hstate : record.state.isProvable = true)
      (hnext : record.nextProofStage = some expected) :
      Stepped F (now, ⟨world, uuid, .completeStage dispatchId expected.name evidence⟩)
        (F.act now dispatchId (.accept expected evidence))
  | failed {now : ℚ} {world : W} {uuid dispatchId reason : String} {retryable : Bool}
      {record : DispatchRecord} (h : F.records.get? dispatchId = some record) :
      Stepped F (now, ⟨world, uuid, .fail dispatchId reason retryable⟩)
        (F.act now dispatchId (.fail reason retryable))
  | created {now : ℚ} {world : W} {uuid : String} {params : DispatchParams}
      {F' : DispatchFabric W} (h : Created F now uuid params F') :
      Stepped F (now, ⟨world, uuid, .dispatch params⟩) F'
  | createdExecuted {now : ℚ} {world : W} {uuid : String} {params : DispatchParams}
      {G F' : DispatchFabric W} (hexecute : params.execute = true)
      (hG : Created F now uuid params G) (h : Executed G now world (mintedId uuid) F') :
      Stepped F (now, ⟨world, uuid, .dispatch params⟩) F'

theorem withResolver_silent {α : Type} (F : DispatchFabric W)
    (outcome : Except ResolverFault (α × GlobalResolver)) : Silent F (F.withResolver outcome) := by
  cases outcome <;> exact ⟨rfl, rfl⟩

/-- The inversion lemma of the control plane. -/
theorem step_stepped (py : Builtins) (F : DispatchFabric W) (l : ℚ × Request W) :
    Stepped F l (step py F l) := by
  obtain ⟨now, world, uuid, call⟩ := l
  cases call with
  | dispatch params =>
      simp only [step, dispatch]
      generalize hG : F.createDispatch now py uuid params = outcome
      have hcreated := createDispatch_created now py F uuid params
      rw [hG] at hcreated
      obtain ⟨answer, G⟩ := outcome
      rcases hcreated with ⟨e, rfl, hsilent⟩ | ⟨rfl, hcreated⟩
      · exact .silent hsilent
      · dsimp only
        split
        · rename_i hexecute
          exact .createdExecuted hexecute hcreated (execute_executed now G world _)
        · exact .created hcreated
  | registerExecutor nodeId executor => exact .silent ⟨rfl, rfl⟩
  | execute dispatchId => exact .executed (execute_executed now F world dispatchId)
  | completeStage dispatchId organ evidence =>
      simp only [step]
      generalize hG : F.completeStage now dispatchId organ evidence = outcome
      have hcompleted := completeStage_completed now F dispatchId organ evidence
      rw [hG] at hcompleted
      cases hcompleted with
      | rejected _ => exact .silent (.refl F)
      | full _ _ _ => exact .silent (.refl F)
      | accepted h hstate hnext horgan =>
          subst horgan
          exact .accepted h hstate hnext
  | fail dispatchId reason retryable =>
      simp only [step, fail_eq]
      cases h : F.records.get? dispatchId with
      | none =>
          rw [act_of_none now h]
          exact .silent (.refl F)
      | some record => exact .failed h
  | advertise => exact .silent (withResolver_silent F _)
  | heartbeat => exact .silent (withResolver_silent F _)
  | expire => exact .silent ⟨rfl, rfl⟩
  | topology => exact .silent (withResolver_silent F _)
  | resolve => exact .silent (withResolver_silent F _)
  | reload => exact .silent ⟨rfl, rfl⟩

end DispatchFabric

end EstateMesh
