import EstateMesh.Dispatch.Lifecycle

/-!
# One record under one call

The inversion lemma of the control plane, seen from a single record: a call
leaves the record alone, or it is one of the calls about it, or it creates it
(`step_recordStepped`).  An execution starts and ends within a call, so between
calls no record is running.
-/

namespace EstateMesh

open Lib

namespace DispatchFabric

variable {W : Type}

/-- What `execute` makes of a record. -/
inductive RecordExecuted (F : DispatchFabric W) (now : ℚ) (world : W)
    (record : DispatchRecord) : DispatchRecord → Prop
  | rejected (hstate : record.state.isExecutable = false) : RecordExecuted F now world record record
  | awaited (hstate : record.state.isExecutable = true)
      (hexecutor : F.executors.get? (record.target.getD "") = none) :
      RecordExecuted F now world record (RecordAct.await.apply now record)
  | ran {executor : Executor W} (hstate : record.state.isExecutable = true)
      (hexecutor : F.executors.get? (record.target.getD "") = some executor) :
      RecordExecuted F now world record
        ((RecordAct.finish (executor world (RecordAct.begin.apply now record))).apply now
          (RecordAct.begin.apply now record))

/-- The record with an id after a call. -/
inductive RecordStepped (F : DispatchFabric W) (id : String) :
    ℚ × Request W → DispatchRecord → Prop
  | kept {l : ℚ × Request W} {record : DispatchRecord} (h : F.records.get? id = some record) :
      RecordStepped F id l record
  | executed {now : ℚ} {world : W} {uuid : String} {record record' : DispatchRecord}
      (h : F.records.get? id = some record)
      (hexecuted : RecordExecuted F now world record record') :
      RecordStepped F id (now, ⟨world, uuid, .execute id⟩) record'
  | accepted {now : ℚ} {world : W} {uuid : String} {evidence : PyDict}
      {record : DispatchRecord} {expected : Organ} (h : F.records.get? id = some record)
      (hstate : record.state.isProvable = true) (hnext : record.nextProofStage = some expected) :
      RecordStepped F id (now, ⟨world, uuid, .completeStage id expected.name evidence⟩)
        ((RecordAct.accept expected evidence).apply now record)
  | failed {now : ℚ} {world : W} {uuid reason : String} {retryable : Bool}
      {record : DispatchRecord} (h : F.records.get? id = some record) :
      RecordStepped F id (now, ⟨world, uuid, .fail id reason retryable⟩)
        ((RecordAct.fail reason retryable).apply now record)
  | created {now : ℚ} {world : W} {uuid : String} {params : DispatchParams}
      {record record' : DispatchRecord} (hid : mintedId uuid = id)
      (hstate : record.state = .dispatched)
      (hexecuted : record' = record ∨ RecordExecuted F now world record record') :
      RecordStepped F id (now, ⟨world, uuid, .dispatch params⟩) record'

variable {F F' : DispatchFabric W} {id : String} {record record' : DispatchRecord}

/-- The call mints an id. -/
def mints (id : String) : ℚ × Request W → Bool
  | (_, ⟨_, uuid, .dispatch _⟩) => mintedId uuid = id
  | _ => false

/-- A record after an act, on it or on another one. -/
theorem of_act_get? {now : ℚ} {id' : String} {a : RecordAct}
    (h : (F.act now id' a).records.get? id = some record') :
    F.records.get? id = some record' ∧ id' ≠ id ∨
      id' = id ∧ ∃ record, F.records.get? id = some record ∧ record' = a.apply now record := by
  by_cases e : id' = id
  · subst e
    refine .inr ⟨rfl, ?_⟩
    cases hrecord : F.records.get? id' with
    | none =>
        rw [act_of_none now hrecord, hrecord] at h
        cases h
    | some record =>
        rw [act_get?_self now hrecord] at h
        exact ⟨record, rfl, (Option.some.inj h).symm⟩
  · rw [act_get?_of_ne now e] at h
    exact .inl ⟨h, e⟩

/-- A record after an execution, of it or of another one. -/
theorem Executed.of_get? {now : ℚ} {world : W} {id' : String}
    (hexecuted : Executed F now world id' F') (h : F'.records.get? id = some record') :
    F.records.get? id = some record' ∧ id' ≠ id ∨
      id' = id ∧ ∃ record, F.records.get? id = some record ∧
        RecordExecuted F now world record record' := by
  cases hexecuted with
  | rejected hnot =>
      by_cases e : id' = id
      · subst e
        exact .inr ⟨rfl, record', h, .rejected (hnot record' h)⟩
      · exact .inl ⟨h, e⟩
  | awaited hrecord hstate hexecutor =>
      rcases of_act_get? h with hkept | ⟨rfl, record, hrecord', rfl⟩
      · exact .inl hkept
      · cases hrecord.symm.trans hrecord'
        exact .inr ⟨rfl, _, hrecord, .awaited hstate hexecutor⟩
  | ran hrecord hstate hexecutor =>
      rcases of_act_get? h with ⟨hkept, hne⟩ | ⟨rfl, record, hrecord', rfl⟩
      · rw [act_get?_of_ne now hne] at hkept
        exact .inl ⟨hkept, hne⟩
      · rw [act_get?_self now hrecord] at hrecord'
        cases hrecord'
        exact .inr ⟨rfl, _, hrecord, .ran hstate hexecutor⟩

/-- The inversion lemma, for one record. -/
theorem step_recordStepped (py : Builtins) {l : ℚ × Request W}
    (h : (step py F l).records.get? id = some record') : RecordStepped F id l record' := by
  have hstepped := step_stepped py F l
  generalize step py F l = F' at h hstepped
  cases hstepped with
  | silent hsilent =>
      rw [hsilent.1] at h
      exact .kept h
  | executed hexecuted =>
      rcases hexecuted.of_get? h with ⟨hkept, -⟩ | ⟨rfl, record, hrecord, hexecuted⟩
      · exact .kept hkept
      · exact .executed hrecord hexecuted
  | accepted hrecord hstate hnext =>
      rcases of_act_get? h with ⟨hkept, -⟩ | ⟨rfl, record, hrecord', rfl⟩
      · exact .kept hkept
      · cases hrecord.symm.trans hrecord'
        exact .accepted hrecord hstate hnext
  | failed _ =>
      rcases of_act_get? h with ⟨hkept, -⟩ | ⟨rfl, record, hrecord, rfl⟩
      · exact .kept hkept
      · exact .failed hrecord
  | created hcreated =>
      obtain ⟨resolution, selected, hrecords, -⟩ := hcreated
      rw [hrecords, Dict.get?_set] at h
      split at h
      · rename_i hid
        cases h
        exact .created hid rfl (.inl rfl)
      · exact .kept h
  | createdExecuted _ hcreated hexecuted =>
      obtain ⟨resolution, selected, hrecords, hexecutors, -⟩ := hcreated
      rcases hexecuted.of_get? h with ⟨hkept, hne⟩ | ⟨rfl, record, hrecord, hexecuted⟩
      · rw [hrecords, Dict.get?_set_of_ne _ hne] at hkept
        exact .kept hkept
      · rw [hrecords, Dict.get?_set_self] at hrecord
        have hstate : record.state = .dispatched := by
          rw [← Option.some.inj hrecord]
          rfl
        refine .created rfl hstate (.inr ?_)
        cases hexecuted with
        | rejected hstate => exact .rejected hstate
        | awaited hstate hexecutor => exact .awaited hstate (hexecutors ▸ hexecutor)
        | ran hstate hexecutor => exact .ran hstate (hexecutors ▸ hexecutor)

/-- Acts remove no record. -/
theorem act_get?_isSome {now : ℚ} {id' : String} {a : RecordAct}
    (h : (F.records.get? id).isSome) : ((F.act now id' a).records.get? id).isSome := by
  by_cases e : id' = id
  · subst e
    obtain ⟨record, hrecord⟩ := Option.isSome_iff_exists.mp h
    rw [act_get?_self now hrecord]
    rfl
  · rwa [act_get?_of_ne now e]

theorem Executed.get?_isSome {now : ℚ} {world : W} {id' : String}
    (hexecuted : Executed F now world id' F') (h : (F.records.get? id).isSome) :
    (F'.records.get? id).isSome := by
  cases hexecuted with
  | rejected _ => exact h
  | awaited _ _ _ => exact act_get?_isSome h
  | ran _ _ _ => exact act_get?_isSome (act_get?_isSome h)

theorem Created.get?_isSome {now : ℚ} {uuid : String} {params : DispatchParams}
    (hcreated : Created F now uuid params F') (h : (F.records.get? id).isSome) :
    (F'.records.get? id).isSome := by
  obtain ⟨resolution, selected, hrecords, -⟩ := hcreated
  rw [hrecords, Dict.get?_set]
  split
  · rfl
  · exact h

/-- Calls remove no record. -/
theorem step_get?_isSome (py : Builtins) (h : (F.records.get? id).isSome) (l : ℚ × Request W) :
    ((step py F l).records.get? id).isSome := by
  have hstepped := step_stepped py F l
  generalize step py F l = F' at hstepped
  cases hstepped with
  | silent hsilent => rwa [hsilent.1]
  | executed hexecuted => exact hexecuted.get?_isSome h
  | accepted _ _ _ => exact act_get?_isSome h
  | failed _ => exact act_get?_isSome h
  | created hcreated => exact hcreated.get?_isSome h
  | createdExecuted _ hcreated hexecuted => exact hexecuted.get?_isSome (hcreated.get?_isSome h)

/-! ## Between calls -/

/-- No record is running. -/
def Settled (F : DispatchFabric W) : Prop :=
  ∀ id record, F.records.get? id = some record → record.state ≠ .running

theorem RecordExecuted.not_running {now : ℚ} {world : W}
    (h : RecordExecuted F now world record record') (hstate : record.state ≠ .running) :
    record'.state ≠ .running := by
  cases h with
  | rejected _ => exact hstate
  | awaited _ _ => nofun
  | @ran executor _ _ =>
      cases executor world (RecordAct.begin.apply now record) <;> nofun

theorem RecordStepped.not_running {l : ℚ × Request W} (h : RecordStepped F id l record')
    (hF : Settled F) : record'.state ≠ .running := by
  cases h with
  | kept hrecord => exact hF id record' hrecord
  | executed hrecord hexecuted => exact hexecuted.not_running (hF id _ hrecord)
  | @accepted _ _ _ _ _ expected _ _ _ => cases expected <;> nofun
  | @failed _ _ _ _ retryable _ _ => cases retryable <;> nofun
  | created _ hstate hexecuted =>
      rcases hexecuted with rfl | hexecuted
      · rw [hstate]
        nofun
      · exact hexecuted.not_running (by rw [hstate]; nofun)

theorem settled_init (registries : Registries) :
    Settled (init registries : DispatchFabric W) := by
  intro id record hrecord
  rw [get?_init] at hrecord
  cases hrecord

/-- Between calls no record is running. -/
theorem Reached.settled {py : Builtins} {registries : Registries}
    (h : Reached py registries F) : Settled F := by
  apply Machine.Reachable.invariant _ h (settled_init registries)
  intro F l F' hF hstep id record hrecord
  rw [← Machine.ofTotal_eq_some.mp hstep] at hrecord
  exact (step_recordStepped py hrecord).not_running hF

end DispatchFabric

end EstateMesh
