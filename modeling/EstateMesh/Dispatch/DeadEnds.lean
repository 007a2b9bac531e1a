import EstateMesh.Dispatch.Records

/-!
# Dead ends

A dispatch that is neither completed nor failed is meant to be completable: run
its executor, then have the organs accept their stages.  From most states this is
so, whatever the times and the worlds of the calls.

Two kinds of record are stuck instead.  `execute` sets a record without executor
to `AWAITING_EXECUTOR` and does not accept it from there, not even once an
executor is registered.  And a record with a full proof chain that is retried
keeps the chain, so that no stage is left whose acceptance could complete it.
`completable_iff` says that there are no others.
-/

namespace EstateMesh

open Lib

/-- The calls that bring a dispatch forward. -/
def Call.advances {W : Type} : Call W → Bool
  | execute _ | completeStage _ _ _ => true
  | _ => false

/-- The state with all stages is the completed one. -/
theorem DispatchState.eq_completed {state : DispatchState} (h : state.stageCount = some 5) :
    state = .completed := by
  cases state <;> first | rfl | cases h

/-- In a state between the first and the last stage a record may be proved. -/
theorem DispatchState.isProvable_of_stageCount {state : DispatchState} {n : ℕ}
    (h : state.stageCount = some n) (hpos : 0 < n) (hlt : n < 5) : state.isProvable = true := by
  cases state with
  | dispatched =>
      cases h
      cases hpos
  | completed =>
      cases h
      cases Nat.lt_irrefl 5 hlt
  | verifying | proving | remembering | reconciling => rfl
  | _ => cases h

namespace DispatchFabric

variable {W : Type}

/-- Calls made one after the other at the times and in the worlds of an
environment. -/
def inEnvironment (env : ℕ → ℚ × W) (calls : List (Call W)) : List (ℚ × Request W) :=
  calls.mapIdx fun i call ↦ ((env i).1, ⟨(env i).2, "", call⟩)

/-- The calls complete a dispatch. -/
def Completes (py : Builtins) (env : ℕ → ℚ × W) (F : DispatchFabric W) (id : String)
    (calls : List (Call W)) : Prop :=
  ∃ F' record, (machine py W).run F (inEnvironment env calls) = some F' ∧
    F'.records.get? id = some record ∧ record.state = .completed

/-- Some calls that only bring dispatches forward complete a dispatch. -/
def Completable (py : Builtins) (env : ℕ → ℚ × W) (F : DispatchFabric W) (id : String) : Prop :=
  ∃ calls, (∀ call ∈ calls, call.advances = true) ∧ Completes py env F id calls

variable {py : Builtins} {env : ℕ → ℚ × W} {F : DispatchFabric W} {id : String}
  {record : DispatchRecord}

/-! ## The way forward -/

theorem Completes.cons {call : Call W} {calls : List (Call W)}
    (h : Completes py (fun i ↦ env (i + 1)) (step py F ((env 0).1, ⟨(env 0).2, "", call⟩)) id
      calls) : Completes py env F id (call :: calls) := by
  obtain ⟨F', record, hrun, hrecord⟩ := h
  refine ⟨F', record, ?_, hrecord⟩
  rw [inEnvironment, List.mapIdx_cons]
  exact hrun

/-- The calls of the organs whose stages are left, in order, complete a record. -/
theorem completes_stages {rest : List Organ} (hrecord : F.records.get? id = some record)
    (hstate : record.state.isProvable = true) (hchain : record.proofChain ++ rest = proofChain)
    (hrest : rest ≠ []) :
    Completes py env F id (rest.map fun organ ↦ .completeStage id organ.name []) := by
  induction rest generalizing F record env with
  | nil => exact absurd rfl hrest
  | cons organ rest ih =>
      have hnext : record.nextProofStage = some organ := by
        unfold DispatchRecord.nextProofStage
        rw [← hchain, List.getElem?_append_right (Nat.le_refl _), Nat.sub_self]
        rfl
      have hcount := stageCount_stateByOrgan hnext
      have hlength := congrArg List.length hchain
      rw [List.length_append, List.length_cons] at hlength
      change _ = 5 at hlength
      apply Completes.cons
      change Completes py _ (F.completeStage _ id organ.name []).2 id _
      rw [completeStage_accept _ hrecord hstate hnext]
      have hafter := act_get?_self (env 0).1 hrecord (.accept organ [])
      cases rest with
      | nil =>
          refine ⟨_, _, rfl, hafter, DispatchState.eq_completed (hcount.trans ?_)⟩
          rw [← hlength]
          rfl
      | cons organ' rest =>
          apply ih hafter
          · refine DispatchState.isProvable_of_stageCount hcount (Nat.succ_pos _) ?_
            rw [List.length_cons] at hlength
            omega
          · rw [← hchain]
            exact List.append_assoc _ [organ] _
          · exact List.cons_ne_nil _ _

/-- A record that may be proved and lacks a stage is completable. -/
theorem completable_of_provable (hrecord : F.records.get? id = some record)
    (hconsistent : ChainConsistent record) (hstate : record.state.isProvable = true)
    (hchain : record.proofChain ≠ proofChain) : Completable py env F id := by
  obtain ⟨rest, hrest⟩ := hconsistent.isPrefix
  refine ⟨_, ?_, completes_stages hrecord hstate hrest ?_⟩
  · rintro _ hcall
    obtain ⟨organ, -, rfl⟩ := List.mem_map.mp hcall
    rfl
  · rintro rfl
    rw [List.append_nil] at hrest
    exact hchain hrest

theorem Completable.cons {call : Call W} (hcall : call.advances = true)
    (h : Completable py (fun i ↦ env (i + 1))
      (step py F ((env 0).1, ⟨(env 0).2, "", call⟩)) id) : Completable py env F id := by
  obtain ⟨calls, hcalls, hcompletes⟩ := h
  exact ⟨call :: calls, List.forall_mem_cons.mpr ⟨hcall, hcalls⟩, hcompletes.cons⟩

/-- A record that may be executed, by an executor that returns, and lacks a stage
is completable. -/
theorem completable_of_executable {executor : Executor W}
    (hrecord : F.records.get? id = some record) (hconsistent : ChainConsistent record)
    (hstate : record.state.isExecutable = true)
    (hexecutor : F.executors.get? (record.target.getD "") = some executor)
    (hreturns : ∀ now world, ∃ result,
      executor world (RecordAct.begin.apply now record) = .ok result)
    (hchain : record.proofChain ≠ proofChain) : Completable py env F id := by
  obtain ⟨result, hresult⟩ := hreturns (env 0).1 (env 0).2
  have hadvances : (Call.execute id : Call W).advances = true := rfl
  apply Completable.cons hadvances
  show Completable py _ (F.execute _ _ id).2 id
  rw [execute_ran _ _ hrecord hstate hexecutor, hresult]
  have hrunning := act_get?_self (env 0).1 hrecord .begin
  have hexecuted := act_get?_self (env 0).1 hrunning (.finish (.ok result))
  have hbegun : ChainConsistent (RecordAct.begin.apply (env 0).1 record) :=
    hconsistent.apply hstate
  exact completable_of_provable hexecuted (hbegun.apply (a := .finish (.ok result)) rfl) rfl hchain

/-! ## The stuck records -/

/-- No calls that bring dispatches forward complete the record. -/
structure Stuck (record : DispatchRecord) : Prop where
  notCompleted : record.state ≠ .completed
  reason : record.state = .awaitingExecutor ∨ record.nextProofStage = none

theorem RecordExecuted.stuck {now : ℚ} {world : W} {record' : DispatchRecord}
    (h : RecordExecuted F now world record record') (hstuck : Stuck record) : Stuck record' := by
  cases h with
  | rejected _ => exact hstuck
  | awaited _ _ => exact ⟨nofun, .inl rfl⟩
  | @ran executor hstate _ =>
      rcases hstuck.reason with hawaiting | hnext
      · rw [hawaiting] at hstate
        cases hstate
      · cases executor world (RecordAct.begin.apply now record) with
        | ok result => exact ⟨nofun, .inr hnext⟩
        | error error => exact ⟨nofun, .inr hnext⟩

/-- The step lemma: bringing dispatches forward, a stuck record stays stuck. -/
theorem RecordStepped.stuck {l : ℚ × Request W} {record' : DispatchRecord}
    (h : RecordStepped F id l record') (hl : l.2.call.advances = true)
    (hrecord : F.records.get? id = some record) (hstuck : Stuck record) : Stuck record' := by
  cases h with
  | kept h =>
      cases hrecord.symm.trans h
      exact hstuck
  | executed h hexecuted =>
      cases hrecord.symm.trans h
      exact hexecuted.stuck hstuck
  | accepted h hstate hnext =>
      cases hrecord.symm.trans h
      rcases hstuck.reason with hawaiting | hnone
      · rw [hawaiting] at hstate
        cases hstate
      · cases hnone.symm.trans hnext
  | failed _ => cases hl
  | created _ _ _ => cases hl

/-- The run lemma: a stuck record is never completed. -/
theorem not_completes_of_stuck {calls : List (Call W)}
    (hcalls : ∀ call ∈ calls, call.advances = true) (hrecord : F.records.get? id = some record)
    (hstuck : Stuck record) : ¬ Completes py env F id calls := by
  induction calls generalizing F record env with
  | nil =>
      rintro ⟨F', record', hrun, hrecord', hcompleted⟩
      cases hrun
      cases hrecord.symm.trans hrecord'
      exact hstuck.notCompleted hcompleted
  | cons call calls ih =>
      rintro ⟨F', record', hrun, hrecord', hcompleted⟩
      obtain ⟨hcall, hcalls⟩ := List.forall_mem_cons.mp hcalls
      let l : ℚ × Request W := ((env 0).1, ⟨(env 0).2, "", call⟩)
      have hsome := step_get?_isSome py (Option.isSome_of_eq_some hrecord) l
      obtain ⟨next, hnext⟩ := Option.isSome_iff_exists.mp hsome
      have hstepped := step_recordStepped py hnext
      have hrest : Completes py (fun i ↦ env (i + 1)) (step py F l) id calls := by
        refine ⟨F', record', ?_, hrecord', hcompleted⟩
        rw [inEnvironment, List.mapIdx_cons] at hrun
        exact hrun
      exact ih hcalls hnext (hstepped.stuck hcall hrecord hstuck) hrest

theorem not_completable_of_stuck (hrecord : F.records.get? id = some record)
    (hstuck : Stuck record) : ¬ Completable py env F id := by
  rintro ⟨calls, hcalls, hcompletes⟩
  exact not_completes_of_stuck hcalls hrecord hstuck hcompletes

/-- A dispatch that is neither completed nor failed, and whose executor is
registered and returns, is completable exactly when it does not wait for an
executor and its proof chain is not full. -/
theorem completable_iff (py : Builtins) (registries : Registries) (F : DispatchFabric W)
    (hF : Reached py registries F) (id : String) (record : DispatchRecord)
    (hrecord : F.records.get? id = some record) (hcompleted : record.state ≠ .completed)
    (hfailed : record.state ≠ .failed) (executor : Executor W)
    (hexecutor : F.executors.get? (record.target.getD "") = some executor)
    (hreturns : ∀ now world, ∃ result,
      executor world (RecordAct.begin.apply now record) = .ok result)
    (env : ℕ → ℚ × W) :
    Completable py env F id ↔
      record.state ≠ .awaitingExecutor ∧ record.proofChain ≠ proofChain := by
  have hconsistent := (hF.chainConsistent id record hrecord).2
  constructor
  · intro hcompletable
    constructor
    · intro hawaiting
      exact not_completable_of_stuck hrecord ⟨hcompleted, .inl hawaiting⟩ hcompletable
    · intro hchain
      have hnone := hconsistent.nextProofStage_eq_none_iff.mpr hchain
      exact not_completable_of_stuck hrecord ⟨hcompleted, .inr hnone⟩ hcompletable
  · rintro ⟨hawaiting, hchain⟩
    have hrunning := hF.settled id record hrecord
    have hstate : record.state.isExecutable = true ∨ record.state.isProvable = true := by
      cases h : record.state with
      | dispatched | retryable => exact .inl rfl
      | executed | verifying | proving | remembering | reconciling => exact .inr rfl
      | awaitingExecutor => exact absurd h hawaiting
      | running => exact absurd h hrunning
      | failed => exact absurd h hfailed
      | completed => exact absurd h hcompleted
    rcases hstate with hstate | hstate
    · exact completable_of_executable hrecord hconsistent hstate hexecutor hreturns hchain
    · exact completable_of_provable hrecord hconsistent hstate hchain

/-! ## Executors that come late -/

/-- A run with one node, after which its executor is registered. -/
theorem soloRun_registered {calls : List (Call Unit)} {state : DispatchState}
    (h : soloView (fun _ record ↦ (record.state, record.proofChain, record.target)) calls =
      some (state, [], some "ga://node/solo")) :
    ∃ (F : DispatchFabric Unit) (record : DispatchRecord),
      Reached default soloRegistries F ∧ F.records.get? "dispatch-1" = some record ∧
      record.state = state ∧ record.proofChain = [] ∧
      F.executors.get? (record.target.getD "") = some (returns "late") := by
  obtain ⟨F, record, hF, hrecord, e⟩ := of_soloView h
  obtain ⟨hstate, e⟩ := Prod.mk.inj e
  obtain ⟨hchain, htarget⟩ := Prod.mk.inj e
  refine ⟨F.registerExecutor "ga://node/solo" (returns "late"), record, ?_, hrecord, hstate,
    hchain, ?_⟩
  · have hreached : Reached default soloRegistries F := ⟨_, hF⟩
    exact hreached.step
      (i := (0, ⟨(), "", .registerExecutor "ga://node/solo" (returns "late")⟩)) rfl
  · rw [htarget]
    exact Dict.get?_set_self _ _ _

/-- The calls that dispatch a packet to the node. -/
def dispatchedCalls : List (Call Unit) :=
  [.dispatch { packetId := "packet-1", capability := "notes" }]

/-- Before its first execution, a dispatch is completable. -/
theorem dispatched_completable :
    ∃ (F : DispatchFabric Unit) (record : DispatchRecord),
      F.records.get? "dispatch-1" = some record ∧ record.state = .dispatched ∧
      Completable default (fun i ↦ (i, ())) F "dispatch-1" := by
  have hrun : soloView (fun _ record ↦ (record.state, record.proofChain, record.target))
      dispatchedCalls = some (.dispatched, [], some "ga://node/solo") := by
    decide +kernel
  obtain ⟨F, record, hF, hrecord, hstate, hchain, hexecutor⟩ := soloRun_registered hrun
  refine ⟨F, record, hrecord, hstate, (completable_iff default soloRegistries F hF _ record hrecord
    ?_ ?_ _ hexecutor (fun _ _ ↦ ⟨_, rfl⟩) _).mpr ⟨?_, ?_⟩⟩
  · rw [hstate]; nofun
  · rw [hstate]; nofun
  · rw [hstate]; nofun
  · rw [hchain]; nofun

/-- Executed before its executor is registered, it is not. -/
theorem not_always_completable :
    ¬ ∀ (F : DispatchFabric Unit) (id : String) (record : DispatchRecord) (text : String),
        Reached default soloRegistries F → F.records.get? id = some record →
        record.state ≠ .completed → record.state ≠ .failed →
        F.executors.get? (record.target.getD "") = some (returns text) →
        Completable default (fun i ↦ (i, ())) F id := by
  intro hcompletable
  have hrun : soloView (fun _ record ↦ (record.state, record.proofChain, record.target))
      (dispatchedCalls ++ [.execute "dispatch-1"]) =
        some (.awaitingExecutor, [], some "ga://node/solo") := by
    decide +kernel
  obtain ⟨F, record, hF, hrecord, hstate, -, hexecutor⟩ := soloRun_registered hrun
  have hcompleted : record.state ≠ .completed := by rw [hstate]; nofun
  have hfailed : record.state ≠ .failed := by rw [hstate]; nofun
  have hlate := hcompletable F _ record _ hF hrecord hcompleted hfailed hexecutor
  exact not_completable_of_stuck hrecord ⟨hcompleted, .inl hstate⟩ hlate

end DispatchFabric

end EstateMesh
