import EstateMesh.Dispatch.Concurrent
import EstateMesh.Lib.Alternation

/-!
# Runs that are accounted for

Executors run while other calls are served, and a run may outlive the state that its record
was in when it started.  What the pool cannot promise of the records it can promise of the
event log: every run that has started and not finished is still to be reported, every report
belongs to a run, and no run starts twice on one licence, be it the dispatch itself or a
failure that is to be retried (`runs_are_accounted_for`).
-/

namespace EstateMesh

open Lib

namespace DispatchPayload

/-- An executor starts. -/
def startsRun : DispatchPayload → Bool
  | busy => true
  | _ => false

/-- An executor has returned or raised. -/
def endsRun : DispatchPayload → Bool
  | executed _ | raised _ => true
  | _ => false

/-- A failure that is to be retried. -/
def IsLicence : DispatchPayload → Prop
  | failed _ true => True
  | _ => False

end DispatchPayload

open DispatchPayload

/-- The log of a dispatch accounts for its runs, some of which are in flight. -/
structure Accounted (record : DispatchRecord) (log : List DispatchPayload) (inFlight : ℕ) :
    Prop where
  /-- The runs that have started are those that have ended and those that are in flight. -/
  ended : log.countP startsRun = log.countP endsRun + inFlight
  /-- Between any two starts there is a licence. -/
  licensed : Alternates IsLicence (fun p ↦ p.startsRun = true) log
  /-- A record that may be executed has a licence that is not used up. -/
  ready : record.state.isExecutable = true → ¬ Pending IsLicence (fun p ↦ p.startsRun = true) log

namespace Accounted

variable {record : DispatchRecord} {log : List DispatchPayload} {inFlight : ℕ}

/-- A new dispatch. -/
theorem new (selected : Candidate) : Accounted record [.dispatched selected] 0 where
  ended := rfl
  licensed := by
    have hnil : Alternates IsLicence (fun p ↦ p.startsRun = true) ([] : List DispatchPayload) :=
      alternates_nil
    exact hnil.append (by simp [startsRun])
  ready _ := by
    rw [← List.nil_append [_], pending_concat_iff]
    rintro (hstart | ⟨⟨pre, p, suf, e, -⟩, -⟩)
    · cases hstart
    · exact absurd e (by simp)

/-- Something happens that is not about a run. -/
theorem quiet (h : Accounted record log inFlight) {record' : DispatchRecord}
    {payloads : List DispatchPayload}
    (hquiet : ∀ p ∈ payloads, p.startsRun = false ∧ p.endsRun = false)
    (hready : record'.state.isExecutable = true →
      ¬ Pending IsLicence (fun p ↦ p.startsRun = true) (log ++ payloads)) :
    Accounted record' (log ++ payloads) inFlight where
  ended := by
    have hstarts : payloads.countP startsRun = 0 :=
      List.countP_eq_zero.mpr fun p hp ↦ by rw [(hquiet p hp).1]; nofun
    have hends : payloads.countP endsRun = 0 :=
      List.countP_eq_zero.mpr fun p hp ↦ by rw [(hquiet p hp).2]; nofun
    rw [List.countP_append, List.countP_append, hstarts, hends, h.ended, Nat.add_zero, Nat.add_zero]
  licensed := h.licensed.append fun p hp hstart ↦ by
    rw [(hquiet p hp).1] at hstart
    cases hstart
  ready := hready

/-- A run starts. -/
theorem begin (h : Accounted record log inFlight) (hstate : record.state.isExecutable = true)
    (now : ℚ) : Accounted (RecordAct.begin.apply now record) (log ++ [.busy]) (inFlight + 1) where
  ended := by
    have hended := h.ended
    have hstarts : [DispatchPayload.busy].countP startsRun = 1 := rfl
    have hends : [DispatchPayload.busy].countP endsRun = 0 := rfl
    rw [List.countP_append, List.countP_append, hstarts, hends]
    omega
  licensed := h.licensed.concat fun _ ↦ h.ready hstate
  ready := nofun

/-- A run ends, whatever has become of its record. -/
theorem finish (h : Accounted record log (inFlight + 1)) (now : ℚ) (outcome : Except String Value) :
    Accounted ((RecordAct.finish outcome).apply now record)
      (log ++ (RecordAct.finish outcome).payloads
        ((RecordAct.finish outcome).apply now record).proofChain) inFlight := by
  have hended := h.ended
  have hcount : ((RecordAct.finish outcome).payloads
      ((RecordAct.finish outcome).apply now record).proofChain).countP startsRun = 0 ∧
      ((RecordAct.finish outcome).payloads
        ((RecordAct.finish outcome).apply now record).proofChain).countP endsRun = 1 := by
    cases outcome <;> exact ⟨rfl, rfl⟩
  constructor
  · rw [List.countP_append, List.countP_append, hcount.1, hcount.2]
    omega
  · exact h.licensed.append fun p hp ↦ List.countP_eq_zero.mp hcount.1 p hp
  · cases outcome <;> nofun

/-- A record waits for an executor. -/
theorem await (h : Accounted record log inFlight) (now : ℚ) :
    Accounted (RecordAct.await.apply now record) (log ++ [.awaitingExecutor]) inFlight :=
  h.quiet (by simp [startsRun, endsRun]) nofun

/-- A stage is accepted. -/
theorem accept (h : Accounted record log inFlight) (now : ℚ) (organ : Organ) (evidence : PyDict) :
    Accounted ((RecordAct.accept organ evidence).apply now record)
      (log ++ (RecordAct.accept organ evidence).payloads
        ((RecordAct.accept organ evidence).apply now record).proofChain) inFlight := by
  refine h.quiet ?_ (by cases organ <;> nofun)
  rw [RecordAct.payloads]
  split <;> simp [startsRun, endsRun]

/-- A record is failed. -/
theorem fail (h : Accounted record log inFlight) (now : ℚ) (reason : String) (retryable : Bool) :
    Accounted ((RecordAct.fail reason retryable).apply now record)
      (log ++ [.failed reason retryable]) inFlight := by
  refine h.quiet (by simp [startsRun, endsRun]) fun hstate ↦ ?_
  cases retryable with
  | false => cases hstate
  | true =>
      rw [pending_concat_iff]
      rintro (hstart | ⟨-, hlicence⟩)
      · cases hstart
      · exact hlicence trivial

end Accounted

namespace Pool

variable {W : Type} {P P' : Pool W} {id : String} {record : DispatchRecord}

/-- The number of runs of a dispatch that are in flight. -/
def running (P : Pool W) (id : String) : ℕ := P.inFlight.countP fun run ↦ run.dispatchId = id

section Running

variable {run : Run} {id' : String}

theorem running_started (h : id ≠ id') {token : ℕ} {fabric : DispatchFabric W}
    {lastStarted : Dict String ℕ} {nextToken : ℕ} :
    ({ fabric := fabric, inFlight := P.inFlight ++ [⟨token, id⟩], nextToken := nextToken,
       lastStarted := lastStarted } : Pool W).running id' = P.running id' := by
  simp [running, h]

theorem running_started_self {token : ℕ} {fabric : DispatchFabric W}
    {lastStarted : Dict String ℕ} {nextToken : ℕ} :
    ({ fabric := fabric, inFlight := P.inFlight ++ [⟨token, id⟩], nextToken := nextToken,
       lastStarted := lastStarted } : Pool W).running id = P.running id + 1 := by
  simp [running]

/-- A run in flight is one of the runs of its dispatch. -/
theorem exists_running (h : run ∈ P.inFlight) : ∃ n, P.running run.dispatchId = n + 1 :=
  Nat.exists_eq_add_one.mpr (List.countP_pos_iff.mpr ⟨run, h, by simp⟩)

theorem running_finished (h : run.dispatchId ≠ id') {fabric : DispatchFabric W} :
    ({ P with fabric := fabric, inFlight := P.inFlight.erase run } : Pool W).running id' =
      P.running id' := by
  simp [running, List.countP_erase, h]

theorem running_finished_self (h : run ∈ P.inFlight) {n : ℕ}
    (hn : P.running run.dispatchId = n + 1) {fabric : DispatchFabric W} :
    ({ P with fabric := fabric, inFlight := P.inFlight.erase run } : Pool W).running
      run.dispatchId = n := by
  have hcount : P.inFlight.countP (fun run' ↦ run'.dispatchId = run.dispatchId) = n + 1 := hn
  show (P.inFlight.erase run).countP (fun run' ↦ run'.dispatchId = run.dispatchId) = n
  rw [List.countP_erase, if_pos ⟨h, by simp⟩, hcount, Nat.add_sub_cancel]

end Running

/-- The log accounts for the runs of the pool. -/
structure Accounts (P : Pool W) : Prop where
  /-- There is nothing about a dispatch that does not exist. -/
  unknown : ∀ id, P.fabric.records.get? id = none → P.fabric.log id = [] ∧ P.running id = 0
  known : ∀ id record, P.fabric.records.get? id = some record →
    record.dispatchId = id ∧ Accounted record (P.fabric.log id) (P.running id)

/-- Something happens to one dispatch. -/
theorem Accounts.act (h : Accounts P) {now : ℚ} {a : RecordAct}
    (hrecord : P.fabric.records.get? id = some record)
    (hfabric : P'.fabric = P.fabric.act now id a)
    (hrunning : ∀ id', id ≠ id' → P'.running id' = P.running id')
    (ha : Accounted (a.apply now record)
      (P.fabric.log id ++ a.payloads (a.apply now record).proofChain) (P'.running id)) :
    Accounts P' := by
  have hid := (h.known id record hrecord).1
  have hself := DispatchFabric.act_get?_self now hrecord a
  have hlog := DispatchFabric.act_log now hrecord hid a
  constructor
  · intro id' hnone
    by_cases e : id = id'
    · subst e
      rw [hfabric, hself] at hnone
      cases hnone
    · rw [hfabric, DispatchFabric.act_get?_of_ne now e] at hnone
      rw [hfabric, hlog, if_neg e, List.append_nil, hrunning id' e]
      exact h.unknown id' hnone
  · intro id' record' hrecord'
    by_cases e : id = id'
    · subst e
      rw [hfabric, hself] at hrecord'
      cases hrecord'
      rw [hfabric, hlog, if_pos rfl]
      exact ⟨(RecordAct.apply_dispatchId now record a).trans hid, ha⟩
    · rw [hfabric, DispatchFabric.act_get?_of_ne now e] at hrecord'
      rw [hfabric, hlog, if_neg e, List.append_nil, hrunning id' e]
      exact h.known id' record' hrecord'

theorem Accounts.silent {F : DispatchFabric W} (h : Accounts P)
    (hsilent : DispatchFabric.Silent P.fabric F) : Accounts { P with fabric := F } := by
  constructor
  · intro id hnone
    rw [hsilent.1] at hnone
    rw [hsilent.log]
    exact h.unknown id hnone
  · intro id record hrecord
    rw [hsilent.1] at hrecord
    rw [hsilent.log]
    exact h.known id record hrecord

/-- A call that is not an execution. -/
theorem Accounts.called (py : Builtins) {now : ℚ} {request : Request W} (h : Accounts P)
    (hatomic : isAtomic P.fabric request = true) :
    Accounts { P with fabric := DispatchFabric.step py P.fabric (now, request) } := by
  have hstepped := DispatchFabric.step_stepped py P.fabric (now, request)
  generalize DispatchFabric.step py P.fabric (now, request) = F at hstepped
  cases hstepped with
  | silent hsilent => exact h.silent hsilent
  | executed _ => cases hatomic
  | accepted hrecord _ _ =>
      exact h.act hrecord rfl (fun _ _ ↦ rfl) ((h.known _ _ hrecord).2.accept now _ _)
  | failed hrecord =>
      exact h.act hrecord rfl (fun _ _ ↦ rfl) ((h.known _ _ hrecord).2.fail now _ _)
  | @created _ _ uuid params _ hcreated =>
      simp only [isAtomic, Bool.and_eq_true, Option.isNone_iff_eq_none] at hatomic
      obtain ⟨resolution, selected, hrecords, -, hevents⟩ := hcreated
      obtain ⟨hlog, hrunning⟩ := h.unknown _ hatomic.2
      have hlog' (id : String) : F.log id = P.fabric.log id ++
          if DispatchFabric.mintedId uuid = id then [.dispatched selected] else [] := by
        unfold DispatchFabric.log
        rw [hevents, List.filterMap_append]
        exact congrArg _ (DispatchFabric.filterMap_eventOf now _ [.dispatched selected] id)
      constructor
      · intro id hnone
        rw [hrecords, Dict.get?_set] at hnone
        split at hnone
        · cases hnone
        · rename_i e
          rw [hlog', if_neg e, List.append_nil]
          exact h.unknown id hnone
      · intro id record hrecord
        rw [hrecords, Dict.get?_set] at hrecord
        rw [hlog']
        split at hrecord
        · rename_i e
          cases hrecord
          subst e
          rw [if_pos rfl, hlog, List.nil_append]
          refine ⟨rfl, ?_⟩
          show Accounted _ _ (P.running (DispatchFabric.mintedId uuid))
          rw [hrunning]
          exact .new selected
        · rename_i e
          rw [if_neg e, List.append_nil]
          exact h.known id record hrecord
  | createdExecuted hexecute _ _ =>
      rw [isAtomic, hexecute] at hatomic
      cases hatomic

/-- The step lemma. -/
theorem Accounts.step (py : Builtins) (h : Accounts P) {l : ℚ × PoolLabel W}
    (hstep : step py P l = some P') : Accounts P' := by
  obtain ⟨now, label⟩ := l
  cases step_stepped py hstep with
  | rejected => exact h
  | awaited hrecord _ =>
      exact h.act hrecord rfl (fun _ _ ↦ rfl) ((h.known _ _ hrecord).2.await now)
  | @started id record hrecord hstate =>
      refine h.act hrecord rfl (fun id' hne ↦ running_started hne) ?_
      rw [running_started_self]
      exact (h.known _ _ hrecord).2.begin hstate now
  | @finished run outcome hrun =>
      obtain ⟨n, hn⟩ := exists_running hrun
      obtain ⟨record, hrecord⟩ : ∃ record, P.fabric.records.get? run.dispatchId = some record := by
        by_contra hnone
        have hzero := (h.unknown _ (Option.eq_none_iff_forall_ne_some.mpr
          fun record hrecord ↦ hnone ⟨record, hrecord⟩)).2
        omega
      refine h.act hrecord rfl (fun id' hne ↦ running_finished hne) ?_
      rw [running_finished_self hrun hn]
      exact (hn ▸ (h.known _ _ hrecord).2).finish now outcome
  | called hatomic => exact h.called py hatomic

/-- In every state of every interleaving the log accounts for the runs. -/
theorem runs_are_accounted_for (py : Builtins) (registries : Registries)
    (labels : List (ℚ × PoolLabel W)) :
    (step py).Always Accounts (init registries : Pool W) labels := by
  refine Machine.always_of_keeps (fun P l P' h hstep ↦ h.step py hstep) ?_ labels
  constructor
  · exact fun _ _ ↦ ⟨rfl, rfl⟩
  · intro id record hrecord
    rw [init, DispatchFabric.get?_init] at hrecord
    cases hrecord

end Pool

end EstateMesh
