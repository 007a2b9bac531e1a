import EstateMesh.Dispatch.Lifecycle

/-!
# Freshness of proofs

A proof is about one execution.  `acceptedSinceRun` reads off the event log of a
dispatch which stages were accepted since its result was produced, and a record
is fresh when its proof chain consists of these stages.

The fabric never clears a proof chain.  A record that failed after some stages
and is retried keeps them, so a run that returns then makes the chain stale; and
this is the only way in which a chain becomes stale (`proofs_fresh_iff`).
-/

namespace EstateMesh

open Lib

/-- The stages accepted since the last run after one more event. -/
def acceptStep (accepted : List Organ) : DispatchPayload → List Organ
  | .dispatched _ | .executed _ => []
  | .stageCompleted organ _ => accepted ++ [organ]
  | _ => accepted

/-- The stages of a dispatch accepted since its result was produced. -/
def acceptedSinceRun (log : List DispatchPayload) : List Organ := log.foldl acceptStep []

namespace DispatchFabric

variable {W : Type}

/-- Every stage in a proof chain was accepted since the result was produced, and a
completed record has all stages accepted since, in order. -/
def ProofsFresh (F : DispatchFabric W) : Prop :=
  ∀ id record, F.records.get? id = some record →
    (∀ organ ∈ record.proofChain, organ ∈ acceptedSinceRun (F.log id)) ∧
      (record.state = .completed → acceptedSinceRun (F.log id) = proofChain)

/-- The call runs an executor that returns, on a record that already has a part of
a proof. -/
def rerunsProved (F : DispatchFabric W) : ℚ × Request W → Bool
  | (now, ⟨world, _, .execute id⟩) =>
      match F.records.get? id with
      | none => false
      | some record =>
          match F.executors.get? (record.target.getD "") with
          | none => false
          | some executor =>
              record.state.isExecutable && !record.proofChain.isEmpty &&
                (executor world (RecordAct.begin.apply now record)).isOk
  | _ => false

/-- What the proof chain of a fresh record is. -/
structure ChainFresh (log : List DispatchPayload) (record : DispatchRecord) : Prop where
  accepted : acceptedSinceRun log = record.proofChain
  consistent : ChainConsistent record

theorem ChainFresh.act {log : List DispatchPayload} {record : DispatchRecord} {a : RecordAct}
    (h : ChainFresh log record) (now : ℚ) (ha : a.Enabled record)
    (hrun : ∀ result, a = .finish (.ok result) → record.proofChain = []) :
    ChainFresh (log ++ a.payloads (a.apply now record).proofChain) (a.apply now record) := by
  refine ⟨?_, h.consistent.apply ha⟩
  unfold acceptedSinceRun
  rw [List.foldl_append]
  change List.foldl acceptStep (acceptedSinceRun log) _ = _
  rw [h.accepted]
  cases a with
  | await => rfl
  | begin => rfl
  | fail reason retryable => rfl
  | finish outcome =>
      cases outcome with
      | error error => rfl
      | ok result => exact (hrun result rfl).symm
  | accept organ evidence => cases organ <;> rfl

theorem ChainFresh.new (log : List DispatchPayload) (now : ℚ) (uuid : String)
    (params : DispatchParams) (resolution : Resolution) (selected : Candidate) :
    ChainFresh (log ++ [.dispatched selected])
      (newRecord now uuid params resolution selected) where
  accepted := by
    unfold acceptedSinceRun
    rw [List.foldl_append]
    rfl
  consistent := chainConsistent_new now uuid params resolution selected

variable {F F' : DispatchFabric W}

theorem rerunsProved_iff {l : ℚ × Request W} :
    rerunsProved F l = true ↔
      ∃ record result, Runs F l record (.ok result) ∧ record.proofChain ≠ [] := by
  constructor
  · intro h
    obtain ⟨now, world, uuid, call⟩ := l
    unfold rerunsProved at h
    split at h
    · rename_i id e
      cases e
      cases hrecord : F.records.get? id with
      | none => simp [hrecord] at h
      | some record =>
          cases hexecutor : F.executors.get? (record.target.getD "") with
          | none => simp [hrecord, hexecutor] at h
          | some executor =>
              cases hresult : executor world (RecordAct.begin.apply now record) with
              | error error =>
                  simp [hrecord, hexecutor, hresult, Except.isOk, Except.toBool] at h
              | ok result =>
                  simp [hrecord, hexecutor, hresult, Except.isOk, Except.toBool] at h
                  exact ⟨record, result, .intro hrecord h.1 hexecutor hresult, h.2⟩
    · cases h
  · rintro ⟨record, result, ⟨hrecord, hstate, hexecutor, hresult⟩, hchain⟩
    simp [rerunsProved, hrecord, hexecutor, hresult, hstate, hchain, Except.isOk, Except.toBool]

/-- The step lemma: a call that runs no executor on a proved record keeps proofs
fresh. -/
theorem chainFresh_step (py : Builtins) (h : EveryDispatch ChainFresh F) {l : ℚ × Request W}
    (hl : rerunsProved F l = false) : EveryDispatch ChainFresh (step py F l) := by
  apply h.step_given
    (R := fun record outcome ↦ ∀ result, outcome = .ok result → record.proofChain = [])
  · exact fun _ _ _ _ _ _ ↦ .new _ _ _ _ _ _
  · exact fun _ _ _ _ _ _ _ _ ↦ rfl
  · intro now log record a hfresh ha hrun
    exact hfresh.act now ha fun result e ↦ hrun _ e result rfl
  · rintro record _ hruns result rfl
    by_contra hchain
    rw [rerunsProved_iff.mpr ⟨record, result, hruns, hchain⟩] at hl
    cases hl

/-- A run that returns on a proved record makes its proof stale. -/
theorem not_proofsFresh_of_rerun (py : Builtins) (h : EveryDispatch ChainFresh F)
    {l : ℚ × Request W} (hl : rerunsProved F l = true) : ¬ ProofsFresh (step py F l) := by
  obtain ⟨record, result, hruns, hchain⟩ := rerunsProved_iff.mp hl
  obtain ⟨id, hrecord, hdone, hlog⟩ := hruns.get?_step py
  intro hfresh
  have hnone : acceptedSinceRun ((step py F l).log id) = [] := by
    rw [hlog (h id record hrecord).1, acceptedSinceRun, List.foldl_append]
    rfl
  obtain ⟨organ, horgan⟩ : ∃ organ, organ ∈ record.proofChain :=
    List.exists_mem_of_ne_nil _ hchain
  have haccepted := (hfresh id _ hdone).1 organ horgan
  rw [hnone] at haccepted
  cases haccepted

/-- What freshness of the chain means for the record. -/
theorem proofsFresh_of_chainFresh (h : EveryDispatch ChainFresh F) : ProofsFresh F := by
  intro id record hrecord
  obtain ⟨-, haccepted, hconsistent⟩ := h id record hrecord
  rw [haccepted]
  refine ⟨fun _ h ↦ h, fun hstate ↦ ?_⟩
  have hlength := hconsistent.length 5 (by rw [hstate]; rfl)
  exact hconsistent.isPrefix.eq_of_length hlength

/-- Proofs are fresh in every state of a run exactly when no call of the run runs
an executor that returns on a record that already has a part of a proof. -/
theorem proofs_fresh_iff (py : Builtins) (registries : Registries)
    (calls : List (ℚ × Request W)) :
    (machine py W).Always ProofsFresh (init registries) calls ↔
      (machine py W).Along (fun F l ↦ rerunsProved F l = false) (init registries) calls := by
  apply Machine.always_iff_along (J := EveryDispatch ChainFresh)
  · exact fun F ↦ proofsFresh_of_chainFresh
  · intro F l F' h hl hstep
    rw [← Machine.ofTotal_eq_some.mp hstep]
    exact chainFresh_step py h hl
  · intro F l h hl
    exact ⟨_, rfl, not_proofsFresh_of_rerun py h (by simpa using hl)⟩
  · exact everyDispatch_init registries

/-! ## A stale proof -/

/-- The dispatch runs, fails after the first stage, runs again and is proved from
the second stage on: it completes, and no first stage has seen its result. -/
def retriedCalls : List (Call Unit) :=
  executedCalls ++ stageCalls [.seca] ++
    [.fail "dispatch-1" "lost" true, .execute "dispatch-1"] ++
    stageCalls [.devos, .proofgrid, .thoth, .janusPrime]

theorem not_always_proofsFresh :
    ¬ ∀ calls, (machine default Unit).Always ProofsFresh (init soloRegistries) calls := by
  intro hfresh
  have hview : soloView (fun F record ↦ (record.state, acceptedSinceRun (F.log "dispatch-1")))
      retriedCalls = some (.completed, [.devos, .proofgrid, .thoth, .janusPrime]) := by
    decide +kernel
  obtain ⟨F, record, hF, hrecord, e⟩ := of_soloView hview
  obtain ⟨hstate, haccepted⟩ := Prod.mk.inj e
  have hfinal := Machine.always_iff.mp (hfresh _) _ [] (List.append_nil _).symm F hF
  have hall := (hfinal "dispatch-1" record hrecord).2 hstate
  rw [haccepted] at hall
  cases hall

end DispatchFabric

end EstateMesh
