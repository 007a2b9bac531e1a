import EstateMesh.Dispatch.Lifecycle

/-!
# Results and errors

A record has room for a result and for an error.  A run that returns writes the one and a
run that raises, or a failure, the other; none of them clears what the other left.  So a
record that succeeds at the second attempt keeps the error of the first, and a record that
is run again, after a success was failed, keeps the old result when it raises.  These are
the only ways in which the two fields come apart from the latest outcome
(`outcomes_latest_iff`).
-/

namespace EstateMesh

open Lib

/-- The states that a record reaches only by a run that returned. -/
def DispatchState.hasSucceeded (state : DispatchState) : Bool :=
  state ∈ [executed, verifying, proving, remembering, reconciling, completed]

/-- Whether the last run raised, after one more event. -/
def raiseStep (raised : Bool) : DispatchPayload → Bool
  | .dispatched _ | .executed _ => false
  | .raised _ => true
  | _ => raised

/-- The most recent run of a dispatch raised. -/
def lastRunRaised (log : List DispatchPayload) : Bool := log.foldl raiseStep false

theorem lastRunRaised_append (log payloads : List DispatchPayload) :
    lastRunRaised (log ++ payloads) = payloads.foldl raiseStep (lastRunRaised log) :=
  List.foldl_append

namespace DispatchFabric

variable {W : Type}

/-- Results and errors are those of the latest outcome: a record that has succeeded carries
no error, and one whose most recent run raised carries no result. -/
def OutcomesLatest (F : DispatchFabric W) : Prop :=
  ∀ id record, F.records.get? id = some record →
    (record.state.hasSucceeded = true → record.error = none) ∧
      (lastRunRaised (F.log id) = true → record.result = .none)

/-- The runs that leave nothing behind: a run that returns is the first one of its record,
and a run that raises finds no result. -/
def CleanRun (record : DispatchRecord) : Except String Value → Prop
  | .ok _ => record.state = .dispatched
  | .error _ => record.result = .none

/-- What the state of a record says about its result and its error. -/
structure Latest (log : List DispatchPayload) (record : DispatchRecord) : Prop where
  succeeded : record.state.hasSucceeded = true → record.error = none
  raised : lastRunRaised log = true → record.result = .none
  dispatched : record.state = .dispatched → record.error = none
  retryable : record.state = .retryable → record.error ≠ none

/-- What the two kinds of runs need to find, in terms of the two fields. -/
def Unburdened (record : DispatchRecord) : Except String Value → Prop
  | .ok _ => record.error = none
  | .error _ => record.result = .none

variable {F : DispatchFabric W}

/-- An executable record carries no error exactly if it is new. -/
theorem Latest.unburdened_iff {log : List DispatchPayload} {record : DispatchRecord}
    (h : Latest log record) (hstate : record.state.isExecutable = true)
    (outcome : Except String Value) : Unburdened record outcome ↔ CleanRun record outcome := by
  cases outcome with
  | error e => exact Iff.rfl
  | ok result =>
      refine ⟨fun herror ↦ ?_, h.dispatched⟩
      have hcases : record.state = .dispatched ∨ record.state = .retryable := by
        simpa [DispatchState.isExecutable] using hstate
      exact hcases.resolve_right fun hretryable ↦ h.retryable hretryable herror

theorem Latest.new (log : List DispatchPayload) (now : ℚ) (uuid : String)
    (params : DispatchParams) (resolution : Resolution) (selected : Candidate) :
    Latest (log ++ [.dispatched selected])
      (newRecord now uuid params resolution selected) where
  succeeded := fun _ ↦ rfl
  raised := fun _ ↦ rfl
  dispatched := fun _ ↦ rfl
  retryable := by rintro ⟨⟩

/-- Only runs that end write the result. -/
theorem Latest.raised_act {log : List DispatchPayload} {record : DispatchRecord} {a : RecordAct}
    (h : Latest log record) (now : ℚ)
    (hrun : ∀ outcome, a = .finish outcome → Unburdened record outcome)
    (hraised : lastRunRaised (log ++ a.payloads (a.apply now record).proofChain) = true) :
    (a.apply now record).result = .none := by
  rw [lastRunRaised_append] at hraised
  cases a with
  | await => exact h.raised hraised
  | begin => exact h.raised hraised
  | fail reason retryable => exact h.raised hraised
  | accept organ evidence => cases organ <;> exact h.raised hraised
  | finish outcome =>
      cases outcome with
      | ok result => cases hraised
      | error error => exact hrun _ rfl

theorem Latest.act {log : List DispatchPayload} {record : DispatchRecord} {a : RecordAct}
    (h : Latest log record) (now : ℚ) (ha : a.Enabled record)
    (hrun : ∀ outcome, a = .finish outcome → Unburdened record outcome) :
    Latest (log ++ a.payloads (a.apply now record).proofChain) (a.apply now record) := by
  have hraised := h.raised_act now hrun
  cases a with
  | await => exact ⟨by rintro ⟨⟩, hraised, by rintro ⟨⟩, by rintro ⟨⟩⟩
  | begin => exact ⟨by rintro ⟨⟩, hraised, by rintro ⟨⟩, by rintro ⟨⟩⟩
  | finish outcome =>
      cases outcome with
      | ok result => exact ⟨fun _ ↦ hrun _ rfl, hraised, by rintro ⟨⟩, by rintro ⟨⟩⟩
      | error error => exact ⟨by rintro ⟨⟩, hraised, by rintro ⟨⟩, by rintro ⟨⟩⟩
  | fail reason retryable =>
      cases retryable with
      | true => exact ⟨by rintro ⟨⟩, hraised, by rintro ⟨⟩, fun _ ↦ Option.some_ne_none reason⟩
      | false => exact ⟨by rintro ⟨⟩, hraised, by rintro ⟨⟩, by rintro ⟨⟩⟩
  | accept organ evidence =>
      obtain ⟨hprovable, -⟩ := ha
      have herror : record.error = none := by
        refine h.succeeded ?_
        revert hprovable
        cases record.state <;> simp [DispatchState.isProvable, DispatchState.hasSucceeded]
      cases organ <;> exact ⟨fun _ ↦ herror, hraised, by rintro ⟨⟩, by rintro ⟨⟩⟩

theorem outcomesLatest_of_latest (h : EveryDispatch Latest F) : OutcomesLatest F := by
  intro id record hrecord
  obtain ⟨-, hlatest⟩ := h id record hrecord
  exact ⟨hlatest.succeeded, hlatest.raised⟩

/-- The step lemma: a call whose run leaves nothing behind keeps the fields up to date. -/
theorem latest_step (py : Builtins) (h : EveryDispatch Latest F) {l : ℚ × Request W}
    (hl : ∀ record outcome, Runs F l record outcome → CleanRun record outcome) :
    EveryDispatch Latest (step py F l) := by
  apply h.step_given (R := Unburdened)
  · exact fun _ _ _ _ _ _ ↦ .new _ _ _ _ _ _
  · rintro now uuid params resolution selected (e | result) <;> rfl
  · intro now log record a hlatest ha hrun
    exact hlatest.act now ha hrun
  · intro record outcome hruns
    obtain ⟨id, hrecord, hstate⟩ : ∃ id, F.records.get? id = some record ∧
        record.state.isExecutable = true := by
      cases hruns with
      | intro hrecord hstate _ _ => exact ⟨_, hrecord, hstate⟩
    have hunburdened := ((h id record hrecord).2.unburdened_iff hstate outcome).mpr
      (hl record outcome hruns)
    cases outcome <;> exact hunburdened

/-- A run that leaves something behind. -/
theorem not_outcomesLatest_of_run (py : Builtins) (h : EveryDispatch Latest F)
    {l : ℚ × Request W} {record : DispatchRecord} {outcome : Except String Value}
    (hruns : Runs F l record outcome) (hnot : ¬ CleanRun record outcome) :
    ¬ OutcomesLatest (step py F l) := by
  obtain ⟨id, hrecord, hdone, hlog⟩ := hruns.get?_step py
  obtain ⟨hid, hlatest⟩ := h id record hrecord
  have hstate : record.state.isExecutable = true := by
    cases hruns with
    | intro _ hstate _ _ => exact hstate
  intro houtcomes
  obtain ⟨hsucceeded, hraised⟩ := houtcomes id _ hdone
  refine hnot ((hlatest.unburdened_iff hstate outcome).mp ?_)
  cases outcome with
  | ok result => exact hsucceeded rfl
  | error e =>
      refine hraised ?_
      rw [hlog hid, lastRunRaised_append]
      rfl

/-- Results and errors are those of the latest outcome in every state of a run of calls
exactly if every executor run leaves nothing behind: no run returns on a record that was
failed before, and no run raises on a record that has a result. -/
theorem outcomes_latest_iff (py : Builtins) (registries : Registries)
    (calls : List (ℚ × Request W)) :
    (machine py W).Always OutcomesLatest (init registries) calls ↔
      (machine py W).Along
        (fun F l ↦ ∀ record outcome, Runs F l record outcome → CleanRun record outcome)
        (init registries) calls := by
  apply Machine.always_iff_along (J := EveryDispatch Latest)
  · exact fun F ↦ outcomesLatest_of_latest
  · intro F l F' h hl hstep
    rw [← Machine.ofTotal_eq_some.mp hstep]
    exact latest_step py h hl
  · intro F l h hl
    push Not at hl
    obtain ⟨record, outcome, hruns, hnot⟩ := hl
    exact ⟨_, rfl, not_outcomesLatest_of_run py h hruns hnot⟩
  · exact everyDispatch_init registries

/-! ## A stale error -/

/-- The dispatch is failed before it is run for the first time. -/
def failedFirstCalls : List (Call Unit) :=
  [.registerExecutor "ga://node/solo" (returns "first"),
    .dispatch { packetId := "packet-1", capability := "notes" },
    .fail "dispatch-1" "lost" true, .execute "dispatch-1"] ++
    stageCalls proofChain

/-- The dispatch completes with the error of an attempt that was given up. -/
theorem not_always_outcomesLatest :
    ¬ ∀ calls, (machine default Unit).Always OutcomesLatest (init soloRegistries) calls := by
  intro halways
  have hview : soloView (fun _ record ↦ (record.state, record.error)) failedFirstCalls =
      some (.completed, some "lost") := by
    decide +kernel
  obtain ⟨F, record, hF, hrecord, e⟩ := of_soloView hview
  obtain ⟨hstate, herror⟩ := Prod.mk.inj e
  have hfinal := Machine.always_iff.mp (halways _) _ [] (List.append_nil _).symm F hF
  have hnone := (hfinal "dispatch-1" record hrecord).1 (by rw [hstate]; rfl)
  cases herror.symm.trans hnone

end DispatchFabric

end EstateMesh
