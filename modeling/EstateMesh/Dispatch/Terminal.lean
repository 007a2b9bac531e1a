import EstateMesh.Dispatch.Records

/-!
# Terminal states

`execute` and `completeStage` look at the state of a record and refuse the
terminal ones; `fail` does not look.  So a completed record stays as it is as long
as it is not failed, and a failed record cannot be executed as long as it is not
failed again as retryable, and in both cases only that long
(`terminal_states_absorbing_iff`).
-/

namespace EstateMesh

open Lib

namespace DispatchFabric

variable {W : Type}

/-- The call fails a dispatch. -/
def fails (id : String) : ℚ × Request W → Bool
  | (_, ⟨_, _, .fail id' _ _⟩) => id' = id
  | _ => false

/-- The call fails a dispatch and allows it to be retried. -/
def reopens (id : String) : ℚ × Request W → Bool
  | (_, ⟨_, _, .fail id' _ retryable⟩) => id' = id && retryable
  | _ => false

/-- The record is completed, with the proof chain, the result and the error that
it had before. -/
def StaysCompleted (id : String) (before : DispatchRecord) (F : DispatchFabric W) : Prop :=
  ∃ record, F.records.get? id = some record ∧ record.state = .completed ∧
    record.proofChain = before.proofChain ∧ record.result = before.result ∧
    record.error = before.error

/-- To execute the dispatch is refused, at any time and in any world. -/
def RefusesExecution (id : String) (F : DispatchFabric W) : Prop :=
  ∀ now world, (∃ e, (F.execute now world id).1 = .error e) ∧ (F.execute now world id).2 = F

/-- The record is in a state. -/
def InState (id : String) (state : DispatchState) (F : DispatchFabric W) : Prop :=
  ∃ record, F.records.get? id = some record ∧ record.state = state

variable {py : Builtins} {F : DispatchFabric W} {id : String} {record : DispatchRecord}

/-! ## What `execute` refuses -/

/-- `execute` raises exactly on the records that are not to be executed, and then
it changes nothing. -/
theorem execute_refused_iff (hrecord : F.records.get? id = some record) (now : ℚ) (world : W) :
    (∃ e, (F.execute now world id).1 = .error e) ∧ (F.execute now world id).2 = F ↔
      record.state.isExecutable = false := by
  have hbegun := beginExecute_begun now F id
  rw [execute]
  generalize F.beginExecute now id = begun at hbegun
  cases hbegun with
  | rejected h => exact iff_of_true ⟨⟨_, rfl⟩, rfl⟩ (h record hrecord)
  | awaited h hstate _ =>
      cases hrecord.symm.trans h
      dsimp only
      rw [snapshot_of_some (act_get?_self now hrecord .await), hstate]
      exact iff_of_false (by rintro ⟨⟨_, ⟨⟩⟩, -⟩) nofun
  | begun h hstate _ =>
      cases hrecord.symm.trans h
      have hrunning := act_get?_self now hrecord .begin
      dsimp only
      rw [get_of_some hrunning]
      dsimp only
      rw [finishExecute_eq, snapshot_of_some (act_get?_self now hrunning _), hstate]
      exact iff_of_false (by rintro ⟨⟨_, ⟨⟩⟩, -⟩) nofun

theorem InState.refusesExecution {state : DispatchState} (h : InState id state F)
    (hstate : state.isExecutable = false) : RefusesExecution id F := by
  obtain ⟨record, hrecord, rfl⟩ := h
  exact fun now world ↦ (execute_refused_iff hrecord now world).mpr hstate

/-! ## The step lemmas -/

/-- Only `fail` changes a record in a terminal state. -/
theorem RecordStepped.of_terminal {l : ℚ × Request W} {record' : DispatchRecord}
    (h : RecordStepped F id l record') (hrecord : F.records.get? id = some record)
    (hexecutable : record.state.isExecutable = false)
    (hprovable : record.state.isProvable = false) (hfresh : mints id l = false) :
    record' = record ∨ ∃ now world uuid reason retryable,
      l = (now, ⟨world, uuid, .fail id reason retryable⟩) ∧
        record' = (RecordAct.fail reason retryable).apply now record := by
  cases h with
  | kept h => exact .inl (Option.some.inj (h.symm.trans hrecord))
  | executed h hexecuted =>
      cases hrecord.symm.trans h
      cases hexecuted with
      | rejected _ => exact .inl rfl
      | awaited hstate _ | ran hstate _ => cases hexecutable.symm.trans hstate
  | accepted h hstate _ =>
      cases hrecord.symm.trans h
      cases hprovable.symm.trans hstate
  | failed h =>
      cases hrecord.symm.trans h
      exact .inr ⟨_, _, _, _, _, rfl, rfl⟩
  | created hid _ _ => simp [mints, hid] at hfresh

/-- A completed record that is not failed stays completed. -/
theorem StaysCompleted.step {before : DispatchRecord} (h : StaysCompleted id before F)
    {l : ℚ × Request W} (hfresh : mints id l = false) (hl : fails id l = false) :
    StaysCompleted id before (step py F l) := by
  obtain ⟨record, hrecord, hstate, hkept⟩ := h
  have hsome := step_get?_isSome py (Option.isSome_of_eq_some hrecord) l
  obtain ⟨record', hrecord'⟩ := Option.isSome_iff_exists.mp hsome
  rcases (step_recordStepped py hrecord').of_terminal hrecord (by rw [hstate]; rfl)
    (by rw [hstate]; rfl) hfresh with rfl | ⟨now, world, uuid, reason, retryable, rfl, -⟩
  · exact ⟨record', hrecord', hstate, hkept⟩
  · simp [fails] at hl

/-- A failed record that is not failed as retryable stays failed. -/
theorem InState.step_failed (h : InState id .failed F) {l : ℚ × Request W}
    (hfresh : mints id l = false) (hl : reopens id l = false) :
    InState id .failed (step py F l) := by
  obtain ⟨record, hrecord, hstate⟩ := h
  have hsome := step_get?_isSome py (Option.isSome_of_eq_some hrecord) l
  obtain ⟨record', hrecord'⟩ := Option.isSome_iff_exists.mp hsome
  refine ⟨record', hrecord', ?_⟩
  rcases (step_recordStepped py hrecord').of_terminal hrecord (by rw [hstate]; rfl)
    (by rw [hstate]; rfl) hfresh with rfl | ⟨now, world, uuid, reason, retryable, rfl, rfl⟩
  · exact hstate
  · cases retryable with
    | false => rfl
    | true => simp [reopens] at hl

/-- Failing a record makes an end of its being completed. -/
theorem not_staysCompleted_of_fails {before : DispatchRecord} (h : StaysCompleted id before F)
    {l : ℚ × Request W} (hl : fails id l = true) : ¬ StaysCompleted id before (step py F l) := by
  obtain ⟨now, world, uuid, call⟩ := l
  cases call with
  | fail id' reason retryable =>
      obtain rfl : id' = id := by simpa [fails] using hl
      obtain ⟨record, hrecord, -⟩ := h
      rintro ⟨record', hrecord', hstate, -⟩
      change (F.fail now id' reason retryable).2.records.get? id' = some record' at hrecord'
      rw [fail_eq, act_get?_self now hrecord] at hrecord'
      cases hrecord'
      cases retryable <;> cases hstate
  | _ => cases hl

/-- Failing a record as retryable allows it to be executed. -/
theorem not_refusesExecution_of_reopens (h : InState id .failed F) {l : ℚ × Request W}
    (hl : reopens id l = true) : ¬ RefusesExecution id (step py F l) := by
  obtain ⟨now, world, uuid, call⟩ := l
  cases call with
  | fail id' reason retryable =>
      obtain ⟨rfl, rfl⟩ : id' = id ∧ retryable = true := by simpa [reopens] using hl
      obtain ⟨record, hrecord, -⟩ := h
      intro hrefuses
      change RefusesExecution id' (F.fail now id' reason true).2 at hrefuses
      rw [fail_eq] at hrefuses
      have hretryable := act_get?_self now hrecord (.fail reason true)
      cases (execute_refused_iff hretryable now world).mp (hrefuses now world)
  | _ => cases hl

/-! ## The terminal states -/

/-- Whatever is called later, a completed record keeps its state, its proof, its
result and its error exactly as long as it is not failed, and a failed record
cannot be executed exactly as long as it is not failed as retryable. -/
theorem terminal_states_absorbing_iff (py : Builtins) (F : DispatchFabric W) (id : String)
    (record : DispatchRecord) (hrecord : F.records.get? id = some record)
    (calls : List (ℚ × Request W)) (hfresh : ∀ l ∈ calls, mints id l = false) :
    (record.state = .completed →
      ((machine py W).Always (StaysCompleted id record) F calls ↔
        ∀ l ∈ calls, fails id l = false)) ∧
    (record.state = .failed →
      ((machine py W).Always (RefusesExecution id) F calls ↔
        ∀ l ∈ calls, reopens id l = false)) := by
  constructor
  · intro hstate
    apply Machine.always_iff_forall (J := StaysCompleted id record) (fun _ h ↦ h) ?_ ?_ ?_ hfresh
    · exact fun F l h hfresh hl ↦ h.step hfresh hl
    · intro F l h _ hl
      exact not_staysCompleted_of_fails h (Bool.not_eq_false _ ▸ hl)
    · exact ⟨record, hrecord, hstate, rfl, rfl, rfl⟩
  · intro hstate
    apply Machine.always_iff_forall (J := InState id .failed) ?_ ?_ ?_ ?_ hfresh
    · exact fun F h ↦ h.refusesExecution rfl
    · exact fun F l h hfresh hl ↦ h.step_failed hfresh hl
    · intro F l h _ hl
      exact not_refusesExecution_of_reopens h (Bool.not_eq_false _ ▸ hl)
    · exact ⟨record, hrecord, hstate⟩

/-! ## Terminal records that are failed -/

/-- A completed dispatch survives further executions and stages. -/
theorem completed_survives_execute :
    ∃ (F : DispatchFabric Unit) (record : DispatchRecord),
      F.records.get? "dispatch-1" = some record ∧ record.state = .completed ∧
      (machine default Unit).Always (StaysCompleted "dispatch-1" record) F
        [(9, ⟨(), "2", .execute "dispatch-1"⟩),
          (9, ⟨(), "2", .completeStage "dispatch-1" "ga://organ/seca" []⟩)] := by
  have hview : soloView (fun _ record ↦ record.state) (executedCalls ++ stageCalls proofChain) =
      some .completed := by
    decide +kernel
  obtain ⟨F, record, -, hrecord, hstate⟩ := of_soloView hview
  refine ⟨F, record, hrecord, hstate, ?_⟩
  apply ((terminal_states_absorbing_iff default F _ record hrecord _ ?_).1 hstate).mpr
  · decide
  · decide

/-- A completed dispatch can be failed, and a failed one executed. -/
theorem not_terminal_states_absorbing :
    (¬ ∀ (F : DispatchFabric Unit) (id : String) (record : DispatchRecord)
        (calls : List (ℚ × Request Unit)),
        Reached default soloRegistries F → F.records.get? id = some record →
        record.state = .completed → (∀ l ∈ calls, mints id l = false) →
        (machine default Unit).Always (StaysCompleted id record) F calls) ∧
    (¬ ∀ (F : DispatchFabric Unit) (id : String) (record : DispatchRecord)
        (calls : List (ℚ × Request Unit)),
        Reached default soloRegistries F → F.records.get? id = some record →
        record.state = .failed → (∀ l ∈ calls, mints id l = false) →
        (machine default Unit).Always (RefusesExecution id) F calls) := by
  constructor
  · intro habsorbing
    have hview : soloView (fun _ record ↦ record.state) (executedCalls ++ stageCalls proofChain) =
        some .completed := by
      decide +kernel
    obtain ⟨F, record, hF, hrecord, hstate⟩ := of_soloView hview
    have hlate := habsorbing F _ record [(9, ⟨(), "2", .fail "dispatch-1" "late" true⟩)] ⟨_, hF⟩
      hrecord hstate (by decide)
    exact not_staysCompleted_of_fails hlate.1 (by decide) (hlate.2 _ rfl).head
  · intro habsorbing
    have hview : soloView (fun _ record ↦ record.state)
        (executedCalls ++ [.fail "dispatch-1" "for good" false]) = some .failed := by
      decide +kernel
    obtain ⟨F, record, hF, hrecord, hstate⟩ := of_soloView hview
    have hlate := habsorbing F _ record [(9, ⟨(), "2", .fail "dispatch-1" "late" true⟩)] ⟨_, hF⟩
      hrecord hstate (by decide)
    exact not_refusesExecution_of_reopens ⟨record, hrecord, hstate⟩ (by decide)
      (hlate.2 _ rfl).head

end DispatchFabric

end EstateMesh
