import EstateMesh.Dispatch.Records

/-!
# Concurrent executions

The endpoints run in a pool of threads, so while an executor runs, other calls
reach the fabric.  The pool splits `execute` where the executor is called: a run
starts, any calls follow, and the run finishes with whatever the executor comes
up with.  A dispatch that is to be executed at once is a dispatch followed by a
start.

Only `fail` disturbs a running record.  Once it has, the run goes on without
owning its record: the record may be started again beside it, and what the run
writes when it finishes replaces what happened since (`exclusive_and_harmless_iff`).

The identifiers that dispatches mint are taken to be new, as those of `uuid4`
are: a record is what the run of an executor holds on to.
-/

namespace EstateMesh

open Lib

/-- A run of an executor. -/
structure Run where
  token : ℕ
  dispatchId : String
deriving DecidableEq

/-- The fabric with the runs that have started and not finished. -/
structure Pool (W : Type) where
  fabric : DispatchFabric W
  inFlight : List Run := []
  /-- The token of the next run. -/
  nextToken : ℕ := 0
  /-- The token of the run that last started, for each dispatch. -/
  lastStarted : Dict String ℕ := ∅

/-- The steps of the pool. -/
inductive PoolLabel (W : Type)
  | start (dispatchId : String)
  | finish (run : Run) (outcome : Except String Value)
  | call (request : Request W)

namespace Pool

variable {W : Type}

/-- The calls that happen in one step: all but executions. -/
def isAtomic (F : DispatchFabric W) : Request W → Bool
  | ⟨_, _, .execute _⟩ => false
  | ⟨_, uuid, .dispatch params⟩ =>
      !params.execute && (F.records.get? (DispatchFabric.mintedId uuid)).isNone
  | _ => true

/-- One step of the pool. -/
def step (py : Builtins) : Machine (Pool W) (ℚ × PoolLabel W)
  | P, (now, .start id) =>
      match P.fabric.beginExecute now id with
      | .error _ => some P
      | .ok (none, fabric) => some { P with fabric := fabric }
      | .ok (some _, fabric) =>
          some
            { fabric := fabric
              inFlight := P.inFlight ++ [⟨P.nextToken, id⟩]
              nextToken := P.nextToken + 1
              lastStarted := P.lastStarted.set id P.nextToken }
  | P, (now, .finish run outcome) =>
      if run ∈ P.inFlight then
        some
          { P with
            fabric := P.fabric.finishExecute now run.dispatchId outcome
            inFlight := P.inFlight.erase run }
      else none
  | P, (now, .call request) =>
      if isAtomic P.fabric request then
        some { P with fabric := DispatchFabric.step py P.fabric (now, request) }
      else none

/-- A pool before any call. -/
def init (registries : Registries) : Pool W := { fabric := DispatchFabric.init registries }

/-- The record is running, and the run is the one that it is running. -/
def IsRunning (P : Pool W) (run : Run) : Prop :=
  ∃ record, P.fabric.records.get? run.dispatchId = some record ∧ record.state = .running ∧
    P.lastStarted.get? run.dispatchId = some run.token

/-- No dispatch has two runs at once. -/
def Exclusive (P : Pool W) : Prop := (P.inFlight.map Run.dispatchId).Nodup

/-- Finishing a run changes the record, whenever and however it finishes, only if
the record is still running that run. -/
def Harmless (P : Pool W) : Prop :=
  ∀ run ∈ P.inFlight, ∀ now outcome,
    (P.fabric.finishExecute now run.dispatchId outcome).records.get? run.dispatchId ≠
      P.fabric.records.get? run.dispatchId → P.IsRunning run

/-- The step fails a record that is running. -/
def failsRunning (P : Pool W) : ℚ × PoolLabel W → Bool
  | (_, .call ⟨_, _, .fail id _ _⟩) =>
      (P.fabric.records.get? id).any fun record ↦ record.state = .running
  | _ => false

/-- The runs are known to their records, and the running records to their runs. -/
structure Tracked (P : Pool W) : Prop where
  exclusive : Exclusive P
  owned : ∀ run ∈ P.inFlight, P.IsRunning run
  known : ∀ id record, P.fabric.records.get? id = some record → record.state = .running →
    ∃ run ∈ P.inFlight, run.dispatchId = id

variable {P : Pool W} {F : DispatchFabric W} {id : String}

/-! ## Steps that touch no running record -/

/-- At most one record changes, and it is running neither before nor after. -/
structure Idle (F F' : DispatchFabric W) (id : String) : Prop where
  others : ∀ id', id ≠ id' → F'.records.get? id' = F.records.get? id'
  before : ∀ record, F.records.get? id = some record → record.state ≠ .running
  after : ∀ record, F'.records.get? id = some record → record.state ≠ .running

theorem Idle.act {now : ℚ} {record : DispatchRecord} {a : RecordAct}
    (h : F.records.get? id = some record) (hbefore : record.state ≠ .running)
    (hafter : (a.apply now record).state ≠ .running) : Idle F (F.act now id a) id where
  others id' hne := DispatchFabric.act_get?_of_ne now hne a
  before record' hrecord := by
    cases h.symm.trans hrecord
    exact hbefore
  after record' hrecord := by
    rw [DispatchFabric.act_get?_self now h] at hrecord
    cases hrecord
    exact hafter

theorem Tracked.idle (h : Tracked P) (hidle : Idle P.fabric F id) :
    Tracked { P with fabric := F } where
  exclusive := h.exclusive
  owned run hrun := by
    obtain ⟨record, hrecord, hstate, hlast⟩ := h.owned run hrun
    have hne : id ≠ run.dispatchId := by
      rintro rfl
      exact hidle.before record hrecord hstate
    exact ⟨record, (hidle.others _ hne).trans hrecord, hstate, hlast⟩
  known id' record hrecord hstate := by
    by_cases e : id = id'
    · subst e
      exact absurd hstate (hidle.after record hrecord)
    · exact h.known id' record ((hidle.others id' e).symm.trans hrecord) hstate

theorem Tracked.silent (h : Tracked P) (hsilent : DispatchFabric.Silent P.fabric F) :
    Tracked { P with fabric := F } where
  exclusive := h.exclusive
  owned run hrun := by
    obtain ⟨record, hrecord, hrest⟩ := h.owned run hrun
    refine ⟨record, ?_, hrest⟩
    show F.records.get? _ = _
    rw [hsilent.1, hrecord]
  known id record hrecord := by
    have hkept : P.fabric.records.get? id = some record := by rw [← hsilent.1, hrecord]
    exact h.known id record hkept

/-! ## The step lemmas -/

theorem Tracked.started {now : ℚ} {record : DispatchRecord} (h : Tracked P)
    (hrecord : P.fabric.records.get? id = some record)
    (hstate : record.state.isExecutable = true) :
    Tracked
      { fabric := P.fabric.act now id .begin
        inFlight := P.inFlight ++ [⟨P.nextToken, id⟩]
        nextToken := P.nextToken + 1
        lastStarted := P.lastStarted.set id P.nextToken } := by
  have hidle : record.state ≠ .running := by
    intro hrunning
    rw [hrunning] at hstate
    cases hstate
  have hnone : ∀ run ∈ P.inFlight, id ≠ run.dispatchId := by
    rintro run hrun rfl
    obtain ⟨record', hrecord', hrunning, -⟩ := h.owned run hrun
    cases hrecord.symm.trans hrecord'
    exact hidle hrunning
  have hself := DispatchFabric.act_get?_self now hrecord .begin
  constructor
  · unfold Exclusive
    rw [List.map_append]
    refine h.exclusive.append (List.nodup_singleton id) ?_
    refine List.disjoint_singleton.mpr ?_
    intro hmem
    obtain ⟨run, hrun, e⟩ := List.mem_map.mp hmem
    exact hnone run hrun e.symm
  · intro run hrun
    rcases List.mem_append.mp hrun with hrun | hrun
    · obtain ⟨record', hrecord', hrunning, hlast⟩ := h.owned run hrun
      refine ⟨record', ?_, hrunning, ?_⟩
      · exact (DispatchFabric.act_get?_of_ne now (hnone run hrun) _).trans hrecord'
      · exact (Dict.get?_set_of_ne _ (hnone run hrun) _).trans hlast
    · cases List.mem_singleton.mp hrun
      exact ⟨_, hself, rfl, Dict.get?_set_self _ _ _⟩
  · intro id' record' hrecord' hrunning
    by_cases e : id = id'
    · subst e
      exact ⟨_, List.mem_append_right _ (List.mem_singleton_self _), rfl⟩
    · rw [DispatchFabric.act_get?_of_ne now e] at hrecord'
      obtain ⟨run, hrun, hid⟩ := h.known id' record' hrecord' hrunning
      exact ⟨run, List.mem_append_left _ hrun, hid⟩

/-- No record that has finished is running. -/
theorem finish_not_running {now : ℚ} {record : DispatchRecord}
    (outcome : Except String Value) :
    ((RecordAct.finish outcome).apply now record).state ≠ .running := by
  cases outcome <;> nofun

theorem Tracked.finished {now : ℚ} {run : Run} (h : Tracked P) (hrun : run ∈ P.inFlight)
    (outcome : Except String Value) :
    Tracked
      { P with
        fabric := P.fabric.act now run.dispatchId (.finish outcome)
        inFlight := P.inFlight.erase run } := by
  obtain ⟨record, hrecord, -⟩ := h.owned run hrun
  have hself := DispatchFabric.act_get?_self now hrecord (.finish outcome)
  constructor
  · exact h.exclusive.sublist (List.erase_sublist.map _)
  · intro run' hrun'
    have hne : run' ≠ run := (h.exclusive.of_map.mem_erase_iff.mp hrun').1
    have hrun' := List.mem_of_mem_erase hrun'
    have hid : run.dispatchId ≠ run'.dispatchId := fun e ↦
      hne (List.inj_on_of_nodup_map h.exclusive hrun' hrun e.symm)
    obtain ⟨record', hrecord', hrest⟩ := h.owned run' hrun'
    exact ⟨record', (DispatchFabric.act_get?_of_ne now hid _).trans hrecord', hrest⟩
  · intro id record' hrecord' hrunning
    by_cases e : run.dispatchId = id
    · subst e
      rw [hself] at hrecord'
      cases hrecord'
      exact absurd hrunning (finish_not_running outcome)
    · rw [DispatchFabric.act_get?_of_ne now e] at hrecord'
      obtain ⟨run', hrun', rfl⟩ := h.known id record' hrecord' hrunning
      refine ⟨run', (List.mem_erase_of_ne ?_).mpr hrun', rfl⟩
      rintro rfl
      exact e rfl

/-- An atomic call touches no running record, unless it fails one. -/
theorem Tracked.called (py : Builtins) {now : ℚ} {request : Request W} (h : Tracked P)
    (hatomic : isAtomic P.fabric request = true)
    (hfails : failsRunning P (now, .call request) = false) :
    Tracked { P with fabric := DispatchFabric.step py P.fabric (now, request) } := by
  have hstepped := DispatchFabric.step_stepped py P.fabric (now, request)
  generalize DispatchFabric.step py P.fabric (now, request) = F at hstepped
  cases hstepped with
  | silent hsilent => exact h.silent hsilent
  | executed _ => cases hatomic
  | @accepted _ _ _ _ _ record expected hrecord hstate hnext =>
      refine h.idle (.act hrecord ?_ ?_)
      · intro hrunning
        rw [hrunning] at hstate
        cases hstate
      · cases expected <;> rintro ⟨⟩
  | @failed _ _ _ id reason retryable _ hrecord =>
      refine h.idle (.act hrecord ?_ ?_)
      · simpa [failsRunning, hrecord] using hfails
      · cases retryable <;> rintro ⟨⟩
  | @created _ _ uuid params _ hcreated =>
      simp only [isAtomic, Bool.and_eq_true, Option.isNone_iff_eq_none] at hatomic
      obtain ⟨resolution, selected, hrecords, -⟩ := hcreated
      have hidle : Idle P.fabric F (DispatchFabric.mintedId uuid) := by
        constructor
        · intro id' hne
          rw [hrecords, Dict.get?_set_of_ne _ hne]
        · intro record hrecord
          cases hatomic.2.symm.trans hrecord
        · intro record hrecord
          rw [hrecords, Dict.get?_set_self] at hrecord
          cases hrecord
          rintro ⟨⟩
      exact h.idle hidle
  | createdExecuted hexecute _ _ =>
      rw [isAtomic, hexecute] at hatomic
      cases hatomic

/-- What one step of the pool does. -/
inductive Stepped (py : Builtins) (P : Pool W) (now : ℚ) : PoolLabel W → Pool W → Prop
  | rejected {id : String} : Stepped py P now (.start id) P
  | awaited {id : String} {record : DispatchRecord} (h : P.fabric.records.get? id = some record)
      (hstate : record.state.isExecutable = true) :
      Stepped py P now (.start id) { P with fabric := P.fabric.act now id .await }
  | started {id : String} {record : DispatchRecord} (h : P.fabric.records.get? id = some record)
      (hstate : record.state.isExecutable = true) :
      Stepped py P now (.start id)
        { fabric := P.fabric.act now id .begin
          inFlight := P.inFlight ++ [⟨P.nextToken, id⟩]
          nextToken := P.nextToken + 1
          lastStarted := P.lastStarted.set id P.nextToken }
  | finished {run : Run} {outcome : Except String Value} (h : run ∈ P.inFlight) :
      Stepped py P now (.finish run outcome)
        { P with
          fabric := P.fabric.act now run.dispatchId (.finish outcome)
          inFlight := P.inFlight.erase run }
  | called {request : Request W} (h : isAtomic P.fabric request = true) :
      Stepped py P now (.call request)
        { P with fabric := DispatchFabric.step py P.fabric (now, request) }

theorem step_stepped (py : Builtins) {now : ℚ} {label : PoolLabel W} {P' : Pool W}
    (hstep : step py P (now, label) = some P') : Stepped py P now label P' := by
  cases label with
  | start id =>
      simp only [Pool.step] at hstep
      have hbegun := DispatchFabric.beginExecute_begun now P.fabric id
      generalize P.fabric.beginExecute now id = begun at hstep hbegun
      cases hbegun with
      | rejected _ =>
          cases hstep
          exact .rejected
      | awaited hrecord hstate _ =>
          cases hstep
          exact .awaited hrecord hstate
      | begun hrecord hstate _ =>
          cases hstep
          exact .started hrecord hstate
  | finish run outcome =>
      simp only [Pool.step] at hstep
      split at hstep
      · rename_i hrun
        cases hstep
        rw [DispatchFabric.finishExecute_eq]
        exact .finished hrun
      · cases hstep
  | call request =>
      simp only [Pool.step] at hstep
      split at hstep
      · rename_i hatomic
        cases hstep
        exact .called hatomic
      · cases hstep

/-- The step lemma of the pool. -/
theorem Tracked.step (py : Builtins) (h : Tracked P) {l : ℚ × PoolLabel W} {P' : Pool W}
    (hl : failsRunning P l = false) (hstep : step py P l = some P') : Tracked P' := by
  obtain ⟨now, label⟩ := l
  cases step_stepped py hstep with
  | rejected => exact h
  | awaited hrecord hstate =>
      refine h.idle (.act hrecord ?_ nofun)
      intro hrunning
      rw [hrunning] at hstate
      cases hstate
  | started hrecord hstate => exact h.started hrecord hstate
  | finished hrun => exact h.finished hrun _
  | called hatomic => exact h.called py hatomic hl

theorem tracked_init (registries : Registries) : Tracked (init registries : Pool W) where
  exclusive := List.nodup_nil
  owned run hrun := by cases hrun
  known id record hrecord := by
    rw [init, DispatchFabric.get?_init] at hrecord
    cases hrecord

theorem Tracked.harmless (h : Tracked P) : Harmless P := fun run hrun _ _ _ ↦ h.owned run hrun

/-- A run whose record is not running is not harmless. -/
theorem not_harmless {run : Run} {record : DispatchRecord} (hrun : run ∈ P.inFlight)
    (hrecord : P.fabric.records.get? run.dispatchId = some record)
    (hstate : record.state = .retryable ∨ record.state = .failed) : ¬ Harmless P := by
  intro hharmless
  have hself := DispatchFabric.act_get?_self 0 hrecord (.finish (.ok .none))
  obtain ⟨record', hrecord', hrunning, -⟩ := hharmless run hrun 0 (.ok .none) (by
    rw [DispatchFabric.finishExecute_eq, hself, hrecord]
    intro e
    have hexecuted := congrArg DispatchRecord.state (Option.some.inj e)
    rcases hstate with hstate | hstate
    · cases hexecuted.trans hstate
    · cases hexecuted.trans hstate)
  cases hrecord.symm.trans hrecord'
  rcases hstate with hstate | hstate
  · cases hrunning.symm.trans hstate
  · cases hrunning.symm.trans hstate

/-- Failing a running record leaves a run that is not harmless. -/
theorem not_harmless_of_failsRunning (py : Builtins) (h : Tracked P) {l : ℚ × PoolLabel W}
    (hl : failsRunning P l = true) : ∃ P', step py P l = some P' ∧ ¬ Harmless P' := by
  obtain ⟨now, label⟩ := l
  cases label with
  | call request =>
      obtain ⟨world, uuid, call⟩ := request
      cases call with
      | fail id reason retryable =>
          obtain ⟨record, hrecord, hrunning⟩ := (Option.any_eq_true _ _).mp hl
          obtain ⟨run, hrun, rfl⟩ := h.known id record hrecord (by simpa using hrunning)
          refine ⟨_, rfl, ?_⟩
          have hself := DispatchFabric.act_get?_self now hrecord (.fail reason retryable)
          rw [← DispatchFabric.fail_eq] at hself
          refine not_harmless hrun hself ?_
          cases retryable with
          | true => exact .inl rfl
          | false => exact .inr rfl
      | _ => cases hl
  | _ => cases hl

/-- In every state of a run of the pool no dispatch has two runs and every run is
harmless, exactly when no step fails a running record. -/
theorem exclusive_and_harmless_iff (py : Builtins) (registries : Registries)
    (labels : List (ℚ × PoolLabel W)) :
    (step py).Always (fun P : Pool W ↦ Exclusive P ∧ Harmless P) (init registries) labels ↔
      (step py).Along (fun P l ↦ failsRunning P l = false) (init registries) labels := by
  apply Machine.always_iff_along (J := Tracked)
  · exact fun P h ↦ ⟨h.exclusive, h.harmless⟩
  · exact fun P l P' h hl hstep ↦ h.step py hl hstep
  · intro P l h hl
    obtain ⟨P', hstep, hnot⟩ := not_harmless_of_failsRunning py h (by simpa using hl)
    exact ⟨P', hstep, fun hP' ↦ hnot hP'.2⟩
  · exact tracked_init registries

/-! ## Failing a running record -/

/-- A pool with one node, whose dispatch is running. -/
def startedLabels : List (ℚ × PoolLabel Unit) :=
  [(0, .call ⟨(), "", .registerExecutor "ga://node/solo" (DispatchFabric.returns "first")⟩),
    (1, .call ⟨(), "1", .dispatch { packetId := "packet-1", capability := "notes" }⟩),
    (2, .start "dispatch-1")]

/-- The runs of the pool and the state of the dispatch after some steps. -/
def soloPool (labels : List (ℚ × PoolLabel Unit)) : Option (List Run × DispatchState) :=
  ((step default).run (init DispatchFabric.soloRegistries) labels).bind fun P ↦
    (P.fabric.records.get? "dispatch-1").map fun record ↦ (P.inFlight, record.state)

/-- A dispatch that fails while it runs and is retried has two runs, and a dispatch
that fails for good while it runs is overwritten when the run finishes. -/
theorem not_exclusive_and_harmless :
    (¬ ∀ labels, (step default).Always Exclusive
        (init (W := Unit) DispatchFabric.soloRegistries) labels) ∧
    ¬ ∀ labels, (step default).Always Harmless
        (init (W := Unit) DispatchFabric.soloRegistries) labels := by
  constructor
  · intro hexclusive
    have hpool : soloPool (startedLabels ++
        [(3, .call ⟨(), "", .fail "dispatch-1" "lost" true⟩), (4, .start "dispatch-1")]) =
          some ([⟨0, "dispatch-1"⟩, ⟨1, "dispatch-1"⟩], .running) := by
      decide +kernel
    obtain ⟨P, hP, hrecord⟩ := Option.bind_eq_some_iff.mp hpool
    obtain ⟨record, -, e⟩ := Option.map_eq_some_iff.mp hrecord
    have htwice := Machine.always_iff.mp (hexclusive _) _ [] (List.append_nil _).symm P hP
    rw [Exclusive, (Prod.mk.inj e).1] at htwice
    exact absurd htwice (by decide)
  · intro hharmless
    have hpool : soloPool (startedLabels ++
        [(3, .call ⟨(), "", .fail "dispatch-1" "for good" false⟩)]) =
          some ([⟨0, "dispatch-1"⟩], .failed) := by
      decide +kernel
    obtain ⟨P, hP, hrecord⟩ := Option.bind_eq_some_iff.mp hpool
    obtain ⟨record, hrecord, e⟩ := Option.map_eq_some_iff.mp hrecord
    obtain ⟨hinFlight, hstate⟩ := Prod.mk.inj e
    have hlate := Machine.always_iff.mp (hharmless _) _ [] (List.append_nil _).symm P hP
    exact not_harmless (hinFlight ▸ List.mem_singleton_self _) hrecord (.inr hstate) hlate

end Pool

end EstateMesh
