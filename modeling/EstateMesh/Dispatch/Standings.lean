import EstateMesh.Dispatch.Accounts
import EstateMesh.Dispatch.DeadEnds
import EstateMesh.Dispatch.Server

/-!
# The records that occur

Which records can there be?  The calls after a dispatch write four fields of its record: the
state, the proof chain, the result and the error, its standing.  The standings that occur are
listed by `Possible`, all of them and no others: a record that waits for its executor has never
been run, for an executor stays registered; one that is run or executed for a second time
carries the error for which it was retried; and what has been proved stays proved, so that
there are failed records with a part of the chain, or all of it.

Between whole calls no record is running.  That is all that interleaving adds: whatever else
occurs while executors run beside other calls occurs one call at a time (`standings_that_occur`).
-/

namespace EstateMesh

open Lib Machine

/-! ## Standings -/

/-- The fields of a record that calls write after its dispatch. -/
structure Standing where
  state : DispatchState
  proofChain : List Organ
  result : Value
  error : Option String

def DispatchRecord.standing (record : DispatchRecord) : Standing :=
  ⟨record.state, record.proofChain, record.result, record.error⟩

namespace Standing

/-- The standings that occur. -/
inductive Possible : Standing → Prop
  | dispatched : Possible ⟨.dispatched, [], .none, none⟩
  | awaiting (error : Option String) : Possible ⟨.awaitingExecutor, [], .none, error⟩
  | running : Possible ⟨.running, [], .none, none⟩
  | runningAgain {chain : List Organ} (h : chain <+: EstateMesh.proofChain) (result : Value)
      (error : String) : Possible ⟨.running, chain, result, some error⟩
  | executed (result : Value) : Possible ⟨.executed, [], result, none⟩
  | executedAgain {chain : List Organ} (h : chain <+: EstateMesh.proofChain) (result : Value)
      (error : String) : Possible ⟨.executed, chain, result, some error⟩
  | failed {chain : List Organ} (h : chain <+: EstateMesh.proofChain) (result : Value)
      (error : String) (retryable : Bool) :
      Possible ⟨if retryable then .retryable else .failed, chain, result, some error⟩
  | proved {chain : List Organ} {organ : Organ} (h : chain ++ [organ] <+: EstateMesh.proofChain)
      (result : Value) (error : Option String) :
      Possible ⟨stateByOrgan organ, chain ++ [organ], result, error⟩

/-- Nothing has come of a dispatch so far. -/
structure IsUntried (s : Standing) : Prop where
  proofChain : s.proofChain = []
  result : s.result = .none
  state : s.state.isProvable = false

variable {s : Standing}

theorem Possible.isPrefix (h : Possible s) : s.proofChain <+: EstateMesh.proofChain := by
  cases h with
  | dispatched => exact List.nil_prefix
  | awaiting => exact List.nil_prefix
  | running => exact List.nil_prefix
  | executed => exact List.nil_prefix
  | runningAgain h => exact h
  | executedAgain h => exact h
  | failed h => exact h
  | proved h => exact h

/-- A record that may be executed may be running. -/
theorem Possible.begin (h : Possible s) (hstate : s.state.isExecutable = true) :
    Possible { s with state := .running } := by
  cases h with
  | dispatched => exact .running
  | failed h result error retryable => exact .runningAgain h result error
  | @proved _ organ _ _ _ => cases organ <;> cases hstate
  | _ => cases hstate

/-- A record may return a result if it is running for the first time, or has an error. -/
theorem Possible.returned (h : Possible s) (hstate : s.error = none → s.state = .running)
    (result : Value) : Possible { s with state := .executed, result := result } := by
  cases h with
  | running => exact .executed result
  | runningAgain h _ error => exact .executedAgain h result error
  | executedAgain h _ error => exact .executedAgain h result error
  | failed h _ error _ => exact .executedAgain h result error
  | awaiting error =>
      cases error with
      | none => cases hstate rfl
      | some error => exact .executedAgain List.nil_prefix result error
  | @proved _ organ h _ error =>
      cases error with
      | none => cases organ <;> cases hstate rfl
      | some error => exact .executedAgain h result error
  | _ => cases hstate rfl

end Standing

/-! ## What holds of a record -/

/-- What holds of a record that has an executor, or none, and some runs in flight. -/
structure Sound (record : DispatchRecord) (hasExecutor : Bool) (inFlight : ℕ) : Prop where
  possible : record.standing.Possible
  untried : hasExecutor = false → record.standing.IsUntried ∧ inFlight = 0
  /-- Without an error there is at most one run, and the record is in it. -/
  alone : record.error = none → inFlight = 0 ∨ inFlight = 1 ∧ record.state = .running

namespace Sound

variable {record : DispatchRecord} {hasExecutor : Bool} {inFlight : ℕ}

theorem mono (h : Sound record hasExecutor inFlight) {hasExecutor' : Bool}
    (hmono : hasExecutor = true → hasExecutor' = true) : Sound record hasExecutor' inFlight where
  possible := h.possible
  untried hnone := h.untried (by
    by_contra hsome
    rw [hmono (by simpa using hsome)] at hnone
    cases hnone)
  alone := h.alone

theorem new (hasExecutor : Bool) (now : ℚ) (uuid : String) (params : DispatchParams)
    (resolution : Resolution) (selected : Candidate) :
    Sound (DispatchFabric.newRecord now uuid params resolution selected) hasExecutor 0 where
  possible := .dispatched
  untried _ := ⟨⟨rfl, rfl, rfl⟩, rfl⟩
  alone _ := .inl rfl

/-- Only a record that has never been run is set to wait. -/
theorem await (h : Sound record false inFlight) (now : ℚ) :
    Sound (RecordAct.await.apply now record) false inFlight := by
  obtain ⟨⟨hchain, hresult, -⟩, hnone⟩ := h.untried rfl
  have hpossible : (RecordAct.await.apply now record).standing =
      ⟨.awaitingExecutor, [], .none, record.error⟩ :=
    congrArg₂ (Standing.mk .awaitingExecutor · · record.error) hchain hresult
  exact ⟨hpossible ▸ .awaiting record.error, fun _ ↦ ⟨⟨hchain, hresult, rfl⟩, hnone⟩,
    fun _ ↦ .inl hnone⟩

theorem begin (h : Sound record true inFlight) (now : ℚ)
    (hstate : record.state.isExecutable = true) :
    Sound (RecordAct.begin.apply now record) true (inFlight + 1) where
  possible := h.possible.begin hstate
  untried := nofun
  alone herror := by
    rcases h.alone herror with hnone | ⟨-, hrunning⟩
    · exact .inr ⟨by rw [hnone], rfl⟩
    · rw [hrunning] at hstate
      cases hstate

theorem finish (h : Sound record true (inFlight + 1)) (now : ℚ) (outcome : Except String Value) :
    Sound ((RecordAct.finish outcome).apply now record) true inFlight := by
  cases outcome with
  | ok result =>
      refine ⟨h.possible.returned (fun herror ↦ ?_) result, nofun, fun herror ↦ ?_⟩
      · rcases h.alone herror with hnone | ⟨-, hrunning⟩
        · cases hnone
        · exact hrunning
      · rcases h.alone herror with hnone | ⟨hone, -⟩
        · cases hnone
        · exact .inl (Nat.succ.inj hone)
  | error error => exact ⟨.failed h.possible.isPrefix record.result error false, nofun, nofun⟩

theorem accept (h : Sound record hasExecutor inFlight) (now : ℚ) {organ : Organ}
    (hstate : record.state.isProvable = true) (hnext : record.nextProofStage = some organ)
    (evidence : PyDict) :
    Sound ((RecordAct.accept organ evidence).apply now record) hasExecutor inFlight where
  possible := .proved (prefix_append_next h.possible.isPrefix hnext) record.result record.error
  untried hnone := by
    cases hstate.symm.trans (h.untried hnone).1.state
  alone herror := by
    rcases h.alone herror with hnone | ⟨-, hrunning⟩
    · exact .inl hnone
    · rw [hrunning] at hstate
      cases hstate

theorem fail (h : Sound record hasExecutor inFlight) (now : ℚ) (reason : String)
    (retryable : Bool) :
    Sound ((RecordAct.fail reason retryable).apply now record) hasExecutor inFlight where
  possible := .failed h.possible.isPrefix record.result reason retryable
  untried hnone := by
    obtain ⟨⟨hchain, hresult, -⟩, hzero⟩ := h.untried hnone
    exact ⟨⟨hchain, hresult, by cases retryable <;> rfl⟩, hzero⟩
  alone := nofun

end Sound

/-! ## What holds of a fabric -/

namespace DispatchFabric

variable {W : Type} {F F' : DispatchFabric W} {id : String} {record : DispatchRecord}

/-- An executor is registered for the target of a record. -/
def hasExecutor (F : DispatchFabric W) (record : DispatchRecord) : Bool :=
  (F.executors.get? (record.target.getD "")).isSome

/-- What holds of the records of a fabric, some runs of which are in flight. -/
structure AllSound (F : DispatchFabric W) (inFlight : String → ℕ) : Prop where
  unknown : ∀ id, F.records.get? id = none → inFlight id = 0
  known : ∀ id record, F.records.get? id = some record →
    Sound record (F.hasExecutor record) (inFlight id)

theorem AllSound.act {inFlight inFlight' : String → ℕ} (h : AllSound F inFlight) {now : ℚ}
    {a : RecordAct} (hrecord : F.records.get? id = some record)
    (hinFlight : ∀ id', id ≠ id' → inFlight' id' = inFlight id')
    (ha : Sound (a.apply now record) (F.hasExecutor record) (inFlight' id)) :
    AllSound (F.act now id a) inFlight' := by
  have hexecutor (record' : DispatchRecord) :
      (F.act now id a).hasExecutor record' = F.hasExecutor record' := by
    rw [hasExecutor, act_executors, hasExecutor]
  constructor
  · intro id' hnone
    by_cases e : id = id'
    · subst e
      rw [act_get?_self now hrecord] at hnone
      cases hnone
    · rw [act_get?_of_ne now e] at hnone
      rw [hinFlight id' e]
      exact h.unknown id' hnone
  · intro id' record' hrecord'
    rw [hexecutor]
    by_cases e : id = id'
    · subst e
      rw [act_get?_self now hrecord] at hrecord'
      cases hrecord'
      rw [hasExecutor, RecordAct.apply_target]
      exact ha
    · rw [act_get?_of_ne now e] at hrecord'
      rw [hinFlight id' e]
      exact h.known id' record' hrecord'

theorem AllSound.silent {inFlight : String → ℕ} (h : AllSound F inFlight)
    (hsilent : Silent F F')
    (hexecutors : ∀ node, (F.executors.get? node).isSome = true →
      (F'.executors.get? node).isSome = true) : AllSound F' inFlight := by
  constructor
  · intro id hnone
    rw [hsilent.1] at hnone
    exact h.unknown id hnone
  · intro id record hrecord
    rw [hsilent.1] at hrecord
    exact (h.known id record hrecord).mono (hexecutors _)

theorem AllSound.created {inFlight : String → ℕ} (h : AllSound F inFlight) {now : ℚ}
    {uuid : String} {params : DispatchParams} (hcreated : Created F now uuid params F')
    (hnew : inFlight (mintedId uuid) = 0) : AllSound F' inFlight := by
  obtain ⟨resolution, selected, hrecords, hexecutors, -⟩ := hcreated
  constructor
  · intro id hnone
    rw [hrecords, Dict.get?_set] at hnone
    split at hnone
    · cases hnone
    · exact h.unknown id hnone
  · intro id record hrecord
    rw [hrecords, Dict.get?_set] at hrecord
    rw [hasExecutor, hexecutors]
    split at hrecord
    · rename_i e
      cases hrecord
      rw [← e, hnew]
      exact .new _ now uuid params resolution selected
    · exact h.known id record hrecord

/-- A whole execution leaves no run in flight. -/
theorem AllSound.executed (h : AllSound F fun _ ↦ 0) {now : ℚ} {world : W}
    (hexecuted : Executed F now world id F') : AllSound F' fun _ ↦ 0 := by
  cases hexecuted with
  | rejected _ => exact h
  | @awaited record hrecord _ hexecutor =>
      have hsound := h.known id record hrecord
      have hnone : F.hasExecutor record = false := by rw [hasExecutor, hexecutor]; rfl
      refine h.act hrecord (fun _ _ ↦ rfl) ?_
      rw [hnone] at hsound ⊢
      exact hsound.await now
  | @ran record executor hrecord hstate hexecutor =>
      have hsound := h.known id record hrecord
      have hsome : F.hasExecutor record = true := by rw [hasExecutor, hexecutor]; rfl
      rw [hsome] at hsound
      have hbegun : AllSound (F.act now id .begin) fun id' ↦ if id' = id then 1 else 0 := by
        refine h.act hrecord (fun id' e ↦ if_neg (Ne.symm e)) ?_
        rw [hsome, if_pos rfl]
        exact hsound.begin now hstate
      have hrunning := act_get?_self now hrecord .begin
      refine hbegun.act hrunning (fun id' e ↦ (if_neg (Ne.symm e)).symm) ?_
      have hkept : (F.act now id .begin).hasExecutor (RecordAct.begin.apply now record) = true := by
        rw [hasExecutor, act_executors, RecordAct.apply_target]
        exact hsome
      rw [hkept]
      exact (hsound.begin now hstate).finish now _

/-- Executors stay registered. -/
theorem isSome_executors_step (py : Builtins) (F : DispatchFabric W) (l : ℚ × Request W)
    (node : String) (h : (F.executors.get? node).isSome = true) :
    ((step py F l).executors.get? node).isSome = true := by
  obtain ⟨now, request⟩ := l
  cases hserved : request.isServed with
  | true => rwa [step_executors py F now hserved]
  | false =>
      obtain ⟨world, uuid, call⟩ := request
      cases call with
      | registerExecutor nodeId executor =>
          show ((F.executors.set nodeId executor).get? node).isSome = true
          rw [Dict.get?_set]
          split
          · rfl
          · exact h
      | _ => cases hserved

/-- The step lemma, for whole calls. -/
theorem AllSound.step (py : Builtins) (h : AllSound F fun _ ↦ 0) (l : ℚ × Request W) :
    AllSound (step py F l) fun _ ↦ 0 := by
  have hexecutors := isSome_executors_step py F l
  have hstepped := step_stepped py F l
  generalize DispatchFabric.step py F l = F' at hexecutors hstepped
  cases hstepped with
  | silent hsilent => exact h.silent hsilent hexecutors
  | executed hexecuted => exact h.executed hexecuted
  | accepted hrecord hstate hnext =>
      exact h.act hrecord (fun _ _ ↦ rfl) ((h.known _ _ hrecord).accept _ hstate hnext _)
  | failed hrecord => exact h.act hrecord (fun _ _ ↦ rfl) ((h.known _ _ hrecord).fail _ _ _)
  | created hcreated => exact h.created hcreated rfl
  | createdExecuted _ hcreated hexecuted => exact (h.created hcreated rfl).executed hexecuted

/-- The run lemma, for whole calls. -/
theorem Reached.allSound {py : Builtins} {registries : Registries}
    (h : Reached py registries F) : AllSound F fun _ ↦ 0 := by
  apply Machine.Reachable.invariant _ h
  · refine ⟨fun _ _ ↦ rfl, fun id record hrecord ↦ ?_⟩
    rw [get?_init] at hrecord
    cases hrecord
  · intro F l F' hF hstep
    rw [← Machine.ofTotal_eq_some.mp hstep]
    exact hF.step py l

end DispatchFabric

/-! ## What holds of a pool -/

namespace Pool

variable {W : Type} {P P' : Pool W}

/-- The step lemma, for interleavings. -/
theorem allSound_step (py : Builtins) (h : P.fabric.AllSound P.running) {l : ℚ × PoolLabel W}
    (hstep : step py P l = some P') : P'.fabric.AllSound P'.running := by
  obtain ⟨now, label⟩ := l
  cases label with
  | start id =>
      simp only [Pool.step] at hstep
      have hbegun := DispatchFabric.beginExecute_begun now P.fabric id
      generalize P.fabric.beginExecute now id = begun at hstep hbegun
      cases hbegun with
      | rejected _ =>
          cases hstep
          exact h
      | @awaited record hrecord _ hexecutor =>
          cases hstep
          have hsound := h.known id record hrecord
          have hnone : P.fabric.hasExecutor record = false := by
            rw [DispatchFabric.hasExecutor, hexecutor]; rfl
          refine h.act hrecord (fun _ _ ↦ rfl) ?_
          rw [hnone] at hsound ⊢
          exact hsound.await now
      | @begun record executor hrecord hstate hexecutor =>
          cases hstep
          have hsound := h.known id record hrecord
          have hsome : P.fabric.hasExecutor record = true := by
            rw [DispatchFabric.hasExecutor, hexecutor]; rfl
          refine h.act hrecord (fun id' e ↦ running_started e) ?_
          rw [hsome] at hsound ⊢
          rw [running_started_self]
          exact hsound.begin now hstate
  | finish run outcome =>
      cases step_stepped py hstep with
      | finished hrun =>
          obtain ⟨n, hn⟩ := exists_running hrun
          obtain ⟨record, hrecord⟩ : ∃ record,
              P.fabric.records.get? run.dispatchId = some record := by
            by_contra hnone
            have hzero := h.unknown _ (Option.eq_none_iff_forall_ne_some.mpr
              fun record hrecord ↦ hnone ⟨record, hrecord⟩)
            omega
          have hsound := h.known _ record hrecord
          have hsome : P.fabric.hasExecutor record = true := by
            by_contra hnone
            have hzero := (hsound.untried (by simpa using hnone)).2
            omega
          refine h.act hrecord (fun id' e ↦ running_finished e) ?_
          rw [hsome, hn] at hsound
          rw [hsome, running_finished_self hrun hn]
          exact hsound.finish now outcome
  | call request =>
      cases step_stepped py hstep with
      | called hatomic =>
          have hexecutors := DispatchFabric.isSome_executors_step py P.fabric (now, request)
          have hstepped := DispatchFabric.step_stepped py P.fabric (now, request)
          show (DispatchFabric.step py P.fabric (now, request)).AllSound P.running
          generalize DispatchFabric.step py P.fabric (now, request) = F at hexecutors hstepped
          cases hstepped with
          | silent hsilent => exact h.silent hsilent hexecutors
          | executed _ => cases hatomic
          | accepted hrecord hstate hnext =>
              exact h.act hrecord (fun _ _ ↦ rfl) ((h.known _ _ hrecord).accept now hstate hnext _)
          | failed hrecord =>
              exact h.act hrecord (fun _ _ ↦ rfl) ((h.known _ _ hrecord).fail now _ _)
          | created hcreated =>
              simp only [isAtomic, Bool.and_eq_true, Option.isNone_iff_eq_none] at hatomic
              exact h.created hcreated (h.unknown _ hatomic.2)
          | createdExecuted hexecute _ _ =>
              rw [isAtomic, hexecute] at hatomic
              cases hatomic

/-- The run lemma, for interleavings. -/
theorem allSound_of_reachable {py : Builtins} {registries : Registries}
    (h : (step py).Reachable (init registries) P) : P.fabric.AllSound P.running := by
  apply Machine.Reachable.invariant _ h
  · refine ⟨fun _ _ ↦ rfl, fun id record hrecord ↦ ?_⟩
    rw [init, DispatchFabric.get?_init] at hrecord
    cases hrecord
  · exact fun P l P' hP hstep ↦ allSound_step py hP hstep

end Pool

/-! ## The way to a standing -/

/-- The standings have what the calls can make of a record whose executor is registered and
returns what is wanted. -/
structure Standing.Closed (R : Standing → Prop) : Prop where
  dispatched : R ⟨.dispatched, [], .none, none⟩
  executed : ∀ s result, R s → s.state.isExecutable = true →
    R { s with state := .executed, result := result }
  accepted : ∀ s organ, R s → s.state.isProvable = true →
    EstateMesh.proofChain[s.proofChain.length]? = some organ →
    R { s with state := stateByOrgan organ, proofChain := s.proofChain ++ [organ] }
  failed : ∀ s (reason : String) (retryable : Bool), R s →
    R { s with state := if retryable then .retryable else .failed, error := some reason }

theorem nextOrgan_of_prefixed {chain : List Organ} {organ : Organ}
    (h : chain ++ [organ] <+: proofChain) : proofChain[chain.length]? = some organ := by
  obtain ⟨rest, hrest⟩ := h
  rw [← hrest, List.append_assoc, List.getElem?_append_right (Nat.le_refl _), Nat.sub_self]
  rfl

namespace Standing.Closed

variable {R : Standing → Prop} {chain : List Organ} {result : Value} {error : Option String}

/-- The stages are accepted one after the other. -/
theorem proved (hR : Closed R) (h : R ⟨.executed, [], result, error⟩) {organ : Organ}
    (hchain : chain ++ [organ] <+: EstateMesh.proofChain) :
    R ⟨stateByOrgan organ, chain ++ [organ], result, error⟩ := by
  induction chain using List.reverseRecOn generalizing organ with
  | nil => exact hR.accepted _ organ h rfl (nextOrgan_of_prefixed hchain)
  | append_singleton chain last ih =>
      have hlast : chain ++ [last] <+: EstateMesh.proofChain :=
        (List.prefix_append _ _).trans hchain
      have hlength : (chain ++ [last] ++ [organ]).length ≤ EstateMesh.proofChain.length :=
        hchain.length_le
      rw [List.length_append, List.length_append, List.length_singleton] at hlength
      refine hR.accepted _ organ (ih hlast) ?_ (nextOrgan_of_prefixed hchain)
      refine DispatchState.isProvable_of_stageCount
        (stageCount_stateByOrgan (nextOrgan_of_prefixed hlast)) (Nat.succ_pos _) ?_
      exact Nat.lt_of_succ_le hlength

/-- A record may fail with any part of the proof. -/
theorem failedWith (hR : Closed R) (hchain : chain <+: EstateMesh.proofChain) (result : Value)
    (reason : String) (retryable : Bool) :
    R ⟨if retryable then .retryable else .failed, chain, result, some reason⟩ := by
  have hfirst : R ⟨.executed, [], result, none⟩ := hR.executed _ result hR.dispatched rfl
  rcases List.eq_nil_or_concat chain with rfl | ⟨pre, organ, rfl⟩
  · exact hR.failed _ reason retryable hfirst
  · rw [List.concat_eq_append] at hchain ⊢
    exact hR.failed _ reason retryable (hR.proved hfirst hchain)

/-- Every possible standing is reached, if it is not one of waiting or running. -/
theorem of_possible (hR : Closed R) {s : Standing} (h : s.Possible)
    (hawaiting : s.state ≠ .awaitingExecutor) (hrunning : s.state ≠ .running) : R s := by
  cases h with
  | dispatched => exact hR.dispatched
  | awaiting => exact absurd rfl hawaiting
  | running => exact absurd rfl hrunning
  | runningAgain => exact absurd rfl hrunning
  | executed result => exact hR.executed _ result hR.dispatched rfl
  | executedAgain h result error =>
      exact hR.executed _ result (hR.failedWith h .none error true) rfl
  | failed h result error retryable => exact hR.failedWith h result error retryable
  | proved h result error =>
      refine hR.proved ?_ h
      cases error with
      | none => exact hR.executed _ result hR.dispatched rfl
      | some error => exact hR.executed _ result (hR.failedWith List.nil_prefix .none error true) rfl

end Standing.Closed

/-! ## Calls as interleavings -/

namespace DispatchFabric

section Shared

variable {W : Type} {py : Builtins} {registries : Registries} {F : DispatchFabric W}

/-- The fabric is reached by whole calls as well as by an interleaving. -/
def Shared (py : Builtins) (registries : Registries) (F : DispatchFabric W) : Prop :=
  Reached py registries F ∧
    ∃ P : Pool W, P.fabric = F ∧ (Pool.step py).Reachable (Pool.init registries) P

theorem Shared.call (h : Shared py registries F) (now : ℚ) (request : Request W)
    (hatomic : Pool.isAtomic F request = true) : Shared py registries (step py F (now, request)) := by
  obtain ⟨hreached, P, rfl, hP⟩ := h
  refine ⟨hreached.step (i := (now, request)) rfl,
    { P with fabric := step py P.fabric (now, request) }, rfl,
    hP.step (i := (now, .call request)) ?_⟩
  rw [Pool.step, if_pos hatomic]

/-- An execution is a start and, if there is an executor, its end. -/
theorem Shared.execute (h : Shared py registries F) (now : ℚ) (world : W) (id : String) :
    Shared py registries (F.execute now world id).2 := by
  obtain ⟨hreached, P, rfl, hP⟩ := h
  refine ⟨hreached.step (i := (now, ⟨world, "", .execute id⟩)) rfl, ?_⟩
  have hstart (P' : Pool W) (hstep : Pool.step py P (now, .start id) = some P') :
      (Pool.step py).Reachable (Pool.init registries) P' := hP.step hstep
  unfold DispatchFabric.execute
  simp only [Pool.step] at hstart
  have hbegun := beginExecute_begun now P.fabric id
  generalize P.fabric.beginExecute now id = begun at hstart hbegun
  cases hbegun with
  | rejected _ => exact ⟨P, rfl, hP⟩
  | awaited _ _ _ => exact ⟨_, rfl, hstart _ rfl⟩
  | @begun record executor hrecord _ _ =>
      dsimp only
      rw [get_of_some (act_get?_self now hrecord .begin)]
      dsimp only
      refine ⟨_, ?_, (hstart _ rfl).step (i := (now, .finish ⟨P.nextToken, id⟩
        (executor world (RecordAct.begin.apply now record))))
        (if_pos (List.mem_append_right _ (List.mem_singleton_self _)))⟩
      rfl

end Shared

/-! ## Reaching the standings -/

/-- An executor that does what the world wants. -/
def obedient : Executor (Except String Value) := fun world _ ↦ world

/-- A dispatch to a node has a standing, and the node has an executor, or none. -/
def Stands (executor : Option (Executor (Except String Value))) (s : Standing) : Prop :=
  ∃ (F : DispatchFabric (Except String Value)) (id : String) (record : DispatchRecord),
    Shared default soloRegistries F ∧ F.records.get? id = some record ∧ record.standing = s ∧
      F.executors.get? (record.target.getD "") = executor

/-- A dispatch to the node. -/
def soloDispatch : Request (Except String Value) :=
  ⟨.ok .none, "1", .dispatch { packetId := "packet-1", capability := "notes" }⟩

theorem stands_dispatched : Stands none ⟨.dispatched, [], .none, none⟩ := by
  have hshared : Shared (W := Except String Value) default soloRegistries (init soloRegistries) :=
    ⟨.refl _, Pool.init soloRegistries, rfl, .refl _⟩
  have hdispatched := hshared.call 0 soloDispatch rfl
  have hsome : ((step default (init soloRegistries) (0, soloDispatch)).records.get?
      "dispatch-1").isSome = true := by
    decide +kernel
  have hstepped := step_stepped default (init soloRegistries) (0, soloDispatch)
  generalize step default (init soloRegistries) (0, soloDispatch) = F at hdispatched hsome hstepped
  cases hstepped with
  | silent hsilent =>
      rw [hsilent.1, get?_init] at hsome
      cases hsome
  | created hcreated =>
      obtain ⟨resolution, selected, hrecords, hexecutors, -⟩ := hcreated
      refine ⟨F, _, _, hdispatched, (congrArg (Dict.get? · _) hrecords).trans
        (Dict.get?_set_self _ _ _), rfl, ?_⟩
      rw [hexecutors]
      exact Dict.get?_empty _
  | createdExecuted hexecute _ _ => cases hexecute

theorem Stands.registered {s : Standing} (h : Stands none s) : Stands (some obedient) s := by
  obtain ⟨F, id, record, hF, hrecord, hs, -⟩ := h
  refine ⟨_, id, record, hF.call 0 ⟨.ok .none, "",
    .registerExecutor (record.target.getD "") obedient⟩ rfl, hrecord, hs, ?_⟩
  exact Dict.get?_set_self _ _ _

section Stands

variable {executor : Option (Executor (Except String Value))} {s : Standing}

theorem Stands.failed (h : Stands executor s) (reason : String) (retryable : Bool) :
    Stands executor
      { s with state := if retryable then .retryable else .failed, error := some reason } := by
  obtain ⟨F, id, record, hF, hrecord, rfl, hexecutor⟩ := h
  have hcalled := hF.call 0 ⟨.ok .none, "", .fail id reason retryable⟩ rfl
  have hstep : step default F (0, ⟨.ok .none, "", .fail id reason retryable⟩) =
      F.act 0 id (.fail reason retryable) := fail_eq 0 reason retryable
  rw [hstep] at hcalled
  refine ⟨_, id, _, hcalled, act_get?_self 0 hrecord _, rfl, ?_⟩
  rwa [act_executors, RecordAct.apply_target]

theorem Stands.accepted (h : Stands executor s) {organ : Organ}
    (hstate : s.state.isProvable = true)
    (hnext : EstateMesh.proofChain[s.proofChain.length]? = some organ) :
    Stands executor
      { s with state := stateByOrgan organ, proofChain := s.proofChain ++ [organ] } := by
  obtain ⟨F, id, record, hF, hrecord, rfl, hexecutor⟩ := h
  have hcalled := hF.call 0 ⟨.ok .none, "", .completeStage id organ.name []⟩ rfl
  have hstep : step default F (0, ⟨.ok .none, "", .completeStage id organ.name []⟩) =
      F.act 0 id (.accept organ []) := completeStage_accept 0 hrecord hstate hnext []
  rw [hstep] at hcalled
  refine ⟨_, id, _, hcalled, act_get?_self 0 hrecord _, rfl, ?_⟩
  rwa [act_executors, RecordAct.apply_target]

theorem Stands.executed (h : Stands (some obedient) s) (hstate : s.state.isExecutable = true)
    (result : Value) : Stands (some obedient) { s with state := .executed, result := result } := by
  obtain ⟨F, id, record, hF, hrecord, rfl, hexecutor⟩ := h
  have hexecuted := hF.execute 0 (.ok result) id
  rw [execute_ran 0 (.ok result) hrecord hstate hexecutor] at hexecuted
  have hrunning := act_get?_self 0 hrecord .begin
  refine ⟨_, id, _, hexecuted, act_get?_self 0 hrunning (.finish (.ok result)), rfl, ?_⟩
  rwa [act_executors, act_executors, RecordAct.apply_target, RecordAct.apply_target]

theorem Stands.awaiting (h : Stands none s) (hstate : s.state.isExecutable = true) :
    Stands none { s with state := .awaitingExecutor } := by
  obtain ⟨F, id, record, hF, hrecord, rfl, hexecutor⟩ := h
  have hshared := hF.execute 0 (.ok .none) id
  have hexecuted := execute_executed 0 F (.ok .none) id
  generalize (F.execute 0 (.ok .none) id).2 = F' at hshared hexecuted
  cases hexecuted with
  | rejected hnot => cases (hnot record hrecord).symm.trans hstate
  | awaited hrecord' _ _ =>
      cases hrecord.symm.trans hrecord'
      refine ⟨_, id, _, hshared, act_get?_self 0 hrecord .await, rfl, ?_⟩
      rwa [act_executors, RecordAct.apply_target]
  | ran hrecord' _ hsome =>
      cases hrecord.symm.trans hrecord'
      cases hexecutor.symm.trans hsome

theorem stands_closed : Standing.Closed (Stands (some obedient)) where
  dispatched := stands_dispatched.registered
  executed _ result h hstate := h.executed hstate result
  accepted _ _ h hstate hnext := h.accepted hstate hnext
  failed _ reason retryable h := h.failed reason retryable

/-- Every possible standing is reached by calls as well as by an interleaving, unless it is one
of running. -/
theorem exists_stands (h : s.Possible) (hrunning : s.state ≠ .running) :
    ∃ executor, Stands executor s := by
  by_cases hawaiting : s.state = .awaitingExecutor
  · refine ⟨none, ?_⟩
    cases h with
    | awaiting error =>
        cases error with
        | none => exact stands_dispatched.awaiting rfl
        | some error => exact (stands_dispatched.failed error true).awaiting rfl
    | @proved _ organ => cases organ <;> cases hawaiting
    | @failed _ _ _ _ retryable => cases retryable <;> cases hawaiting
    | _ => cases hawaiting
  · exact ⟨_, stands_closed.of_possible h hawaiting hrunning⟩

end Stands

end DispatchFabric

/-! ## The standings that occur -/

/-- Some calls, one at a time, lead to a record with a standing. -/
def Standing.OccursInCalls (s : Standing) : Prop :=
  ∃ (W : Type) (py : Builtins) (registries : Registries) (F : DispatchFabric W) (id : String)
    (record : DispatchRecord), DispatchFabric.Reached py registries F ∧
      F.records.get? id = some record ∧ record.standing = s

/-- Some interleaving leads to a record with a standing. -/
def Standing.OccursInterleaved (s : Standing) : Prop :=
  ∃ (W : Type) (py : Builtins) (registries : Registries) (P : Pool W) (id : String)
    (record : DispatchRecord), (Pool.step py).Reachable (Pool.init registries) P ∧
      P.fabric.records.get? id = some record ∧ record.standing = s

/-- A record that may be executed runs in some interleaving. -/
theorem DispatchFabric.Stands.running {s : Standing} (h : Stands (some obedient) s)
    (hstate : s.state.isExecutable = true) :
    Standing.OccursInterleaved { s with state := .running } := by
  obtain ⟨F, id, record, ⟨-, P, rfl, hP⟩, hrecord, rfl, hexecutor⟩ := h
  have hstart (P' : Pool (Except String Value))
      (hstep : Pool.step default P (0, .start id) = some P') :
      (Pool.step default).Reachable (Pool.init soloRegistries) P' := hP.step hstep
  simp only [Pool.step] at hstart
  have hbegun := beginExecute_begun 0 P.fabric id
  generalize P.fabric.beginExecute 0 id = begun at hstart hbegun
  cases hbegun with
  | rejected hnot => cases (hnot record hrecord).symm.trans hstate
  | awaited hrecord' _ hnone =>
      cases hrecord.symm.trans hrecord'
      cases hexecutor.symm.trans hnone
  | begun hrecord' _ _ =>
      cases hrecord.symm.trans hrecord'
      exact ⟨_, _, _, _, id, _, hstart _ rfl, act_get?_self 0 hrecord .begin, rfl⟩

/-- In interleavings records have exactly the possible standings, and in calls that are made one
at a time exactly those that are not of running. -/
theorem standings_that_occur (s : Standing) :
    (s.OccursInterleaved ↔ s.Possible) ∧
      (s.OccursInCalls ↔ s.Possible ∧ s.state ≠ .running) := by
  have hstands (hpossible : s.Possible) (hrunning : s.state ≠ .running) :=
    DispatchFabric.exists_stands hpossible hrunning
  refine ⟨⟨?_, fun hpossible ↦ ?_⟩, ?_, fun ⟨hpossible, hrunning⟩ ↦ ?_⟩
  · rintro ⟨W, py, registries, P, id, record, hP, hrecord, rfl⟩
    exact ((Pool.allSound_of_reachable hP).known id record hrecord).possible
  · by_cases hrunning : s.state = .running
    · have hclosed := DispatchFabric.stands_closed
      cases hpossible with
      | running => exact hclosed.dispatched.running rfl
      | runningAgain h result error => exact (hclosed.failedWith h result error true).running rfl
      | @proved _ organ => cases organ <;> cases hrunning
      | @failed _ _ _ _ retryable => cases retryable <;> cases hrunning
      | _ => cases hrunning
    · obtain ⟨executor, F, id, record, ⟨-, P, rfl, hP⟩, hrecord, hs, -⟩ := hstands hpossible hrunning
      exact ⟨_, _, _, P, id, record, hP, hrecord, hs⟩
  · rintro ⟨W, py, registries, F, id, record, hF, hrecord, rfl⟩
    exact ⟨(hF.allSound.known id record hrecord).possible, hF.settled id record hrecord⟩
  · obtain ⟨executor, F, id, record, ⟨hF, -⟩, hrecord, hs, -⟩ := hstands hpossible hrunning
    exact ⟨_, _, _, F, id, record, hF, hrecord, hs⟩

end EstateMesh
