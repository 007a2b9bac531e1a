import EstateMesh.Dispatch.Acts

/-!
# The life cycle of a record

A property of a record and its event log that new records have and that every
enabled act keeps holds of every record of every reachable fabric
(`Reached.everyDispatch`).

The property here is that the state and the proof chain agree.  A record may
fail, be retried and run again with part of its proof, so its chain need not be
empty outside the proof: there most states say nothing about it.  The states of
the proof say exactly how long it is.
-/

namespace EstateMesh

open Lib

/-- When an act happens to a record. -/
def RecordAct.Enabled (record : DispatchRecord) : RecordAct → Prop
  | await | begin => record.state.isExecutable = true
  | finish _ => record.state = .running
  | accept organ _ => record.state.isProvable = true ∧ record.nextProofStage = some organ
  | fail _ _ => True

namespace DispatchFabric

variable {W : Type} {py : Builtins} {registries : Registries}

/-- The fabric is the result of some calls on a new control plane. -/
def Reached (py : Builtins) (registries : Registries) (F : DispatchFabric W) : Prop :=
  (machine py W).Reachable (init registries) F

/-- A new control plane has no records. -/
theorem get?_init (registries : Registries) (id : String) :
    (init registries : DispatchFabric W).records.get? id = none := Dict.get?_empty id

/-- What the event log says about a dispatch. -/
def log (F : DispatchFabric W) (id : String) : List DispatchPayload :=
  F.events.filterMap fun event ↦ if event.dispatchId = id then some event.payload else none

/-- Every record is stored under its own id, and it has the property together
with what the event log says about it. -/
def EveryDispatch (Q : List DispatchPayload → DispatchRecord → Prop) (F : DispatchFabric W) :
    Prop :=
  ∀ id record, F.records.get? id = some record → record.dispatchId = id ∧ Q (F.log id) record

section EveryDispatch

variable {Q : List DispatchPayload → DispatchRecord → Prop} {F F' : DispatchFabric W}

theorem filterMap_eventOf (now : ℚ) (record : DispatchRecord) (payloads : List DispatchPayload)
    (id : String) :
    ((payloads.map (eventOf now record)).filterMap fun event ↦
        if event.dispatchId = id then some event.payload else none) =
      if record.dispatchId = id then payloads else [] := by
  rw [List.filterMap_map]
  split
  · rename_i h
    exact (List.filterMap_congr fun payload _ ↦ if_pos h).trans List.filterMap_some
  · rename_i h
    exact List.filterMap_eq_nil_iff.mpr fun payload _ ↦ if_neg h

theorem act_log {id : String} {record : DispatchRecord} (now : ℚ)
    (h : F.records.get? id = some record) (hid : record.dispatchId = id) (a : RecordAct)
    (id' : String) :
    (F.act now id a).log id' = F.log id' ++
      if id = id' then a.payloads (a.apply now record).proofChain else [] := by
  unfold log
  rw [(act_spec now h a).2.2, List.filterMap_append, filterMap_eventOf,
    RecordAct.apply_dispatchId, hid]

theorem Silent.log (h : Silent F F') (id : String) : F'.log id = F.log id := by
  unfold DispatchFabric.log
  rw [h.2]

theorem EveryDispatch.silent (h : EveryDispatch Q F) (hsilent : Silent F F') :
    EveryDispatch Q F' := by
  intro id record hrecord
  rw [hsilent.1] at hrecord
  rw [hsilent.log]
  exact h id record hrecord

theorem EveryDispatch.created (h : EveryDispatch Q F) {now : ℚ} {uuid : String}
    {params : DispatchParams} (hcreated : Created F now uuid params F')
    (hnew : ∀ log resolution selected,
      Q (log ++ [.dispatched selected]) (newRecord now uuid params resolution selected)) :
    EveryDispatch Q F' := by
  obtain ⟨resolution, selected, hrecords, -, hevents⟩ := hcreated
  intro id record hrecord
  have hlog : F'.log id = F.log id ++
      if mintedId uuid = id then [.dispatched selected] else [] := by
    unfold log
    rw [hevents, List.filterMap_append]
    exact congrArg _ (filterMap_eventOf now _ [.dispatched selected] id)
  rw [hrecords, Dict.get?_set] at hrecord
  rw [hlog]
  by_cases e : mintedId uuid = id
  · rw [if_pos e] at hrecord ⊢
    cases hrecord
    exact ⟨e, hnew _ resolution selected⟩
  · rw [if_neg e] at hrecord ⊢
    rw [List.append_nil]
    exact h id record hrecord

theorem EveryDispatch.act (h : EveryDispatch Q F) (now : ℚ) {id : String}
    {record : DispatchRecord} (hrecord : F.records.get? id = some record) {a : RecordAct}
    (ha : Q (F.log id ++ a.payloads (a.apply now record).proofChain) (a.apply now record)) :
    EveryDispatch Q (F.act now id a) := by
  have hid := (h id record hrecord).1
  intro id' record' hrecord'
  rw [act_log now hrecord hid]
  by_cases e : id = id'
  · subst e
    rw [act_get?_self now hrecord] at hrecord'
    cases hrecord'
    rw [if_pos rfl]
    exact ⟨(RecordAct.apply_dispatchId now record a).trans hid, ha⟩
  · rw [act_get?_of_ne now e] at hrecord'
    rw [if_neg e, List.append_nil]
    exact h id' record' hrecord'

theorem everyDispatch_init (registries : Registries) :
    EveryDispatch Q (init registries : DispatchFabric W) := by
  intro id record hrecord
  rw [get?_init] at hrecord
  cases hrecord

/-- The acts keep the property. -/
def Kept (Q : List DispatchPayload → DispatchRecord → Prop) : Prop :=
  ∀ now log record (a : RecordAct), Q log record → a.Enabled record →
    Q (log ++ a.payloads (a.apply now record).proofChain) (a.apply now record)

/-- The acts keep the property, as long as the runs that end meet a condition. -/
def KeptGiven (R : DispatchRecord → Except String Value → Prop)
    (Q : List DispatchPayload → DispatchRecord → Prop) : Prop :=
  ∀ now log record (a : RecordAct), Q log record → a.Enabled record →
    (∀ outcome, a = .finish outcome → R record outcome) →
    Q (log ++ a.payloads (a.apply now record).proofChain) (a.apply now record)

theorem EveryDispatch.executed {R : DispatchRecord → Except String Value → Prop}
    (h : EveryDispatch Q F) (hact : KeptGiven R Q) {now : ℚ} {world : W} {id : String}
    (hexecuted : Executed F now world id F')
    (hrun : ∀ record executor, F.records.get? id = some record →
      record.state.isExecutable = true →
      F.executors.get? (record.target.getD "") = some executor →
      R (RecordAct.begin.apply now record) (executor world (RecordAct.begin.apply now record))) :
    EveryDispatch Q F' := by
  cases hexecuted with
  | rejected _ => exact h
  | awaited hrecord hstate _ =>
      exact h.act now hrecord (hact now _ _ .await (h _ _ hrecord).2 hstate (by rintro _ ⟨⟩))
  | ran hrecord hstate hexecutor =>
      have hbegun := h.act now hrecord
        (hact now _ _ .begin (h _ _ hrecord).2 hstate (by rintro _ ⟨⟩))
      have hrunning := act_get?_self now hrecord .begin
      refine hbegun.act now hrunning (hact now _ _ (.finish _) (hbegun _ _ hrunning).2 rfl ?_)
      rintro _ ⟨⟩
      exact hrun _ _ hrecord hstate hexecutor

end EveryDispatch

/-- A call of `execute` runs the executor of a record. -/
inductive Runs (F : DispatchFabric W) :
    ℚ × Request W → DispatchRecord → Except String Value → Prop
  | intro {now : ℚ} {world : W} {uuid id : String} {record : DispatchRecord}
      {executor : Executor W} {outcome : Except String Value}
      (h : F.records.get? id = some record) (hstate : record.state.isExecutable = true)
      (hexecutor : F.executors.get? (record.target.getD "") = some executor)
      (houtcome : executor world (RecordAct.begin.apply now record) = outcome) :
      Runs F (now, ⟨world, uuid, .execute id⟩) record outcome

/-- What a call that runs an executor does to the record. -/
theorem Runs.get?_step (py : Builtins) {F : DispatchFabric W} {l : ℚ × Request W}
    {record : DispatchRecord} {outcome : Except String Value} (h : Runs F l record outcome) :
    ∃ id, F.records.get? id = some record ∧ (step py F l).records.get? id =
        some ((RecordAct.finish outcome).apply l.1 (RecordAct.begin.apply l.1 record)) ∧
      (record.dispatchId = id → (step py F l).log id = F.log id ++
        .busy :: (RecordAct.finish outcome).payloads record.proofChain) := by
  cases h with
  | @intro now world uuid id _ executor _ hrecord hstate hexecutor houtcome =>
      have hrunning := act_get?_self now hrecord .begin
      have hstep : step py F (now, ⟨world, uuid, .execute id⟩) =
          (F.act now id .begin).act now id (.finish outcome) := by
        rw [← houtcome]
        exact execute_ran now world hrecord hstate hexecutor
      rw [hstep]
      refine ⟨id, hrecord, act_get?_self now hrunning _, fun hid ↦ ?_⟩
      rw [act_log now hrunning hid, if_pos rfl, act_log now hrecord hid, if_pos rfl,
        List.append_assoc]
      cases outcome <;> rfl

/-- The step lemma for properties that some runs break: every call whose runs meet the
condition keeps the property.  The run of a new dispatch meets it anyway. -/
theorem EveryDispatch.step_given {R : DispatchRecord → Except String Value → Prop}
    {Q : List DispatchPayload → DispatchRecord → Prop} {F : DispatchFabric W}
    (h : EveryDispatch Q F)
    (hnew : ∀ log now uuid params resolution selected,
      Q (log ++ [.dispatched selected]) (newRecord now uuid params resolution selected))
    (hfirst : ∀ now uuid params resolution selected outcome,
      R (RecordAct.begin.apply now (newRecord now uuid params resolution selected)) outcome)
    (hact : KeptGiven R Q) {l : ℚ × Request W}
    (hl : ∀ record outcome, Runs F l record outcome →
      R (RecordAct.begin.apply l.1 record) outcome) : EveryDispatch Q (step py F l) := by
  have hstepped := step_stepped py F l
  generalize DispatchFabric.step py F l = F' at hstepped
  cases hstepped with
  | silent hsilent => exact h.silent hsilent
  | executed hexecuted =>
      exact h.executed hact hexecuted fun record executor hrecord hstate hexecutor ↦
        hl _ _ (.intro hrecord hstate hexecutor rfl)
  | accepted hrecord hstate hnext =>
      exact h.act _ hrecord
        (hact _ _ _ (.accept _ _) (h _ _ hrecord).2 ⟨hstate, hnext⟩ (by rintro _ ⟨⟩))
  | failed hrecord =>
      exact h.act _ hrecord
        (hact _ _ _ (.fail _ _) (h _ _ hrecord).2 trivial (by rintro _ ⟨⟩))
  | created hcreated => exact h.created hcreated fun _ _ _ ↦ hnew _ _ _ _ _ _
  | createdExecuted _ hcreated hexecuted =>
      refine (h.created hcreated fun _ _ _ ↦ hnew _ _ _ _ _ _).executed hact hexecuted ?_
      intro record executor hrecord _ _
      -- the record was created by this very call
      obtain ⟨resolution, selected, hrecords, -⟩ := hcreated
      rw [hrecords, Dict.get?_set_self] at hrecord
      cases hrecord
      exact hfirst _ _ _ _ _ _

/-- The step lemma: every call keeps the property. -/
theorem EveryDispatch.step {Q : List DispatchPayload → DispatchRecord → Prop}
    {F : DispatchFabric W} (h : EveryDispatch Q F)
    (hnew : ∀ log now uuid params resolution selected,
      Q (log ++ [.dispatched selected]) (newRecord now uuid params resolution selected))
    (hact : Kept Q) (l : ℚ × Request W) : EveryDispatch Q (step py F l) := by
  apply h.step_given (R := fun _ _ ↦ True) hnew
  · exact fun _ _ _ _ _ _ ↦ trivial
  · exact fun now log record a h ha _ ↦ hact now log record a h ha
  · exact fun _ _ _ ↦ trivial

/-- The induction over runs, for properties of single dispatches. -/
theorem Reached.everyDispatch {Q : List DispatchPayload → DispatchRecord → Prop}
    (hnew : ∀ log now uuid params resolution selected,
      Q (log ++ [.dispatched selected]) (newRecord now uuid params resolution selected))
    (hact : Kept Q) {F : DispatchFabric W} (h : Reached py registries F) : EveryDispatch Q F := by
  apply Machine.Reachable.invariant _ h (everyDispatch_init registries)
  intro F l F' hF hstep
  rw [← Machine.ofTotal_eq_some.mp hstep]
  exact hF.step hnew hact l

end DispatchFabric

/-! ## State and proof chain -/

/-- The number of stages that a state stands for, if it stands for one. -/
def DispatchState.stageCount : DispatchState → Option ℕ
  | dispatched => some 0
  | verifying => some 1
  | proving => some 2
  | remembering => some 3
  | reconciling => some 4
  | completed => some 5
  | _ => none

/-- The chain of a record is the start of the canonical chain, and as long as its
state says. -/
structure ChainConsistent (record : DispatchRecord) : Prop where
  isPrefix : record.proofChain <+: proofChain
  length : ∀ n, record.state.stageCount = some n → record.proofChain.length = n

/-- Accepting the organ at place `n` leads to the state that stands for `n + 1`
stages. -/
theorem stageCount_stateByOrgan {n : ℕ} {organ : Organ} (h : proofChain[n]? = some organ) :
    (stateByOrgan organ).stageCount = some (n + 1) := by
  match n with
  | 0 | 1 | 2 | 3 | 4 =>
      cases h
      rfl
  | n + 5 => cases h

theorem prefix_append_next {chain : List Organ} {organ : Organ} (h : chain <+: proofChain)
    (hnext : proofChain[chain.length]? = some organ) : chain ++ [organ] <+: proofChain := by
  rw [List.prefix_iff_eq_take] at h ⊢
  rw [List.length_append, List.length_singleton, List.take_add_one, hnext, ← h]
  rfl

/-- A stage is due unless the chain is the whole chain. -/
theorem ChainConsistent.nextProofStage_eq_none_iff {record : DispatchRecord}
    (h : ChainConsistent record) :
    record.nextProofStage = none ↔ record.proofChain = proofChain := by
  unfold DispatchRecord.nextProofStage
  rw [List.getElem?_eq_none_iff]
  constructor
  · exact h.isPrefix.eq_of_length_le
  · intro e
    rw [e]

theorem ChainConsistent.apply {now : ℚ} {record : DispatchRecord} {a : RecordAct}
    (h : ChainConsistent record) (ha : a.Enabled record) :
    ChainConsistent (a.apply now record) := by
  cases a with
  | await => exact ⟨h.isPrefix, nofun⟩
  | begin => exact ⟨h.isPrefix, nofun⟩
  | finish outcome => cases outcome <;> exact ⟨h.isPrefix, nofun⟩
  | fail reason retryable => cases retryable <;> exact ⟨h.isPrefix, nofun⟩
  | accept organ evidence =>
      obtain ⟨-, hnext⟩ := ha
      refine ⟨prefix_append_next h.isPrefix hnext, fun n hn ↦ ?_⟩
      have hcount := (stageCount_stateByOrgan hnext).symm.trans hn
      rw [← Option.some.inj hcount]
      exact List.length_append

namespace DispatchFabric

variable {W : Type} {py : Builtins} {registries : Registries} {F : DispatchFabric W}

theorem chainConsistent_new (now : ℚ) (uuid : String) (params : DispatchParams)
    (resolution : Resolution) (selected : Candidate) :
    ChainConsistent (newRecord now uuid params resolution selected) :=
  ⟨List.nil_prefix, fun _ hn ↦ Option.some.inj hn⟩

theorem Reached.chainConsistent (h : Reached py registries F) :
    EveryDispatch (fun _ ↦ ChainConsistent) F :=
  h.everyDispatch (fun _ ↦ chainConsistent_new) fun _ _ _ _ ↦ ChainConsistent.apply

/-- The call to `completeStage` returns, and the chain of the record has grown. -/
def AcceptsStage (F : DispatchFabric W) (now : ℚ) (id organ : String) (evidence : PyDict) : Prop :=
  ∃ snapshot before after, (F.completeStage now id organ evidence).1 = .ok snapshot ∧
    F.records.get? id = some before ∧
    (F.completeStage now id organ evidence).2.records.get? id = some after ∧
    after.proofChain.length = before.proofChain.length + 1

theorem acceptsStage_iff {id : String} {record : DispatchRecord}
    (hrecord : F.records.get? id = some record) (hstate : record.state.isProvable = true)
    (now : ℚ) (organ : String) (evidence : PyDict) :
    AcceptsStage F now id organ evidence ↔
      ∃ expected, record.nextProofStage = some expected ∧ organ = expected.name := by
  have hcompleted := completeStage_completed now F id organ evidence
  unfold AcceptsStage
  generalize F.completeStage now id organ evidence = outcome at hcompleted
  cases hcompleted with
  | rejected h =>
      obtain ⟨expected, hnext, hne⟩ := h record hrecord hstate
      constructor
      · rintro ⟨_, _, _, ⟨⟩, _⟩
      · rintro ⟨expected', hnext', e⟩
        cases hnext.symm.trans hnext'
        exact absurd e hne
  | full h _ hnext =>
      cases hrecord.symm.trans h
      constructor
      · rintro ⟨_, before, after, -, hbefore, hafter, hlength⟩
        cases hbefore.symm.trans hafter
        omega
      · rintro ⟨expected, hnext', -⟩
        cases hnext.symm.trans hnext'
  | @accepted _ expected h _ hnext horgan =>
      cases hrecord.symm.trans h
      refine iff_of_true ?_ ⟨_, hnext, horgan⟩
      have hafter := act_get?_self now hrecord (.accept expected evidence)
      exact ⟨_, record, _, snapshot_of_some hafter, hrecord, hafter, List.length_append⟩

/-- In every reachable fabric the state of a record and its proof chain agree,
and the snapshot of a record that is being proved names the stage it accepts. -/
theorem state_agrees_with_proof_chain (py : Builtins) (registries : Registries)
    (calls : List (ℚ × Request W)) (F : DispatchFabric W)
    (h : (machine py W).run (init registries) calls = some F) (id : String)
    (record : DispatchRecord) (hrecord : F.records.get? id = some record) :
    record.proofChain <+: proofChain ∧
      (∀ n, record.state.stageCount = some n → record.proofChain.length = n) ∧
      (record.state.isProvable = true →
        ∃ snapshot, F.snapshot id = .ok snapshot ∧
          (snapshot.nextProofStage = none ↔ record.proofChain = proofChain) ∧
          ∀ now organ evidence, AcceptsStage F now id organ evidence ↔
            ∃ expected, snapshot.nextProofStage = some expected ∧ organ = expected.name) := by
  have hreached : Reached py registries F := ⟨calls, h⟩
  have hconsistent := (hreached.chainConsistent id record hrecord).2
  refine ⟨hconsistent.isPrefix, hconsistent.length, fun hstate ↦ ?_⟩
  exact ⟨_, snapshot_of_some hrecord, hconsistent.nextProofStage_eq_none_iff,
    acceptsStage_iff hrecord hstate⟩

/-! ## Runs with one node -/

/-- Registries that declare one capability and one node that has it. -/
def soloRegistries : Registries
  | .nodes => [(.str "nodes", .list [.object [("canonical_id", .str "ga://node/solo"),
      ("capabilities", .list [.str "notes"])]])]
  | .capabilities => [(.str "capabilities", .list [.object
      [("canonical_id", .str "ga://capability/notes"), ("owner", .str "ga://organ/forge")]])]
  | _ => []

/-- An executor that returns a text. -/
def returns (text : String) : Executor Unit := fun _ _ ↦ .ok (.str text)

/-- Calls on a control plane with one node, each at its own time. -/
def soloRun (calls : List (Call Unit)) : Option (DispatchFabric Unit) :=
  (machine default Unit).run (init soloRegistries)
    (calls.mapIdx fun i call ↦ ((i : ℚ), ⟨(), "1", call⟩))

/-- The calls that dispatch a packet to the node and run it there. -/
def executedCalls : List (Call Unit) :=
  [.registerExecutor "ga://node/solo" (returns "first"),
    .dispatch { packetId := "packet-1", capability := "notes" }, .execute "dispatch-1"]

/-- The calls by which organs report their stages. -/
def stageCalls (organs : List Organ) : List (Call Unit) :=
  organs.map fun organ ↦ .completeStage "dispatch-1" organ.name []

/-- What a view shows of the fabric and the dispatch after some calls. -/
def soloView {α : Type} (view : DispatchFabric Unit → DispatchRecord → α)
    (calls : List (Call Unit)) : Option α :=
  (soloRun calls).bind fun F ↦ (F.records.get? "dispatch-1").map (view F)

theorem of_soloView {α : Type} {view : DispatchFabric Unit → DispatchRecord → α}
    {calls : List (Call Unit)} {a : α} (h : soloView view calls = some a) :
    ∃ F record, soloRun calls = some F ∧ F.records.get? "dispatch-1" = some record ∧
      view F record = a := by
  obtain ⟨F, hF, h⟩ := Option.bind_eq_some_iff.mp h
  obtain ⟨record, hrecord, e⟩ := Option.map_eq_some_iff.mp h
  exact ⟨F, record, hF, hrecord, e⟩

/-- After the first stage the second one is due. -/
theorem first_stage_accepted :
    ∃ (F : DispatchFabric Unit) (record : DispatchRecord),
      F.records.get? "dispatch-1" = some record ∧ record.state = .verifying ∧
      record.proofChain = [.seca] ∧
      ∃ snapshot, F.snapshot "dispatch-1" = .ok snapshot ∧
        ∀ now organ evidence, AcceptsStage F now "dispatch-1" organ evidence ↔
          ∃ expected, snapshot.nextProofStage = some expected ∧ organ = expected.name := by
  let calls := executedCalls ++ stageCalls [.seca]
  have hview : soloView (fun _ record ↦ (record.state, record.proofChain)) calls =
      some (.verifying, [.seca]) := by
    decide +kernel
  obtain ⟨F, record, hF, hrecord, e⟩ := of_soloView hview
  obtain ⟨hstate, hchain⟩ := Prod.mk.inj e
  obtain ⟨-, -, hprovable⟩ := state_agrees_with_proof_chain _ _ _ F hF _ record hrecord
  obtain ⟨snapshot, hsnapshot, -, haccepts⟩ := hprovable (by rw [hstate]; rfl)
  exact ⟨F, record, hrecord, hstate, hchain, snapshot, hsnapshot, haccepts⟩

end DispatchFabric

end EstateMesh
