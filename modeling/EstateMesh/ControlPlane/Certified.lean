import EstateMesh.ControlPlane.Isolation
import EstateMesh.RuntimeEvidence.Repairs

/-!
# What a certification says of the process

The harvest looks at the process from outside, one endpoint after the other, while the process
serves other traffic and may reload its documents in between.  Four of the endpoints always
answer.  The other probes say what is so when they arrive: the health that the documents can be
reported on and the circuits listed, the readiness that the documents pass validation, and the
canary that a node was found for it, of which its record is the trace.  The certification combines
them, and what it says of a process that answers is determined by these three facts
(`certification_of_control_plane`, `Certified.determined`).
-/

namespace EstateMesh

open Lib Machine

/-! ## Answers -/

/-- An endpoint returns a document. -/
def Answer.isReturned : Answer → Bool
  | returned _ => true
  | _ => false

/-- A request is answered by a document. -/
def Runtime.Exchange.isAnswered : Runtime.Exchange → Bool
  | answered _ _ => true
  | _ => false

theorem isReturned_answerOf {α : Type} {toValue : α → Value} {outcome : Except ResolverFault α} :
    (answerOf toValue outcome).isReturned = true ↔ ∃ x, outcome = .ok x := by
  cases outcome with
  | ok x => exact iff_of_true rfl ⟨x, rfl⟩
  | error fault =>
      refine iff_of_false ?_ (by rintro ⟨_, ⟨⟩⟩)
      cases fault <;> exact Bool.false_ne_true

/-- What can be written reaches the client. -/
theorem isAnswered_exchange {transmit : Value → Option Value} {answer : Answer}
    (h : ∀ body, answer = .returned body → (transmit body).isSome = true) :
    (answer.exchange transmit).isAnswered = answer.isReturned := by
  cases answer with
  | returned body =>
      obtain ⟨seen, hseen⟩ := Option.isSome_iff_exists.mp (h body rfl)
      rw [Answer.exchange, hseen]
      rfl
  | httpException statusCode detail =>
      rw [Answer.exchange]
      cases transmit (.object [("detail", detail)]) <;> rfl
  | raised => rfl

namespace Runtime

theorem state_requestJson {baseUrl path : String} {exchange : Exchange} (h : baseUrl ≠ "") :
    (requestJson baseUrl path exchange).state = .proven ↔ exchange.isAnswered = true := by
  rw [requestJson, if_neg h]
  cases exchange with
  | answered statusCode body => exact iff_of_true rfl rfl
  | refused statusCode body => exact iff_of_false (by rintro ⟨⟩) Bool.false_ne_true
  | raised className detail => exact iff_of_false (by rintro ⟨⟩) Bool.false_ne_true

theorem Environment.baseUrl_ne (env : Environment) : env.baseUrl ≠ "" := by
  rw [Environment.baseUrl]
  split
  · decide
  · assumption

/-- An endpoint is proven if it answers. -/
theorem stateOf_shared {env : Environment} {name : String} (hname : name ∈ endpointNames) :
    stateOf env.shared name = .proven ↔ (env.exchange name).isAnswered = true := by
  have hprobe : env.shared.get? name =
      some (requestJson env.baseUrl (env.endpoint name) (env.exchange name)) := by
    rw [Dict.get?_eq_some_iff, Environment.shared, Dict.entries_ofList (by simp [endpointNames])]
    exact List.mem_map.mpr ⟨name, hname, rfl⟩
  rw [stateOf, hprobe]
  exact state_requestJson env.baseUrl_ne

end Runtime

/-! ## When the endpoints return -/

/-- The documents of the process can be reported on, and its circuits listed. -/
def ControlPlane.Reports {W : Type} (r : Renderer) (py : Builtins) (s : ControlPlane W) : Prop :=
  Reportable r py s.resolver.registries ∧ ∃ circuits, s.engine.circuits.snapshot = .ok circuits

/-- The registries pass validation. -/
def Passes (r : Renderer) (py : Builtins) (registries : Registries) : Prop :=
  ∃ report, validate r py registries = .ok report ∧ report.status = "pass"

section Endpoints

variable {W : Type} {r : Renderer} {py : Builtins} {s : ControlPlane W} {now : ℚ} {uuid : String}

theorem isReturned_health : (s.health r py).isReturned = true ↔ s.Reports r py := by
  rw [ControlPlane.Reports, ← validate_isOk_iff, ControlPlane.health]
  cases validate r py s.resolver.registries with
  | error e => exact iff_of_false Bool.false_ne_true (by rintro ⟨⟨_, ⟨⟩⟩, _⟩)
  | ok report =>
      cases s.engine.circuits.snapshot with
      | error e => exact iff_of_false Bool.false_ne_true (by rintro ⟨_, _, ⟨⟩⟩)
      | ok circuits => exact iff_of_true rfl ⟨⟨report, rfl⟩, circuits, rfl⟩

theorem isReturned_ready :
    (s.ready r py).isReturned = true ↔ Passes r py s.resolver.registries := by
  rw [Passes, ControlPlane.ready]
  cases validate r py s.resolver.registries with
  | error e => exact iff_of_false Bool.false_ne_true (by rintro ⟨_, ⟨⟩, _⟩)
  | ok report =>
      dsimp only
      split
      · rename_i hstatus
        refine iff_of_false Bool.false_ne_true ?_
        rintro ⟨_, ⟨⟩, hpass⟩
        exact hstatus hpass
      · rename_i hstatus
        exact iff_of_true rfl ⟨report, rfl, not_not.mp hstatus⟩

/-- The endpoints that report what there is always return. -/
theorem isReturned_answer {request : ProbeRequest}
    (h : request ∈ [.executors, .topology, .events, .dispatches]) :
    (request.answer r py s now uuid).1.isReturned = true := by
  simp only [List.mem_cons, List.not_mem_nil, or_false] at h
  rcases h with rfl | rfl | rfl | rfl
  · rfl
  · obtain ⟨topology, htopology, -⟩ := GlobalResolver.topology_eq_ok py s.resolver now
    refine isReturned_answerOf.mpr ⟨topology, ?_⟩
    rw [htopology]
    rfl
  · rfl
  · have hsnapshots : ∀ id ∈ s.pool.fabric.records.keys.insertionSort (· ≤ ·),
        ∃ snapshot, s.pool.fabric.snapshot id = .ok snapshot := by
      intro id hid
      have hkey := (List.mem_insertionSort _).mp hid
      obtain ⟨record, hrecord⟩ : ∃ record, s.pool.fabric.records.get? id = some record := by
        rw [← Option.ne_none_iff_exists', ne_eq, Dict.get?_eq_none_iff]
        exact not_not.mpr hkey
      exact ⟨_, DispatchFabric.snapshot_of_some hrecord⟩
    obtain ⟨snapshots, hsnapshots⟩ := mapM_isOk hsnapshots
    have htopology : ∃ topology, s.pool.fabric.topology = .ok topology := by
      rw [DispatchFabric.topology, hsnapshots]
      exact ⟨_, rfl⟩
    exact isReturned_answerOf.mpr htopology

/-- What a canary does: it is answered and recorded, or it is not answered and the records stay
as they are. -/
theorem canary_cases (r : Renderer) (py : Builtins) (s : ControlPlane W) (now : ℚ)
    (uuid packetId : String) :
    let outcome := (ProbeRequest.canary packetId).answer r py s now uuid
    outcome.1.isReturned = true ∧
        (∃ record, outcome.2.pool.fabric.records.get? (DispatchFabric.mintedId uuid) = some record ∧
          record.packetId = packetId) ∨
      outcome.1.isReturned = false ∧ outcome.2.pool.fabric.records = s.pool.fabric.records := by
  have hcreated := DispatchFabric.createDispatch_created now py s.pool.fabric uuid
    (ProbeRequest.canaryParams packetId)
  simp only [ProbeRequest.answer, ControlPlane.dispatch]
  generalize s.pool.fabric.createDispatch now py uuid _ = outcome at hcreated
  obtain ⟨created, F⟩ := outcome
  rcases hcreated with ⟨e, rfl, hsilent⟩ | ⟨rfl, resolution, selected, hrecords, -⟩
  · refine .inr ⟨?_, hsilent.1⟩
    cases e <;> rfl
  · have hrecord : F.records.get? (DispatchFabric.mintedId uuid) =
        some (DispatchFabric.newRecord now uuid (ProbeRequest.canaryParams packetId) resolution
          selected) := by
      rw [hrecords, Dict.get?_set_self]
    have hsnapshot : ∃ snapshot, F.snapshot (DispatchFabric.mintedId uuid) = .ok snapshot :=
      ⟨_, DispatchFabric.snapshot_of_some hrecord⟩
    exact .inl ⟨isReturned_answerOf.mpr hsnapshot, _, hrecord, rfl⟩

end Endpoints

/-! ## The record of the canary -/

section Trace

variable {W : Type} {r : Renderer} {py : Builtins} {s t : ControlPlane W} {now : ℚ}
  {label : PlaneLabel W} {id packetId : String}

/-- The packet has been dispatched under an id. -/
def ControlPlane.Holds (s : ControlPlane W) (id packetId : String) : Prop :=
  ∃ record, s.pool.fabric.records.get? id = some record ∧ record.packetId = packetId

/-- A dispatch that is recorded stays recorded, for its packet. -/
theorem ControlPlane.Holds.step (h : s.Holds id packetId)
    (hstep : planeStep r py s (now, label) = some t) : t.Holds id packetId := by
  obtain ⟨record, hrecord, hpacket⟩ := h
  cases evolved_of_step r py hstep id with
  | same hsame => exact ⟨record, hsame.trans hrecord, hpacket⟩
  | acted a _ hrecord' hnext =>
      cases hrecord.symm.trans hrecord'
      have hsame : SamePacket record (a.apply now record) :=
        SamePacket.apply ⟨rfl, rfl, rfl, rfl, rfl, rfl⟩ now a
      exact ⟨_, hnext, hsame.packetId.symm.trans hpacket⟩
  | minted _ _ hnone => cases hnone.symm.trans hrecord
  | canary _ hnone _ _ => cases hnone.symm.trans hrecord

/-- A dispatch that is not recorded, and that a step does not mint, is not recorded by it. -/
theorem get?_eq_none_of_step (h : s.pool.fabric.records.get? id = none)
    (hid : label.mintedId? ≠ some id) (hstep : planeStep r py s (now, label) = some t) :
    t.pool.fabric.records.get? id = none := by
  cases ControlPlane.evolved_of_step r py hstep id with
  | same hsame => exact hsame.trans h
  | acted _ _ hrecord _ => cases h.symm.trans hrecord
  | minted _ hminted _ => exact absurd hminted hid
  | canary hminted _ _ _ => exact absurd hminted hid

/-- A canary is answered if its packet is dispatched, and then it is to the end of the run. -/
theorem canary_holds_iff {final : ControlPlane W} {uuid : String}
    {post : List (ℚ × PlaneLabel W)}
    (hstep : planeStep r py s (now, .probe (.canary packetId) uuid) = some t)
    (hrun : (planeStep r py).run t post = some final)
    (hothers : ∀ label ∈ post, label.2.mintedId? ≠ some (DispatchFabric.mintedId uuid)) :
    ((ProbeRequest.canary packetId).answer r py s now uuid).1.isReturned = true ↔
      final.Holds (DispatchFabric.mintedId uuid) packetId := by
  obtain ⟨hfresh, hnext⟩ := Option.ite_none_right_eq_some.mp hstep
  obtain rfl := Option.some.inj hnext
  rcases canary_cases r py s now uuid packetId with ⟨hreturned, hholds⟩ | ⟨hreturned, hrecords⟩
  · refine iff_of_true hreturned ?_
    have halways := always_of_keeps (M := planeStep r py)
      (Q := fun s ↦ s.Holds (DispatchFabric.mintedId uuid) packetId)
      (fun s label t hs ht ↦ hs.step ht) hholds post
    exact halways.last hrun
  · rw [hreturned]
    refine iff_of_false Bool.false_ne_true ?_
    have hnew : s.pool.fabric.records.get? (DispatchFabric.mintedId uuid) = none :=
      Option.isNone_iff_eq_none.mp hfresh
    have hnone := (congrArg (·.get? (DispatchFabric.mintedId uuid)) hrecords).trans hnew
    have halways := (along_of_forall hothers).always (M := planeStep r py)
      (Q := fun s ↦ s.pool.fabric.records.get? (DispatchFabric.mintedId uuid) = none)
      (fun s label t hs hother ht ↦ get?_eq_none_of_step hs hother ht) hnone
    rintro ⟨record, hrecord, -⟩
    cases (halways.last hrun).symm.trans hrecord

end Trace

/-! ## A harvest of the process -/

/-- When a probe arrived: the process at the time, the reading of its clock, and the identifier
that the probe would mint. -/
structure Moment (W : Type) where
  plane : ControlPlane W
  now : ℚ
  uuid : String

/-- The probes of the endpoints. -/
def endpointProbes : List ProbeRequest :=
  [.health, .ready, .executors, .topology, .events, .dispatches]

namespace Runtime.Environment

/-- The probes that are sent. -/
def probes (env : Environment) : List ProbeRequest :=
  endpointProbes ++ if env.enableCanary then [.canary env.packetId] else []

/-- What a probe came to. -/
def exchangeOf (env : Environment) : ProbeRequest → Exchange
  | .canary _ => env.canaryExchange
  | request => env.exchange request.name

end Runtime.Environment

section Harvest

variable {W : Type}

/-- The answer to a probe. -/
def Moment.answer (r : Renderer) (py : Builtins) (m : Moment W) (request : ProbeRequest) : Answer :=
  (request.answer r py m.plane m.now m.uuid).1

/-- The probes of a harvest arrive at the endpoints in the course of a run, each at a moment of
its own, and what the endpoints return can be written. -/
structure Probed (r : Renderer) (py : Builtins) (transmit : Value → Option Value)
    (start : ControlPlane W) (labels : List (ℚ × PlaneLabel W)) (env : Runtime.Environment)
    (moment : ProbeRequest → Moment W) : Prop where
  endpoint : ∀ request ∈ endpointProbes, env.endpoint request.name = request.route
  arrived : ∀ request ∈ env.probes, ((moment request).plane,
    ((moment request).now, PlaneLabel.probe request (moment request).uuid)) ∈
      (planeStep r py).steps start labels
  exchange : ∀ request ∈ env.probes,
    env.exchangeOf request = ((moment request).answer r py request).exchange transmit
  written : ∀ request ∈ env.probes, ∀ body,
    (moment request).answer r py request = .returned body → (transmit body).isSome = true

variable {r : Renderer} {py : Builtins} {transmit : Value → Option Value}
  {start final : ControlPlane W} {labels : List (ℚ × PlaneLabel W)} {env : Runtime.Environment}
  {moment : ProbeRequest → Moment W} {request : ProbeRequest}

theorem Probed.isAnswered (h : Probed r py transmit start labels env moment)
    (hrequest : request ∈ env.probes) : (env.exchangeOf request).isAnswered =
      ((moment request).answer r py request).isReturned := by
  rw [h.exchange request hrequest, isAnswered_exchange (h.written request hrequest)]

/-- The probe of an endpoint is proven if the endpoint returns. -/
theorem Probed.stateOf (h : Probed r py transmit start labels env moment)
    (request : ProbeRequest) (hrequest : request ∈ endpointProbes) :
    Runtime.stateOf env.shared request.name = .proven ↔
      ((moment request).answer r py request).isReturned = true := by
  have hname : request.name ∈ Runtime.endpointNames := List.mem_map_of_mem hrequest
  have hexchange : env.exchangeOf request = env.exchange request.name := by
    cases request with
    | canary packetId => simp [endpointProbes] at hrequest
    | _ => rfl
  rw [Runtime.stateOf_shared hname, ← hexchange, h.isAnswered (List.mem_append_left _ hrequest)]

/-- The canary is proven if its packet is dispatched, and then it is to the end of the run. -/
theorem Probed.canary_iff (h : Probed r py transmit start labels env moment)
    (hrun : (planeStep r py).run start labels = some final)
    (hids : (labels.filterMap fun label ↦ label.2.mintedId?).Nodup) :
    env.canary.state = .proven ↔ env.enableCanary = true ∧
      final.Holds (DispatchFabric.mintedId (moment (.canary env.packetId)).uuid) env.packetId := by
  rw [Runtime.Environment.canary]
  split
  · rename_i henabled
    have hmem : ProbeRequest.canary env.packetId ∈ env.probes := by
      rw [Runtime.Environment.probes, if_pos henabled]
      exact List.mem_append_right _ (List.mem_singleton_self _)
    have hanswered : env.canaryExchange.isAnswered =
        ((moment (.canary env.packetId)).answer r py (.canary env.packetId)).isReturned :=
      h.isAnswered hmem
    rw [Runtime.state_requestJson env.baseUrl_ne, hanswered, and_iff_right henabled]
    -- the run before the canary, and the one after it
    obtain ⟨pre, post, next, rfl, hpre, hstep⟩ := exists_of_mem_steps (h.arrived _ hmem)
    rw [run_append, hpre, Option.bind_some, run_cons, hstep, Option.bind_some] at hrun
    refine canary_holds_iff hstep hrun fun label hlabel hminted ↦ ?_
    -- the canary has minted the identifier already
    rw [List.filterMap_append, List.nodup_append] at hids
    have hlater : (DispatchFabric.mintedId (moment (.canary env.packetId)).uuid ::
      post.filterMap fun label ↦ label.2.mintedId?).Nodup := hids.2.1
    exact (List.nodup_cons.mp hlater).1 (List.mem_filterMap.mpr ⟨label, hlabel, hminted⟩)
  · rename_i hdisabled
    exact iff_of_false (by rintro ⟨⟩) fun hboth ↦ hdisabled hboth.1

theorem Probed.health_iff (h : Probed r py transmit start labels env moment) :
    Runtime.stateOf env.shared "health" = .proven ↔
      (moment .health).plane.Reports r py :=
  (h.stateOf .health (by simp [endpointProbes])).trans isReturned_health

theorem Probed.ready_iff (h : Probed r py transmit start labels env moment) :
    Runtime.stateOf env.shared "ready" = .proven ↔
      Passes r py (moment .ready).plane.resolver.registries :=
  (h.stateOf .ready (by simp [endpointProbes])).trans isReturned_ready

/-- What the evidence of a harvest comes down to. -/
structure Proves (healthy ready dispatched : Prop) (evidence : Value) : Prop where
  health : Runtime.isProven evidence "health" = true ↔ healthy
  readiness : Runtime.isProven evidence "readiness" = true ↔ ready
  canary : Runtime.isProven evidence "safe_canary" = true ↔ dispatched
  others : ∀ name ∈ ["topology", "events", "dispatches"], Runtime.isProven evidence name = true

/-- The evidence on an office of a harvest of the process. -/
theorem Probed.proves (h : Probed r py transmit start labels env moment)
    (hrun : (planeStep r py).run start labels = some final)
    (hids : (labels.filterMap fun label ↦ label.2.mintedId?).Nodup) {manifest : Value}
    {found : Runtime.Harvest} (hfound : Runtime.harvest env manifest = .ok found)
    {office : Runtime.OfficeEvidence} (hoffice : office ∈ found.offices) :
    Proves ((moment .health).plane.Reports r py)
      (Passes r py (moment .ready).plane.resolver.registries)
      (env.enableCanary = true ∧
        final.Holds (DispatchFabric.mintedId (moment (.canary env.packetId)).uuid) env.packetId)
      (Runtime.evidenceOf office.toValue) := by
  have hevidence := Runtime.evidence_of_mem hfound hoffice
  have hproven {name : String} {state : Runtime.ProbeState}
      (hlookup : (Runtime.evidenceTable env.shared env.canary).lookup name = some state) :
      Runtime.isProven (Runtime.evidenceOf office.toValue) name = true ↔ state = .proven := by
    refine Runtime.isProven_iff.trans ?_
    rw [hevidence, hlookup, Option.some.injEq]
  have hreports (request : ProbeRequest) (hmem : request ∈ endpointProbes)
      (hreports : request ∈ [.executors, .topology, .events, .dispatches]) :
      Runtime.stateOf env.shared request.name = .proven :=
    (h.stateOf request hmem).mpr (isReturned_answer hreports)
  constructor
  · exact (hproven rfl).trans h.health_iff
  · exact (hproven rfl).trans h.ready_iff
  · exact (hproven rfl).trans (h.canary_iff hrun hids)
  · simp only [List.forall_mem_cons]
    refine ⟨(hproven rfl).mpr ?_, (hproven rfl).mpr ?_, (hproven rfl).mpr ?_, List.forall_mem_nil _⟩
    · exact hreports .topology (by simp [endpointProbes]) (by simp)
    · exact hreports .events (by simp [endpointProbes]) (by simp)
    · exact hreports .dispatches (by simp [endpointProbes]) (by simp)

end Harvest

/-! ## The verdicts -/

/-- The verdict on a control, as far as the facts decide it. -/
structure Judged (healthy ready dispatched : Prop) (control : Value)
    (result : Runtime.ControlResult) : Prop where
  operations : Runtime.fieldOf control "id" = .str "OPS-01" →
    (result.status = .pass ↔ healthy ∧ ready) ∧ (result.status = .fail ↔ ¬ healthy ∧ ¬ ready)
  intelligence : Runtime.fieldOf control "id" = .str "AI-01" →
    (result.status = .pass ↔ dispatched) ∧ result.status ≠ .fail
  observed : ∀ id ∈ ["OBS-01", "OBS-02", "PRF-01", "LOOP-01"],
    Runtime.fieldOf control "id" = .str id → result.status = .pass
  unprobed : Runtime.probesOf (Runtime.fieldOf control "id") = [] → result.status = .partly

/-- The control on the operations of the process is critical or high. -/
def IsUrgent (control : Value) : Prop :=
  Runtime.fieldOf control "id" = .str "OPS-01" ∧
    ((Runtime.fieldOf control "severity").isStr "critical" ∨
      (Runtime.fieldOf control "severity").isStr "high")

section Verdicts

variable {healthy ready dispatched : Prop} {evidence control : Value}

theorem forall_mem_pair {p : String → Prop} {name name' : String} :
    (∀ x ∈ [name, name'], p x) ↔ p name ∧ p name' := by
  simp

theorem probesOf_operations : Runtime.probesOf (.str "OPS-01") = ["health", "readiness"] := rfl

/-- Four controls are proven by what always answers. -/
theorem probes_observed : ∀ id ∈ ["OBS-01", "OBS-02", "PRF-01", "LOOP-01"],
    Runtime.probesOf (.str id) ≠ [] ∧
      ∀ name ∈ Runtime.probesOf (.str id), name ∈ ["topology", "events", "dispatches"] := by
  decide

/-- Only one control has no probe that always answers. -/
theorem eq_of_probes_unobserved {controlId : Value} (hprobes : Runtime.probesOf controlId ≠ [])
    (h : ∀ name ∈ Runtime.probesOf controlId, name ∉ ["topology", "events", "dispatches"]) :
    controlId = .str "OPS-01" := by
  have hall : ∀ entry ∈ Runtime.runtimeRequirements,
      (∀ name ∈ entry.2, name ∉ ["topology", "events", "dispatches"]) → entry.1 = "OPS-01" := by
    decide
  cases controlId with
  | str s =>
      rw [Runtime.probesOf] at hprobes h
      cases hlookup : Runtime.runtimeRequirements.lookup s with
      | none =>
          rw [hlookup] at hprobes
          exact absurd rfl hprobes
      | some names =>
          rw [hlookup] at h
          obtain ⟨before, after, hsplit, -⟩ := List.lookup_eq_some_iff.mp hlookup
          exact congrArg Value.str (hall (s, names) (by rw [hsplit]; simp) h)
  | _ => exact absurd rfl hprobes

theorem Proves.judged (h : Proves healthy ready dispatched evidence)
    {result : Runtime.ControlResult} (hgraded : Runtime.Graded evidence control result) :
    Judged healthy ready dispatched control result := by
  have hpass := hgraded.pass_iff
  have hfail := hgraded.fail_iff
  rw [Runtime.IsFulfilled] at hpass
  constructor
  · intro hid
    rw [hid, probesOf_operations, and_iff_right (List.cons_ne_nil _ _), forall_mem_pair]
      at hpass hfail
    rw [← Bool.not_eq_true, ← Bool.not_eq_true] at hfail
    rw [h.health, h.readiness] at hpass hfail
    exact ⟨hpass, hfail⟩
  · intro hid
    have htopology := h.others "topology" (by simp)
    have hprobes : Runtime.probesOf (.str "AI-01") = ["topology", "safe_canary"] := rfl
    rw [hid, hprobes, and_iff_right (List.cons_ne_nil _ _), forall_mem_pair] at hpass hfail
    rw [h.canary, and_iff_right htopology] at hpass
    refine ⟨hpass, fun hstatus ↦ ?_⟩
    cases htopology.symm.trans (hfail.mp hstatus).1
  · intro id hmem hid
    obtain ⟨hprobes, hobserved⟩ := probes_observed id hmem
    rw [hid] at hpass
    exact hpass.mpr ⟨hprobes, fun name hname ↦ h.others name (hobserved name hname)⟩
  · intro hnone
    rw [hnone] at hpass hfail
    cases hstatus : result.status with
    | pass => exact absurd rfl (hpass.mp hstatus).1
    | partly => rfl
    | fail => exact absurd rfl (hfail.mp hstatus).1

/-- The only gap that the facts leave. -/
theorem Proves.isGap_iff (h : Proves healthy ready dispatched evidence) :
    Runtime.IsGap evidence control ↔ ¬ healthy ∧ ¬ ready ∧ IsUrgent control := by
  constructor
  · rintro ⟨hseverity, hne, hunproven⟩
    have hid := eq_of_probes_unobserved hne fun name hname hobserved ↦
      Bool.false_ne_true ((hunproven name hname).symm.trans (h.others name hobserved))
    rw [hid, probesOf_operations, forall_mem_pair, ← Bool.not_eq_true, ← Bool.not_eq_true, h.health,
      h.readiness] at hunproven
    exact ⟨hunproven.1, hunproven.2, hid, hseverity⟩
  · rintro ⟨hhealthy, hready, hid, hseverity⟩
    rw [Runtime.IsGap, hid, probesOf_operations, forall_mem_pair, ← Bool.not_eq_true,
      ← Bool.not_eq_true, h.health, h.readiness]
    exact ⟨hseverity, List.cons_ne_nil _ _, hhealthy, hready⟩

/-- Nothing blocks an office. -/
def IsClear (healthy ready : Prop) (controls : List Value) : Prop :=
  healthy ∨ ready ∨ ∀ control ∈ controls, ¬ IsUrgent control

/-- What the certification says of an office, from the facts. -/
structure Certified (healthy ready dispatched : Prop) (controls : List Value)
    (report : Runtime.OfficeReport) : Prop where
  live : report.runtimeState = .str "LIVE" ↔ healthy ∧ ready
  degraded : report.runtimeState = .str "DEGRADED" ↔ (healthy ∨ ready) ∧ ¬ (healthy ∧ ready)
  offline : report.runtimeState = .str "OFFLINE" ↔ ¬ healthy ∧ ¬ ready
  judged : List.Forall₂ (Judged healthy ready dispatched) controls report.controls
  blocking : Runtime.blockingFailures report.controls = [] ↔ IsClear healthy ready controls
  passPercent : report.passPercent =
    round2 ((Runtime.countOf .pass report.controls : ℚ) / controls.length * 100)
  pass : report.certification = .pass ↔ IsClear healthy ready controls ∧ 95 ≤ report.passPercent
  partly : report.certification = .partly ↔
    ¬ (IsClear healthy ready controls ∧ 95 ≤ report.passPercent) ∧
      30 ≤ report.passPercent ∧ (healthy ∨ ready)
  fail : report.certification = .fail ↔
    ¬ (IsClear healthy ready controls ∧ 95 ≤ report.passPercent) ∧
      ¬ (30 ≤ report.passPercent ∧ (healthy ∨ ready))

/-- The facts determine the verdict on a control. -/
theorem Judged.determined {result result' : Runtime.ControlResult}
    (h : Judged healthy ready dispatched control result)
    (h' : Judged healthy ready dispatched control result') : result.status = result'.status := by
  by_cases hnone : Runtime.probesOf (Runtime.fieldOf control "id") = []
  · rw [h.unprobed hnone, h'.unprobed hnone]
  obtain ⟨id, hid, hmem⟩ : ∃ id, Runtime.fieldOf control "id" = .str id ∧
      id ∈ Runtime.runtimeRequirements.map Prod.fst := by
    cases hfield : Runtime.fieldOf control "id" with
    | str id =>
        refine ⟨id, rfl, ?_⟩
        rw [hfield, Runtime.probesOf] at hnone
        cases hlookup : Runtime.runtimeRequirements.lookup id with
        | none =>
            rw [hlookup] at hnone
            exact absurd rfl hnone
        | some names =>
            obtain ⟨before, after, hsplit, -⟩ := List.lookup_eq_some_iff.mp hlookup
            rw [hsplit]
            simp
    | _ =>
        rw [hfield] at hnone
        exact absurd rfl hnone
  have hids : ∀ id ∈ Runtime.runtimeRequirements.map Prod.fst,
      id = "OPS-01" ∨ id = "AI-01" ∨ id ∈ ["OBS-01", "OBS-02", "PRF-01", "LOOP-01"] := by
    decide
  rw [Verdict.eq_iff]
  rcases hids id hmem with rfl | rfl | hobserved
  · obtain ⟨hpass, hfail⟩ := h.operations hid
    obtain ⟨hpass', hfail'⟩ := h'.operations hid
    exact ⟨hpass.trans hpass'.symm, hfail.trans hfail'.symm⟩
  · obtain ⟨hpass, hfail⟩ := h.intelligence hid
    obtain ⟨hpass', hfail'⟩ := h'.intelligence hid
    exact ⟨hpass.trans hpass'.symm, iff_of_false hfail hfail'⟩
  · rw [h.observed id hobserved hid, h'.observed id hobserved hid]
    exact ⟨.rfl, .rfl⟩

/-- The facts determine the verdicts on an office. -/
theorem Certified.determined {controls : List Value} {report report' : Runtime.OfficeReport}
    (h : Certified healthy ready dispatched controls report)
    (h' : Certified healthy ready dispatched controls report') :
    report.controls.map (·.status) = report'.controls.map (·.status) ∧
      report.passPercent = report'.passPercent ∧ report.certification = report'.certification := by
  have hsame : List.Forall₂ (fun result result' : Runtime.ControlResult ↦
      result.status = result'.status) report.controls report'.controls :=
    forall₂_common (fun _ _ _ hjudged hjudged' ↦ hjudged.determined hjudged') h.judged h'.judged
  have hcount : Runtime.countOf .pass report.controls = Runtime.countOf .pass report'.controls :=
    countP_of_forall₂ (fun _ _ hstatus ↦ by rw [hstatus]) hsame
  have hpercent : report.passPercent = report'.passPercent := by
    rw [h.passPercent, h'.passPercent, hcount]
  refine ⟨?_, hpercent, ?_⟩
  · exact List.forall₂_eq_eq_eq ▸
      (List.forall₂_map_left_iff.mpr (List.forall₂_map_right_iff.mpr hsame))
  · rw [Verdict.eq_iff, h.pass, h'.pass, h.fail, h'.fail, hpercent]
    exact ⟨.rfl, .rfl⟩

/-- The state of a runtime that was reached. -/
inductive IsState (healthy ready : Prop) : Runtime.RuntimeState → Prop
  | live (hhealthy : healthy) (hready : ready) : IsState healthy ready .live
  | degraded (hone : healthy ∨ ready) (hboth : ¬ (healthy ∧ ready)) : IsState healthy ready .degraded
  | offline (hhealthy : ¬ healthy) (hready : ¬ ready) : IsState healthy ready .offline

/-- The names tell the states apart. -/
theorem IsState.name_iff {state : Runtime.RuntimeState} (h : IsState healthy ready state) :
    (state.name = "LIVE" ↔ healthy ∧ ready) ∧
      (state.name = "DEGRADED" ↔ (healthy ∨ ready) ∧ ¬ (healthy ∧ ready)) ∧
      (state.name = "OFFLINE" ↔ ¬ healthy ∧ ¬ ready) := by
  cases h with
  | live hhealthy hready =>
      exact ⟨iff_of_true rfl ⟨hhealthy, hready⟩,
        iff_of_false (by decide) fun hone ↦ hone.2 ⟨hhealthy, hready⟩,
        iff_of_false (by decide) fun hnone ↦ hnone.1 hhealthy⟩
  | degraded hone hboth =>
      exact ⟨iff_of_false (by decide) hboth, iff_of_true rfl ⟨hone, hboth⟩,
        iff_of_false (by decide) fun hnone ↦ hone.elim hnone.1 hnone.2⟩
  | offline hhealthy hready =>
      exact ⟨iff_of_false (by decide) fun hboth ↦ hhealthy hboth.1,
        iff_of_false (by decide) fun hone ↦ hone.1.elim hhealthy hready,
        iff_of_true rfl ⟨hhealthy, hready⟩⟩

/-- The state of a runtime of which some probe is not missing. -/
theorem name_extractRuntimeState {results : Dict String Runtime.Probe}
    (h : ∃ probe ∈ results.values, probe.state ≠ .missing) :
    IsState (Runtime.stateOf results "health" = .proven)
      (Runtime.stateOf results "ready" = .proven) (Runtime.extractRuntimeState results) := by
  have hsome : results.values.all (·.state = .missing) = false := by
    obtain ⟨probe, hprobe, hstate⟩ := h
    rw [List.all_eq_false]
    exact ⟨probe, hprobe, by simpa using hstate⟩
  unfold Runtime.extractRuntimeState
  simp only [hsome, Bool.false_eq_true, if_false]
  split_ifs with hboth hone
  · exact .live hboth.1 hboth.2
  · exact .degraded hone hboth
  · exact .offline (not_or.mp hone).1 (not_or.mp hone).2

/-- All offices share the state of the runtime. -/
theorem runtimeState_of_mem {env : Runtime.Environment} {manifest : Value}
    {found : Runtime.Harvest} (h : Runtime.harvest env manifest = .ok found)
    {office : Runtime.OfficeEvidence} (hoffice : office ∈ found.offices) :
    office.runtimeState = Runtime.extractRuntimeState env.shared := by
  obtain ⟨bundles, -, hoffices⟩ := (Runtime.harvest_of h).offices
  obtain ⟨bundle, -, hbundle⟩ := exists_of_forall₂ hoffices hoffice
  exact (Runtime.fields_of_harvestOffice hbundle).2.1

/-- A ladder of two rungs: what is on the first passes, and what is on neither fails. -/
theorem rungs_iff {verdict : Verdict} {first second : Prop}
    (h : first ∧ verdict = .pass ∨
      ¬ first ∧ (second ∧ verdict = .partly ∨ ¬ second ∧ verdict = .fail)) :
    (verdict = .pass ↔ first) ∧ (verdict = .partly ↔ ¬ first ∧ second) ∧
      (verdict = .fail ↔ ¬ first ∧ ¬ second) := by
  rcases h with ⟨hfirst, rfl⟩ | ⟨hfirst, ⟨hsecond, rfl⟩ | ⟨hsecond, rfl⟩⟩
  · simp [hfirst]
  · simp [hfirst, hsecond]
  · simp [hfirst, hsecond]

/-- Nothing blocks an office if the facts leave no gap. -/
theorem Proves.isClear_iff {controls : List Value} {office : Value} {report : Runtime.OfficeReport}
    (h : Proves healthy ready dispatched (Runtime.evidenceOf office))
    (hreported : Runtime.Reported controls office report) :
    Runtime.blockingFailures report.controls = [] ↔ IsClear healthy ready controls := by
  rw [hreported.blockingFailures_eq_nil_iff, Runtime.HasGap, IsClear]
  simp only [h.isGap_iff]
  push Not
  constructor
  · intro hnone
    by_cases hhealthy : healthy
    · exact .inl hhealthy
    by_cases hready : ready
    · exact .inr (.inl hready)
    · exact .inr (.inr fun control hcontrol ↦ hnone control hcontrol hhealthy hready)
  · rintro (hhealthy | hready | hnone) control hcontrol hhealthy' hready'
    · exact absurd hhealthy hhealthy'
    · exact absurd hready hready'
    · exact hnone control hcontrol

/-- A runtime that was reached is live or degraded. -/
theorem IsState.isReachable_iff {state : Runtime.RuntimeState} (h : IsState healthy ready state) :
    Runtime.IsReachable (.str state.name) ↔ healthy ∨ ready := by
  cases h with
  | live hhealthy hready => exact iff_of_true (.inl rfl) (.inl hhealthy)
  | degraded hone hboth => exact iff_of_true (.inr rfl) hone
  | offline hhealthy hready => exact iff_of_false (by decide) (not_or.mpr ⟨hhealthy, hready⟩)

/-- The verdicts on an office, from its evidence. -/
theorem Proves.certified {controls : List Value} {office : Runtime.OfficeEvidence}
    {report : Runtime.OfficeReport}
    (h : Proves healthy ready dispatched (Runtime.evidenceOf office.toValue))
    (hreported : Runtime.Reported controls office.toValue report)
    (hstate : IsState healthy ready office.runtimeState) :
    Certified healthy ready dispatched controls report := by
  have hname : report.runtimeState = .str office.runtimeState.name := hreported.runtimeState
  have hreachable : Runtime.IsReachable report.runtimeState ↔ healthy ∨ ready := by
    rw [hname, hstate.isReachable_iff]
  have hclear := h.isClear_iff hreported
  have hladder := Runtime.certification_eq_ok hreported.certification
  rw [hclear, hreachable] at hladder
  simp only [← and_assoc] at hladder
  obtain ⟨hpass, hpartly, hfail⟩ := rungs_iff hladder
  obtain ⟨hlive, hdegraded, hoffline⟩ := hstate.name_iff
  rw [← Value.str.injEq, ← hname] at hlive hdegraded hoffline
  refine ⟨hlive, hdegraded, hoffline, hreported.graded.imp fun _ _ hgraded ↦ h.judged hgraded,
    hclear, ?_, hpass, hpartly, hfail⟩
  have hcount : (controls.countP fun control ↦
      Runtime.IsFulfilled (Runtime.evidenceOf office.toValue) control) =
        Runtime.countOf .pass report.controls := by
    refine countP_of_forall₂ (fun control result hgraded ↦ ?_) hreported.graded
    rw [decide_eq_true_iff, decide_eq_true_iff, hgraded.pass_iff]
  rw [hreported.passPercent, Runtime.scoreOf, hcount]

end Verdicts

/-- What the certification says of a process that answers.  Whatever else the process serves and
loads while it is probed, the verdicts on every office are determined by whether the documents
could be reported on and the circuits listed when the health was asked for, whether the documents
passed validation when the readiness was, and whether the packet of the canary is recorded when
the run ends; and no failure blocks an office unless the first two fail. -/
theorem certification_of_control_plane {W : Type} (r : Renderer) (py : Builtins)
    (transmit : Value → Option Value) (start final : ControlPlane W)
    (labels : List (ℚ × PlaneLabel W)) (env : Runtime.Environment)
    (moment : ProbeRequest → Moment W) (document manifest : Value) (found : Runtime.Harvest)
    (report : Runtime.RuntimeReport) (hprobed : Probed r py transmit start labels env moment)
    (hrun : (planeStep r py).run start labels = some final)
    (hids : (labels.filterMap fun label ↦ label.2.mintedId?).Nodup)
    (hfound : Runtime.harvest env manifest = .ok found)
    (hreport : Runtime.certify document found.toValue = .ok report) :
    ∀ office ∈ report.offices, ∃ controls, document.getItem "controls" = .ok (.list controls) ∧
      Certified ((moment .health).plane.Reports r py)
        (Passes r py (moment .ready).plane.resolver.registries)
        (env.enableCanary = true ∧
          final.Holds (DispatchFabric.mintedId (moment (.canary env.packetId)).uuid) env.packetId)
        controls office := by
  intro office hoffice
  obtain ⟨controls, offices, hcontrols, hiter, hresults⟩ := Runtime.certify_eq_ok hreport
  obtain rfl := Except.ok.inj ((Runtime.Harvest.iter_offices found).symm.trans hiter)
  rw [List.forall₂_map_left_iff] at hresults
  obtain ⟨observed, hobserved, hresult⟩ := exists_of_forall₂ hresults hoffice
  obtain ⟨items, rfl⟩ := Runtime.exists_eq_list hresult
  have hreported := Runtime.reported_of_eq_ok hresult
  have hproves := hprobed.proves hrun hids hfound hobserved
  -- the executors are one of the probes that are always proven
  have hexecutors : ∃ probe ∈ env.shared.values, probe.state ≠ .missing := by
    have hproven := (hprobed.stateOf .executors (by simp [endpointProbes])).mpr rfl
    obtain ⟨probe, hprobe, hstate⟩ := Runtime.stateOf_eq_proven_iff.mp hproven
    refine ⟨probe, List.mem_map.mpr ⟨_, Dict.get?_eq_some_iff.mp hprobe, rfl⟩, ?_⟩
    rw [hstate]
    rintro ⟨⟩
  have hstate := name_extractRuntimeState hexecutors
  rw [hprobed.health_iff, hprobed.ready_iff, ← runtimeState_of_mem hfound hobserved] at hstate
  exact ⟨items, hcontrols, hproves.certified hreported hstate⟩

/-! ## A small process -/

/-- Its node reports, and then the probes arrive one after the other. -/
def visits : List (ℚ × PlaneLabel Unit) :=
  [(0, .server (.call ⟨(), "", .heartbeat "ga://node/eden" "online" none⟩)),
    (1, .probe .health ""), (2, .probe .ready ""), (3, .probe .executors ""),
    (4, .probe .topology ""), (5, .probe .events ""), (6, .probe .dispatches ""),
    (7, .probe (.canary "conformance-canary") "c")]

/-- The process before a label. -/
def visited (k : ℕ) : ControlPlane Unit :=
  ((planeStep default default).run inferPlane (visits.take k)).getD inferPlane

/-- When the probes arrive. -/
def visitMoment : ProbeRequest → Moment Unit
  | .health => ⟨visited 1, 1, ""⟩
  | .ready => ⟨visited 2, 2, ""⟩
  | .executors => ⟨visited 3, 3, ""⟩
  | .topology => ⟨visited 4, 4, ""⟩
  | .events => ⟨visited 5, 5, ""⟩
  | .dispatches => ⟨visited 6, 6, ""⟩
  | .canary _ => ⟨visited 7, 7, "c"⟩

/-- What a probe comes to, over a wire that changes nothing. -/
def visitExchange (request : ProbeRequest) : Runtime.Exchange :=
  ((visitMoment request).answer default default request).exchange some

/-- The harvest. -/
def visitEnvironment : Runtime.Environment where
  enableCanary := true
  endpoint name := ((endpointProbes.find? (·.name = name)).map ProbeRequest.route).getD ""
  exchange name := ((endpointProbes.find? (·.name = name)).map visitExchange).getD (.raised "" "")
  canaryExchange := visitExchange (.canary "conformance-canary")
  packetId := "conformance-canary"
  generatedAt := "2024-01-01T00:00:00+00:00"

theorem run_visited {k : ℕ} (h : k ≤ 8) :
    (planeStep default default).run inferPlane (visits.take k) = some (visited k) := by
  have hall : ∀ k < 9,
      ((planeStep default default).run inferPlane (visits.take k)).isSome = true := by
    decide +kernel
  rw [visited]
  obtain ⟨t, ht⟩ := Option.isSome_iff_exists.mp (hall k (by omega))
  rw [ht]
  rfl

theorem probed_visits :
    Probed default default some inferPlane visits visitEnvironment visitMoment where
  endpoint := by
    simp only [endpointProbes, List.forall_mem_cons]
    exact ⟨rfl, rfl, rfl, rfl, rfl, rfl, List.forall_mem_nil _⟩
  arrived := by
    have hrun := run_visited (le_refl 8)
    have hstep (k : ℕ) (hk : k ≤ 8) {i : ℚ × PlaneLabel Unit} {post : List (ℚ × PlaneLabel Unit)}
        (hsplit : visits = visits.take k ++ i :: post) :
        (visited k, i) ∈ (planeStep default default).steps inferPlane visits := by
      rw [show visits.take 8 = visits from rfl, hsplit] at hrun
      rw [hsplit]
      exact mem_steps_of_run hrun (run_visited hk)
    simp only [Runtime.Environment.probes, endpointProbes]
    simp only [visitEnvironment, if_true, List.cons_append, List.nil_append, List.forall_mem_cons]
    exact ⟨hstep 1 (by omega) rfl, hstep 2 (by omega) rfl, hstep 3 (by omega) rfl,
      hstep 4 (by omega) rfl, hstep 5 (by omega) rfl, hstep 6 (by omega) rfl,
      hstep 7 (by omega) rfl, List.forall_mem_nil _⟩
  exchange := by
    simp only [Runtime.Environment.probes, endpointProbes]
    simp only [visitEnvironment, if_true, List.cons_append, List.nil_append, List.forall_mem_cons]
    exact ⟨rfl, rfl, rfl, rfl, rfl, rfl, rfl, List.forall_mem_nil _⟩
  written := fun _ _ _ _ ↦ rfl

/-- The certification of the process. -/
theorem visited_process_is_certified : ∃ found report,
    Runtime.harvest visitEnvironment Runtime.equalBundles = .ok found ∧
      Runtime.certify (.object [("controls", .list Runtime.twoControls)]) found.toValue =
        .ok report ∧
      ∀ office ∈ report.offices, ∃ controls,
        Certified ((visited 1).Reports default default)
          (Passes default default (visited 2).resolver.registries)
          (true = true ∧ (visited 8).Holds "dispatch-c" "conformance-canary") controls office := by
  have hview : (Runtime.harvest visitEnvironment Runtime.equalBundles).toOption.map
      (fun found ↦ (Runtime.certify (.object [("controls", .list Runtime.twoControls)])
        found.toValue).toOption.isSome) = some true := by
    decide +kernel
  obtain ⟨found, hfound, hview⟩ := Option.map_eq_some_iff.mp hview
  obtain ⟨report, hreport⟩ := isSome_toOption.mp hview
  have hfound := eq_ok_of_toOption hfound
  refine ⟨found, report, hfound, hreport, fun office hoffice ↦ ?_⟩
  obtain ⟨controls, -, hcertified⟩ := certification_of_control_plane default default some inferPlane
    (visited 8) visits visitEnvironment visitMoment _ _ found report probed_visits
    (run_visited (le_refl 8)) (List.nodup_singleton _) hfound hreport office hoffice
  exact ⟨controls, hcertified⟩

end EstateMesh
