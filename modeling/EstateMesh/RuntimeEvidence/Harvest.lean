import EstateMesh.RuntimeEvidence.Certify
import EstateMesh.Lib.Dict

/-!
# The evidence harvest

The harvest sends one request to each endpoint of the runtime, and with the outcomes it
writes the evidence of every office: all offices share it.  The certification reads this
report.

Going from the requests to the verdicts, every step is monotone: another probe that is
proven never lowers the state of the runtime, the grade of a control or a percentage, and
never adds a blocking failure.  So neither does it lower a verdict, although the ladder of
the certification has rungs that do not look at everything (`certification_is_monotone`).
-/

namespace EstateMesh.Runtime

open Lib

/-! ## Requests -/

/-- The states of a probe. -/
inductive ProbeState
  | proven | missing | error
deriving DecidableEq, Repr

/-- The state as it is spelt in a report. -/
def ProbeState.name : ProbeState → String
  | proven => "PROVEN"
  | missing => "MISSING"
  | error => "ERROR"

/-- What a request to the runtime comes to; bodies are as the JSON decoder leaves them. -/
inductive Exchange
  | answered (statusCode : ℤ) (body : Value)
  | /-- `HTTPError`. -/ refused (statusCode : ℤ) (body : Value)
  | /-- Another exception. -/ raised (className detail : String)

/-- A probe: its state, and what was received. -/
structure Probe where
  state : ProbeState
  evidence : Value

/-- The probe as a value. -/
def Probe.toValue (probe : Probe) : Value :=
  .object [("state", .str probe.state.name), ("evidence", probe.evidence)]

/-- `request_json`. -/
def requestJson (baseUrl path : String) (exchange : Exchange) : Probe :=
  if baseUrl = "" then
    ⟨.missing, .object [("reason", .str "Hypernet runtime URL not configured")]⟩
  else
    let url := rstripSlash baseUrl ++ path
    match exchange with
    | .answered statusCode body => ⟨.proven, .object
        [("status_code", .int statusCode), ("body", body), ("url", .str url)]⟩
    | .refused statusCode body => ⟨.error, .object
        [("status_code", .int statusCode), ("body", body), ("url", .str url)]⟩
    | .raised className detail => ⟨.error, .object
        [("error", .str className), ("detail", .str detail), ("url", .str url)]⟩

/-! ## The state of the runtime -/

/-- The states of the runtime that the harvest tells apart. -/
inductive RuntimeState
  | live | degraded | unknown | offline
deriving DecidableEq, Repr

/-- The state as it is spelt in a report. -/
def RuntimeState.name : RuntimeState → String
  | live => "LIVE"
  | degraded => "DEGRADED"
  | unknown => "UNKNOWN"
  | offline => "OFFLINE"

/-- The state of a probe among some probes; one that is not there is missing. -/
def stateOf (results : Dict String Probe) (name : String) : ProbeState :=
  ((results.get? name).map Probe.state).getD .missing

/-- `extract_runtime_state`. -/
def extractRuntimeState (results : Dict String Probe) : RuntimeState :=
  if stateOf results "health" = .proven ∧ stateOf results "ready" = .proven then .live
  else if stateOf results "health" = .proven ∨ stateOf results "ready" = .proven then .degraded
  else if results.values.all (·.state = .missing) then .unknown
  else .offline

/-! ## The harvest -/

/-- What a harvest draws from its profile and its environment. -/
structure Environment where
  /-- `GA_HYPERNET_URL`, without surrounding blanks. -/
  configuredUrl : String := ""
  /-- Whether `GA_ENABLE_SAFE_CANARY` is set. -/
  enableCanary : Bool := false
  /-- The path of an endpoint in the profile. -/
  endpoint : String → String
  /-- What the request to an endpoint comes to. -/
  exchange : String → Exchange
  /-- What the request of the canary comes to. -/
  canaryExchange : Exchange
  /-- The id of the packet of the canary. -/
  packetId : String
  /-- The present time. -/
  generatedAt : String

/-- `DEFAULT_HYPERNET_URL`. -/
def defaultHypernetUrl : String := "https://ghost-atlas-runtime-gateway.onrender.com"

/-- The URL of the runtime. -/
def Environment.baseUrl (env : Environment) : String :=
  if env.configuredUrl = "" then defaultHypernetUrl else env.configuredUrl

/-- The endpoints that are probed, in this order. -/
def endpointNames : List String :=
  ["health", "ready", "executors", "topology", "events", "dispatches"]

/-- The probes of the endpoints. -/
def Environment.shared (env : Environment) : Dict String Probe :=
  Dict.ofList <| endpointNames.map fun name ↦
    (name, requestJson env.baseUrl (env.endpoint name) (env.exchange name))

/-- The probe of the dispatch boundary. -/
def Environment.canary (env : Environment) : Probe :=
  if env.enableCanary then requestJson env.baseUrl "/v1/dispatch" env.canaryExchange
  else ⟨.missing, .none⟩

/-- The id of the packet of the canary, if it is sent. -/
def Environment.canaryPacketId (env : Environment) : Option String :=
  if env.enableCanary then some env.packetId else none

/-- The evidence of every office. -/
def evidenceTable (shared : Dict String Probe) (canary : Probe) : List (String × ProbeState) :=
  [("registration", .proven), ("health", stateOf shared "health"),
    ("readiness", stateOf shared "ready"), ("executors", stateOf shared "executors"),
    ("topology", stateOf shared "topology"), ("events", stateOf shared "events"),
    ("dispatches", stateOf shared "dispatches"), ("safe_canary", canary.state)]

/-- The evidence on an office. -/
structure OfficeEvidence where
  officeId : Value
  chatbotId : Value
  roleId : Value
  runtimeState : RuntimeState
  evidence : List (String × ProbeState)

namespace OfficeEvidence

/-- The names of the evidence that is not there. -/
def missing (office : OfficeEvidence) : List String :=
  (office.evidence.filter fun entry ↦ entry.2 ≠ .proven).map Prod.fst

/-- `evidence_status`. -/
def status (office : OfficeEvidence) : Verdict :=
  if office.missing.isEmpty then .pass
  else if office.missing.length < office.evidence.length then .partly
  else .fail

/-- The evidence as a value. -/
def toValue (office : OfficeEvidence) : Value :=
  .object
    [("office_id", office.officeId), ("chatbot_id", office.chatbotId),
      ("role_id", office.roleId), ("runtime_state", .str office.runtimeState.name),
      ("evidence_status", .str office.status.name),
      ("evidence", .object (office.evidence.map fun entry ↦ (entry.1, .str entry.2.name))),
      ("missing", .list (office.missing.map .str))]

/-- What there is to repair. -/
def repairTarget (office : OfficeEvidence) : Value :=
  .object
    [("office_id", office.officeId), ("packet_kind", .str "RUNTIME_EVIDENCE_REPAIR"),
      ("missing_evidence", .list (office.missing.map .str)), ("destructive", .bool false),
      ("requires_human", .bool false)]

end OfficeEvidence

/-- What a harvest finds. -/
structure Harvest where
  generatedAt : String
  runtimeUrl : String
  runtimeState : RuntimeState
  shared : Dict String Probe
  canary : Probe
  canaryPacketId : Option String
  offices : List OfficeEvidence

namespace Harvest

/-- How many offices have an evidence status. -/
def countOf (harvest : Harvest) (state : Verdict) : ℕ :=
  harvest.offices.countP (·.status = state)

/-- The evidence of the canary as a value. -/
def canaryValue (harvest : Harvest) : Value :=
  match harvest.canaryPacketId with
  | none => .object [("state", .str "MISSING"), ("reason", .str "safe canary disabled")]
  | some packetId => .object [("state", .str harvest.canary.state.name),
      ("evidence", harvest.canary.evidence), ("packet_id", .str packetId)]

/-- The report as a value. -/
def toValue (harvest : Harvest) : Value :=
  let count (state : Verdict) : Value := .int (harvest.countOf state)
  .object
    [("resolution_id", .str "GA-HYPERNET-RUNTIME-CERTIFICATION-CAMPAIGN-012-016"),
      ("generated_at", .str harvest.generatedAt), ("runtime_url", .str harvest.runtimeUrl),
      ("office_count", .int harvest.offices.length),
      ("runtime_state", .str harvest.runtimeState.name),
      ("summary", .object [("PASS", count .pass), ("PARTIAL", count .partly),
        ("FAIL", count .fail)]),
      ("shared_runtime_evidence",
        .object (harvest.shared.entries.map fun entry ↦ (entry.1, entry.2.toValue))),
      ("safe_canary", harvest.canaryValue),
      ("truth_rule", .str "unavailable_or_incompatible_runtime_evidence_is_not_pass"),
      ("offices", .list (harvest.offices.map OfficeEvidence.toValue))]

/-- The repair targets. -/
def repairTargets (harvest : Harvest) : List Value :=
  (harvest.offices.filter fun office ↦ !office.missing.isEmpty).map OfficeEvidence.repairTarget

/-- The names of the probes that are proven. -/
def provenProbes (harvest : Harvest) : List String :=
  ((harvest.shared.entries ++ [("safe_canary", harvest.canary)]).filter fun entry ↦
    entry.2.state = .proven).map Prod.fst

end Harvest

/-- The evidence on the office of a bundle. -/
def harvestOffice (runtimeState : RuntimeState) (evidence : List (String × ProbeState))
    (bundle : Value) : Except PyError OfficeEvidence := do
  let officeId ← eitherField bundle "office" "office_id"
  let chatbotId ← eitherField bundle "chatbot" "chatbot_id"
  let roleId ← eitherField bundle "role" "role_id"
  return ⟨officeId, chatbotId, roleId, runtimeState, evidence⟩

/-- Harvest the evidence on the offices of a manifest. -/
def harvest (env : Environment) (manifest : Value) : Except CertifyFault Harvest := do
  let bundles ← orRaise (normalizeBundles manifest)
  if bundles.length ≠ 82 then
    throw (.systemExit ("RUNTIME_EVIDENCE_INPUT_FAIL expected 82 offices, found " ++
      toString bundles.length))
  let runtimeState := extractRuntimeState env.shared
  let offices ← orRaise
    (bundles.mapM (harvestOffice runtimeState (evidenceTable env.shared env.canary)))
  return ⟨env.generatedAt, env.baseUrl, runtimeState, env.shared, env.canary,
    env.canaryPacketId, offices⟩

/-! ## Rounding -/

theorem floor_le_roundHalfEven (q : ℚ) : ⌊q⌋ ≤ roundHalfEven q := by
  unfold roundHalfEven
  dsimp only
  split_ifs <;> omega

theorem roundHalfEven_le_floor_add_one (q : ℚ) : roundHalfEven q ≤ ⌊q⌋ + 1 := by
  unfold roundHalfEven
  dsimp only
  split_ifs <;> omega

theorem roundHalfEven_mono {p q : ℚ} (h : p ≤ q) : roundHalfEven p ≤ roundHalfEven q := by
  rcases (Int.floor_le_floor h).lt_or_eq with hlt | heq
  · calc roundHalfEven p ≤ ⌊p⌋ + 1 := roundHalfEven_le_floor_add_one p
      _ ≤ ⌊q⌋ := hlt
      _ ≤ roundHalfEven q := floor_le_roundHalfEven q
  · unfold roundHalfEven
    rw [heq]
    dsimp only
    split_ifs <;> first | omega | linarith

theorem round2_mono {p q : ℚ} (h : p ≤ q) : round2 p ≤ round2 q := by
  unfold round2
  have hmono := roundHalfEven_mono (mul_le_mul_of_nonneg_right h (by norm_num : (0 : ℚ) ≤ 100))
  gcongr

/-! ## More evidence -/

/-- The order of the verdicts. -/
def rank : Verdict → ℕ
  | .fail => 0
  | .partly => 1
  | .pass => 2

/-- What one evidence proves, the other proves too. -/
def ProvesMore (evidence evidence' : Value) : Prop :=
  ∀ name, isProven evidence name = true → isProven evidence' name = true

section Monotone

variable {evidence evidence' control : Value}

theorem IsFulfilled.mono (h : IsFulfilled evidence control) (hmore : ProvesMore evidence evidence') :
    IsFulfilled evidence' control :=
  ⟨h.1, fun name hname ↦ hmore name (h.2 name hname)⟩

theorem unproven_anti {name : String} (hmore : ProvesMore evidence evidence')
    (h : isProven evidence' name = false) : isProven evidence name = false := by
  by_contra hproven
  rw [hmore name (by simpa using hproven)] at h
  cases h

theorem IsGap.anti (h : IsGap evidence' control) (hmore : ProvesMore evidence evidence') :
    IsGap evidence control :=
  ⟨h.1, h.2.1, fun name hname ↦ unproven_anti hmore (h.2.2 name hname)⟩

theorem Graded.rank_mono {result result' : ControlResult} (h : Graded evidence control result)
    (h' : Graded evidence' control result') (hmore : ProvesMore evidence evidence') :
    rank result.status ≤ rank result'.status := by
  have hpass : result.status = .pass → result'.status = .pass := fun hstatus ↦
    h'.pass_iff.mpr ((h.pass_iff.mp hstatus).mono hmore)
  have hfail : result'.status = .fail → result.status = .fail := by
    intro hstatus
    obtain ⟨hprobes, hunproven⟩ := h'.fail_iff.mp hstatus
    exact h.fail_iff.mpr ⟨hprobes, fun name hname ↦ unproven_anti hmore (hunproven name hname)⟩
  cases hstatus : result.status with
  | fail => exact Nat.zero_le _
  | pass => rw [hpass hstatus]
  | partly =>
      cases hstatus' : result'.status with
      | fail => cases hstatus.symm.trans (hfail hstatus')
      | partly => exact le_refl _
      | pass => exact Nat.le_succ 1

end Monotone

/-! ## One office -/

/-- The first of two verdicts on an office is not above the second. -/
structure AtMost (report report' : OfficeReport) : Prop where
  officeId : report.officeId = report'.officeId
  controls : List.Forall₂ (fun result result' ↦ result.controlId = result'.controlId ∧
    rank result.status ≤ rank result'.status) report.controls report'.controls
  blocking : blockingFailures report'.controls ⊆ blockingFailures report.controls
  passPercent : report.passPercent ≤ report'.passPercent
  certification : rank report.certification ≤ rank report'.certification

/-- The evidence on an office, and what it says of the runtime, may only have grown. -/
structure Grown (office office' : Value) : Prop where
  officeId : fieldOf office "office_id" = fieldOf office' "office_id"
  evidence : ProvesMore (evidenceOf office) (evidenceOf office')
  reachable : IsReachable (fieldOf office "runtime_state") →
    IsReachable (fieldOf office' "runtime_state")

section Office

variable {controls : List Value} {office office' : Value} {report report' : OfficeReport}

theorem scoreOf_mono (hmore : ProvesMore (evidenceOf office) (evidenceOf office')) :
    scoreOf controls office ≤ scoreOf controls office' := by
  unfold scoreOf
  refine round2_mono ?_
  have hcount : (controls.countP fun control ↦ IsFulfilled (evidenceOf office) control) ≤
      controls.countP fun control ↦ IsFulfilled (evidenceOf office') control := by
    refine List.countP_mono_left fun control _ h ↦ ?_
    exact decide_eq_true ((of_decide_eq_true h).mono hmore)
  gcongr

theorem blockingFailures_anti (h : Reported controls office report)
    (h' : Reported controls office' report')
    (hmore : ProvesMore (evidenceOf office) (evidenceOf office')) :
    blockingFailures report'.controls ⊆ blockingFailures report.controls := by
  have hpairs : List.Forall₂ (fun result result' ↦ result'.controlId = result.controlId ∧
      (result'.blocking = true → result.blocking = true)) report.controls report'.controls := by
    refine forall₂_common (fun control result result' hgraded hgraded' ↦ ?_) h.graded h'.graded
    refine ⟨hgraded'.controlId.trans hgraded.controlId.symm, fun hblocking ↦ ?_⟩
    exact hgraded.blocking_iff.mpr ((hgraded'.blocking_iff.mp hblocking).anti hmore)
  unfold blockingFailures
  generalize report.controls = results, report'.controls = results' at hpairs
  clear h h'
  induction hpairs with
  | nil => exact List.Subset.refl _
  | @cons result result' results results' hpair _ ih =>
      obtain ⟨hid, hblocking⟩ := hpair
      cases hresult' : result'.blocking with
      | false =>
          rw [List.filter_cons_of_neg (by rw [hresult']; exact Bool.false_ne_true)]
          cases hresult : result.blocking with
          | false => rwa [List.filter_cons_of_neg (by rw [hresult]; exact Bool.false_ne_true)]
          | true =>
              rw [List.filter_cons_of_pos hresult]
              exact List.Subset.trans ih (List.subset_cons_self _ _)
      | true =>
          rw [List.filter_cons_of_pos hresult', List.filter_cons_of_pos (hblocking hresult'),
            List.map_cons, List.map_cons, hid]
          exact List.cons_subset_cons _ ih

/-- More evidence on an office never lowers the verdict on it. -/
theorem atMost_of_grown (h : Reported controls office report)
    (h' : Reported controls office' report') (hgrown : Grown office office') :
    AtMost report report' := by
  have hscore : report.passPercent ≤ report'.passPercent := by
    rw [h.passPercent, h'.passPercent]
    exact scoreOf_mono hgrown.evidence
  have hblocking := blockingFailures_anti h h' hgrown.evidence
  have hreachable : IsReachable report.runtimeState → IsReachable report'.runtimeState := by
    rw [h.runtimeState, h'.runtimeState]
    exact hgrown.reachable
  refine ⟨?_, ?_, hblocking, hscore, ?_⟩
  · rw [h.officeId, h'.officeId, hgrown.officeId]
  · refine forall₂_common (fun control result result' hgraded hgraded' ↦ ?_) h.graded h'.graded
    exact ⟨hgraded.controlId.trans hgraded'.controlId.symm,
      hgraded.rank_mono hgraded' hgrown.evidence⟩
  · rcases certification_eq_ok h.certification with
      ⟨hnone, hhigh, -⟩ | ⟨-, ⟨hlow, hreach, hpartly⟩ | ⟨-, hfail⟩⟩
    · -- a passed office still has no blocking failure
      have hnone' : blockingFailures report'.controls = [] :=
        List.eq_nil_of_subset_nil (hnone ▸ hblocking)
      rcases certification_eq_ok h'.certification with ⟨-, -, hpass⟩ | ⟨hnot, -⟩
      · rw [hpass]
        cases report.certification <;> decide
      · exact absurd ⟨hnone', hhigh.trans hscore⟩ hnot
    · rw [hpartly]
      rcases certification_eq_ok h'.certification with
        ⟨-, -, hpass⟩ | ⟨-, ⟨-, -, hpartly'⟩ | ⟨hnot, -⟩⟩
      · rw [hpass]
        exact Nat.le_succ 1
      · rw [hpartly']
      · exact absurd ⟨hlow.trans hscore, hreachable hreach⟩ hnot
    · rw [hfail]
      exact Nat.zero_le _

end Office

/-! ## From the probes to the offices -/

theorem get?_object (entries : List (String × Value)) (name : String) :
    PyDict.get? name (entries.map fun e ↦ (Value.str e.1, e.2)) = entries.lookup name := by
  induction entries with
  | nil => rfl
  | cons entry entries ih =>
      obtain ⟨key, value⟩ := entry
      rw [List.map_cons, PyDict.get?, List.lookup_cons, ih]
      by_cases e : name = key
      · simp [Value.isStr, e]
      · have hne : (name == key) = false := beq_false_of_ne e
        simp [Value.isStr, Ne.symm e, hne]

theorem name_proves_iff {state : ProbeState} :
    ((Value.str state.name).isStr "PROVEN" || (Value.str state.name).isStr "OBSERVED") = true ↔
      state = .proven := by
  cases state <;> decide

/-- What the evidence of an office proves. -/
theorem isProven_iff {table : List (String × ProbeState)} {name : String} :
    isProven (.object (table.map fun entry ↦ (entry.1, .str entry.2.name))) name = true ↔
      table.lookup name = some .proven := by
  show ((PyDict.get? name _).getD .none).isStr "PROVEN" ||
    ((PyDict.get? name _).getD .none).isStr "OBSERVED" ↔ _
  rw [get?_object]
  induction table with
  | nil => exact iff_of_false Bool.false_ne_true (by rintro ⟨⟩)
  | cons entry table ih =>
      rw [List.map_cons, List.lookup_cons, List.lookup_cons]
      split
      · rw [Option.getD_some, name_proves_iff]
        exact Option.some_inj.symm
      · exact ih

theorem isReachable_iff {results : Dict String Probe} :
    IsReachable (.str (extractRuntimeState results).name) ↔
      stateOf results "health" = .proven ∨ stateOf results "ready" = .proven := by
  unfold extractRuntimeState
  split_ifs with hboth hone
  · exact iff_of_true (.inl rfl) (.inl hboth.1)
  · exact iff_of_true (.inr rfl) hone
  · exact iff_of_false (by decide) hone
  · exact iff_of_false (by decide) hone

/-- More is proven. -/
def ProvenIn (shared shared' : Dict String Probe) : Prop :=
  ∀ name, stateOf shared name = .proven → stateOf shared' name = .proven

theorem lookup_mono {table table' : List (String × ProbeState)}
    (h : List.Forall₂ (fun entry entry' ↦ entry.1 = entry'.1 ∧
      (entry.2 = .proven → entry'.2 = .proven)) table table') {name : String}
    (hproven : table.lookup name = some .proven) : table'.lookup name = some .proven := by
  induction h with
  | nil => cases hproven
  | @cons entry entry' table table' hentry _ ih =>
      obtain ⟨key, state⟩ := entry
      obtain ⟨key', state'⟩ := entry'
      obtain ⟨rfl, hstate⟩ := hentry
      rw [List.lookup_cons] at hproven ⊢
      cases hkey : name == key with
      | true =>
          rw [hkey] at hproven
          exact congrArg some (hstate (Option.some.inj hproven))
      | false =>
          rw [hkey] at hproven
          exact ih hproven

theorem evidenceTable_mono {shared shared' : Dict String Probe} {canary canary' : Probe}
    (hshared : ProvenIn shared shared')
    (hcanary : canary.state = .proven → canary'.state = .proven) :
    List.Forall₂ (fun entry entry' ↦ entry.1 = entry'.1 ∧
      (entry.2 = .proven → entry'.2 = .proven))
      (evidenceTable shared canary) (evidenceTable shared' canary') :=
  .cons ⟨rfl, id⟩ <| .cons ⟨rfl, hshared _⟩ <| .cons ⟨rfl, hshared _⟩ <|
    .cons ⟨rfl, hshared _⟩ <| .cons ⟨rfl, hshared _⟩ <| .cons ⟨rfl, hshared _⟩ <|
      .cons ⟨rfl, hshared _⟩ <| .cons ⟨rfl, hcanary⟩ .nil

/-- What a harvest found, in terms of its environment. -/
structure Harvest.Of (env : Environment) (manifest : Value) (found : Harvest) : Prop where
  shared : found.shared = env.shared
  canary : found.canary = env.canary
  offices : ∃ bundles, normalizeBundles manifest = .ok bundles ∧
    List.Forall₂ (fun bundle office ↦ harvestOffice (extractRuntimeState env.shared)
      (evidenceTable env.shared env.canary) bundle = .ok office) bundles found.offices

theorem harvest_of {env : Environment} {manifest : Value} {found : Harvest}
    (h : harvest env manifest = .ok found) : found.Of env manifest := by
  obtain ⟨bundles, hbundles, h⟩ := bind_eq_ok_iff.mp h
  split at h
  · cases h
  · obtain ⟨offices, hoffices, h⟩ := bind_eq_ok_iff.mp h
    cases h
    exact ⟨rfl, rfl, bundles, eq_ok_of_mapError hbundles,
      forall₂_of_mapM_eq_ok (eq_ok_of_mapError hoffices)⟩

theorem stateOf_eq_proven_iff {results : Dict String Probe} {name : String} :
    stateOf results name = .proven ↔
      ∃ probe, results.get? name = some probe ∧ probe.state = .proven := by
  unfold stateOf
  cases results.get? name with
  | none => exact iff_of_false (by rintro ⟨⟩) (by rintro ⟨_, ⟨⟩, _⟩)
  | some probe =>
      constructor
      · exact fun h ↦ ⟨probe, rfl, h⟩
      · rintro ⟨_, ⟨⟩, h⟩
        exact h

/-- Only endpoints are among the shared probes. -/
theorem mem_endpointNames {env : Environment} {name : String}
    (h : stateOf env.shared name = .proven) : name ∈ endpointNames := by
  obtain ⟨probe, hprobe, -⟩ := stateOf_eq_proven_iff.mp h
  obtain ⟨name', hname', e⟩ := List.mem_map.mp (Dict.mem_of_get?_ofList hprobe)
  obtain ⟨rfl, -⟩ := Prod.mk.inj e
  exact hname'

/-- The proven probes are the proven ones of the endpoints and the proven canary. -/
theorem mem_provenProbes_iff {found : Harvest} {name : String} :
    name ∈ found.provenProbes ↔ stateOf found.shared name = .proven ∨
      name = "safe_canary" ∧ found.canary.state = .proven := by
  rw [stateOf_eq_proven_iff]
  simp only [Harvest.provenProbes, List.mem_map, List.mem_filter, List.mem_append,
    List.mem_singleton, decide_eq_true_iff, Dict.get?_eq_some_iff]
  constructor
  · rintro ⟨⟨name', probe⟩, ⟨hmem | ⟨⟨⟩⟩, hproven⟩, rfl⟩
    · exact .inl ⟨probe, hmem, hproven⟩
    · exact .inr ⟨rfl, hproven⟩
  · rintro (⟨probe, hmem, hproven⟩ | ⟨rfl, hproven⟩)
    · exact ⟨(name, probe), ⟨.inl hmem, hproven⟩, rfl⟩
    · exact ⟨("safe_canary", found.canary), ⟨.inr rfl, hproven⟩, rfl⟩

section Twice

variable {env env' : Environment} {manifest : Value} {first second : Harvest}

theorem provenIn_of_subset (hfirst : first.Of env manifest)
    (hmore : first.provenProbes ⊆ second.provenProbes) :
    ProvenIn env.shared second.shared := by
  intro name hproven
  have hname := mem_endpointNames hproven
  rw [← hfirst.shared] at hproven
  rcases mem_provenProbes_iff.mp (hmore (mem_provenProbes_iff.mpr (.inl hproven))) with
    hproven' | ⟨rfl, -⟩
  · exact hproven'
  · exact absurd hname (by decide)

theorem canary_proven_of_subset (hsecond : second.Of env' manifest)
    (hmore : first.provenProbes ⊆ second.provenProbes) (hproven : first.canary.state = .proven) :
    second.canary.state = .proven := by
  rcases mem_provenProbes_iff.mp (hmore (mem_provenProbes_iff.mpr (.inr ⟨rfl, hproven⟩))) with
    hshared | ⟨-, hproven'⟩
  · rw [hsecond.shared] at hshared
    exact absurd (mem_endpointNames hshared) (by decide)
  · exact hproven'

/-- What a harvest says of the office of a bundle. -/
theorem fields_of_harvestOffice {runtimeState : RuntimeState}
    {table : List (String × ProbeState)} {bundle : Value} {office : OfficeEvidence}
    (h : harvestOffice runtimeState table bundle = .ok office) :
    eitherField bundle "office" "office_id" = .ok office.officeId ∧
      office.runtimeState = runtimeState ∧ office.evidence = table := by
  obtain ⟨officeId, hid, h⟩ := bind_eq_ok_iff.mp h
  obtain ⟨chatbotId, -, h⟩ := bind_eq_ok_iff.mp h
  obtain ⟨roleId, -, h⟩ := bind_eq_ok_iff.mp h
  cases h
  exact ⟨hid, rfl, rfl⟩

theorem grown_of_harvestOffice {shared shared' : Dict String Probe} {canary canary' : Probe}
    {bundle : Value} {office office' : OfficeEvidence} (hshared : ProvenIn shared shared')
    (hcanary : canary.state = .proven → canary'.state = .proven)
    (h : harvestOffice (extractRuntimeState shared) (evidenceTable shared canary) bundle =
      .ok office)
    (h' : harvestOffice (extractRuntimeState shared') (evidenceTable shared' canary') bundle =
      .ok office') :
    Grown office.toValue office'.toValue := by
  obtain ⟨hid, hstate, htable⟩ := fields_of_harvestOffice h
  obtain ⟨hid', hstate', htable'⟩ := fields_of_harvestOffice h'
  refine ⟨?_, fun name hproven ↦ ?_, fun hreachable ↦ ?_⟩
  · show office.officeId = office'.officeId
    exact Except.ok.inj (hid.symm.trans hid')
  · have hproven : office.evidence.lookup name = some .proven := isProven_iff.mp hproven
    show isProven (.object (office'.evidence.map fun entry ↦ (entry.1, .str entry.2.name))) name
    rw [isProven_iff]
    rw [htable] at hproven
    rw [htable']
    exact lookup_mono (evidenceTable_mono hshared hcanary) hproven
  · change IsReachable (.str office.runtimeState.name) at hreachable
    show IsReachable (.str office'.runtimeState.name)
    rw [hstate, isReachable_iff] at hreachable
    rw [hstate', isReachable_iff]
    exact hreachable.imp (hshared _) (hshared _)

end Twice

/-! ## From the harvest to the certification -/

theorem controlItems_eq_ok {controls : Value} {items : List Value}
    (h : controlItems controls = .ok items) : controls = .list items ∨ items = [] := by
  cases controls with
  | list items' => exact .inl (congrArg Value.list (Except.ok.inj h))
  | str s =>
      rw [controlItems] at h
      split at h
      · exact .inr (Except.ok.inj h).symm
      · cases h
  | dict entries =>
      rw [controlItems] at h
      split at h
      · exact .inr (Except.ok.inj h).symm
      · cases h
  | _ => cases h

/-- The controls that an office was certified against are a list. -/
theorem exists_eq_list {controls office : Value} {report : OfficeReport}
    (h : certifyOffice controls office = .ok report) : ∃ items, controls = .list items := by
  obtain ⟨evidence, -, h⟩ := bind_eq_ok_iff.mp h
  obtain ⟨results, hresults, h⟩ := bind_eq_ok_iff.mp h
  obtain ⟨items, hitems, hresults⟩ := bind_eq_ok_iff.mp (eq_ok_of_mapError hresults)
  rcases controlItems_eq_ok hitems with rfl | rfl
  · exact ⟨items, rfl⟩
  · -- without controls, the percentage is a division by zero
    cases hresults
    cases h

theorem certify_eq_ok {document runtime : Value} {report : RuntimeReport}
    (h : certify document runtime = .ok report) : ∃ controls offices,
      document.getItem "controls" = .ok controls ∧
        (runtime.getD "offices" (.list []) >>= Value.iter) = .ok offices ∧
        List.Forall₂ (fun office result ↦ certifyOffice controls office = .ok result)
          offices report.offices := by
  obtain ⟨controls, hcontrols, h⟩ := bind_eq_ok_iff.mp h
  obtain ⟨offices, hoffices, h⟩ := bind_eq_ok_iff.mp h
  split at h
  · cases h
  · obtain ⟨reports, hreports, h⟩ := bind_eq_ok_iff.mp h
    obtain ⟨items, -, h⟩ := bind_eq_ok_iff.mp h
    cases h
    exact ⟨controls, offices, eq_ok_of_mapError hcontrols, eq_ok_of_mapError hoffices,
      forall₂_of_mapM_eq_ok hreports⟩

/-- The certification reads the offices of a harvest. -/
theorem Harvest.iter_offices (found : Harvest) :
    (found.toValue.getD "offices" (.list []) >>= Value.iter) =
      .ok (found.offices.map OfficeEvidence.toValue) := rfl

/-- Certification is monotone in the evidence: where every probe that is proven in a harvest
is proven in another one of the same bundles too, no verdict of the first certification is
above the one of the second, on a control or on an office. -/
theorem certification_is_monotone (env env' : Environment) (document manifest : Value)
    (first second : Harvest) (report report' : RuntimeReport)
    (hfirst : harvest env manifest = .ok first) (hsecond : harvest env' manifest = .ok second)
    (hmore : first.provenProbes ⊆ second.provenProbes)
    (hreport : certify document first.toValue = .ok report)
    (hreport' : certify document second.toValue = .ok report') :
    List.Forall₂ AtMost report.offices report'.offices := by
  have hof := harvest_of hfirst
  have hof' := harvest_of hsecond
  obtain ⟨bundles, hbundles, hoffices⟩ := hof.offices
  obtain ⟨_, hbundles', hoffices'⟩ := hof'.offices
  obtain rfl := Except.ok.inj (hbundles.symm.trans hbundles')
  obtain ⟨controls, offices, hcontrols, hiter, hresults⟩ := certify_eq_ok hreport
  obtain ⟨_, offices', hcontrols', hiter', hresults'⟩ := certify_eq_ok hreport'
  obtain rfl := Except.ok.inj (hcontrols.symm.trans hcontrols')
  obtain rfl := Except.ok.inj ((Harvest.iter_offices first).symm.trans hiter)
  obtain rfl := Except.ok.inj ((Harvest.iter_offices second).symm.trans hiter')
  have hshared := provenIn_of_subset hof hmore
  rw [hof'.shared] at hshared
  have hcanary := canary_proven_of_subset hof' hmore
  rw [hof.canary, hof'.canary] at hcanary
  have hgrown : List.Forall₂ (fun office office' ↦ Grown office.toValue office'.toValue)
      first.offices second.offices := by
    refine forall₂_common ?_ hoffices hoffices'
    exact fun bundle office office' h h' ↦ grown_of_harvestOffice hshared hcanary h h'
  rw [List.forall₂_map_left_iff] at hresults hresults'
  refine forall₂_square ?_ hgrown hresults hresults'
  intro office office' result result' hgrown hresult hresult'
  obtain ⟨items, rfl⟩ := exists_eq_list hresult
  exact atMost_of_grown (reported_of_eq_ok hresult) (reported_of_eq_ok hresult') hgrown

/-- A manifest of equal bundles. -/
def equalBundles : Value :=
  .list (List.replicate 82 (.object [("office", .str "ga://office/ark-os")]))

/-- A runtime whose endpoints all come to one outcome. -/
def uniform (exchange : Exchange) : Environment where
  endpoint name := "/v1/" ++ name
  exchange _ := exchange
  canaryExchange := exchange
  packetId := "conformance-canary"
  generatedAt := "2024-01-01T00:00:00+00:00"

/-- A runtime of which only the events are served. -/
def onlyEvents : Environment :=
  { uniform (.raised "URLError" "refused") with
    exchange := fun name ↦
      if name = "events" then .answered 200 .none else .raised "URLError" "refused" }

/-- A runtime that comes up is not certified lower. -/
theorem answering_runtime_is_not_lower : ∃ first second report report',
    harvest onlyEvents equalBundles = .ok first ∧ first.provenProbes = ["events"] ∧
      harvest (uniform (.answered 200 .none)) equalBundles = .ok second ∧
        certify (.object [("controls", .list twoControls)]) first.toValue = .ok report ∧
          certify (.object [("controls", .list twoControls)]) second.toValue = .ok report' ∧
            List.Forall₂ AtMost report.offices report'.offices := by
  have hview : (harvest onlyEvents equalBundles).toOption.map
      (fun first ↦ (first.provenProbes, (certify (.object [("controls", .list twoControls)])
        first.toValue).toOption.isSome)) = some (["events"], true) := by
    decide +kernel
  have hview' : (harvest (uniform (.answered 200 .none)) equalBundles).toOption.map
      (fun second ↦ (decide ("events" ∈ second.provenProbes),
        (certify (.object [("controls", .list twoControls)]) second.toValue).toOption.isSome)) =
      some (true, true) := by
    decide +kernel
  obtain ⟨first, hfirst, hview⟩ := Option.map_eq_some_iff.mp hview
  obtain ⟨hevents, hreport⟩ := Prod.mk.inj hview
  obtain ⟨report, hreport⟩ := isSome_toOption.mp hreport
  obtain ⟨second, hsecond, hview'⟩ := Option.map_eq_some_iff.mp hview'
  obtain ⟨hevents', hreport'⟩ := Prod.mk.inj hview'
  obtain ⟨report', hreport'⟩ := isSome_toOption.mp hreport'
  refine ⟨first, second, report, report', eq_ok_of_toOption hfirst, hevents,
    eq_ok_of_toOption hsecond, hreport, hreport', ?_⟩
  refine certification_is_monotone onlyEvents (uniform (.answered 200 .none))
    (.object [("controls", .list twoControls)]) equalBundles first second report report'
    (eq_ok_of_toOption hfirst) (eq_ok_of_toOption hsecond) ?_ hreport hreport'
  rw [hevents]
  exact List.cons_subset.mpr ⟨of_decide_eq_true hevents', List.nil_subset _⟩

end EstateMesh.Runtime
