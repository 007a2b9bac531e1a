import EstateMesh.Conformance.Certify

/-!
# The runtime certification

The certification of the offices by what was observed of the runtime.  A control is graded
by the probes that can prove it, and controls without such a probe stay partial.  The
verdict on an office combines the percentage of passed controls, the blocking failures and
the state of the runtime on a ladder whose rungs do not all look at all three: the first
one does not ask whether the runtime can be reached, and the second one not whether a
failure is blocking (`verdict_is_honest_iff`).

As in the conformance gate, documents have whatever shape they have, and percentages are
exact.
-/

namespace EstateMesh.Runtime

open Lib

/-! ## Controls -/

/-- `RUNTIME_REQUIREMENTS`. -/
def runtimeRequirements : List (String × List String) :=
  [("AI-01", ["topology", "safe_canary"]), ("OBS-01", ["events"]), ("OBS-02", ["events"]),
    ("OPS-01", ["health", "readiness"]), ("PRF-01", ["dispatches", "events"]),
    ("LOOP-01", ["topology", "dispatches"])]

/-- The probes that can prove the control of an id. -/
def probesOf : Value → List String
  | .str s => (runtimeRequirements.lookup s).getD []
  | _ => []

/-- `RUNTIME_REQUIREMENTS.get(cid)`; no probes and no entry are the same to the code. -/
def requirements (controlId : Value) : Except PyError (List String) :=
  if controlId.hashable then .ok (probesOf controlId) else .error .typeError

/-- `x in names` for a set of two strings. -/
def isOneOf (name name' : String) (x : Value) : Except PyError Bool :=
  if x.hashable then .ok (x.isStr name || x.isStr name') else .error .typeError

/-- The status of a control, the reason for it and what is missing. -/
structure Grade where
  status : Verdict
  reason : String
  missing : List String

/-- The verdict on a control. -/
structure ControlResult extends Grade where
  controlId : Value
  domain : Value
  severity : Value
  requiredEvidence : List String
  /-- Whether its id is one of the blocking failures. -/
  blocking : Bool

/-- Whether the evidence proves a probe. -/
def proves (evidence : Value) (name : String) : Except PyError Bool := do
  isOneOf "PROVEN" "OBSERVED" (← evidence.getD name .none)

/-- The probes that the evidence proves. -/
def provenOf (evidence : Value) (required : List String) : Except PyError (List String) := do
  let found ← required.mapM fun name ↦ do
    return if ← proves evidence name then some name else none
  return found.reduceOption

/-- The grade of a control, given its probes and which of them are proven. -/
def gradeOf (required proven : List String) : Grade :=
  let missing := required.filter fun name ↦ name ∉ proven
  if required.isEmpty then
    ⟨.partly, "declared_control_requires_dedicated_runtime_probe", ["runtime_probe"]⟩
  else if missing.isEmpty then ⟨.pass, "runtime_evidence_present", missing⟩
  else if proven.isEmpty then ⟨.fail, "runtime_evidence_missing", missing⟩
  else ⟨.partly, "runtime_evidence_incomplete", missing⟩

/-- Whether a control of this status is a blocking failure. -/
def isBlocking (status : Verdict) (control : Value) : Except PyError Bool :=
  if status = .fail then do isOneOf "critical" "high" (← control.getD "severity" .none)
  else .ok false

/-- Grade a control. -/
def gradeControl (evidence control : Value) : Except PyError ControlResult := do
  let controlId ← control.getItem "id"
  let required ← requirements controlId
  let grade := gradeOf required (← provenOf evidence required)
  let blocking ← isBlocking grade.status control
  let domain ← control.getItem "domain"
  let severity ← control.getItem "severity"
  return ⟨grade, controlId, domain, severity, required, blocking⟩

/-! ## Offices -/

/-- The report on an office. -/
structure OfficeReport where
  officeId : Value
  runtimeState : Value
  certification : Verdict
  passPercent : ℚ
  controls : List ControlResult

/-- How many controls got a status. -/
def countOf (status : Verdict) (results : List ControlResult) : ℕ :=
  results.countP (·.status = status)

/-- `blocking_failures`. -/
def blockingFailures (results : List ControlResult) : List Value :=
  (results.filter ControlResult.blocking).map ControlResult.controlId

/-- The certification of an office. -/
def certification (blocking : List Value) (passPercent : ℚ) (runtimeState : Value) :
    Except PyError Verdict := do
  if blocking.isEmpty ∧ 95 ≤ passPercent then return .pass
  if 30 ≤ passPercent then
    if ← isOneOf "LIVE" "DEGRADED" runtimeState then return .partly
  return .fail

/-- What a loop over the controls goes through.  What a text or a mapping would yield
cannot be subscripted by a string. -/
def controlItems : Value → Except PyError (List Value)
  | .list xs => .ok xs
  | .str s => if s = "" then .ok [] else .error .typeError
  | .dict entries => if entries.isEmpty then .ok [] else .error .typeError
  | _ => .error .typeError

/-- Certify an office. -/
def certifyOffice (controls office : Value) : Except CertifyFault OfficeReport := do
  let evidence ← orRaise (office.getD "evidence" (.dict []))
  let results ← orRaise do (← controlItems controls).mapM (gradeControl evidence)
  if results.length = 0 then throw .zeroDivision
  let passPercent := round2 ((countOf .pass results : ℚ) / results.length * 100)
  let runtimeState ← orRaise (office.getD "runtime_state" .none)
  let certification ← orRaise (certification (blockingFailures results) passPercent runtimeState)
  let officeId ← orRaise (office.getD "office_id" .none)
  return ⟨officeId, runtimeState, certification, passPercent, results⟩

/-- The report on an office as a value. -/
def OfficeReport.toValue (report : OfficeReport) : Value :=
  let count (status : Verdict) : Value := .int (countOf status report.controls)
  .object
    [("office_id", report.officeId), ("runtime_state", report.runtimeState),
      ("certification", .str report.certification.name),
      ("pass_percent", .float (.fin report.passPercent)),
      ("counts", .object [("PASS", count .pass), ("PARTIAL", count .partly),
        ("FAIL", count .fail)]),
      ("blocking_failures", .list (blockingFailures report.controls)),
      ("controls", .list (report.controls.map fun result ↦ .object
        [("control_id", result.controlId), ("domain", result.domain),
          ("severity", result.severity), ("status", .str result.status.name),
          ("reason", .str result.reason),
          ("required_runtime_evidence", .list (result.requiredEvidence.map .str)),
          ("missing", .list (result.missing.map .str))]))]

/-! ## The certification -/

/-- What the certification leaves behind. -/
structure RuntimeReport where
  offices : List OfficeReport
  controlCount : ℕ

/-- The report as a value. -/
def RuntimeReport.toValue (report : RuntimeReport) : Value :=
  let count (state : Verdict) : Value :=
    .int (report.offices.countP (·.certification = state) : ℕ)
  .object
    [("resolution_id", .str "GA-HYPERNET-GLOBAL-RESOLUTION-011"),
      ("mode", .str "runtime-evidence-aware"), ("office_count", .int 82),
      ("control_count", .int report.controlCount),
      ("summary", .object [("PASS", count .pass), ("PARTIAL", count .partly),
        ("FAIL", count .fail)]),
      ("truth_rule", .str "declared_controls_remain_partial_until_runtime_proven"),
      ("offices", .list (report.offices.map OfficeReport.toValue))]

/-- Certify the offices of a harvest against the controls of a document. -/
def certify (document runtime : Value) : Except CertifyFault RuntimeReport := do
  let controls ← orRaise (document.getItem "controls")
  let offices ← orRaise do (← runtime.getD "offices" (.list [])).iter
  if offices.length ≠ 82 then
    throw (.systemExit ("RUNTIME_CERTIFICATION_INPUT_FAIL expected 82 offices, found " ++
      toString offices.length))
  let reports ← offices.mapM (certifyOffice controls)
  return ⟨reports, (← orRaise (controlItems controls)).length⟩

/-! ## What the documents say -/

/-- The evidence on a probe counts as proof. -/
def isProven (evidence : Value) (name : String) : Bool :=
  match evidence with
  | .dict entries =>
      (PyDict.get entries name).isStr "PROVEN" || (PyDict.get entries name).isStr "OBSERVED"
  | _ => false

/-- A field of a mapping. -/
def fieldOf (x : Value) (key : String) : Value :=
  match x with
  | .dict entries => PyDict.get entries key
  | _ => .none

/-- A control has probes, and all of them are proven. -/
def IsFulfilled (evidence control : Value) : Prop :=
  probesOf (fieldOf control "id") ≠ [] ∧
    ∀ name ∈ probesOf (fieldOf control "id"), isProven evidence name = true

/-- A critical or high control has probes, and none of them is proven. -/
def IsGap (evidence control : Value) : Prop :=
  ((fieldOf control "severity").isStr "critical" ∨ (fieldOf control "severity").isStr "high") ∧
    probesOf (fieldOf control "id") ≠ [] ∧
    ∀ name ∈ probesOf (fieldOf control "id"), isProven evidence name = false

instance (evidence control : Value) : Decidable (IsFulfilled evidence control) :=
  inferInstanceAs (Decidable (_ ∧ _))

instance (evidence control : Value) : Decidable (IsGap evidence control) :=
  inferInstanceAs (Decidable (_ ∧ _))

/-! ## One control -/

theorem isOneOf_eq_ok {name name' : String} {x : Value} {b : Bool}
    (h : isOneOf name name' x = .ok b) : b = (x.isStr name || x.isStr name') := by
  rw [isOneOf] at h
  split at h
  · exact (Except.ok.inj h).symm
  · cases h

theorem requirements_eq_ok {controlId : Value} {required : List String}
    (h : requirements controlId = .ok required) : probesOf controlId = required := by
  rw [requirements] at h
  split at h
  · exact Except.ok.inj h
  · cases h

theorem proves_eq_ok {evidence : Value} {name : String} {b : Bool}
    (h : proves evidence name = .ok b) : b = isProven evidence name := by
  obtain ⟨x, hx, h⟩ := bind_eq_ok_iff.mp h
  cases evidence with
  | dict entries =>
      cases hx
      exact isOneOf_eq_ok h
  | _ => cases hx

/-- The proven probes of a list. -/
theorem provenOf_eq_ok {evidence : Value} {required proven : List String}
    (h : provenOf evidence required = .ok proven) :
    proven = required.filter (isProven evidence) := by
  obtain ⟨hall, rfl⟩ := filter_eq_ok_iff.mp h
  refine List.filter_congr fun name hname ↦ ?_
  obtain ⟨b, hb⟩ := hall name hname
  rw [hb]
  exact proves_eq_ok hb

section Grade

variable {required : List String} {p : String → Bool}

theorem missing_eq_nil_iff :
    (required.filter fun name ↦ name ∉ required.filter p) = [] ↔
      ∀ name ∈ required, p name = true := by
  rw [List.filter_eq_nil_iff]
  refine forall₂_congr fun name hname ↦ ?_
  simp [hname]

theorem proven_eq_nil_iff :
    required.filter p = [] ↔ ∀ name ∈ required, p name = false := by
  simp [List.filter_eq_nil_iff]

/-- A control passes if it has probes and all of them are proven. -/
theorem gradeOf_pass_iff :
    (gradeOf required (required.filter p)).status = .pass ↔
      required ≠ [] ∧ ∀ name ∈ required, p name = true := by
  rw [← missing_eq_nil_iff]
  unfold gradeOf
  simp only [List.isEmpty_iff]
  split_ifs with hrequired hmissing hproven
  · exact iff_of_false (by rintro ⟨⟩) fun h ↦ h.1 hrequired
  · exact iff_of_true rfl ⟨hrequired, hmissing⟩
  · exact iff_of_false (by rintro ⟨⟩) fun h ↦ hmissing h.2
  · exact iff_of_false (by rintro ⟨⟩) fun h ↦ hmissing h.2

/-- A control fails if it has probes and none of them is proven. -/
theorem gradeOf_fail_iff :
    (gradeOf required (required.filter p)).status = .fail ↔
      required ≠ [] ∧ ∀ name ∈ required, p name = false := by
  rw [← proven_eq_nil_iff]
  unfold gradeOf
  simp only [List.isEmpty_iff]
  split_ifs with hrequired hmissing hproven
  · exact iff_of_false (by rintro ⟨⟩) fun h ↦ h.1 hrequired
  · refine iff_of_false (by rintro ⟨⟩) fun h ↦ ?_
    obtain ⟨name, hname⟩ := List.exists_mem_of_ne_nil _ hrequired
    cases (missing_eq_nil_iff.mp hmissing name hname).symm.trans
      (proven_eq_nil_iff.mp h.2 name hname)
  · exact iff_of_true rfl ⟨hrequired, hproven⟩
  · exact iff_of_false (by rintro ⟨⟩) fun h ↦ hproven h.2

end Grade

theorem fieldOf_of_getItem {x value : Value} {key : String} (h : x.getItem key = .ok value) :
    fieldOf x key = value := by
  cases x with
  | dict entries =>
      rw [Value.getItem] at h
      show (PyDict.get? key entries).getD .none = value
      cases hget : PyDict.get? key entries with
      | none =>
          rw [hget] at h
          cases h
      | some value' =>
          rw [hget] at h
          exact Except.ok.inj h
  | _ => cases h

theorem fieldOf_of_getD {x value : Value} {key : String} (h : x.getD key .none = .ok value) :
    fieldOf x key = value := by
  cases x with
  | dict entries => exact Except.ok.inj h
  | _ => cases h

/-- What the grade of a control says about it. -/
structure Graded (evidence control : Value) (result : ControlResult) : Prop where
  controlId : result.controlId = fieldOf control "id"
  pass_iff : result.status = .pass ↔ IsFulfilled evidence control
  fail_iff : result.status = .fail ↔ probesOf (fieldOf control "id") ≠ [] ∧
    ∀ name ∈ probesOf (fieldOf control "id"), isProven evidence name = false
  blocking_iff : result.blocking = true ↔ IsGap evidence control

theorem graded_of_eq_ok {evidence control : Value} {result : ControlResult}
    (h : gradeControl evidence control = .ok result) : Graded evidence control result := by
  obtain ⟨controlId, hid, h⟩ := bind_eq_ok_iff.mp h
  obtain ⟨required, hrequired, h⟩ := bind_eq_ok_iff.mp h
  obtain rfl := requirements_eq_ok hrequired
  obtain ⟨proven, hproven, h⟩ := bind_eq_ok_iff.mp h
  obtain ⟨blocking, hblocking, h⟩ := bind_eq_ok_iff.mp h
  obtain ⟨domain, -, h⟩ := bind_eq_ok_iff.mp h
  obtain ⟨severity, -, h⟩ := bind_eq_ok_iff.mp h
  cases h
  rw [provenOf_eq_ok hproven] at hblocking ⊢
  obtain rfl := fieldOf_of_getItem hid
  refine ⟨rfl, gradeOf_pass_iff, gradeOf_fail_iff, ?_⟩
  rw [IsGap, ← gradeOf_fail_iff]
  rw [isBlocking] at hblocking
  split at hblocking
  · rename_i hstatus
    obtain ⟨severity', hseverity, hblocking⟩ := bind_eq_ok_iff.mp hblocking
    obtain rfl := fieldOf_of_getD hseverity
    rw [isOneOf_eq_ok hblocking, Bool.or_eq_true]
    exact (and_iff_left hstatus).symm
  · rename_i hstatus
    cases hblocking
    exact iff_of_false (by rintro ⟨⟩) fun hgap ↦ hstatus hgap.2

/-! ## One office -/

/-- The evidence on an office. -/
def evidenceOf (office : Value) : Value :=
  match office with
  | .dict entries => PyDict.getD entries "evidence" (.dict [])
  | _ => .none

/-- The runtime can be reached, as far as the office says. -/
def IsReachable (runtimeState : Value) : Prop :=
  runtimeState.isStr "LIVE" = true ∨ runtimeState.isStr "DEGRADED" = true

instance (runtimeState : Value) : Decidable (IsReachable runtimeState) :=
  inferInstanceAs (Decidable (_ ∨ _))

/-- Some critical or high control of an office has probes, none of which is proven. -/
def HasGap (controls : List Value) (office : Value) : Prop :=
  ∃ control ∈ controls, IsGap (evidenceOf office) control

/-- The percentage of the controls all of whose probes are proven. -/
def scoreOf (controls : List Value) (office : Value) : ℚ :=
  round2 ((controls.countP fun control ↦ IsFulfilled (evidenceOf office) control : ℚ) /
    controls.length * 100)

/-- The ladder of the certification. -/
theorem certification_eq_ok {blocking : List Value} {passPercent : ℚ} {runtimeState : Value}
    {verdict : Verdict} (h : certification blocking passPercent runtimeState = .ok verdict) :
    blocking = [] ∧ 95 ≤ passPercent ∧ verdict = .pass ∨
      ¬ (blocking = [] ∧ 95 ≤ passPercent) ∧
        (30 ≤ passPercent ∧ IsReachable runtimeState ∧ verdict = .partly ∨
          ¬ (30 ≤ passPercent ∧ IsReachable runtimeState) ∧ verdict = .fail) := by
  rw [certification] at h
  simp only [List.isEmpty_iff] at h
  split at h
  · rename_i hpass
    cases h
    exact .inl ⟨hpass.1, hpass.2, rfl⟩
  · rename_i hpass
    refine .inr ⟨hpass, ?_⟩
    split at h
    · rename_i hlow
      obtain ⟨reachable, hreachable, h⟩ := bind_eq_ok_iff.mp h
      have hiff : reachable = true ↔ IsReachable runtimeState := by
        rw [isOneOf_eq_ok hreachable, Bool.or_eq_true]
        rfl
      cases reachable with
      | true =>
          cases h
          exact .inl ⟨hlow, hiff.mp rfl, rfl⟩
      | false =>
          cases h
          exact .inr ⟨fun hreach ↦ Bool.false_ne_true (hiff.mpr hreach.2), rfl⟩
    · rename_i hlow
      cases h
      exact .inr ⟨fun hreach ↦ hlow hreach.1, rfl⟩

/-- What a report says about its office. -/
structure Reported (controls : List Value) (office : Value) (report : OfficeReport) : Prop where
  graded : List.Forall₂ (Graded (evidenceOf office)) controls report.controls
  nonempty : controls ≠ []
  officeId : report.officeId = fieldOf office "office_id"
  runtimeState : report.runtimeState = fieldOf office "runtime_state"
  passPercent : report.passPercent = scoreOf controls office
  certification : certification (blockingFailures report.controls) report.passPercent
    report.runtimeState = .ok report.certification

theorem evidenceOf_of_getD {office evidence : Value}
    (h : office.getD "evidence" (.dict []) = .ok evidence) : evidenceOf office = evidence := by
  cases office with
  | dict entries => exact Except.ok.inj h
  | _ => cases h

theorem reported_of_eq_ok {controls : List Value} {office : Value} {report : OfficeReport}
    (h : certifyOffice (.list controls) office = .ok report) :
    Reported controls office report := by
  obtain ⟨evidence, hevidence, h⟩ := bind_eq_ok_iff.mp h
  obtain rfl := evidenceOf_of_getD (eq_ok_of_mapError hevidence)
  obtain ⟨results, hresults, h⟩ := bind_eq_ok_iff.mp h
  obtain ⟨_, ⟨⟩, hresults⟩ := bind_eq_ok_iff.mp (eq_ok_of_mapError hresults)
  split_ifs at h with hempty
  · cases h
  · obtain ⟨runtimeState, hstate, h⟩ := bind_eq_ok_iff.mp h
    obtain ⟨verdict, hverdict, h⟩ := bind_eq_ok_iff.mp h
    obtain ⟨officeId, hid, h⟩ := bind_eq_ok_iff.mp h
    cases h
    have hgraded : List.Forall₂ (Graded (evidenceOf office)) controls results :=
      (forall₂_of_mapM_eq_ok hresults).imp fun _ _ ↦ graded_of_eq_ok
    have hlength : controls.length = results.length := hgraded.length_eq
    refine ⟨hgraded, ?_, (fieldOf_of_getD (eq_ok_of_mapError hid)).symm,
      (fieldOf_of_getD (eq_ok_of_mapError hstate)).symm, ?_, eq_ok_of_mapError hverdict⟩
    · rintro rfl
      exact hempty hlength.symm
    · have hcount : countOf .pass results =
          controls.countP fun control ↦ IsFulfilled (evidenceOf office) control := by
        refine (countP_of_forall₂ (fun control result h ↦ ?_) hgraded).symm
        rw [decide_eq_true_iff, decide_eq_true_iff, h.pass_iff]
      rw [scoreOf, ← hcount, hlength]

/-- Blocking failures are recorded exactly for the gaps. -/
theorem Reported.blockingFailures_eq_nil_iff {controls : List Value} {office : Value}
    {report : OfficeReport} (h : Reported controls office report) :
    blockingFailures report.controls = [] ↔ ¬ HasGap controls office := by
  rw [blockingFailures, List.map_eq_nil_iff, List.filter_eq_nil_iff, HasGap]
  have hgraded := h.graded
  generalize report.controls = results at hgraded
  clear h
  induction hgraded with
  | nil => simp
  | cons hxy _ ih =>
      rw [List.forall_mem_cons, List.exists_mem_cons_iff, not_or]
      exact and_congr (not_congr hxy.blocking_iff) ih

/-! ## Honest verdicts -/

/-- The verdict on an office is FAIL if a blocking failure is recorded or the runtime cannot
be reached. -/
def OfficeReport.IsHonest (report : OfficeReport) : Prop :=
  blockingFailures report.controls ≠ [] ∨ ¬ IsReachable report.runtimeState →
    report.certification = .fail

/-- The verdict on an office is honest exactly if the rung that does not look at the gaps,
and the one that does not look at the runtime, are out of reach where they matter: an office
with a gap and a runtime that can be reached scores below 30, and one without a gap and
without such a runtime below 95. -/
theorem verdict_is_honest_iff (controls : List Value) (office : Value) (report : OfficeReport)
    (h : certifyOffice (.list controls) office = .ok report) :
    report.IsHonest ↔
      (HasGap controls office → IsReachable (fieldOf office "runtime_state") →
          scoreOf controls office < 30) ∧
        (¬ HasGap controls office → ¬ IsReachable (fieldOf office "runtime_state") →
          scoreOf controls office < 95) := by
  have hreported := reported_of_eq_ok h
  have hladder := certification_eq_ok hreported.certification
  rw [OfficeReport.IsHonest, ne_eq, hreported.blockingFailures_eq_nil_iff, not_not]
  rw [hreported.blockingFailures_eq_nil_iff] at hladder
  rw [hreported.runtimeState, hreported.passPercent] at hladder
  rw [hreported.runtimeState]
  rcases hladder with ⟨hgap, hscore, hpass⟩ | ⟨hnot, ⟨hscore, hreach, hpartly⟩ | ⟨hnot', hfail⟩⟩
  · -- passed: honest only if the runtime can be reached
    constructor
    · intro honest
      refine ⟨fun hgap' ↦ absurd hgap' hgap, fun _ hreach ↦ ?_⟩
      cases hpass.symm.trans (honest (.inr hreach))
    · rintro ⟨-, hbelow⟩ (hgap' | hreach)
      · exact absurd hgap' hgap
      · exact absurd (hbelow hgap hreach) (not_lt.mpr hscore)
  · -- partial: honest only if there is no gap
    constructor
    · intro honest
      refine ⟨fun hgap _ ↦ ?_, fun _ hnot ↦ absurd hreach hnot⟩
      cases hpartly.symm.trans (honest (.inl hgap))
    · rintro ⟨hbelow, -⟩ (hgap | hnot)
      · exact absurd (hbelow hgap hreach) (not_lt.mpr hscore)
      · exact absurd hreach hnot
  · refine iff_of_true (fun _ ↦ hfail) ⟨fun _ hreach ↦ ?_, fun hgap _ ↦ ?_⟩
    · exact not_le.mp fun hscore ↦ hnot' ⟨hscore, hreach⟩
    · exact not_le.mp fun hscore ↦ hnot ⟨hgap, hscore⟩

/-- A control of a document. -/
def describeControl (id domain severity : String) : Value :=
  .object [("id", .str id), ("domain", .str domain), ("severity", .str severity)]

/-- A critical control that two probes can prove, and a high one that one probe can. -/
def twoControls : List Value :=
  [describeControl "AI-01" "ai" "critical", describeControl "OBS-01" "observability" "high"]

/-- An office of a runtime that is up, with the outcome of the probe of its events. -/
def liveOffice (events : String) : Value :=
  .object [("office_id", .str "ga://office/ark-os"), ("runtime_state", .str "LIVE"),
    ("evidence", .object [("health", .str "PROVEN"), ("readiness", .str "PROVEN"),
      ("topology", .str "ERROR"), ("safe_canary", .str "MISSING"), ("events", .str events)])]

/-- Where no control is proven, the verdict is honest. -/
theorem unproven_office_fails : ∃ report,
    certifyOffice (.list twoControls) (liveOffice "ERROR") = .ok report ∧ report.IsHonest := by
  have hview : (certifyOffice (.list twoControls) (liveOffice "ERROR")).toOption.isSome = true := by
    decide +kernel
  obtain ⟨report, hreport⟩ := isSome_toOption.mp hview
  refine ⟨report, hreport, (verdict_is_honest_iff _ _ report hreport).mpr ⟨fun _ _ ↦ ?_, ?_⟩⟩
  · have hscore : decide (scoreOf twoControls (liveOffice "ERROR") < 30) = true := by
      decide +kernel
    exact of_decide_eq_true hscore
  · intro _ hnot
    exact absurd (.inl rfl) hnot

/-- One proven control hides the gap of another. -/
theorem gap_is_hidden : ¬ ∀ controls office report,
    certifyOffice (.list controls) office = .ok report → report.IsHonest := by
  intro h
  have hview : (certifyOffice (.list twoControls) (liveOffice "PROVEN")).toOption.map
      (fun report ↦ (report.certification, (blockingFailures report.controls).isEmpty)) =
      some (.partly, false) := by
    decide +kernel
  obtain ⟨report, hreport, hview⟩ := Option.map_eq_some_iff.mp hview
  obtain ⟨hpartly, hblocking⟩ := Prod.mk.inj hview
  have hfail := h _ _ report (eq_ok_of_toOption hreport) (.inl ?_)
  · cases hpartly.symm.trans hfail
  · rintro e
    rw [e] at hblocking
    cases hblocking

end EstateMesh.Runtime
