import EstateMesh.Lib.Fallible
import EstateMesh.Python
import Mathlib.Data.Finset.Union
import Mathlib.Data.List.ReduceOption

/-!
# The conformance gate

The certification of the offices against the controls.  A document is reduced to
the set of its tokens, an item of evidence is present if it occurs in some token,
and the verdicts on the controls add up to the certification of an office.

The three documents are whatever the YAML loader returns, and the gate checks next
to nothing of their shape, so most of what can go wrong is an exception of a
built-in.  Percentages are exact.
-/

namespace EstateMesh

/-! ## Tokens -/

/-- The token that an item of a list is by itself. -/
def itemToken : Value → Finset String
  | .str s => {s}
  | _ => ∅

section Flatten

variable (py : Builtins)

mutual

/-- `flatten`. -/
def flatten (path : String) : Value → Finset String
  | .dict entries => flattenEntries path entries
  | .list xs => flattenItems path xs
  | .str s => {s}
  | _ => ∅

/-- The tokens of the entries of a mapping. -/
def flattenEntries (path : String) : List (Value × Value) → Finset String
  | [] => ∅
  | (key, value) :: entries =>
      let name := if path = "" then py.str key else path ++ "." ++ py.str key
      {py.str key, name} ∪ flatten name value ∪ flattenEntries path entries

/-- The tokens of the items of a list. -/
def flattenItems (path : String) : List Value → Finset String
  | [] => ∅
  | x :: xs => itemToken x ∪ flatten path x ∪ flattenItems path xs

end

mutual

/-- `flatten` meets a value inside itself. -/
def Value.isEndless : Value → Bool
  | .dict entries => anyEntryEndless entries
  | .list xs => anyItemEndless xs
  | .again => true
  | _ => false

/-- Some entry of a mapping is endless. -/
def anyEntryEndless : List (Value × Value) → Bool
  | [] => false
  | (_, value) :: entries => value.isEndless || anyEntryEndless entries

/-- Some item of a list is endless. -/
def anyItemEndless : List Value → Bool
  | [] => false
  | x :: xs => x.isEndless || anyItemEndless xs

end

/-- The tokens of a document, unless `flatten` does not come to its end. -/
def tokensOf (document : Value) : Except PyError (Finset String) :=
  if document.isEndless then .error .recursionError else .ok (flatten py "" document)

end Flatten

/-! ## Evidence -/

/-- The verdicts of the gate. -/
inductive Verdict
  | pass | partly | fail
deriving DecidableEq, Repr

/-- The verdict as it is spelt in a report. -/
def Verdict.name : Verdict → String
  | pass => "PASS"
  | partly => "PARTIAL"
  | fail => "FAIL"

theorem Verdict.eq_iff {status status' : Verdict} :
    status = status' ↔ (status = .pass ↔ status' = .pass) ∧ (status = .fail ↔ status' = .fail) := by
  cases status <;> cases status' <;> simp

/-- The result of looking for the evidence of a control. -/
structure Evidence where
  status : Verdict
  present : List Value
  missing : List Value

/-- Whether an item is one of the tokens or occurs in one.  What is not a string
cannot be looked for in a string. -/
def occurs (corpus : Finset String) : Value → Except PyError Bool
  | .str s => .ok (decide (s ∈ corpus ∨ ∃ token ∈ corpus, s.toList <:+: token.toList))
  | item => if item.hashable ∧ corpus = ∅ then .ok false else .error .typeError

/-- `evidence_status`. -/
def evidenceStatus (required : List Value) (corpus : Finset String) : Except PyError Evidence := do
  let found ← required.mapM fun item ↦ do
    return if ← occurs corpus item then some item else none
  let present := found.reduceOption
  let missing := required.filter fun item ↦ !present.any (·.eqv item)
  let status : Verdict :=
    if missing.isEmpty then .pass else if present.isEmpty then .fail else .partly
  return ⟨status, present, missing⟩

/-! ## Reports -/

/-- What the gate may raise. -/
inductive CertifyFault
  | python (e : PyError)
  | zeroDivision
  | /-- `SystemExit`. -/ systemExit (message : String)
deriving DecidableEq, Repr

/-- Raise a built-in exception. -/
def orRaise {α : Type} (x : Except PyError α) : Except CertifyFault α := x.mapError .python

/-- The verdict on a control. -/
structure ControlResult where
  controlId : Value
  severity : Value
  evidence : Evidence

/-- The report on an office. -/
structure OfficeReport where
  officeId : Value
  chatbotId : Value
  roleId : Value
  certification : Verdict
  passPercent : ℚ
  controls : List ControlResult

/-- How many controls got a verdict. -/
def countOf (status : Verdict) (results : List ControlResult) : ℕ :=
  results.countP (·.evidence.status = status)

/-- The report on an office as a value. -/
def OfficeReport.toValue (report : OfficeReport) : Value :=
  let count (status : Verdict) : Value := .int (countOf status report.controls)
  .object
    [("office_id", report.officeId), ("chatbot_id", report.chatbotId), ("role_id", report.roleId),
      ("certification", .str report.certification.name),
      ("pass_percent", .float (.fin report.passPercent)),
      ("counts", .object [("PASS", count .pass), ("PARTIAL", count .partly),
        ("FAIL", count .fail), ("NOT_APPLICABLE", .int 0)]),
      ("controls", .list (report.controls.map fun result ↦ .object
        [("control_id", result.controlId), ("status", .str result.evidence.status.name),
          ("present", .list result.evidence.present), ("missing", .list result.evidence.missing)]))]

/-- How many controls of a severity failed. -/
def failuresOf (severity : String) (results : List ControlResult) : ℕ :=
  results.countP fun result ↦ result.evidence.status = .fail ∧ result.severity.isStr severity

/-- `q >= x`. -/
def atLeast (q : ℚ) : Value → Except PyError Bool
  | .float (.inf negative) => .ok negative
  | .float .nan => .ok false
  | x => x.number.elim (.error .typeError) fun p ↦ .ok (decide (p ≤ q))

/-- Whether a percentage reaches the minimum of a level. -/
def reaches (rules : Value) (level : String) (passPercent : ℚ) : Except PyError Bool := do
  let rule ← rules.getItem level
  atLeast passPercent (← rule.getItem "minimum_pass_percent")

/-- The certification of an office. -/
def certification (rules : Value) (criticalFail highFail : ℕ) (passPercent : ℚ) :
    Except PyError Verdict := do
  let passes ←
    if criticalFail = 0 ∧ highFail = 0 then reaches rules "pass" passPercent else pure false
  if passes then return .pass
  if ← reaches rules "partial" passPercent then return .partly
  return .fail

/-- The controls of a document, as the gate goes through them.  What a string or a
mapping would yield has no fields. -/
def controlsOf (controls : Value) : Except PyError (List Value) := do
  match ← controls.getItem "controls" with
  | .list xs => return xs
  | .str s => if s = "" then return [] else throw .attributeError
  | .dict entries => if entries.isEmpty then return [] else throw .attributeError
  | _ => throw .typeError

/-- The evidence that a control asks for. -/
def requiredOf (control : Value) : Except PyError (List Value) := do
  (← control.getD "evidence" (.list [])).iter

/-- Look for the evidence of a control. -/
def gradeControl (corpus : Finset String) (control : Value) : Except PyError ControlResult := do
  let evidence ← evidenceStatus (← requiredOf control) corpus
  let controlId ← control.getItem "id"
  let severity ← control.getD "severity" .none
  return ⟨controlId, severity, evidence⟩

/-- `x.get(key) or x.get(other)`. -/
def eitherField (x : Value) (key other : String) : Except PyError Value := do
  return (← x.getD key .none).or (← x.getD other .none)

/-- Certify an office, given the tokens that all offices share. -/
def certifyOffice (py : Builtins) (controls : Value) (common : Finset String) (office : Value) :
    Except CertifyFault OfficeReport := do
  let officeId ← orRaise (eitherField office "office" "office_id")
  let corpus := common ∪ (← orRaise (tokensOf py office))
  let results ← orRaise do (← controlsOf controls).mapM (gradeControl corpus)
  if results.length = 0 then throw .zeroDivision
  let passPercent := round2 ((countOf .pass results : ℚ) / results.length * 100)
  let certification ← orRaise do
    certification (← controls.getItem "certification") (failuresOf "critical" results)
      (failuresOf "high" results) passPercent
  let chatbotId ← orRaise (eitherField office "chatbot" "chatbot_id")
  let roleId ← orRaise (eitherField office "role" "role_id")
  return ⟨officeId, chatbotId, roleId, certification, passPercent, results⟩

/-! ## The gate -/

/-- `normalize_bundles`. -/
def normalizeBundles (raw : Value) : Except PyError (List Value) :=
  let lists := ["bundles", "offices", "items"].filterMap fun key ↦
    match raw with
    | .dict entries =>
        match PyDict.get entries key with
        | .list xs => some xs
        | _ => none
    | _ => none
  match lists, raw with
  | xs :: _, _ => .ok xs
  | [], .list xs => .ok xs
  | [], _ => .error .valueError

/-- How many offices got a certification. -/
def summaryOf (state : Verdict) (offices : List OfficeReport) : ℕ :=
  offices.countP (·.certification = state)

/-- What the gate leaves behind. -/
structure CertificationReport where
  offices : List OfficeReport
  controlCount : ℕ

/-- The report as a value. -/
def CertificationReport.toValue (report : CertificationReport) : Value :=
  let count (state : Verdict) : Value := .int (summaryOf state report.offices)
  .object
    [("resolution_id", .str "GA-HYPERNET-GLOBAL-RESOLUTION-010"),
      ("standard", .str "Ghost Atlas Industry Conformance Profile v1"),
      ("office_count", .int report.offices.length), ("control_count", .int report.controlCount),
      ("summary", .object [("PASS", count .pass), ("PARTIAL", count .partly),
        ("FAIL", count .fail)]),
      ("truth_rule", .str "declaration_is_not_runtime_proof"),
      ("offices", .list (report.offices.map OfficeReport.toValue))]

/-- The exit code of the gate. -/
def CertificationReport.exitCode (report : CertificationReport) : ℕ :=
  if summaryOf .fail report.offices = 0 then 0 else 1

/-- Certify the offices of a manifest. -/
def certify (py : Builtins) (controls baseline manifest : Value) :
    Except CertifyFault CertificationReport := do
  let bundles ← orRaise (normalizeBundles manifest)
  if bundles.length ≠ 82 then
    throw (.systemExit ("CERTIFICATION_INPUT_FAIL expected 82 offices, found " ++
      toString bundles.length))
  let common := (← orRaise (tokensOf py baseline)) ∪ (← orRaise (tokensOf py controls))
  let offices ← bundles.mapM (certifyOffice py controls common)
  return ⟨offices, (← orRaise (controlsOf controls)).length⟩

end EstateMesh
