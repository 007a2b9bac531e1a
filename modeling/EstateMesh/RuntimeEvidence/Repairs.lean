import EstateMesh.Documents
import EstateMesh.RuntimeEvidence.Harvest

/-!
# Repairs

The harvest leaves two files behind: the report, which the certification reads, and the repair
targets.  The report survives its text.  What the certification finds missing for a control that
a probe can prove is what the repair target of the office names among the probes of the control,
so that an office without a target has every such control passed (`repairs_cover_certification`).

How far that goes is a matter of `RUNTIME_REQUIREMENTS`: six controls can pass, whatever is
repaired (`requirements_bound_certification`).
-/

namespace EstateMesh.Runtime

open Lib

/-! ## The report as a text -/

/-- The text of the report of a harvest. -/
def Harvest.reportText (m : JsonModule) (found : Harvest) : Except PyError (List Char) := do
  return (← m.dumps JsonModule.indented found.toValue) ++ ['\n']

/-- Certify the offices of a report that is given by its text. -/
def certifyText (m : JsonModule) (document : Value) (text : List Char) :
    Except CertifyFault RuntimeReport := do
  match m.loads text with
  | some runtime => certify document runtime
  | none => throw (.python .valueError)

/-- What a request came to can be written, at some depth. -/
def Exchange.IsWritable (m : JsonModule) (depth : ℕ) : Exchange → Prop
  | .answered statusCode body | .refused statusCode body =>
      m.IsNumber (.int statusCode) ∧ m.IsDocument depth body
  | .raised _ _ => True

/-- The fields of a bundle that the harvest copies, under either of their names. -/
def bundleFields : List (String × String) :=
  [("office", "office_id"), ("chatbot", "chatbot_id"), ("role", "role_id")]

/-- What a harvest draws from its environment and from the manifest can be written. -/
structure Environment.IsWritable (m : JsonModule) (env : Environment) (manifest : Value) :
    Prop where
  exchange : ∀ name, (env.exchange name).IsWritable m 4
  canary : env.canaryExchange.IsWritable m 3
  bundles : ∀ bundles, normalizeBundles manifest = .ok bundles → ∀ bundle ∈ bundles,
    ∀ field ∈ bundleFields, ∀ value, eitherField bundle field.1 field.2 = .ok value →
      m.IsDocument 3 value
  depth : 4 ≤ m.maxDepth
  digits : 2 ≤ m.maxDigits

section Text

variable {m : JsonModule} {env : Environment} {manifest : Value} {found : Harvest}

/-- A harvest is about the bundles of 82 offices. -/
theorem harvest_eq_ok (h : harvest env manifest = .ok found) : ∃ bundles : List Value,
    normalizeBundles manifest = .ok bundles ∧ bundles.length = 82 ∧
      bundles.mapM (harvestOffice (extractRuntimeState env.shared)
        (evidenceTable env.shared env.canary)) = .ok found.offices := by
  obtain ⟨bundles, hbundles, h⟩ := bind_eq_ok_iff.mp h
  split_ifs at h with hlength
  · cases h
  · obtain ⟨offices, hoffices, h⟩ := bind_eq_ok_iff.mp h
    cases h
    exact ⟨bundles, eq_ok_of_mapError hbundles, not_not.mp hlength, eq_ok_of_mapError hoffices⟩

theorem length_offices (h : harvest env manifest = .ok found) : found.offices.length = 82 := by
  obtain ⟨bundles, -, hlength, hoffices⟩ := harvest_eq_ok h
  rw [← (forall₂_of_mapM_eq_ok hoffices).length_eq, hlength]

/-- All offices share the evidence. -/
theorem evidence_of_mem (h : harvest env manifest = .ok found) {office : OfficeEvidence}
    (hoffice : office ∈ found.offices) :
    office.evidence = evidenceTable env.shared env.canary := by
  obtain ⟨bundles, -, -, hoffices⟩ := harvest_eq_ok h
  obtain ⟨bundle, -, hbundle⟩ := (mem_of_mapM_eq_ok hoffices).mp hoffice
  exact (fields_of_harvestOffice hbundle).2.2

/-- A small number can be written. -/
theorem isDocument_small (hdigits : 2 ≤ m.maxDigits) {n depth : ℕ} (hn : n < 100) :
    m.IsDocument depth (.int n) := by
  have hall : ∀ n < 100, (Nat.toDigits 10 n).length ≤ 2 := by decide
  exact decide_eq_true ((hall n hn).trans hdigits)

/-- The evidence on an office is a document. -/
theorem isDocument_office (h : harvest env manifest = .ok found)
    (hwritable : env.IsWritable m manifest) {office : OfficeEvidence}
    (hoffice : office ∈ found.offices) : m.IsDocument 2 office.toValue := by
  have hdepth := hwritable.depth
  obtain ⟨bundles, hbundles, -, hoffices⟩ := harvest_eq_ok h
  obtain ⟨bundle, hmem, hbundle⟩ := (mem_of_mapM_eq_ok hoffices).mp hoffice
  have hfields := List.forall_mem_cons.mp (hwritable.bundles bundles hbundles bundle hmem)
  have hrest := List.forall_mem_cons.mp hfields.2
  obtain ⟨officeId, hid, hbundle⟩ := bind_eq_ok_iff.mp hbundle
  obtain ⟨chatbotId, hchatbot, hbundle⟩ := bind_eq_ok_iff.mp hbundle
  obtain ⟨roleId, hrole, hbundle⟩ := bind_eq_ok_iff.mp hbundle
  obtain rfl := Except.ok.inj hbundle
  generalize hmade : OfficeEvidence.mk officeId chatbotId roleId _ _ = office
  have hmissing : m.IsDocument 3 (.list (office.missing.map .str)) := by
    refine JsonModule.isDocument_list_iff.mpr ⟨by omega, fun x hx ↦ ?_⟩
    obtain ⟨name, -, rfl⟩ := List.mem_map.mp hx
    trivial
  have hevidence : m.IsDocument 3
      (.object (office.evidence.map fun entry ↦ (entry.1, .str entry.2.name))) := by
    refine JsonModule.isDocument_object (by omega) ?_ fun e he ↦ ?_
    · subst hmade
      simp [evidenceTable]
    · obtain ⟨entry, -, rfl⟩ := List.mem_map.mp he
      trivial
  refine JsonModule.isDocument_object (by omega) (by simp) ?_
  simp only [List.forall_mem_cons]
  subst hmade
  exact ⟨hfields.1 _ hid, hrest.1 _ hchatbot, hrest.2 _ List.mem_cons_self _ hrole, trivial,
    trivial, hevidence, hmissing, List.forall_mem_nil _⟩

/-- What a request leaves behind is a document. -/
theorem isDocument_requestJson {depth : ℕ} {exchange : Exchange} (hdepth : depth < m.maxDepth)
    (h : exchange.IsWritable m (depth + 1)) (baseUrl path : String) :
    m.IsDocument depth (requestJson baseUrl path exchange).evidence := by
  rw [requestJson]
  split
  · refine JsonModule.isDocument_object hdepth (by simp) ?_
    simp only [List.forall_mem_cons]
    exact ⟨trivial, List.forall_mem_nil _⟩
  · cases exchange with
    | answered statusCode body =>
        refine JsonModule.isDocument_object hdepth (by simp) ?_
        simp only [List.forall_mem_cons]
        exact ⟨h.1, h.2, trivial, List.forall_mem_nil _⟩
    | refused statusCode body =>
        refine JsonModule.isDocument_object hdepth (by simp) ?_
        simp only [List.forall_mem_cons]
        exact ⟨h.1, h.2, trivial, List.forall_mem_nil _⟩
    | raised className detail =>
        refine JsonModule.isDocument_object hdepth (by simp) ?_
        simp only [List.forall_mem_cons]
        exact ⟨trivial, trivial, trivial, List.forall_mem_nil _⟩

/-- The probes are documents. -/
theorem isDocument_shared (hwritable : env.IsWritable m manifest) :
    ∀ entry ∈ env.shared.entries, m.IsDocument 2 entry.2.toValue := by
  have hdepth := hwritable.depth
  intro entry hentry
  rw [Environment.shared, Dict.entries_ofList (by simp [endpointNames])] at hentry
  obtain ⟨name, -, rfl⟩ := List.mem_map.mp hentry
  refine JsonModule.isDocument_object (by omega) (by simp) ?_
  simp only [List.forall_mem_cons]
  exact ⟨trivial, isDocument_requestJson (by omega) (hwritable.exchange name) _ _,
    List.forall_mem_nil _⟩

theorem isDocument_canary (h : harvest env manifest = .ok found)
    (hwritable : env.IsWritable m manifest) : m.IsDocument 1 found.canaryValue := by
  have hdepth := hwritable.depth
  have hcanary : m.IsDocument 2 env.canary.evidence := by
    rw [Environment.canary]
    split
    · exact isDocument_requestJson (by omega) hwritable.canary _ _
    · trivial
  rw [← (harvest_of h).canary] at hcanary
  unfold Harvest.canaryValue
  cases found.canaryPacketId with
  | none =>
      refine JsonModule.isDocument_object (by omega) (by simp) ?_
      simp only [List.forall_mem_cons]
      exact ⟨trivial, trivial, List.forall_mem_nil _⟩
  | some packetId =>
      refine JsonModule.isDocument_object (by omega) (by simp) ?_
      simp only [List.forall_mem_cons]
      exact ⟨trivial, hcanary, trivial, List.forall_mem_nil _⟩

/-- The report is a document. -/
theorem isDocument_report (h : harvest env manifest = .ok found)
    (hwritable : env.IsWritable m manifest) : m.IsDocument 0 found.toValue := by
  have hdepth := hwritable.depth
  have hlength := length_offices h
  have hcount (state : Verdict) : m.IsDocument 2 (.int (found.countOf state)) := by
    have hle : found.countOf state ≤ found.offices.length := List.countP_le_length
    exact isDocument_small hwritable.digits (by omega)
  have hoffices : m.IsDocument 1 (.list (found.offices.map OfficeEvidence.toValue)) := by
    refine JsonModule.isDocument_list_iff.mpr ⟨by omega, fun x hx ↦ ?_⟩
    obtain ⟨office, hoffice, rfl⟩ := List.mem_map.mp hx
    exact isDocument_office h hwritable hoffice
  have hshared : m.IsDocument 1
      (.object (found.shared.entries.map fun entry ↦ (entry.1, entry.2.toValue))) := by
    refine JsonModule.isDocument_object (by omega) ?_ fun e he ↦ ?_
    · rw [List.map_map]
      exact found.shared.nodup
    · obtain ⟨entry, hentry, rfl⟩ := List.mem_map.mp he
      rw [(harvest_of h).shared] at hentry
      exact isDocument_shared hwritable entry hentry
  have hsummary : m.IsDocument 1 (.object [("PASS", .int (found.countOf .pass)),
      ("PARTIAL", .int (found.countOf .partly)), ("FAIL", .int (found.countOf .fail))]) := by
    refine JsonModule.isDocument_object (by omega) (by simp) ?_
    simp only [List.forall_mem_cons]
    exact ⟨hcount .pass, hcount .partly, hcount .fail, List.forall_mem_nil _⟩
  refine JsonModule.isDocument_object (by omega) (by simp) ?_
  simp only [List.forall_mem_cons]
  exact ⟨trivial, trivial, trivial, isDocument_small hwritable.digits (by omega), trivial, hsummary,
    hshared, isDocument_canary h hwritable, trivial, hoffices, List.forall_mem_nil _⟩

/-- The certification reads what the harvest has written. -/
theorem certify_reportText (h : harvest env manifest = .ok found)
    (hwritable : env.IsWritable m manifest) (document : Value) :
    ∃ text, found.reportText m = .ok text ∧
      certifyText m document text = certify document found.toValue := by
  obtain ⟨text, htext, hloads⟩ :=
    JsonModule.loads_dumps (isDocument_report h hwritable) JsonModule.indented
  have hline : Json.IsBlank ['\n'] := by simp [Json.IsBlank, Json.isSpace]
  have hfile : m.loads (text ++ ['\n']) = some found.toValue :=
    (Json.Decoder.read_append hloads).mpr (.inl ⟨hline, rfl⟩)
  refine ⟨text ++ ['\n'], ?_, ?_⟩
  · rw [Harvest.reportText, htext]
    rfl
  · rw [certifyText, hfile]

end Text

/-! ## What is missing -/

section Missing

variable {evidence control office : Value} {name : String}

/-- What is missing for a control: the probes that did not prove it, or one that could. -/
theorem missing_of_gradeControl {result : ControlResult}
    (h : gradeControl evidence control = .ok result) :
    result.requiredEvidence = probesOf (fieldOf control "id") ∧
      result.missing = if result.requiredEvidence = [] then ["runtime_probe"]
        else result.requiredEvidence.filter fun name ↦ !isProven evidence name := by
  obtain ⟨controlId, hid, h⟩ := bind_eq_ok_iff.mp h
  obtain ⟨required, hrequired, h⟩ := bind_eq_ok_iff.mp h
  obtain rfl := requirements_eq_ok hrequired
  obtain ⟨proven, hproven, h⟩ := bind_eq_ok_iff.mp h
  obtain ⟨blocking, -, h⟩ := bind_eq_ok_iff.mp h
  obtain ⟨domain, -, h⟩ := bind_eq_ok_iff.mp h
  obtain ⟨severity, -, h⟩ := bind_eq_ok_iff.mp h
  cases h
  obtain rfl := fieldOf_of_getItem hid
  obtain rfl := provenOf_eq_ok hproven
  refine ⟨rfl, ?_⟩
  show (gradeOf (probesOf (fieldOf control "id"))
    ((probesOf (fieldOf control "id")).filter (isProven evidence))).missing = _
  by_cases hempty : probesOf (fieldOf control "id") = []
  · rw [gradeOf, if_pos (List.isEmpty_iff.mpr hempty), if_pos hempty]
  · have hmissing : (gradeOf (probesOf (fieldOf control "id"))
        ((probesOf (fieldOf control "id")).filter (isProven evidence))).missing =
        (probesOf (fieldOf control "id")).filter fun name ↦
          name ∉ (probesOf (fieldOf control "id")).filter (isProven evidence) := by
      rw [gradeOf, if_neg (by rwa [List.isEmpty_iff])]
      split_ifs <;> rfl
    rw [if_neg hempty]
    refine hmissing.trans (List.filter_congr fun name hname ↦ ?_)
    simp [hname]

/-- The controls of a report. -/
theorem controls_of_certifyOffice {items : List Value} {report : OfficeReport}
    (h : certifyOffice (.list items) office = .ok report) :
    items.mapM (gradeControl (evidenceOf office)) = .ok report.controls := by
  obtain ⟨evidence, hevidence, h⟩ := bind_eq_ok_iff.mp h
  obtain rfl := evidenceOf_of_getD (eq_ok_of_mapError hevidence)
  obtain ⟨results, hresults, h⟩ := bind_eq_ok_iff.mp h
  obtain ⟨_, ⟨⟩, hresults⟩ := bind_eq_ok_iff.mp (eq_ok_of_mapError hresults)
  split_ifs at h
  · cases h
  · obtain ⟨runtimeState, -, h⟩ := bind_eq_ok_iff.mp h
    obtain ⟨verdict, -, h⟩ := bind_eq_ok_iff.mp h
    obtain ⟨officeId, -, h⟩ := bind_eq_ok_iff.mp h
    cases h
    exact hresults

/-- Among different names, one is listed as missing if it is not proven. -/
theorem mem_missing_iff {table : List (String × ProbeState)} (hnames : (table.map Prod.fst).Nodup)
    (hname : name ∈ table.map Prod.fst) :
    name ∈ (table.filter fun entry ↦ entry.2 ≠ .proven).map Prod.fst ↔
      table.lookup name ≠ some .proven := by
  induction table with
  | nil => cases hname
  | cons entry table ih =>
      obtain ⟨key, state⟩ := entry
      obtain ⟨hnew, hnames⟩ := List.nodup_cons.mp hnames
      have hrest : ∀ q : String × ProbeState → Bool, key ∉ (table.filter q).map Prod.fst :=
        fun q hmem ↦ hnew (List.map_subset _ (List.filter_sublist (l := table)).subset hmem)
      by_cases hkey : name = key
      · subst hkey
        rw [List.lookup_cons_self]
        by_cases hstate : state = .proven
        · simp [hstate, hrest]
        · simp [hstate]
      · have hbeq : (name == key) = false := beq_false_of_ne hkey
        have hname : name ∈ table.map Prod.fst :=
          (List.mem_cons.mp hname).resolve_left hkey
        rw [List.lookup_cons, hbeq]
        refine Iff.trans ?_ (ih hnames hname)
        by_cases hstate : state = .proven
        · simp [hstate]
        · simp [hstate, hkey]

/-- The probes that can prove a control are among the evidence of an office. -/
theorem mem_evidenceTable {controlId : Value} (h : name ∈ probesOf controlId)
    (shared : Dict String Probe) (canary : Probe) :
    name ∈ (evidenceTable shared canary).map Prod.fst := by
  have hall : ∀ entry ∈ runtimeRequirements, entry.2 ⊆ ["registration", "health", "readiness",
      "executors", "topology", "events", "dispatches", "safe_canary"] := by
    decide
  cases controlId with
  | str s =>
      rw [probesOf] at h
      cases hlookup : runtimeRequirements.lookup s with
      | none =>
          rw [hlookup] at h
          cases h
      | some names =>
          rw [hlookup] at h
          obtain ⟨before, after, hsplit, -⟩ := List.lookup_eq_some_iff.mp hlookup
          exact hall (s, names) (by rw [hsplit]; simp) h
  | _ => cases h

end Missing

/-! ## Targets -/

/-- The name of the first office's target tells what it is for. -/
theorem OfficeEvidence.missing_of_repairTarget {office office' : OfficeEvidence}
    (h : office.repairTarget = office'.repairTarget) : office.missing = office'.missing := by
  simp only [repairTarget, Value.object, List.map_cons] at h
  injection h with hentries
  injection hentries with _ hentries
  injection hentries with _ hentries
  injection hentries with hentry _
  injection hentry with _ hlist
  injection hlist with hnames
  have hinjective : Function.Injective Value.str := fun _ _ ↦ Value.str.inj
  exact hinjective.list_map hnames

/-- An office is to be repaired if something is missing. -/
theorem Harvest.mem_repairTargets_iff {found : Harvest} {office : OfficeEvidence}
    (h : office ∈ found.offices) :
    office.repairTarget ∈ found.repairTargets ↔ office.missing ≠ [] := by
  simp only [repairTargets, List.mem_map, List.mem_filter, Bool.not_eq_true',
    List.isEmpty_eq_false_iff]
  constructor
  · rintro ⟨office', ⟨-, hmissing⟩, htarget⟩
    rwa [OfficeEvidence.missing_of_repairTarget htarget] at hmissing
  · exact fun hmissing ↦ ⟨office, ⟨h, hmissing⟩, rfl⟩

/-- What the verdicts on an office have to do with its target. -/
structure Covers (found : Harvest) (office : OfficeEvidence) (report : OfficeReport) : Prop where
  officeId : report.officeId = office.officeId
  target : office.repairTarget ∈ found.repairTargets ↔ office.missing ≠ []
  missing : ∀ c ∈ report.controls, c.requiredEvidence ≠ [] →
    c.missing = c.requiredEvidence.filter fun name ↦ name ∈ office.missing
  /-- No target names what a control without probes misses. -/
  unprobed : ∀ c ∈ report.controls, c.requiredEvidence = [] → c.missing = ["runtime_probe"]
  pass_iff : ∀ c ∈ report.controls, c.status = .pass ↔
    c.requiredEvidence ≠ [] ∧ ∀ name ∈ c.requiredEvidence, name ∉ office.missing
  repaired : office.repairTarget ∉ found.repairTargets → blockingFailures report.controls = []

theorem covers_of_certifyOffice {env : Environment} {found : Harvest} {office : OfficeEvidence}
    {items : List Value} {report : OfficeReport} (hoffice : office ∈ found.offices)
    (hevidence : office.evidence = evidenceTable env.shared env.canary)
    (h : certifyOffice (.list items) office.toValue = .ok report) : Covers found office report := by
  have hreported := reported_of_eq_ok h
  have hresults := controls_of_certifyOffice h
  have hproven {controlId : Value} {name : String} (hname : name ∈ probesOf controlId) :
      name ∈ office.missing ↔ isProven (evidenceOf office.toValue) name = false := by
    have hlisted := mem_evidenceTable hname env.shared env.canary
    have hnames : ((evidenceTable env.shared env.canary).map Prod.fst).Nodup := by
      simp [evidenceTable]
    have hiff : isProven (evidenceOf office.toValue) name = true ↔
        office.evidence.lookup name = some .proven := isProven_iff
    rw [OfficeEvidence.missing, ← Bool.not_eq_true, hiff, hevidence]
    exact mem_missing_iff hnames hlisted
  have htarget := Harvest.mem_repairTargets_iff hoffice
  refine ⟨hreported.officeId, htarget, fun c hc hne ↦ ?_, fun c hc hempty ↦ ?_, fun c hc ↦ ?_,
    fun hnot ↦ ?_⟩
  · obtain ⟨control, -, hcontrol⟩ := (mem_of_mapM_eq_ok hresults).mp hc
    obtain ⟨hrequired, hmissing⟩ := missing_of_gradeControl hcontrol
    rw [hmissing, if_neg hne]
    refine List.filter_congr fun name hname ↦ ?_
    rw [hrequired] at hname
    rw [Bool.eq_iff_iff, Bool.not_eq_true', decide_eq_true_iff]
    exact (hproven hname).symm
  · obtain ⟨control, -, hcontrol⟩ := (mem_of_mapM_eq_ok hresults).mp hc
    obtain ⟨-, hmissing⟩ := missing_of_gradeControl hcontrol
    rw [hmissing, if_pos hempty]
  · obtain ⟨control, -, hcontrol⟩ := (mem_of_mapM_eq_ok hresults).mp hc
    obtain ⟨hrequired, -⟩ := missing_of_gradeControl hcontrol
    rw [(graded_of_eq_ok hcontrol).pass_iff, IsFulfilled, hrequired]
    refine and_congr_right fun _ ↦ forall₂_congr fun name hname ↦ ?_
    rw [hproven hname, Bool.not_eq_false]
  · -- without anything missing there is no gap
    rw [hreported.blockingFailures_eq_nil_iff]
    rintro ⟨control, -, -, hprobes, hunproven⟩
    obtain ⟨name, hname⟩ := List.exists_mem_of_ne_nil _ hprobes
    have hnone := not_not.mp (htarget.not.mp hnot)
    have hmem := (hproven hname).mpr (hunproven name hname)
    rw [hnone] at hmem
    cases hmem

/-- Repairs cover the certification.  The report that a harvest has written is certified as what
it stands for.  Its certification finds missing for each control that has probes what the target
of the office names of them, passes a control exactly if it has probes and none is named, and has
no blocking failure for an office without a target. -/
theorem repairs_cover_certification (m : JsonModule) (env : Environment)
    (manifest document : Value) {found : Harvest} (h : harvest env manifest = .ok found)
    (hwritable : env.IsWritable m manifest) :
    ∃ text, found.reportText m = .ok text ∧
      certifyText m document text = certify document found.toValue ∧
      ∀ report, certifyText m document text = .ok report →
        List.Forall₂ (Covers found) found.offices report.offices := by
  obtain ⟨text, htext, hcertify⟩ := certify_reportText h hwritable document
  refine ⟨text, htext, hcertify, fun report hreport ↦ ?_⟩
  rw [hcertify] at hreport
  obtain ⟨controls, offices, -, hiter, hresults⟩ := certify_eq_ok hreport
  obtain rfl := Except.ok.inj ((Harvest.iter_offices found).symm.trans hiter)
  rw [List.forall₂_map_left_iff] at hresults
  have hboth : List.Forall₂ (fun office result ↦ office ∈ found.offices ∧
      certifyOffice controls office.toValue = .ok result) found.offices report.offices :=
    (List.forall₂_and_left _ _).mpr ⟨fun office hoffice ↦ hoffice, hresults⟩
  refine hboth.imp fun office result ⟨hoffice, hresult⟩ ↦ ?_
  obtain ⟨items, rfl⟩ := exists_eq_list hresult
  exact covers_of_certifyOffice hoffice (evidence_of_mem h hoffice) hresult

theorem refused_writable :
    (uniform (.raised "URLError" "refused")).IsWritable (default : JsonModule) equalBundles where
  exchange _ := trivial
  canary := trivial
  bundles := by
    intro bundles hbundles bundle hbundle
    obtain rfl := Except.ok.inj hbundles
    obtain rfl := List.eq_of_mem_replicate hbundle
    simp only [bundleFields, List.forall_mem_cons]
    refine ⟨?_, ?_, ?_, List.forall_mem_nil _⟩ <;> rintro _ ⟨⟩ <;> trivial
  depth := by decide
  digits := by decide

/-- The repairs of a runtime that cannot be reached. -/
theorem refused_runtime_is_covered : ∃ found text report,
    harvest (uniform (.raised "URLError" "refused")) equalBundles = .ok found ∧
      found.reportText (default : JsonModule) = .ok text ∧
      certifyText (default : JsonModule) (.object [("controls", .list twoControls)]) text =
        .ok report ∧
      List.Forall₂ (Covers found) found.offices report.offices := by
  have hview : (harvest (uniform (.raised "URLError" "refused")) equalBundles).toOption.map
      (fun found ↦ (certify (.object [("controls", .list twoControls)])
        found.toValue).toOption.isSome) = some true := by
    decide +kernel
  obtain ⟨found, hfound, hview⟩ := Option.map_eq_some_iff.mp hview
  obtain ⟨report, hreport⟩ := isSome_toOption.mp hview
  have hfound := eq_ok_of_toOption hfound
  obtain ⟨text, htext, hcertify, hcovers⟩ := repairs_cover_certification default
    (uniform (.raised "URLError" "refused")) equalBundles
    (.object [("controls", .list twoControls)]) hfound refused_writable
  have hreport := hcertify.trans hreport
  exact ⟨found, text, report, hfound, htext, hreport, hcovers report hreport⟩

/-! ## How far repairs go -/

section Bound

variable {controls : List Value} {office : Value} {report : OfficeReport}

/-- Only the controls of the table can pass. -/
theorem countP_isFulfilled_le (evidence : Value)
    (hids : (controls.map fun control ↦ fieldOf control "id").Nodup) :
    (controls.countP fun control ↦ IsFulfilled evidence control) ≤ 6 := by
  have hsubset : (controls.filter fun control ↦ IsFulfilled evidence control).map
      (fun control ↦ fieldOf control "id") ⊆
        runtimeRequirements.map fun entry ↦ Value.str entry.1 := by
    intro id hid
    obtain ⟨control, hcontrol, rfl⟩ := List.mem_map.mp hid
    obtain ⟨hprobes, -⟩ := of_decide_eq_true (List.mem_filter.mp hcontrol).2
    cases hfield : fieldOf control "id" with
    | str s =>
        rw [hfield, probesOf] at hprobes
        cases hlookup : runtimeRequirements.lookup s with
        | none =>
            rw [hlookup] at hprobes
            exact absurd rfl hprobes
        | some names =>
            obtain ⟨before, after, hsplit, -⟩ := List.lookup_eq_some_iff.mp hlookup
            exact List.mem_map.mpr ⟨(s, names), by rw [hsplit]; simp, rfl⟩
    | _ =>
        rw [hfield] at hprobes
        exact absurd rfl hprobes
  have hnodup := hids.sublist ((List.filter_sublist
    (p := fun control ↦ IsFulfilled evidence control)).map fun control ↦ fieldOf control "id")
  have hlength := (hnodup.subperm hsubset).length_le
  rw [List.length_map, ← List.countP_eq_length_filter] at hlength
  exact hlength

/-- Six passed controls are not many percent of more. -/
theorem round2_le_of_passes {passes total n : ℕ} (hpasses : passes ≤ 6) (hn : n < total) :
    round2 ((passes : ℚ) / total * 100) ≤ round2 (6 / (n + 1) * 100) := by
  refine round2_mono ?_
  have hpos : (0 : ℚ) < n + 1 := by positivity
  have htotal : (n : ℚ) + 1 ≤ total := by exact_mod_cast hn
  have hsix : (passes : ℚ) ≤ 6 := by exact_mod_cast hpasses
  gcongr

/-- Six controls can be proven.  If no two controls have one id, no more than six pass, an office
that passes was certified against no more than six, and one that does not fail against no more
than twenty. -/
theorem requirements_bound_certification
    (hids : (controls.map fun control ↦ fieldOf control "id").Nodup)
    (h : certifyOffice (.list controls) office = .ok report) :
    countOf .pass report.controls ≤ 6 ∧
      (report.certification = .pass → controls.length ≤ 6) ∧
      (report.certification ≠ .fail → controls.length ≤ 20) := by
  have hreported := reported_of_eq_ok h
  have hpasses := countP_isFulfilled_le (evidenceOf office) hids
  have hladder := certification_eq_ok hreported.certification
  rw [hreported.passPercent, scoreOf] at hladder
  have hbound {n : ℕ} (hn : n < controls.length) := round2_le_of_passes hpasses hn
  refine ⟨?_, fun hpass ↦ ?_, fun hfail ↦ ?_⟩
  · have hcount : (controls.countP fun control ↦ IsFulfilled (evidenceOf office) control) =
        countOf .pass report.controls := by
      refine countP_of_forall₂ (fun control result hgraded ↦ ?_) hreported.graded
      rw [decide_eq_true_iff, decide_eq_true_iff, hgraded.pass_iff]
    rwa [← hcount]
  · by_contra hmany
    have hlow := hbound (not_le.mp hmany)
    rcases hladder with ⟨-, hscore, -⟩ | ⟨-, ⟨-, -, hpartly⟩ | ⟨-, hfail⟩⟩
    · have hvalue : round2 (6 / ((6 : ℕ) + 1) * 100) < 95 := by decide +kernel
      linarith
    · cases hpass.symm.trans hpartly
    · cases hpass.symm.trans hfail
  · by_contra hmany
    have hlow := hbound (not_le.mp hmany)
    have hvalue : round2 (6 / ((20 : ℕ) + 1) * 100) < 30 := by decide +kernel
    rcases hladder with ⟨-, hscore, -⟩ | ⟨-, ⟨hscore, -, -⟩ | ⟨-, hfails⟩⟩
    · linarith
    · linarith
    · exact hfail hfails

/-- Of two controls, one is proven by the events. -/
theorem two_controls_are_few : ∃ report,
    certifyOffice (.list twoControls) (liveOffice "PROVEN") = .ok report ∧
      countOf .pass report.controls ≤ 6 := by
  have hview : (certifyOffice (.list twoControls) (liveOffice "PROVEN")).toOption.isSome = true := by
    decide +kernel
  obtain ⟨report, hreport⟩ := isSome_toOption.mp hview
  have hids : (twoControls.map fun control ↦ fieldOf control "id").Nodup := by
    simp [twoControls, describeControl, fieldOf, Value.object, PyDict.get, PyDict.get?, Value.isStr]
  exact ⟨report, hreport, (requirements_bound_certification hids hreport).1⟩

end Bound

end EstateMesh.Runtime
