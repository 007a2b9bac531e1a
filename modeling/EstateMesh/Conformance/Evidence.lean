import EstateMesh.Conformance.Certify

/-!
# The requirement as its own evidence

The tokens that all offices share contain those of the controls document, and
these contain the evidence that the controls ask for, unless it is a set, which
`flatten` does not go into.  So every item is found, and the gate passes every
control of every office (`status_of_certify`).  Its verdicts are those on the
baseline and the office alone only where nothing is missing from these in the
first place; of a set, the other tokens must not find the first item or the last
one that is missing (`sameVerdicts_iff`).
-/

namespace EstateMesh

open Lib

variable {py : Builtins}

/-! ## Tokens of parts -/

@[simp] theorem flatten_dict (path : String) (entries : PyDict) :
    flatten py path (.dict entries) = flattenEntries py path entries := by
  rw [flatten]

@[simp] theorem flatten_list (path : String) (xs : List Value) :
    flatten py path (.list xs) = flattenItems py path xs := by
  rw [flatten]

@[simp] theorem flatten_str (path s : String) : flatten py path (.str s) = {s} := by
  rw [flatten]

theorem flatten_subset_of_get? (py : Builtins) (path : String) {key : String} {entries : PyDict}
    {value : Value} (h : entries.get? key = some value) :
    ∃ name, flatten py name value ⊆ flattenEntries py path entries := by
  induction entries with
  | nil => cases h
  | cons entry entries ih =>
      obtain ⟨k, v⟩ := entry
      rw [PyDict.get?] at h
      rw [flattenEntries]
      split_ifs at h
      · obtain rfl := Option.some.inj h
        exact ⟨_, fun token htoken ↦
          Finset.mem_union_left _ (Finset.mem_union_right _ htoken)⟩
      · obtain ⟨name, hname⟩ := ih h
        exact ⟨name, fun token htoken ↦ Finset.mem_union_right _ (hname htoken)⟩

theorem mem_flattenEntries_of_key {path s : String} {entries : PyDict}
    (h : Value.str s ∈ entries.map Prod.fst) : s ∈ flattenEntries py path entries := by
  induction entries with
  | nil => cases h
  | cons entry entries ih =>
      obtain ⟨k, v⟩ := entry
      rw [flattenEntries]
      rcases List.mem_cons.mp h with rfl | h
      · refine Finset.mem_union_left _ (Finset.mem_union_left _ ?_)
        rw [py.str_str]
        exact Finset.mem_insert_self _ _
      · exact Finset.mem_union_right _ (ih h)

theorem str_mem_keys_of_get? {key : String} {entries : PyDict} {value : Value}
    (h : entries.get? key = some value) : Value.str key ∈ entries.map Prod.fst := by
  induction entries with
  | nil => cases h
  | cons entry entries ih =>
      obtain ⟨k, v⟩ := entry
      rw [PyDict.get?] at h
      rw [List.map_cons, List.mem_cons]
      split_ifs at h with hkey
      · cases k with
        | str s => exact .inl (by rw [of_decide_eq_true hkey])
        | _ => cases hkey
      · exact .inr (ih h)

theorem flatten_subset_of_mem (py : Builtins) (path : String) {xs : List Value} {x : Value}
    (h : x ∈ xs) : flatten py path x ⊆ flattenItems py path xs := by
  induction xs with
  | nil => cases h
  | cons y xs ih =>
      rw [flattenItems]
      rcases List.mem_cons.mp h with rfl | h
      · exact fun token htoken ↦ Finset.mem_union_left _ (Finset.mem_union_right _ htoken)
      · exact fun token htoken ↦ Finset.mem_union_right _ (ih h htoken)

/-- Whether `flatten` goes into what a value yields. -/
def Value.flattens : Value → Bool
  | .list _ | .str _ | .dict _ => true
  | _ => false

/-- What a value yields occurs in a token of the value. -/
theorem exists_token_of_iter (py : Builtins) (path : String) {s : String} {x : Value}
    {items : List Value} (hflattens : x.flattens = true) (h : x.iter = .ok items)
    (hs : .str s ∈ items) : ∃ token ∈ flatten py path x, s.toList <:+: token.toList := by
  cases x with
  | list xs =>
      cases h
      refine ⟨s, ?_, List.infix_refl _⟩
      rw [flatten_list]
      exact flatten_subset_of_mem py path hs (by simp)
  | str t =>
      cases h
      obtain ⟨c, hc, hcs⟩ := List.mem_map.mp hs
      refine ⟨t, by simp, ?_⟩
      obtain rfl : c.toString = s := Value.str.inj hcs
      obtain ⟨before, after, ht⟩ := List.append_of_mem hc
      rw [ht]
      exact ⟨before, after, by simp [Char.toString]⟩
  | dict entries =>
      cases h
      refine ⟨s, ?_, List.infix_refl _⟩
      rw [flatten_dict]
      exact mem_flattenEntries_of_key hs
  | _ => cases hflattens

/-! ## Evidence -/

theorem eq_of_str_eqv {s : String} {x : Value} (h : (Value.str s).eqv x = true) :
    x = .str s := by
  cases x with
  | str t => rw [of_decide_eq_true h]
  | _ => cases h

theorem str_eqv_self (s : String) : (Value.str s).eqv (.str s) = true := decide_eq_true rfl

/-- Only strings occur. -/
theorem exists_str_of_occurs {corpus : Finset String} {item : Value}
    (h : occurs corpus item = .ok true) : ∃ s, item = .str s := by
  cases item with
  | str s => exact ⟨s, rfl⟩
  | _ =>
      rw [occurs] at h
      · split_ifs at h
        cases h
      · rintro s ⟨⟩

/-- Only strings can be looked for in a token. -/
theorem exists_str_of_occurs_ok {corpus : Finset String} {token : String} (htoken : token ∈ corpus)
    {item : Value} {found : Bool} (h : occurs corpus item = .ok found) : ∃ s, item = .str s := by
  cases item with
  | str s => exact ⟨s, rfl⟩
  | _ =>
      rw [occurs] at h
      · rw [if_neg (fun hempty ↦ Finset.ne_empty_of_mem htoken hempty.2)] at h
        cases h
      · rintro s ⟨⟩

/-- What is found of the evidence. -/
theorem mem_reduceOption_found {corpus : Finset String} {required : List Value}
    {found : List (Option Value)}
    (h : (required.mapM fun item ↦ do
      return if ← occurs corpus item then some item else none) = .ok found) {x : Value} :
    x ∈ found.reduceOption ↔ x ∈ required ∧ occurs corpus x = .ok true := by
  rw [List.reduceOption_mem_iff, mem_of_mapM_eq_ok h]
  constructor
  · rintro ⟨item, hitem, hx⟩
    obtain ⟨occurring, hoccurs, hx⟩ := bind_eq_ok_iff.mp hx
    cases occurring with
    | false => cases hx
    | true =>
        cases hx
        exact ⟨hitem, hoccurs⟩
  · rintro ⟨hx, hoccurs⟩
    exact ⟨x, hx, by rw [hoccurs]; rfl⟩

/-- What is missing of the evidence, and what is present. -/
theorem evidenceStatus_eq_ok {required : List Value} {corpus : Finset String} {evidence : Evidence}
    (h : evidenceStatus required corpus = .ok evidence) :
    (evidence.missing = [] ↔ ∀ item ∈ required, occurs corpus item = .ok true) ∧
      (evidence.present = [] ↔ ¬ ∃ item ∈ required, occurs corpus item = .ok true) ∧
      evidence.status = if evidence.missing.isEmpty then .pass
        else if evidence.present.isEmpty then .fail else .partly := by
  obtain ⟨found, hfound, h⟩ := bind_eq_ok_iff.mp h
  cases h
  have hpresent := @mem_reduceOption_found corpus required found hfound
  refine ⟨?_, ?_, rfl⟩
  · rw [List.filter_eq_nil_iff]
    refine forall₂_congr fun item hitem ↦ ?_
    rw [Bool.not_eq_true, Bool.not_eq_false', List.any_eq_true]
    constructor
    · rintro ⟨x, hx, heqv⟩
      obtain ⟨-, hoccurs⟩ := hpresent.mp hx
      obtain ⟨s, rfl⟩ := exists_str_of_occurs hoccurs
      rw [eq_of_str_eqv heqv]
      exact hoccurs
    · intro hoccurs
      refine ⟨item, hpresent.mpr ⟨hitem, hoccurs⟩, ?_⟩
      obtain ⟨s, rfl⟩ := exists_str_of_occurs hoccurs
      exact str_eqv_self s
  · rw [List.eq_nil_iff_forall_not_mem, not_exists]
    exact forall_congr' fun item ↦ not_congr hpresent

/-- A control passes exactly if all of its evidence occurs. -/
theorem status_eq_pass_iff {required : List Value} {corpus : Finset String} {evidence : Evidence}
    (h : evidenceStatus required corpus = .ok evidence) :
    evidence.status = .pass ↔ ∀ item ∈ required, occurs corpus item = .ok true := by
  obtain ⟨hmissing, -, hstatus⟩ := evidenceStatus_eq_ok h
  rw [hstatus, ← hmissing, ← List.isEmpty_iff]
  split_ifs with hempty <;> simp [hempty]

/-- A control fails exactly if it asks for evidence and none of it occurs. -/
theorem status_eq_fail_iff {required : List Value} {corpus : Finset String} {evidence : Evidence}
    (h : evidenceStatus required corpus = .ok evidence) :
    evidence.status = .fail ↔
      required ≠ [] ∧ ¬ ∃ item ∈ required, occurs corpus item = .ok true := by
  obtain ⟨hmissing, hpresent, hstatus⟩ := evidenceStatus_eq_ok h
  have hfail : evidence.status = .fail ↔ evidence.missing ≠ [] ∧ evidence.present = [] := by
    rw [hstatus, ← List.isEmpty_iff, Ne, ← List.isEmpty_iff]
    split_ifs with hempty hnone
    · simp [hempty]
    · simp [hempty, hnone]
    · simp [hnone]
  rw [hfail, Ne, hmissing, hpresent]
  refine and_congr_left fun hnone ↦ not_congr ⟨fun hall ↦ ?_, ?_⟩
  · refine List.eq_nil_iff_forall_not_mem.mpr fun item hitem ↦ ?_
    exact hnone ⟨item, hitem, hall item hitem⟩
  · rintro rfl
    exact List.forall_mem_nil _

/-- Strings can be looked for. -/
theorem evidenceStatus_isOk {required : List Value} (h : ∀ item ∈ required, ∃ s, item = .str s)
    (corpus : Finset String) : ∃ evidence, evidenceStatus required corpus = .ok evidence := by
  refine bind_isOk_iff.mpr ?_
  obtain ⟨found, hfound⟩ := mapM_isOk (f := fun item ↦ do
    return if ← occurs corpus item then some item else none) fun item hitem ↦ by
      obtain ⟨s, rfl⟩ := h item hitem
      exact ⟨_, rfl⟩
  exact ⟨found, hfound, _, rfl⟩

/-- Tokens that decide about the evidence as more tokens do: they find an item of it, and
all of its items, if these do. -/
def Decides (required : List Value) (own all : Finset String) : Prop :=
  ((∃ item ∈ required, occurs all item = .ok true) →
    ∃ item ∈ required, occurs own item = .ok true) ∧
  ((∀ item ∈ required, occurs all item = .ok true) →
    ∀ item ∈ required, occurs own item = .ok true)

theorem occurs_mono {own all : Finset String} (hsub : own ⊆ all) {item : Value}
    (h : occurs own item = .ok true) : occurs all item = .ok true := by
  obtain ⟨s, rfl⟩ := exists_str_of_occurs h
  rcases of_decide_eq_true (Except.ok.inj h) with hs | ⟨token, htoken, hinfix⟩
  · exact congrArg Except.ok (decide_eq_true (.inl (hsub hs)))
  · exact congrArg Except.ok (decide_eq_true (.inr ⟨token, hsub htoken, hinfix⟩))

/-- The verdict stays the same exactly if the tokens decide about the evidence. -/
theorem status_eq_iff {required : List Value} {own all : Finset String} {evidence evidence' : Evidence}
    (hsub : own ⊆ all) (h : evidenceStatus required own = .ok evidence)
    (h' : evidenceStatus required all = .ok evidence') :
    evidence.status = evidence'.status ↔ Decides required own all := by
  have hall : (∀ item ∈ required, occurs own item = .ok true) →
      ∀ item ∈ required, occurs all item = .ok true :=
    fun hown item hitem ↦ occurs_mono hsub (hown item hitem)
  have hsome : (∃ item ∈ required, occurs own item = .ok true) →
      ∃ item ∈ required, occurs all item = .ok true :=
    fun ⟨item, hitem, hown⟩ ↦ ⟨item, hitem, occurs_mono hsub hown⟩
  rw [Verdict.eq_iff, status_eq_pass_iff h, status_eq_pass_iff h', status_eq_fail_iff h,
    status_eq_fail_iff h', Decides]
  constructor
  · rintro ⟨hpass, hfail⟩
    refine ⟨fun hfound ↦ ?_, hpass.mpr⟩
    have ⟨item, hitem, _⟩ := hfound
    by_contra hnone
    exact (hfail.mp ⟨List.ne_nil_of_mem hitem, hnone⟩).2 hfound
  · rintro ⟨hsome', hall'⟩
    exact ⟨⟨hall, hall'⟩, and_congr_right fun _ ↦ not_congr ⟨hsome, hsome'⟩⟩

/-! ## Controls -/

/-- The evidence of every control is found among some tokens: each of its items, or, if
more tokens do not contain its items, what these find of it. -/
def Declared (controls : Value) (own all : Finset String) : Prop :=
  ∀ list, controlsOf controls = .ok list → ∀ control ∈ list,
    ∀ evidence, control.getD "evidence" (.list []) = .ok evidence →
      ∀ required, evidence.iter = .ok required →
        if evidence.flattens then ∀ item ∈ required, occurs own item = .ok true
        else Decides required own all

theorem gradeControl_eq_ok {control : Value} {corpus : Finset String} {result : ControlResult}
    (h : gradeControl corpus control = .ok result) :
    ∃ required, requiredOf control = .ok required ∧
      evidenceStatus required corpus = .ok result.evidence ∧
      control.getItem "id" = .ok result.controlId ∧
      control.getD "severity" .none = .ok result.severity := by
  obtain ⟨required, hrequired, h⟩ := bind_eq_ok_iff.mp h
  obtain ⟨evidence, hevidence, h⟩ := bind_eq_ok_iff.mp h
  obtain ⟨controlId, hcontrolId, h⟩ := bind_eq_ok_iff.mp h
  obtain ⟨severity, hseverity, h⟩ := bind_eq_ok_iff.mp h
  cases h
  exact ⟨required, hrequired, hevidence, hcontrolId, hseverity⟩

theorem get?_of_getItem {x v : Value} {key : String} (h : x.getItem key = .ok v) :
    ∃ entries, x = .dict entries ∧ PyDict.get? key entries = some v := by
  cases x with
  | dict entries =>
      refine ⟨entries, rfl, ?_⟩
      cases hget : PyDict.get? key entries with
      | none =>
          rw [Value.getItem, hget] at h
          cases h
      | some w =>
          rw [Value.getItem, hget] at h
          rw [Except.ok.inj h]
  | _ => cases h

/-- The controls that the gate goes through are the items of a list. -/
theorem getItem_of_controlsOf {controls control : Value} {list : List Value}
    (h : controlsOf controls = .ok list) (hcontrol : control ∈ list) :
    controls.getItem "controls" = .ok (.list list) := by
  obtain ⟨x, hx, h⟩ := bind_eq_ok_iff.mp h
  rw [hx]
  cases x with
  | list xs =>
      cases h
      rfl
  | str s =>
      dsimp only at h
      split_ifs at h
      cases h
      cases hcontrol
  | dict entries =>
      dsimp only at h
      split_ifs at h
      cases h
      cases hcontrol
  | _ => cases h

/-- The tokens of the controls document contain the fields of its controls. -/
theorem flatten_subset_of_control (py : Builtins) {controls : Value} {list : List Value}
    {entries : PyDict} {key : String} {value : Value} (hlist : controlsOf controls = .ok list)
    (hcontrol : .dict entries ∈ list) (hvalue : PyDict.get? key entries = some value) :
    ∃ name, flatten py name value ⊆ flatten py "" controls := by
  obtain ⟨document, rfl, hdocument⟩ := get?_of_getItem (getItem_of_controlsOf hlist hcontrol)
  obtain ⟨name, hlistTokens⟩ := flatten_subset_of_get? py "" hdocument
  obtain ⟨name', hcontrolTokens⟩ := flatten_subset_of_get? py name hvalue
  have hitems := flatten_subset_of_mem py name hcontrol
  rw [flatten_list] at hlistTokens
  rw [flatten_dict] at hitems ⊢
  exact ⟨name', (hcontrolTokens.trans hitems).trans hlistTokens⟩

/-- The controls document declares the evidence that it asks for. -/
theorem exists_token_of_required (py : Builtins) {controls control evidence : Value}
    {list required : List Value} {s : String} (hlist : controlsOf controls = .ok list)
    (hcontrol : control ∈ list) (hevidence : control.getD "evidence" (.list []) = .ok evidence)
    (hflattens : evidence.flattens = true) (hiter : evidence.iter = .ok required)
    (hs : .str s ∈ required) : ∃ token ∈ flatten py "" controls, s.toList <:+: token.toList := by
  cases control with
  | dict entries =>
      obtain rfl : PyDict.getD entries "evidence" (.list []) = evidence := Except.ok.inj hevidence
      cases hget : PyDict.get? "evidence" entries with
      | none =>
          rw [PyDict.getD, hget] at hiter
          cases hiter
          cases hs
      | some evidence =>
          rw [PyDict.getD, hget] at hiter hflattens
          obtain ⟨name, hsub⟩ := flatten_subset_of_control py hlist hcontrol hget
          obtain ⟨token, htoken, hinfix⟩ := exists_token_of_iter py name hflattens hiter hs
          exact ⟨token, hsub htoken, hinfix⟩
  | _ => cases hevidence

/-! ## Offices -/

/-- Among tokens that contain those of the controls document, only strings can be looked
for. -/
theorem exists_str_of_graded {controls control : Value} {list required : List Value}
    {corpus : Finset String} {result : ControlResult} (hcorpus : flatten py "" controls ⊆ corpus)
    (hlist : controlsOf controls = .ok list) (hcontrol : control ∈ list)
    (hresult : gradeControl corpus control = .ok result)
    (hrequired : requiredOf control = .ok required) : ∀ item ∈ required, ∃ s, item = .str s := by
  intro item hitem
  obtain ⟨document, rfl, hdocument⟩ := get?_of_getItem (getItem_of_controlsOf hlist hcontrol)
  have htoken : "controls" ∈ corpus := by
    refine hcorpus ?_
    rw [flatten_dict]
    exact mem_flattenEntries_of_key (str_mem_keys_of_get? hdocument)
  obtain ⟨required', hrequired', hevidence, -⟩ := gradeControl_eq_ok hresult
  cases hrequired.symm.trans hrequired'
  obtain ⟨found, hfound, -⟩ := bind_eq_ok_iff.mp hevidence
  obtain ⟨outcome, houtcome⟩ := exists_of_mapM_eq_ok hfound item hitem
  obtain ⟨occurring, hoccurs, -⟩ := bind_eq_ok_iff.mp houtcome
  exact exists_str_of_occurs_ok htoken hoccurs

/-- Among these tokens all evidence occurs that `flatten` goes into. -/
theorem occurs_of_graded {controls control evidence : Value} {list required : List Value}
    {corpus : Finset String} {result : ControlResult} (hcorpus : flatten py "" controls ⊆ corpus)
    (hlist : controlsOf controls = .ok list) (hcontrol : control ∈ list)
    (hresult : gradeControl corpus control = .ok result)
    (hevidence : control.getD "evidence" (.list []) = .ok evidence)
    (hflattens : evidence.flattens = true) (hiter : evidence.iter = .ok required) :
    ∀ item ∈ required, occurs corpus item = .ok true := by
  intro item hitem
  have hrequired : requiredOf control = .ok required :=
    bind_eq_ok_iff.mpr ⟨evidence, hevidence, hiter⟩
  obtain ⟨s, rfl⟩ := exists_str_of_graded hcorpus hlist hcontrol hresult hrequired item hitem
  obtain ⟨token, hmem, hinfix⟩ :=
    exists_token_of_required py hlist hcontrol hevidence hflattens hiter hitem
  exact congrArg Except.ok (decide_eq_true (.inr ⟨token, hcorpus hmem, hinfix⟩))

/-- Among fewer tokens a control can be graded as well, and the verdict stays the same
exactly if the fewer tokens decide about its evidence. -/
theorem gradeControl_iff_decides {controls control : Value} {list required : List Value}
    {own all : Finset String} {result : ControlResult} (hsub : own ⊆ all)
    (hall : flatten py "" controls ⊆ all) (hlist : controlsOf controls = .ok list)
    (hcontrol : control ∈ list) (hresult : gradeControl all control = .ok result)
    (hrequired : requiredOf control = .ok required) :
    ∃ result', gradeControl own control = .ok result' ∧ result'.severity = result.severity ∧
      (result'.evidence.status = result.evidence.status ↔ Decides required own all) := by
  obtain ⟨required', hrequired', hevidence, hcontrolId, hseverity⟩ := gradeControl_eq_ok hresult
  cases hrequired.symm.trans hrequired'
  obtain ⟨evidence, hown⟩ := evidenceStatus_isOk
    (exists_str_of_graded hall hlist hcontrol hresult hrequired) own
  refine ⟨⟨result.controlId, result.severity, evidence⟩, ?_, rfl, status_eq_iff hsub hown hevidence⟩
  rw [gradeControl, hrequired, ok_bind, hown, ok_bind, hcontrolId, ok_bind, hseverity, ok_bind]
  rfl

/-- The tokens decide about the evidence of a control exactly if it is declared. -/
theorem decides_iff {required : List Value} {own all : Finset String}
    (hall : ∀ item ∈ required, occurs all item = .ok true) :
    Decides required own all ↔ ∀ item ∈ required, occurs own item = .ok true :=
  ⟨fun h ↦ h.2 hall, fun h ↦ ⟨fun ⟨item, hitem, _⟩ ↦ ⟨item, hitem, h item hitem⟩, fun _ ↦ h⟩⟩

theorem tokensOf_eq_ok {document : Value} {tokens : Finset String}
    (h : tokensOf py document = .ok tokens) : tokens = flatten py "" document := by
  rw [tokensOf] at h
  split_ifs at h
  exact (Except.ok.inj h).symm

/-- What the report on an office says of the controls. -/
theorem certifyOffice_eq_ok {controls office : Value} {common : Finset String}
    {report : OfficeReport} (h : certifyOffice py controls common office = .ok report) :
    ∃ list, controlsOf controls = .ok list ∧
      list.mapM (gradeControl (common ∪ flatten py "" office)) = .ok report.controls := by
  obtain ⟨officeId, -, h⟩ := bind_eq_ok_iff.mp h
  obtain ⟨tokens, htokens, h⟩ := bind_eq_ok_iff.mp h
  obtain rfl := tokensOf_eq_ok (eq_ok_of_mapError htokens)
  obtain ⟨results, hresults, h⟩ := bind_eq_ok_iff.mp h
  obtain ⟨list, hlist, hresults⟩ := bind_eq_ok_iff.mp (eq_ok_of_mapError hresults)
  split_ifs at h
  · cases h
  · obtain ⟨verdict, -, h⟩ := bind_eq_ok_iff.mp h
    obtain ⟨chatbotId, -, h⟩ := bind_eq_ok_iff.mp h
    obtain ⟨roleId, -, h⟩ := bind_eq_ok_iff.mp h
    cases h
    exact ⟨list, hlist, hresults⟩

/-- Two reports on an office agree on the status of every control and on the
certification. -/
def SameVerdicts (alone reported : OfficeReport) : Prop :=
  alone.controls.map (·.evidence.status) = reported.controls.map (·.evidence.status) ∧
    alone.certification = reported.certification

/-- The certification of an office depends on the verdicts and the severities. -/
theorem certifyOffice_of_verdicts {controls office : Value} {common common' : Finset String}
    {report : OfficeReport} {list : List Value} {results : List ControlResult}
    (h : certifyOffice py controls common office = .ok report)
    (hlist : controlsOf controls = .ok list)
    (hresults : list.mapM (gradeControl (common' ∪ flatten py "" office)) = .ok results)
    (hsame : List.Forall₂ (fun alone reported ↦ alone.severity = reported.severity ∧
      alone.evidence.status = reported.evidence.status) results report.controls) :
    ∃ alone, certifyOffice py controls common' office = .ok alone ∧ SameVerdicts alone report := by
  obtain ⟨officeId, hofficeId, h⟩ := bind_eq_ok_iff.mp h
  obtain ⟨tokens, htokens, h⟩ := bind_eq_ok_iff.mp h
  obtain rfl := tokensOf_eq_ok (eq_ok_of_mapError htokens)
  obtain ⟨reported, hreported, h⟩ := bind_eq_ok_iff.mp h
  split_ifs at h with hempty
  · cases h
  · obtain ⟨verdict, hverdict, h⟩ := bind_eq_ok_iff.mp h
    obtain ⟨chatbotId, hchatbotId, h⟩ := bind_eq_ok_iff.mp h
    obtain ⟨roleId, hroleId, h⟩ := bind_eq_ok_iff.mp h
    cases h
    have hcount : countOf .pass results = countOf .pass reported :=
      countP_of_forall₂ (fun alone reported hsame ↦ by rw [hsame.2]) hsame
    have hfailures (severity : String) :
        failuresOf severity results = failuresOf severity reported :=
      countP_of_forall₂ (fun alone reported hsame ↦ by rw [hsame.1, hsame.2]) hsame
    refine ⟨⟨officeId, chatbotId, roleId, verdict,
      round2 ((countOf .pass reported : ℚ) / reported.length * 100), results⟩, ?_, ?_, rfl⟩
    · rw [certifyOffice, hofficeId, ok_bind, htokens, ok_bind]
      dsimp only
      rw [hlist, ok_bind, hresults, orRaise, Except.mapError, ok_bind, hsame.length_eq,
        if_neg hempty, hcount, hfailures, hfailures, hverdict, ok_bind, hchatbotId, ok_bind,
        hroleId, ok_bind]
      rfl
    · exact List.forall₂_eq_eq_eq ▸ (List.forall₂_map_left_iff.mpr
        (List.forall₂_map_right_iff.mpr (hsame.imp fun _ _ h ↦ h.2)))

section Reported

variable {controls office : Value} {common : Finset String} {reported : OfficeReport}
  {list : List Value}

/-- A report has the verdicts of a report without the tokens of the controls document exactly if
the other tokens decide about the evidence. -/
theorem sameVerdicts_iff_decides
    (h : certifyOffice py controls (common ∪ flatten py "" controls) office = .ok reported)
    (hlist : controlsOf controls = .ok list) :
    (∃ alone, certifyOffice py controls common office = .ok alone ∧ SameVerdicts alone reported) ↔
      ∀ control ∈ list, ∀ required, requiredOf control = .ok required →
        Decides required (common ∪ flatten py "" office)
          (common ∪ flatten py "" controls ∪ flatten py "" office) := by
  obtain ⟨list', hlist', hresults⟩ := certifyOffice_eq_ok h
  cases hlist.symm.trans hlist'
  have hall : flatten py "" controls ⊆ common ∪ flatten py "" controls ∪ flatten py "" office :=
    Finset.subset_union_right.trans Finset.subset_union_left
  have hsub : common ∪ flatten py "" office ⊆
      common ∪ flatten py "" controls ∪ flatten py "" office :=
    Finset.union_subset_union_left Finset.subset_union_left
  constructor
  · rintro ⟨alone, halone, hstatus, -⟩ control hcontrol required hrequired
    obtain ⟨list', hlist', hresults'⟩ := certifyOffice_eq_ok halone
    cases hlist.symm.trans hlist'
    obtain ⟨result, result', hresult, hresult', hsame⟩ := exists_of_map_eq
      (forall₂_of_mapM_eq_ok hresults') (forall₂_of_mapM_eq_ok hresults) hstatus control hcontrol
    obtain ⟨result'', hresult'', -, hiff⟩ :=
      gradeControl_iff_decides hsub hall hlist hcontrol hresult' hrequired
    cases hresult.symm.trans hresult''
    exact hiff.mp hsame
  · intro hdecides
    have hgraded : ∀ control ∈ list, ∀ result,
        gradeControl (common ∪ flatten py "" controls ∪ flatten py "" office) control =
          .ok result →
        ∃ result', gradeControl (common ∪ flatten py "" office) control = .ok result' ∧
          result'.severity = result.severity ∧
          result'.evidence.status = result.evidence.status := by
      intro control hcontrol result hresult
      obtain ⟨required, hrequired, -⟩ := gradeControl_eq_ok hresult
      obtain ⟨result', hresult', hseverity, hiff⟩ :=
        gradeControl_iff_decides hsub hall hlist hcontrol hresult hrequired
      exact ⟨result', hresult', hseverity, hiff.mpr (hdecides control hcontrol required hrequired)⟩
    obtain ⟨results, hmapM, hsame⟩ := exists_mapM_of_mapM hgraded hresults
    exact certifyOffice_of_verdicts h hlist hmapM hsame

/-- A report with the tokens of the controls document among the shared ones has the
verdicts of the report without them exactly if all evidence is declared without them. -/
theorem sameVerdicts_iff
    (h : certifyOffice py controls (common ∪ flatten py "" controls) office = .ok reported) :
    (∃ alone, certifyOffice py controls common office = .ok alone ∧ SameVerdicts alone reported) ↔
      Declared controls (common ∪ flatten py "" office)
        (common ∪ flatten py "" controls ∪ flatten py "" office) := by
  obtain ⟨list, hlist, hresults⟩ := certifyOffice_eq_ok h
  have hall : flatten py "" controls ⊆ common ∪ flatten py "" controls ∪ flatten py "" office :=
    Finset.subset_union_right.trans Finset.subset_union_left
  rw [sameVerdicts_iff_decides h hlist]
  constructor
  · intro hdecides list' hlist' control hcontrol evidence hevidence required hiter
    cases hlist.symm.trans hlist'
    have hrequired := bind_eq_ok_iff.mpr ⟨evidence, hevidence, hiter⟩
    have hdecides := hdecides control hcontrol required hrequired
    obtain ⟨result, hresult⟩ := exists_of_mapM_eq_ok hresults control hcontrol
    split_ifs with hflattens
    · have hfound := occurs_of_graded hall hlist hcontrol hresult hevidence hflattens hiter
      exact (decides_iff hfound).mp hdecides
    · exact hdecides
  · intro hdeclared control hcontrol required hrequired
    obtain ⟨evidence, hevidence, hiter⟩ := bind_eq_ok_iff.mp hrequired
    obtain ⟨result, hresult⟩ := exists_of_mapM_eq_ok hresults control hcontrol
    have hdeclared := hdeclared list hlist control hcontrol evidence hevidence required hiter
    split_ifs at hdeclared with hflattens
    · have hfound := occurs_of_graded hall hlist hcontrol hresult hevidence hflattens hiter
      exact (decides_iff hfound).mpr hdeclared
    · exact hdeclared

end Reported

/-! ## The gate -/

theorem certify_eq_ok {controls baseline manifest : Value} {bundles : List Value}
    {report : CertificationReport} (hbundles : normalizeBundles manifest = .ok bundles)
    (h : certify py controls baseline manifest = .ok report) :
    bundles.mapM (certifyOffice py controls (flatten py "" baseline ∪ flatten py "" controls)) =
      .ok report.offices := by
  rw [certify, hbundles] at h
  obtain ⟨bundles', hbundles', h⟩ := bind_eq_ok_iff.mp h
  cases hbundles'
  split_ifs at h
  · cases h
  · obtain ⟨tokens, htokens, h⟩ := bind_eq_ok_iff.mp h
    obtain rfl := tokensOf_eq_ok (eq_ok_of_mapError htokens)
    obtain ⟨tokens, htokens, h⟩ := bind_eq_ok_iff.mp h
    obtain rfl := tokensOf_eq_ok (eq_ok_of_mapError htokens)
    obtain ⟨offices, hoffices, h⟩ := bind_eq_ok_iff.mp h
    obtain ⟨list, -, h⟩ := bind_eq_ok_iff.mp h
    cases h
    exact hoffices

/-- The gate passes every control of every office, except those whose evidence is a set. -/
theorem status_of_certify {controls baseline manifest : Value} {report : CertificationReport}
    (hflattens : ∀ list, controlsOf controls = .ok list → ∀ control ∈ list,
      ∀ evidence, control.getD "evidence" (.list []) = .ok evidence → evidence.flattens = true)
    (h : certify py controls baseline manifest = .ok report) :
    ∀ office ∈ report.offices, ∀ result ∈ office.controls, result.evidence.status = .pass := by
  intro reported hreported result hmem
  obtain ⟨bundles, hbundles, -⟩ := bind_eq_ok_iff.mp h
  have hoffices := certify_eq_ok (eq_ok_of_mapError hbundles) h
  obtain ⟨office, -, hoffice⟩ := (mem_of_mapM_eq_ok hoffices).mp hreported
  obtain ⟨list, hlist, hresults⟩ := certifyOffice_eq_ok hoffice
  obtain ⟨control, hcontrol, hresult⟩ := (mem_of_mapM_eq_ok hresults).mp hmem
  obtain ⟨required, hrequired, hstatus, -⟩ := gradeControl_eq_ok hresult
  obtain ⟨evidence, hevidence, hiter⟩ := bind_eq_ok_iff.mp hrequired
  exact (status_eq_pass_iff hstatus).mpr (occurs_of_graded
    (Finset.subset_union_right.trans Finset.subset_union_left) hlist hcontrol hresult hevidence
    (hflattens list hlist control hcontrol evidence hevidence) hiter)

/-- Every verdict of a report is the one on the tokens of the baseline and the office
alone. -/
def VerdictsAlone (py : Builtins) (controls baseline : Value) (bundles : List Value)
    (report : CertificationReport) : Prop :=
  List.Forall₂ (fun office reported ↦ ∃ alone,
    certifyOffice py controls (flatten py "" baseline) office = .ok alone ∧
      SameVerdicts alone reported) bundles report.offices

/-- The verdicts of the gate are those on the baseline and the office alone exactly if
each of the offices, together with the baseline, declares all of the evidence. -/
theorem verdictsAlone_iff {controls baseline manifest : Value} {bundles : List Value}
    {report : CertificationReport} (hbundles : normalizeBundles manifest = .ok bundles)
    (h : certify py controls baseline manifest = .ok report) :
    VerdictsAlone py controls baseline bundles report ↔
      ∀ office ∈ bundles, Declared controls (flatten py "" baseline ∪ flatten py "" office)
        (flatten py "" baseline ∪ flatten py "" controls ∪ flatten py "" office) := by
  have hreports := forall₂_of_mapM_eq_ok (certify_eq_ok hbundles h)
  constructor
  · intro hsame
    have hdeclared : List.Forall₂ (fun office reported ↦
        Declared controls (flatten py "" baseline ∪ flatten py "" office)
            (flatten py "" baseline ∪ flatten py "" controls ∪ flatten py "" office) ∧
          certifyOffice py controls (flatten py "" baseline ∪ flatten py "" controls) office =
            .ok reported) bundles report.offices :=
      List.Forall₂.mp
        (fun _ _ hsame hoffice ↦ ⟨(sameVerdicts_iff hoffice).mp hsame, hoffice⟩) hsame hreports
    exact ((List.forall₂_and_left _ _).mp hdeclared).1
  · intro hdeclared
    have hboth := (List.forall₂_and_left _ _).mpr ⟨hdeclared, hreports⟩
    exact hboth.imp fun _ _ h ↦ (sameVerdicts_iff h.2).mpr h.1

/-! ## An office that declares nothing -/

/-- A critical control, and the thresholds of the gate. -/
def identityControls : Value :=
  .object
    [("controls", .list [.object [("id", .str "ID-01"), ("severity", .str "critical"),
      ("evidence", .list [.str "service_identity"])]]),
    ("certification", .object [("pass", .object [("minimum_pass_percent", .int 95)]),
      ("partial", .object [("minimum_pass_percent", .int 70)])])]

/-- The offices of a manifest, all with the same bundle. -/
def officesOf (bundle : Value) : List Value := List.replicate 82 bundle

/-- Offices that declare the evidence. -/
def declaringOffices : List Value :=
  officesOf (.object [("workload_identity", .str "service_identity")])

theorem declaringOffices_verdictsAlone_iff :
    ∃ report, certify default identityControls (.object []) (.list declaringOffices) =
        .ok report ∧
      (VerdictsAlone default identityControls (.object []) declaringOffices report ↔
        ∀ office ∈ declaringOffices, Declared identityControls
          (flatten default "" (.object []) ∪ flatten default "" office)
          (flatten default "" (.object []) ∪ flatten default "" identityControls ∪
            flatten default "" office)) := by
  have hreport : (certify default identityControls (.object [])
      (.list declaringOffices)).toOption.isSome = true := by decide +kernel
  obtain ⟨report, hok⟩ := Option.isSome_iff_exists.mp hreport
  have hcertify := eq_ok_of_toOption hok
  exact ⟨report, hcertify, verdictsAlone_iff rfl hcertify⟩

/-- Nothing declares the evidence, and the gate finds it. -/
theorem nothing_declared_passes :
    ∃ report, certify default identityControls (.object []) (.list (officesOf (.object []))) =
        .ok report ∧
      (∀ office ∈ report.offices, office.certification = .pass) ∧
      ¬ VerdictsAlone default identityControls (.object []) (officesOf (.object [])) report := by
  have hreport : ((certify default identityControls (.object [])
      (.list (officesOf (.object [])))).toOption.map fun report ↦
        report.offices.map fun office ↦
          (office.certification, office.controls.map (·.evidence.status))) =
      some (List.replicate 82 (.pass, [.pass])) := by decide +kernel
  have halone : ((certifyOffice default identityControls (flatten default "" (.object []))
      (.object [])).toOption.map fun office ↦ office.controls.map (·.evidence.status)) =
      some [.fail] := by decide +kernel
  obtain ⟨report, hok, hview⟩ := Option.map_eq_some_iff.mp hreport
  obtain ⟨alone, halone, hfail⟩ := Option.map_eq_some_iff.mp halone
  have hpass (office) (hoffice : office ∈ report.offices) :
      office.certification = .pass ∧ office.controls.map (·.evidence.status) = [.pass] := by
    have hmem := List.mem_map_of_mem (f := fun office : OfficeReport ↦
      (office.certification, office.controls.map (·.evidence.status))) hoffice
    rw [hview] at hmem
    exact Prod.mk.inj (List.eq_of_mem_replicate hmem)
  refine ⟨report, eq_ok_of_toOption hok, fun office hoffice ↦ (hpass office hoffice).1, ?_⟩
  intro hsame
  obtain ⟨reported, rest, ⟨alone', halone', hstatus, -⟩, -, hoffices⟩ :=
    List.forall₂_cons_left_iff.mp hsame
  cases (eq_ok_of_toOption halone).symm.trans halone'
  rw [hfail, (hpass reported (by rw [hoffices]; exact List.mem_cons_self)).2] at hstatus
  cases hstatus

end EstateMesh
