import EstateMesh.Mesh.Admission

/-!
# Circuits that capabilities share

A circuit belongs to a service, and the policies belong to the capabilities.  A
call turns the circuit by its own policy: it opens it at its own threshold, and
makes it half-open after its own window.  The next call, for another capability,
finds a circuit that says nothing about its own threshold and window.

`Ledger` is what the policies are about: how often a service failed since it last
succeeded or was reset, and when its circuit was last opened since then.  The
calls honour the policies of their capabilities with respect to the ledger as long
as the circuit is not opened, and not made half-open, too early for any capability
that uses the service (`policies_honoured`).
-/

namespace EstateMesh

open Lib Prog EventLoop Machine

/-! ## What a step does to a circuit -/

/-- What is done to the circuit of a service. -/
inductive CircuitEvent
  | checked (now : ℚ) (policy : MeshPolicy)
  | failed (now : ℚ) (policy : MeshPolicy)
  | /-- A success, or a reset by an operator. -/ cleared

/-- The entry of a service after an event, if there is one. -/
def CircuitState.after (c : CircuitState) : Option CircuitEvent → CircuitState
  | some (.checked now policy) => c.checked now policy
  | some (.failed now policy) => c.failed now policy
  | some .cleared => {}
  | none => c

/-- A failure takes the branch that opens the circuit. -/
def CircuitState.opensOn (c : CircuitState) (policy : MeshPolicy) : Bool :=
  c.state = .halfOpen ∨ policy.circuitFailureThreshold ≤ c.failures + 1

/-- What an operation does to the circuit of a service. -/
def MeshOp.circuitEvent (s : ServiceKey) (now : ℚ) : MeshOp → Option CircuitEvent
  | .canAttempt s' policy => if s' = s then some (.checked now policy) else none
  | .failure s' policy => if s' = s then some (.failed now policy) else none
  | .success s' => if s' = s then some .cleared else none
  | _ => none

/-- What a step of the loop does to the circuit of a service. -/
def circuitEvent (s : ServiceKey) (L : MeshLoop) : MeshLabel → Option CircuitEvent
  | .step host => (nextOp L).bind fun x ↦ x.2.circuitEvent s host.monotonic
  | .act (.reset s') => if s' = s then some .cleared else none
  | _ => none

theorem stateOf_perform (host : Host) (state : MeshState) (o : MeshOp) (s : ServiceKey) :
    (MeshEngine.perform host state o).2.circuits.stateOf s =
      (state.circuits.stateOf s).after (o.circuitEvent s host.monotonic) := by
  cases o with
  | canAttempt s' policy =>
      simp only [MeshEngine.perform, MeshOp.circuitEvent, CircuitBreaker.stateOf_canAttempt]
      rcases eq_or_ne s' s with rfl | e
      · simp [CircuitState.after]
      · simp [CircuitState.after, e, e.symm]
  | failure s' policy =>
      simp only [MeshEngine.perform, MeshOp.circuitEvent, CircuitBreaker.stateOf_failure]
      rcases eq_or_ne s' s with rfl | e
      · simp [CircuitState.after]
      · simp [CircuitState.after, e, e.symm]
  | success s' =>
      simp only [MeshEngine.perform, MeshOp.circuitEvent, CircuitBreaker.stateOf_success]
      rcases eq_or_ne s' s with rfl | e
      · simp [CircuitState.after]
      · simp [CircuitState.after, e, e.symm]
  | _ => rfl

/-- The entry of a service after a step. -/
theorem stateOf_step {py : Builtins} {cfg : MeshConfig} {L L' : MeshLoop} {l : MeshLabel}
    (h : meshStep py cfg L l = some L') (s : ServiceKey) :
    L'.shared.circuits.stateOf s = (L.shared.circuits.stateOf s).after (circuitEvent s L l) := by
  cases l with
  | spawn c =>
      obtain ⟨-, rfl⟩ := step_spawn h
      rfl
  | act x =>
      obtain ⟨-, rfl⟩ := step_act h
      obtain ⟨s'⟩ := x
      simp only [circuitEvent, MeshAct.effect, CircuitBreaker.stateOf_reset]
      rcases eq_or_ne s' s with rfl | e
      · simp [CircuitState.after]
      · simp [CircuitState.after, e, e.symm]
  | deliver i host =>
      obtain ⟨-, c, o, k, -, ho, rfl⟩ := step_deliver h
      cases o with
      | registry _ _ => rfl
      | publish _ _ => rfl
      | upstream _ _ => rfl
      | _ => cases ho
  | step host =>
      obtain ⟨i, c, p, hcurrent, htask, ⟨hend, rfl⟩ | ⟨o, k, rfl, hop⟩⟩ := step_step h
      · have hnext : nextOp L = none := by
          rw [nextOp, hcurrent, Option.bind_some, htask]
          cases p with
          | ret a => rfl
          | raise e => rfl
          | op o k => exact absurd rfl (hend o k)
        rw [circuitEvent, hnext]
        rfl
      · have hnext : nextOp L = some (c, o) := by
          rw [nextOp, hcurrent, Option.bind_some, htask]
        rw [circuitEvent, hnext]
        rcases hop with ⟨ho, rfl⟩ | ⟨ho, rfl⟩
        · cases o with
          | registry _ _ => rfl
          | publish _ _ => rfl
          | upstream _ _ => rfl
          | _ => cases ho
        · exact stateOf_perform host L.shared o s

/-! ## What was recorded of a service -/

/-- What the policies are about. -/
structure Ledger where
  /-- The failures since the last success or reset. -/
  failures : ℕ := 0
  /-- When the circuit was last opened since then. -/
  openedAt : Option ℚ := none

/-- The ledger after an event on a circuit. -/
def Ledger.next (g : Ledger) (c : CircuitState) : Option CircuitEvent → Ledger
  | some (.failed now policy) =>
      ⟨g.failures + 1, if c.opensOn policy = true then some now else g.openedAt⟩
  | some .cleared => {}
  | _ => g

/-- The ledger of a service after some steps of the loop. -/
def ledger (s : ServiceKey) (steps : List (MeshLoop × MeshLabel)) : Ledger :=
  steps.foldl (fun g x ↦ g.next (x.1.shared.circuits.stateOf s) (circuitEvent s x.1 x.2)) {}

/-- The reading of the monotonic clock at a step. -/
def reading : MeshLabel → Option ℚ
  | .step host | .deliver _ host => some host.monotonic
  | _ => none

/-- The monotonic clock does not go back. -/
def ClockForward (labels : List MeshLabel) : Prop :=
  (labels.filterMap reading).Pairwise (· ≤ ·)

/-- The capability a call is for. -/
def MeshCall.capabilityId : MeshCall → String
  | .resolve request => request.capabilityId
  | .invoke request => request.capabilityId

/-- A step after some others honours the policy of the capability that it is taken for. -/
structure Honours (policyOf : String → MeshPolicy) (s : ServiceKey)
    (pre : List (MeshLoop × MeshLabel)) (x : MeshLoop × MeshLabel) : Prop where
  /-- The service is passed over for its failures. -/
  skips : ∀ call policy host, x.2 = .step host → nextOp x.1 = some (call, .canAttempt s policy) →
    (x.1.shared.circuits.stateOf s).admits host.monotonic policy = false →
    (policyOf call.capabilityId).circuitFailureThreshold ≤ (ledger s pre).failures
  /-- A request is sent to it only after the window. -/
  sends : ∀ call outgoing host, x.2 = .step host → nextOp x.1 = some (call, .upstream s outgoing) →
    ∀ t, (ledger s pre).openedAt = some t →
      ((policyOf call.capabilityId).recoverySeconds : ℚ) ≤ host.monotonic - t

/-- Every step of a run honours the policies. -/
def PoliciesHonoured (policyOf : String → MeshPolicy) (s : ServiceKey)
    (steps : List (MeshLoop × MeshLabel)) : Prop :=
  ∀ pre x suf, steps = pre ++ x :: suf → Honours policyOf s pre x

/-! ## Turns that are too early -/

section Keeps

variable (policyOf : String → MeshPolicy) (capabilities : List String) (s : ServiceKey)

/-- The service is used for some capabilities only. -/
def usedFor (L : MeshLoop) : Bool :=
  match nextOp L with
  | some (call, .canAttempt s' _) | some (call, .upstream s' _) =>
      s' ≠ s ∨ call.capabilityId ∈ capabilities
  | _ => true

/-- The step opens the circuit below the threshold of a capability, or makes it
half-open within the window of one. -/
def turnsEarly (L : MeshLoop) (l : MeshLabel) : Bool :=
  let c := L.shared.circuits.stateOf s
  match circuitEvent s L l with
  | some (.failed _ policy) => c.opensOn policy ∧
      ∃ capability ∈ capabilities, c.failures + 1 < (policyOf capability).circuitFailureThreshold
  | some (.checked now policy) => c.state = .opened ∧ c.admits now policy ∧
      ∃ capability ∈ capabilities, ∃ t ∈ c.openedAt,
        now - t < ((policyOf capability).recoverySeconds : ℚ)
  | _ => false

/-- What the entry of a service and its ledger say to the capabilities that use it. -/
structure Ledgered (c : CircuitState) (pre : List (MeshLoop × MeshLabel)) : Prop where
  failures : (ledger s pre).failures = c.failures
  openedAt : (ledger s pre).openedAt = c.openedAt
  closed : c.state = .closed → c.openedAt = none
  /-- An open circuit has the failures that every capability asks for. -/
  opened : c.state = .opened → ∀ capability ∈ capabilities,
    (policyOf capability).circuitFailureThreshold ≤ c.failures
  /-- A half-open one was checked after the window of every capability. -/
  halfOpen : c.state = .halfOpen → ∀ t, c.openedAt = some t →
    ∃ now ∈ pre.filterMap fun x ↦ reading x.2, ∀ capability ∈ capabilities,
      ((policyOf capability).recoverySeconds : ℚ) ≤ now - t

variable {policyOf capabilities s}

theorem ledger_append (pre : List (MeshLoop × MeshLabel)) (x : MeshLoop × MeshLabel) :
    ledger s (pre ++ [x]) =
      (ledger s pre).next (x.1.shared.circuits.stateOf s) (circuitEvent s x.1 x.2) := by
  rw [ledger, List.foldl_append]
  rfl

/-- A circuit is checked at the reading of the step. -/
theorem reading_of_checked {L : MeshLoop} {l : MeshLabel} {now : ℚ} {policy : MeshPolicy}
    (h : circuitEvent s L l = some (.checked now policy)) : reading l = some now := by
  cases l with
  | step host =>
      obtain ⟨⟨call, o⟩, -, ho⟩ := Option.bind_eq_some_iff.mp h
      cases o with
      | canAttempt s' policy' =>
          simp only [MeshOp.circuitEvent] at ho
          split at ho
          · cases ho
            rfl
          · cases ho
      | failure s' policy' =>
          simp only [MeshOp.circuitEvent] at ho
          split at ho <;> cases ho
      | success s' =>
          simp only [MeshOp.circuitEvent] at ho
          split at ho <;> cases ho
      | _ => cases ho
  | act x =>
      obtain ⟨s'⟩ := x
      simp only [circuitEvent] at h
      split at h <;> cases h
  | _ => cases h

/-- A later step has no other readings to look at. -/
theorem Ledgered.extend {c : CircuitState} {pre : List (MeshLoop × MeshLabel)}
    (h : Ledgered policyOf capabilities s c pre) {x : MeshLoop × MeshLabel}
    (hledger : ledger s (pre ++ [x]) = ledger s pre) :
    Ledgered policyOf capabilities s c (pre ++ [x]) where
  failures := hledger ▸ h.failures
  openedAt := hledger ▸ h.openedAt
  closed := h.closed
  opened := h.opened
  halfOpen hc t ht := by
    obtain ⟨now, hmem, hnow⟩ := h.halfOpen hc t ht
    refine ⟨now, ?_, hnow⟩
    rw [List.filterMap_append]
    exact List.mem_append_left _ hmem

theorem Ledgered.checked {c : CircuitState} {pre : List (MeshLoop × MeshLabel)}
    (h : Ledgered policyOf capabilities s c pre) {x : MeshLoop × MeshLabel} {now : ℚ}
    {policy : MeshPolicy} (hledger : ledger s (pre ++ [x]) = ledger s pre)
    (hreading : reading x.2 = some now)
    (hlate : c.state = .opened → c.admits now policy = true → ∀ capability ∈ capabilities,
      ∀ t ∈ c.openedAt, ((policyOf capability).recoverySeconds : ℚ) ≤ now - t) :
    Ledgered policyOf capabilities s (c.checked now policy) (pre ++ [x]) := by
  unfold CircuitState.checked
  split
  · rename_i hopened
    refine ⟨hledger ▸ h.failures, hledger ▸ h.openedAt, by rintro ⟨⟩, by rintro ⟨⟩, fun _ t ht ↦ ?_⟩
    refine ⟨now, ?_, fun capability hc ↦ hlate hopened.1 hopened.2 capability hc t ht⟩
    rw [List.filterMap_append]
    exact List.mem_append_right _ (List.mem_filterMap.mpr ⟨x, List.mem_singleton_self x, hreading⟩)
  · exact h.extend hledger

theorem Ledgered.failed {c : CircuitState} {pre : List (MeshLoop × MeshLabel)}
    (h : Ledgered policyOf capabilities s c pre) {x : MeshLoop × MeshLabel} {now : ℚ}
    {policy : MeshPolicy}
    (hledger : ledger s (pre ++ [x]) = (ledger s pre).next c (some (.failed now policy)))
    (hreached : c.opensOn policy = true → ∀ capability ∈ capabilities,
      (policyOf capability).circuitFailureThreshold ≤ c.failures + 1) :
    Ledgered policyOf capabilities s (c.failed now policy) (pre ++ [x]) := by
  have hopens : c.opensOn policy = true ↔
      (c.state = .halfOpen ∨ policy.circuitFailureThreshold ≤ c.failures + 1) := decide_eq_true_iff
  unfold CircuitState.failed
  split
  · rename_i ho
    rw [Ledger.next, if_pos (hopens.mpr ho), h.failures] at hledger
    refine ⟨by rw [hledger], by rw [hledger], by rintro ⟨⟩, fun _ ↦ hreached (hopens.mpr ho),
      by rintro ⟨⟩⟩
  · rename_i ho
    rw [Ledger.next, if_neg fun hc ↦ ho (hopens.mp hc), h.failures] at hledger
    refine ⟨by rw [hledger], by rw [hledger]; exact h.openedAt, h.closed, fun hc capability hmem ↦ ?_, ?_⟩
    · exact (h.opened hc capability hmem).trans (Nat.le_succ _)
    · exact fun hc ↦ absurd (.inl hc) ho

/-- The step lemma: a step that does not turn the circuit early keeps the entry in
agreement with its ledger. -/
theorem Ledgered.step {L : MeshLoop} {l : MeshLabel} {pre : List (MeshLoop × MeshLabel)}
    (h : Ledgered policyOf capabilities s (L.shared.circuits.stateOf s) pre)
    (hturn : turnsEarly policyOf capabilities s L l = false) :
    Ledgered policyOf capabilities s ((L.shared.circuits.stateOf s).after (circuitEvent s L l))
      (pre ++ [(L, l)]) := by
  have hledger := ledger_append (s := s) pre (L, l)
  simp only at hledger
  unfold turnsEarly at hturn
  cases hevent : circuitEvent s L l with
  | none =>
      rw [hevent] at hledger
      exact h.extend hledger
  | some event =>
      rw [hevent] at hledger hturn
      cases event with
      | cleared =>
        exact ⟨by rw [hledger]; rfl, by rw [hledger]; rfl, fun _ ↦ rfl, by rintro ⟨⟩, by rintro ⟨⟩⟩
      | failed now policy =>
          refine h.failed hledger fun ho capability hc ↦ ?_
          by_contra hnot
          exact of_decide_eq_false hturn ⟨ho, capability, hc, not_le.mp hnot⟩
      | checked now policy =>
          refine h.checked hledger (reading_of_checked hevent) fun ho hadmits capability hc t ht ↦ ?_
          by_contra hnot
          exact of_decide_eq_false hturn ⟨ho, hadmits, capability, hc, t, ht, not_le.mp hnot⟩

/-- A step that the ledger covers honours the policies. -/
theorem Ledgered.honours {L : MeshLoop} {l : MeshLabel} {pre : List (MeshLoop × MeshLabel)}
    (h : Ledgered policyOf capabilities s (L.shared.circuits.stateOf s) pre)
    (hadmission : Invariant (fun _ ↦ admissionProtocol) AdmissionInvariant L)
    (hused : usedFor capabilities s L = true)
    (hclock : ∀ now, reading l = some now → ∀ t ∈ pre.filterMap fun x ↦ reading x.2, t ≤ now) :
    Honours policyOf s pre (L, l) where
  skips call policy host _ hnext hrefused := by
    have hcapability : call.capabilityId ∈ capabilities := by
      simpa [usedFor, show nextOp L = _ from hnext] using hused
    rw [h.failures]
    refine h.opened ?_ _ hcapability
    by_contra hopened
    rw [CircuitState.admits_of_ne_opened hopened] at hrefused
    cases hrefused
  sends call outgoing host hl hnext t ht := by
    have hcapability : call.capabilityId ∈ capabilities := by
      simpa [usedFor, show nextOp L = _ from hnext] using hused
    rw [h.openedAt] at ht
    have hhalf : (L.shared.circuits.stateOf s).state = .halfOpen := by
      cases hstate : (L.shared.circuits.stateOf s).state with
      | closed =>
          rw [h.closed hstate] at ht
          cases ht
      | opened => exact absurd hstate (not_opened_of_sending hadmission hnext)
      | halfOpen => rfl
    obtain ⟨checked, hmem, hwindow⟩ := h.halfOpen hhalf t ht
    have hle : checked ≤ host.monotonic := by
      refine hclock host.monotonic ?_ checked hmem
      rw [show l = .step host from hl]
      rfl
    exact (hwindow _ hcapability).trans (sub_le_sub_right hle t)

end Keeps

/-! ## Runs -/

theorem reading_le_of_mem {labels : List MeshLabel} (hclock : ClockForward labels)
    {pre suf : List (MeshLoop × MeshLabel)} {x : MeshLoop × MeshLabel}
    (hinitial : (pre ++ x :: suf).map Prod.snd <+: labels) {now : ℚ} (hnow : reading x.2 = some now) :
    ∀ t ∈ pre.filterMap fun x ↦ reading x.2, t ≤ now := by
  have hall := hclock.sublist (hinitial.sublist.filterMap reading)
  rw [List.filterMap_map, List.filterMap_append] at hall
  intro t ht
  refine (List.pairwise_append.mp hall).2.2 t ht now ?_
  exact List.mem_filterMap.mpr ⟨x, List.mem_cons_self, hnow⟩

/-- Along a run in which a service is used for some capabilities only, and its circuit
is not turned too early for any of them, every call honours the policy of its
capability. -/
theorem policies_honoured (py : Builtins) (cfg : MeshConfig) (policies : Dict String MeshPolicy)
    (capabilities : List String) (s : ServiceKey) (labels : List MeshLabel)
    (hclock : ClockForward labels)
    (h : (meshStep py cfg).Along
      (fun L l ↦ usedFor capabilities s L = true ∧
        turnsEarly (MeshState.getPolicy { policies := policies }) capabilities s L l = false)
      (Loop.init { policies := policies }) labels) :
    PoliciesHonoured (MeshState.getPolicy { policies := policies }) s
      ((meshStep py cfg).steps (Loop.init { policies := policies }) labels) := by
  intro pre x suf e
  let policyOf := MeshState.getPolicy { policies := policies }
  let J (L : MeshLoop) (pre : List (MeshLoop × MeshLabel)) : Prop :=
    Invariant (fun _ ↦ admissionProtocol) AdmissionInvariant L ∧
      Ledgered policyOf capabilities s (L.shared.circuits.stateOf s) pre
  have hinit : J (Loop.init { policies := policies }) [] :=
    ⟨Invariant.init none (by rintro _ _ _ ⟨⟩), ⟨rfl, rfl, fun _ ↦ rfl, by rintro ⟨⟩, by rintro ⟨⟩⟩⟩
  refine h.steps (J := J) (Q := fun pre x ↦ (∀ now, reading x.2 = some now →
    ∀ t ∈ pre.filterMap fun x ↦ reading x.2, t ≤ now) → Honours policyOf s pre x) ?_ ?_ hinit e ?_
  · rintro L pre l L' ⟨hadmission, hledgered⟩ ⟨-, hturn⟩ hstep
    refine ⟨hadmission.step (call_admission py cfg) admissionInvariant_preserved trivial hstep, ?_⟩
    rw [stateOf_step hstep]
    exact hledgered.step hturn
  · rintro L pre l ⟨hadmission, hledgered⟩ ⟨hused, -⟩
    exact hledgered.honours hadmission hused
  · have hinitial : (pre ++ x :: suf).map Prod.snd <+: labels := e ▸ steps_labels _ _
    exact fun now hnow ↦ reading_le_of_mem hclock hinitial hnow

/-! ## Two capabilities and one provider -/

/-- A resolution for another capability. -/
def tasksRequest : ResolveRequest :=
  { (notesRequest ∅).resolveRequest (some "run-2") with
    capabilityId := "ghost.tasks", capabilityId_ne := by decide }

/-- Such a resolution, to the point where the breaker is asked. -/
def untilChecked (i : ℕ) : List MeshLabel :=
  [.spawn (.resolve tasksRequest)] ++
    List.replicate 2 (.step {}) ++
    [.deliver i (offers [describe "svc.a" "http://a.internal"]), .step {}]

/-- The same label at another reading of the monotonic clock. -/
def atReading (now : ℚ) : MeshLabel → MeshLabel
  | .step host => .step { host with monotonic := now }
  | .deliver i host => .deliver i { host with monotonic := now }
  | l => l

/-- Two capabilities with the same threshold and window share a provider: its circuit
opens for one of them, and the other one's check makes it half-open for both. -/
theorem same_window_is_honoured :
    let policies := (∅ : Dict String MeshPolicy).set "ghost.tasks" { retries := 0 }
    let rest := untilChecked 1 ++ List.replicate 2 (.step {}) ++ untilSend 2 0
    let labels := opensCircuit ++ rest.map (atReading 100)
    ClockForward labels ∧
      PoliciesHonoured (MeshState.getPolicy { policies := policies }) "svc.a"
        ((meshStep default notesConfig).steps (Loop.init { policies := policies }) labels) := by
  intro policies rest labels
  have hclock : ClockForward labels := by
    unfold ClockForward
    decide +kernel
  refine ⟨hclock, policies_honoured _ _ policies ["ghost.notes", "ghost.tasks"] _ _ hclock ?_⟩
  decide +kernel

/-- The last of some steps passes a service over below the threshold of the capability it is
taken for. -/
def skipsEarly (policyOf : String → MeshPolicy) (s : ServiceKey)
    (steps : List (MeshLoop × MeshLabel)) : Bool :=
  match steps.getLast? with
  | some (L, .step host) =>
      match nextOp L with
      | some (call, .canAttempt s' policy) =>
          s' = s ∧ (L.shared.circuits.stateOf s).admits host.monotonic policy = false ∧
            (ledger s steps.dropLast).failures < (policyOf call.capabilityId).circuitFailureThreshold
      | _ => false
  | _ => false

theorem not_honoured_of_skipsEarly {policyOf : String → MeshPolicy} {s : ServiceKey}
    {steps : List (MeshLoop × MeshLabel)} (h : skipsEarly policyOf s steps = true) :
    ¬ PoliciesHonoured policyOf s steps := by
  intro hhonoured
  unfold skipsEarly at h
  split at h
  · rename_i L host hlast
    have e : steps = steps.dropLast ++ [(L, .step host)] :=
      (List.dropLast_append_getLast? _ hlast).symm
    split at h
    · rename_i call s' policy hnext
      obtain ⟨rfl, hrefused, hfew⟩ := of_decide_eq_true h
      have hskips := (hhonoured _ _ _ e).skips call policy host rfl hnext hrefused
      exact absurd hskips (not_le.mpr hfew)
    · cases h
  · cases h

/-- A capability with a threshold of one opens the circuit of a provider for another one
whose threshold is three. -/
theorem eager_capability_opens_for_all :
    ¬ ∀ (py : Builtins) (cfg : MeshConfig) (policies : Dict String MeshPolicy) (s : ServiceKey)
        (labels : List MeshLabel), ClockForward labels →
        PoliciesHonoured (MeshState.getPolicy { policies := policies }) s
          ((meshStep py cfg).steps (Loop.init { policies := policies }) labels) := by
  intro h
  let policies := (∅ : Dict String MeshPolicy).set "ghost.notes" { circuitFailureThreshold := 1 }
  let labels := untilSend 0 0 ++ [.deliver 0 {}] ++ List.replicate 4 (.step {}) ++ untilChecked 1
  have hclock : ClockForward labels := by
    unfold ClockForward
    decide +kernel
  refine not_honoured_of_skipsEarly ?_ (h default notesConfig policies "svc.a" labels hclock)
  decide +kernel

end EstateMesh
