import EstateMesh.Lib.EventLoop
import EstateMesh.Mesh.Typestate

/-!
# Probes of a half-open circuit

The calls of the engine share one breaker on one event loop.  A request that is
sent to a service while its circuit is half-open is a probe, and the probe is in
flight until its own outcome is recorded or an operator resets the circuit.
`probe` reads the probe in flight off the history of the loop; `ProbesBounded`
says that no request is sent to a service whose probe is in flight.  The first
request after an opening is always sent half-open, as the protocol of admission
shows.

The breaker does not know about probes in flight: it admits every caller of a
circuit that is not open.  So the bound holds of the runs in which no invocation
is admitted while a probe is in flight (`probes_bounded`), and not of others: two
invocations that find the circuit half-open both send their requests.
-/

namespace EstateMesh

open Lib Prog EventLoop Machine

/-- What an operator may do between the steps of the calls. -/
inductive MeshAct
  | reset (serviceId : ServiceKey)

/-- The effect of an operator's action. -/
def MeshAct.effect : MeshAct → MeshState → MeshState
  | .reset s, state => { state with circuits := state.circuits.reset s }

/-- How the calls meet the engine. -/
def meshRuntime : Runtime MeshOp MeshOp.Ans MeshState Host where
  awaits := MeshOp.awaits
  perform := MeshEngine.perform

/-- The calls of the engine on one event loop. -/
abbrev MeshLoop :=
  Loop MeshState MeshCall MeshAct MeshOp MeshOp.Ans Fault (MeshResolution ⊕ InvokeResult)

/-- The labels of the loop. -/
abbrev MeshLabel := Label MeshCall MeshAct Host

/-- The history of the loop. -/
abbrev MeshEntry := Entry MeshState MeshCall MeshAct MeshOp MeshOp.Ans

/-- The steps of the loop. -/
def meshStep (py : Builtins) (cfg : MeshConfig) : Machine MeshLoop MeshLabel :=
  EventLoop.step meshRuntime (MeshCall.program py cfg) MeshAct.effect

/-! ## Probes -/

/-- The probe of a service in flight after one more step. -/
def probeStep (s : ServiceKey) (p : Option ℕ) (x : MeshEntry) : Option ℕ :=
  match x.obs with
  | .issued i (.upstream s' _) =>
      if s' = s ∧ (x.before.circuits.stateOf s).state = .halfOpen ∧ p = none then some i else p
  | .did i ⟨.success s', _⟩ => if s' = s ∧ p = some i then none else p
  | .did i ⟨.failure s' _, _⟩ => if s' = s ∧ p = some i then none else p
  | .acted (.reset s') => if s' = s then none else p
  | _ => p

/-- The probe of a service that is in flight: the number of its call. -/
def probe (s : ServiceKey) (history : List MeshEntry) : Option ℕ := history.foldl (probeStep s) none

/-- No request was sent to a service while a probe of it was in flight. -/
def ProbesBounded (history : List MeshEntry) : Prop :=
  ∀ pre x suf, history = pre ++ x :: suf → ∀ i s outgoing, x.obs = .issued i (.upstream s outgoing) →
    probe s pre = none

theorem probe_append (s : ServiceKey) (history : List MeshEntry) (x : MeshEntry) :
    probe s (history ++ [x]) = probeStep s (probe s history) x := by
  rw [probe, List.foldl_append]
  rfl

/-- Only sending a request puts a probe in flight. -/
theorem probe_append_eq_none {s : ServiceKey} {history : List MeshEntry} {x : MeshEntry}
    (h : probe s history = none) (hx : ∀ i outgoing, x.obs ≠ .issued i (.upstream s outgoing)) :
    probe s (history ++ [x]) = none := by
  rw [probe_append, h, probeStep]
  split
  · rename_i i s' outgoing e
    rw [if_neg]
    rintro ⟨rfl, -⟩
    exact hx i outgoing e
  all_goals first | rfl | exact ite_self _

theorem probesBounded_nil : ProbesBounded [] := by
  intro pre x suf e
  cases pre <;> cases e

theorem probesBounded_append {history : List MeshEntry} {x : MeshEntry} (h : ProbesBounded history)
    (hx : ∀ i s outgoing, x.obs = .issued i (.upstream s outgoing) → probe s history = none) :
    ProbesBounded (history ++ [x]) := by
  intro pre y suf e i s outgoing hy
  rcases List.eq_nil_or_concat suf with rfl | ⟨suf', z, rfl⟩
  · obtain ⟨rfl, e'⟩ := List.append_inj' e rfl
    cases e'
    exact hx i s outgoing hy
  · rw [List.concat_eq_append, ← List.cons_append, ← List.append_assoc] at e
    obtain ⟨rfl, -⟩ := List.append_inj' e rfl
    exact h pre y suf' rfl i s outgoing hy

/-! ## Admissions -/

/-- The step lets an invocation through to a service while a probe of the service
is in flight. -/
def admitsDuringProbe (L : MeshLoop) : MeshLabel → Bool
  | .step host =>
      match L.current.bind L.tasks with
      | some (.invoke _, .op (.canAttempt s policy) _) =>
          (probe s L.history).isSome && (L.shared.circuits.stateOf s).admits host.monotonic policy
      | _ => false
  | _ => false

/-- What holds of the loop: no request has met a probe in flight, and the service
that the running invocation was admitted to has none. -/
def ProbingInvariant (_ : MeshState) (history : List MeshEntry)
    (running : Running MeshCall Progress) : Prop :=
  ProbesBounded history ∧
    ∀ i request p s, running = some (i, .invoke request, p) → p.admitted = some s →
      probe s history = none

/-- A step that sends no request keeps the first half of the invariant, and takes
no service out of those without a probe. -/
theorem ProbingInvariant.record {L : MeshLoop} {running : Running MeshCall Progress}
    (h : ProbingInvariant L.shared L.history running) (o : Obs MeshCall MeshAct MeshOp MeshOp.Ans)
    (ho : ∀ i s outgoing, o ≠ .issued i (.upstream s outgoing)) :
    ProbesBounded (L.record o) ∧ ∀ s, probe s L.history = none → probe s (L.record o) = none :=
  ⟨probesBounded_append h.1 fun i s outgoing e ↦ absurd e (ho i s outgoing),
    fun _ hs ↦ probe_append_eq_none hs fun i outgoing ↦ ho i _ outgoing⟩

/-- The invariant is kept by every step that lets no invocation through to a
service while a probe of it is in flight. -/
theorem probingInvariant_preserved (py : Builtins) (cfg : MeshConfig) :
    Preserved (ε := Fault) (α := MeshResolution ⊕ InvokeResult) meshRuntime MeshAct.effect
      (callProtocol py cfg) (fun _ ↦ {}) ProbingInvariant
      fun L l ↦ admitsDuringProbe L l = false where
  spawn L c _ h := by
    refine ⟨(h.record (.spawned L.next c) nofun).1, ?_⟩
    rintro _ request _ s ⟨⟩ hs
    cases hs
  ended L i c p h := by
    refine ⟨(h.record (.ended i) nofun).1, ?_⟩
    rintro _ request _ s ⟨⟩
  act L x _ h := by
    refine ⟨(h.record (.acted x) nofun).1, ?_⟩
    rintro _ request _ s ⟨⟩
  issue L host i c p o k _ _ _ _ hallow h := by
    refine ⟨probesBounded_append h.1 ?_, ?_⟩
    · -- the protocol allows a request only to the service the call was admitted to
      rintro _ s outgoing ⟨⟩
      obtain ⟨hs, request, now, rfl, -⟩ := hallow
      exact h.2 i request p s rfl hs
    · rintro _ request _ s ⟨⟩
  deliver L host i c p o k _ _ ho _ h := by
    refine ⟨(h.record (.answered i ⟨o, (MeshEngine.perform host L.shared o).1⟩) nofun).1, ?_⟩
    rintro _ request _ s ⟨⟩ hs
    -- an answer to an exchange leaves no service admitted
    cases o with
    | registry _ _ => cases hs
    | publish _ _ => cases hs
    | upstream _ _ => cases hs
    | _ => cases ho
  perform L host i c p o k hcurrent htask hC ho _ h := by
    obtain ⟨hbounded, hnone⟩ := h.record (.did i ⟨o, (MeshEngine.perform host L.shared o).1⟩) nofun
    refine ⟨hbounded, ?_⟩
    rintro _ request _ s ⟨⟩ hs
    apply hnone
    cases o with
    | registry _ _ => cases ho
    | publish _ _ => cases ho
    | upstream _ _ => cases ho
    | canAttempt s' policy =>
        change (if (L.shared.circuits.canAttempt host.monotonic s' policy).1 = true then some s'
          else none) = some s at hs
        obtain ⟨rfl, hadmits⟩ := CircuitBreaker.admits_of_canAttempt hs
        -- the running invocation was let through, so no probe is in flight
        simpa [admitsDuringProbe, hcurrent, htask, hadmits] using hC
    | _ => exact h.2 _ request p s rfl hs

/-! ## Runs -/

/-- Along a run that lets no invocation through to a service while a probe of it
is in flight, no request is sent to a service while a probe of it is in flight. -/
theorem probes_bounded (py : Builtins) (cfg : MeshConfig) (s₀ : MeshState)
    (labels : List MeshLabel)
    (h : (meshStep py cfg).Along (fun L l ↦ admitsDuringProbe L l = false) (Loop.init s₀) labels) :
    (meshStep py cfg).Always (fun L ↦ ProbesBounded L.history) (Loop.init s₀) labels := by
  have hinit : Invariant (callProtocol py cfg) ProbingInvariant (Loop.init s₀ : MeshLoop) :=
    Invariant.init {} ⟨probesBounded_nil, by rintro _ _ _ _ ⟨⟩⟩
  have hinv : (meshStep py cfg).Always (Invariant (callProtocol py cfg) ProbingInvariant)
      (Loop.init s₀) labels := by
    apply Along.always _ h hinit
    intro L l L' hL hC hstep
    exact hL.step (call_follows py cfg) (probingInvariant_preserved py cfg) hC hstep
  apply hinv.mono
  rintro L ⟨_, _, hJ⟩
  exact hJ.1

/-- A call of one capability, to the point where it sends its first request. -/
def untilSend (i : ℕ) (monotonic : ℚ) : List MeshLabel :=
  [.spawn (.invoke (notesRequest ∅))] ++ List.replicate 2 (.step {}) ++
    [.deliver i (offers [describe "svc.a" "http://a.internal"])] ++
    List.replicate 5 (.step { monotonic := monotonic })

/-- An invocation that fails three times, which opens the circuit. -/
def opensCircuit : List MeshLabel :=
  untilSend 0 0 ++ [.deliver 0 {}] ++ List.replicate 5 (.step {}) ++ [.deliver 0 {}] ++
    List.replicate 5 (.step {}) ++ [.deliver 0 {}] ++ List.replicate 4 (.step {})

/-- One probe at a time: the probe is answered before the next invocation starts. -/
theorem probe_answered_in_time :
    let labels := opensCircuit ++ untilSend 1 100 ++
      [.deliver 1 { net := .ok { statusCode := 200 } }] ++ List.replicate 4 (.step {}) ++
      untilSend 2 101
    let M := meshStep default notesConfig
    (M.run (Loop.init {}) labels).isSome ∧
      M.Always (fun L ↦ ProbesBounded L.history) (Loop.init {}) labels := by
  intro labels M
  refine ⟨by decide +kernel, probes_bounded _ _ _ labels ?_⟩
  decide +kernel

/-- The last step of a history sends a request to a service with a probe in flight. -/
def sendsDuringProbe (history : List MeshEntry) : Bool :=
  match history.getLast? with
  | some ⟨_, .issued _ (.upstream s _)⟩ => (probe s history.dropLast).isSome
  | _ => false

theorem not_probesBounded {history : List MeshEntry} (h : sendsDuringProbe history = true) :
    ¬ ProbesBounded history := by
  intro hbounded
  unfold sendsDuringProbe at h
  split at h
  · rename_i before i s outgoing hlast
    have e : history = history.dropLast ++ [⟨before, .issued i (.upstream s outgoing)⟩] :=
      (List.dropLast_append_getLast? _ hlast).symm
    rw [hbounded _ _ _ e i s outgoing rfl] at h
    cases h
  · cases h

/-- Two invocations that find the circuit half-open both probe the service. -/
theorem two_probes_in_flight :
    ¬ ∀ (py : Builtins) (cfg : MeshConfig) (s₀ : MeshState) (policy : MeshPolicy),
        (∀ capabilityId, s₀.getPolicy capabilityId = policy) →
        ∀ (labels : List MeshLabel) (L : MeshLoop),
          (meshStep py cfg).run (Loop.init s₀) labels = some L → ProbesBounded L.history := by
  intro h
  let labels := opensCircuit ++ untilSend 1 100 ++ untilSend 2 101
  let run := (meshStep default notesConfig).run (Loop.init {}) labels
  have hsome : run.isSome := by decide +kernel
  have hsends : ∀ L ∈ run, sendsDuringProbe L.history = true := by decide +kernel
  obtain ⟨L, hL⟩ := Option.isSome_iff_exists.mp hsome
  exact not_probesBounded (hsends L hL) (h _ _ {} {} (fun _ ↦ rfl) labels L hL)

end EstateMesh
