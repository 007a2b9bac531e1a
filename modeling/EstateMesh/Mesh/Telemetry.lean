import EstateMesh.Lib.Erasure
import EstateMesh.Mesh.RegistryAnswers

/-!
# Telemetry

Publishing an event is not supposed to make a difference to the traffic.  Without
an event gateway the engine is the same program with the publications left out
(`invoke_erases`), so the two can be run beside each other: the same readings of
the clocks, the same answers of everybody else, and an event gateway that answers
or raises as it pleases.
-/

namespace EstateMesh

open Lib Prog

/-! ## Publications -/

/-- The configuration without an event gateway. -/
def MeshConfig.withoutGateway (cfg : MeshConfig) : MeshConfig := { cfg with eventGatewayUrl := "" }

/-- The publications. -/
def MeshOp.isPublication : MeshOp → Bool
  | .publish _ _ => true
  | _ => false

/-- Whether a publication goes unnoticed: it is answered, or fails with an `HTTPError`. -/
def isUnnoticed : Performed MeshOp MeshOp.Ans → Bool
  | ⟨.publish _ _, .error e⟩ => e.isHTTPError
  | _ => true

/-- Leaving out the publications. -/
def publications : Eraser MeshOp MeshOp.Ans Fault where
  gone := MeshOp.isPublication
  good x := isUnnoticed x = true
  stray fault := ∃ e, fault = .httpx e ∧ e.isHTTPError = false

theorem not_stray_python (e : PyError) : ¬ publications.stray (.python e) := by
  rintro ⟨e', h, -⟩
  cases h

theorem not_stray_body (e : PyError) : ¬ publications.stray (.body e) := by
  rintro ⟨e', h, -⟩
  cases h

theorem not_stray_mesh (code : ℕ) (detail : String) : ¬ publications.stray (.mesh code detail) := by
  rintro ⟨e', h, -⟩
  cases h

/-- An exception that a failed attempt would be made of is none that a publication lets
through. -/
theorem isTimeoutOrNetwork_of_not_isHTTPError {e : HttpxError} (h : e.isHTTPError = false) :
    e.isTimeoutOrNetwork = false :=
  e.not_timeoutOrNetwork (by rw [h]; exact Bool.false_ne_true)

/-! ## The programs without them -/

section Erases

variable {py : Builtins} {cfg : MeshConfig} {request : InvokeRequest} {policy : MeshPolicy}
  {correlationId url : String} {service : Service}

theorem publishEvent_erases (event : MeshEvent) :
    publications.Erases (MeshEngine.publishEvent cfg event)
      (MeshEngine.publishEvent cfg.withoutGateway event) := by
  have hwithout : MeshEngine.publishEvent cfg.withoutGateway event = ret () := rfl
  rw [hwithout, MeshEngine.publishEvent]
  split
  · exact .ret ()
  · simp only [perform_bind]
    refine .gone rfl (fun answer hgood ↦ ?_) (fun answer hgood ↦ ?_) (Eraser.steady_ret ())
    · cases answer with
      | ok response => exact .ret ()
      | error e =>
          have he : e.isHTTPError = true := hgood
          simp only [he, if_true]
          exact .ret ()
    · cases answer with
      | ok response => exact absurd rfl hgood
      | error e =>
          have he : e.isHTTPError = false := Bool.eq_false_iff.mpr hgood
          simp only [he]
          exact ⟨_, ⟨e, rfl, he⟩, rfl⟩

theorem handleResponse_erases (n : ℕ) (attempts : List Attempt) (started : ℚ)
    (response : Response) :
    publications.Erases
      (MeshEngine.handleResponse py cfg request policy correlationId service url n attempts
        started response)
      (MeshEngine.handleResponse py cfg.withoutGateway request policy correlationId service url n
        attempts started response) := by
  unfold MeshEngine.handleResponse
  simp only [perform_bind]
  refine .kept rfl fun finished ↦ ?_
  split
  · refine .kept rfl fun _ ↦ .kept rfl fun event ↦ ?_
    have hbody : MeshEngine.capturedBody py cfg.withoutGateway response =
        MeshEngine.capturedBody py cfg response := rfl
    rw [hbody]
    cases MeshEngine.capturedBody py cfg response with
    | ok body => exact (publishEvent_erases event).bind (fun _ ↦ .ret _) fun _ ↦ Eraser.steady_ret _
    | error e =>
        exact (publishEvent_erases event).bind (fun _ ↦ .raise _) fun _ ↦
          Eraser.steady_raise (not_stray_body e)
  · exact .kept rfl fun _ ↦ .ret _

theorem handleFault_erases (n : ℕ) (attempts : List Attempt) (fault : Fault) :
    publications.Erases (MeshEngine.handleFault policy service n attempts fault)
      (MeshEngine.handleFault policy service n attempts fault) := by
  refine Eraser.erases_self ?_
  cases fault with
  | mesh code detail => trivial
  | python e => trivial
  | body e => trivial
  | httpx e =>
      rw [MeshEngine.handleFault]
      split
      · exact ⟨rfl, fun _ ↦ trivial⟩
      · trivial

/-- The `except` clause does not catch what a publication lets through. -/
theorem handleFault_stray (n : ℕ) (attempts : List Attempt) {fault : Fault}
    (h : publications.stray fault) :
    MeshEngine.handleFault policy service n attempts fault = raise fault := by
  obtain ⟨e, rfl, he⟩ := h
  rw [MeshEngine.handleFault, isTimeoutOrNetwork_of_not_isHTTPError he]
  rfl

theorem handleFault_steady (n : ℕ) (attempts : List Attempt) {fault : Fault}
    (h : ¬ publications.stray fault) :
    publications.Steady (MeshEngine.handleFault policy service n attempts fault) := by
  cases fault with
  | mesh code detail => exact Eraser.steady_raise h
  | python e => exact Eraser.steady_raise h
  | body e => exact Eraser.steady_raise h
  | httpx e =>
      rw [MeshEngine.handleFault]
      split
      · exact Eraser.steady_op _
      · exact Eraser.steady_raise h

theorem attemptOnce_erases (n : ℕ) (attempts : List Attempt) :
    publications.Erases
      (MeshEngine.attemptOnce py cfg request policy correlationId service url n attempts)
      (MeshEngine.attemptOnce py cfg.withoutGateway request policy correlationId service url n
        attempts) := by
  unfold MeshEngine.attemptOnce
  simp only [perform_bind]
  refine .kept rfl fun now ↦ .kept rfl fun started ↦ ?_
  rw [tryCatch_op, tryCatch_op]
  refine .kept rfl fun answer ↦ ?_
  cases answer with
  | ok response =>
      exact (handleResponse_erases n attempts started response).tryCatch
        (handleFault_erases n attempts) (fun _ ↦ handleFault_stray n attempts)
        fun _ ↦ handleFault_steady n attempts
  | error e => exact handleFault_erases n attempts (.httpx e)

theorem attemptLoop_erases (ns : List ℕ) (attempts : List Attempt) :
    publications.Erases
      (MeshEngine.attemptLoop py cfg request policy correlationId service url ns attempts)
      (MeshEngine.attemptLoop py cfg.withoutGateway request policy correlationId service url ns
        attempts) := by
  induction ns generalizing attempts with
  | nil => exact .ret _
  | cons n ns ih =>
      rw [MeshEngine.attemptLoop, MeshEngine.attemptLoop]
      apply (attemptOnce_erases n attempts).bind
      · rintro (result | attempts)
        · exact .ret _
        · simp only [perform_bind]
          refine .kept rfl fun admitted ↦ ?_
          cases admitted with
          | true => exact ih attempts
          | false => exact .ret _
      · rintro (result | attempts)
        · exact Eraser.steady_ret _
        · exact Eraser.steady_op _

theorem candidateLoop_steady (candidates : List Value) (attempts : List Attempt) :
    publications.Steady
      (MeshEngine.candidateLoop py cfg request policy correlationId candidates attempts) := by
  cases candidates with
  | nil => exact Eraser.steady_ret _
  | cons candidate candidates =>
      rw [MeshEngine.candidateLoop]
      cases MeshEngine.candidateService candidate with
      | error e => exact Eraser.steady_raise (not_stray_python e)
      | ok service => exact Eraser.steady_op _

theorem candidateLoop_erases (candidates : List Value) (attempts : List Attempt) :
    publications.Erases
      (MeshEngine.candidateLoop py cfg request policy correlationId candidates attempts)
      (MeshEngine.candidateLoop py cfg.withoutGateway request policy correlationId candidates
        attempts) := by
  induction candidates generalizing attempts with
  | nil => exact .ret _
  | cons candidate candidates ih =>
      rw [MeshEngine.candidateLoop, MeshEngine.candidateLoop]
      cases MeshEngine.candidateService candidate with
      | error e => exact .raise _
      | ok service =>
          simp only [MeshM.lift, ret_bind, perform_bind]
          refine .kept rfl fun admitted ↦ ?_
          cases admitted with
          | false => exact ih _
          | true =>
              rw [if_pos rfl, if_pos rfl]
              split
              · rw [ret_bind, ret_bind]
                apply (attemptLoop_erases _ attempts).bind
                · rintro (result | attempts)
                  · exact .ret _
                  · exact ih attempts
                · rintro (result | attempts)
                  · exact Eraser.steady_ret _
                  · exact candidateLoop_steady candidates attempts
              · exact .raise _

theorem serveCandidates_erases (candidates : List Value) :
    publications.Erases
      (MeshEngine.serveCandidates py cfg request policy correlationId candidates)
      (MeshEngine.serveCandidates py cfg.withoutGateway request policy correlationId candidates) := by
  rw [MeshEngine.serveCandidates, MeshEngine.serveCandidates]
  cases candidates.mapM MeshEngine.candidateId with
  | error e => exact .raise _
  | ok providers =>
      simp only [MeshM.lift, ret_bind, perform_bind]
      refine .kept rfl fun event ↦ ?_
      apply (publishEvent_erases event).bind
      · intro _
        apply (candidateLoop_erases candidates []).bind
        · rintro (result | attempts)
          · exact .ret _
          · refine .kept rfl fun event ↦ ?_
            refine (publishEvent_erases event).bind (fun _ ↦ .raise _) fun _ ↦ ?_
            exact Eraser.steady_raise (not_stray_mesh _ _)
        · rintro (result | attempts)
          · exact Eraser.steady_ret _
          · exact Eraser.steady_op _
      · intro _
        apply (candidateLoop_steady candidates []).bind
        rintro (result | attempts)
        · exact Eraser.steady_ret _
        · exact Eraser.steady_op _

theorem serveCandidates_steady (candidates : List Value) :
    publications.Steady
      (MeshEngine.serveCandidates py cfg request policy correlationId candidates) := by
  rw [MeshEngine.serveCandidates]
  cases candidates.mapM MeshEngine.candidateId with
  | error e => exact Eraser.steady_raise (not_stray_python e)
  | ok providers => exact Eraser.steady_op _

/-- Without an event gateway an invocation is the same but for the publications. -/
theorem invoke_erases :
    publications.Erases (MeshEngine.invoke py cfg request)
      (MeshEngine.invoke py cfg.withoutGateway request) := by
  have hsame : MeshEngine.obtainCandidates cfg.withoutGateway request =
      MeshEngine.obtainCandidates cfg request := rfl
  rw [MeshEngine.invoke, MeshEngine.invoke, hsame]
  have hkept : Performs (fun o ↦ publications.gone o = false)
      (MeshEngine.obtainCandidates cfg request) := by
    refine (obtainCandidates_performs cfg request).mono fun o ho ↦ ?_
    cases o with
    | publish _ _ => cases ho
    | _ => rfl
  apply (Eraser.erases_self hkept).bind
  · rintro ⟨correlationId, policy, candidates⟩
    exact serveCandidates_erases candidates
  · rintro ⟨correlationId, policy, candidates⟩
    exact serveCandidates_steady candidates

end Erases

/-! ## Two runs -/

/-- Answer from a sequence of readings, one for each operation. -/
def MeshEngine.hosted (hosts : ℕ → Host) (s : ℕ × MeshState) (o : MeshOp) :
    MeshOp.Ans o × (ℕ × MeshState) :=
  let (answer, state) := MeshEngine.perform (hosts s.1) s.2 o
  (answer, (s.1 + 1, state))

/-- The answers of an event gateway. -/
def gatewayAnswers (gateway : ℕ → Except HttpxError Response) (n : ℕ) (o : MeshOp) :
    MeshOp.Ans o :=
  (MeshEngine.perform { net := gateway n } {} o).1

/-- An invocation with an event gateway that answers on its own account: what it does,
how it ends and the engine afterwards. -/
def besideGateway (py : Builtins) (cfg : MeshConfig) (request : InvokeRequest)
    (gateway : ℕ → Except HttpxError Response) (hosts : ℕ → Host) (s : MeshState) :
    List (Performed MeshOp MeshOp.Ans) × Except Fault InvokeResult × MeshState :=
  let run := exec (publications.besides (gatewayAnswers gateway) (MeshEngine.hosted hosts))
    (MeshEngine.invoke py cfg request) (0, (0, s))
  (run.1, run.2.1, run.2.2.2.2)

/-- The same invocation without one. -/
def withoutGateway (py : Builtins) (cfg : MeshConfig) (request : InvokeRequest)
    (hosts : ℕ → Host) (s : MeshState) :
    List (Performed MeshOp MeshOp.Ans) × Except Fault InvokeResult × MeshState :=
  let run := exec (MeshEngine.hosted hosts) (MeshEngine.invoke py cfg.withoutGateway request) (0, s)
  (run.1, run.2.1, run.2.2.2)

/-- Two invocations are the same to everybody but the event gateway. -/
structure SameTraffic
    (run run' : List (Performed MeshOp MeshOp.Ans) × Except Fault InvokeResult × MeshState) :
    Prop where
  /-- The same readings, questions to the breaker, events and requests, with the same
  answers. -/
  operations : (run.1.filter fun x ↦ !x.1.isPublication) = run'.1
  /-- The same result with its attempts, or the same exception. -/
  result : run.2.1 = run'.2.1
  circuits : run.2.2.circuits = run'.2.2.circuits
  events : run.2.2.events = run'.2.2.events

/-- Telemetry does not interfere with an invocation exactly when its publications go
unnoticed. -/
theorem same_traffic_iff_unnoticed (py : Builtins) (cfg : MeshConfig) (request : InvokeRequest)
    (gateway : ℕ → Except HttpxError Response) (hosts : ℕ → Host) (s : MeshState) :
    SameTraffic (besideGateway py cfg request gateway hosts s)
        (withoutGateway py cfg request hosts s) ↔
      ∀ x ∈ (besideGateway py cfg request gateway hosts s).1, isUnnoticed x = true := by
  constructor
  · intro h x hx
    by_cases hgone : x.1.isPublication = true
    · exact invoke_erases.good_of_exec_eq h.operations h.result x hx hgone
    · obtain ⟨o, a⟩ := x
      cases o with
      | publish _ _ => exact absurd rfl hgone
      | _ => rfl
  · intro h
    obtain ⟨htrace, hend, hstate⟩ := invoke_erases.exec_eq fun x hx _ ↦ h x hx
    have hengine := congrArg Prod.snd hstate
    exact ⟨htrace, hend, congrArg MeshState.circuits hengine, congrArg MeshState.events hengine⟩

/-- A configuration whose event gateway has no proper URL. -/
def strayGateway : MeshConfig := { notesConfig with eventGatewayUrl := "http://gateway:port" }

/-- The client refuses such a URL with an exception that is not an `HTTPError`, and the
invocation ends with it. -/
theorem invalid_url_interferes :
    ¬ ∀ (py : Builtins) (cfg : MeshConfig) (request : InvokeRequest)
        (gateway : ℕ → Except HttpxError Response) (hosts : ℕ → Host) (s : MeshState),
        SameTraffic (besideGateway py cfg request gateway hosts s)
          (withoutGateway py cfg request hosts s) := by
  intro h
  let served : Host := offers [providerA.candidate]
  have hsame := (h default strayGateway (notesRequest ∅)
    (fun _ ↦ .error ⟨.invalidURL, "InvalidURL"⟩) (fun _ ↦ served) {}).result
  cases hsame

end EstateMesh
