import EstateMesh.Mesh.RegistryAnswers

/-!
# The list of attempts

The attempts that an invocation reports are a sequence of turns, one for each
candidate in the order of the registry: a candidate whose circuit is open is
passed over with one entry, and any other has a numbered entry for every request
that was sent to it.  `Turn` has the entries of one candidate beside what was
noted of the operations performed for it, so that the entries can be compared
with what really happened.

Nothing is assumed about the answers of the breaker, of the providers or of the
event gateway, so the shape does not depend on what other invocations do to the
breaker in the meantime.
-/

namespace EstateMesh

open Lib Prog

/-! ## Entries -/

namespace Attempt

/-- The service an entry is about. -/
def serviceId : Attempt → Value
  | openCircuitSkip s | answered s _ _ _ _ | raised s _ _ => s

/-- The number of an entry, if it has one. -/
def number? : Attempt → Option ℕ
  | openCircuitSkip _ => none
  | answered _ n _ _ _ | raised _ n _ => some n

/-- The entry of an attempt that ended the invocation. -/
def isCompleted : Attempt → Bool
  | answered _ _ _ _ result => result = "completed"
  | _ => false

/-- The entry of an attempt that counted as a failure. -/
def isFailure : Attempt → Bool
  | answered _ _ code _ result => 500 ≤ code ∧ result = "upstream-5xx"
  | raised _ _ _ => true
  | openCircuitSkip _ => false

theorem not_isCompleted {e : Attempt} (h : e.isFailure = true) : e.isCompleted = false := by
  cases e with
  | answered s n code latency result =>
      obtain ⟨-, rfl⟩ := of_decide_eq_true h
      rfl
  | _ => rfl

end Attempt

/-! ## Notes -/

/-- What is noted of an invocation. -/
inductive Noted
  | /-- The breaker was asked about a service. -/ checked (service : ServiceKey) (admitted : Bool)
  | /-- A request was sent to a service. -/ sent (service : ServiceKey)
  | /-- The invocation was reported as failed. -/ gaveUp (payload : Value)

/-- What is noted of an operation. -/
def note : Performed MeshOp MeshOp.Ans → Option Noted
  | ⟨.canAttempt s _, admitted⟩ => some (.checked s admitted)
  | ⟨.upstream s _, _⟩ => some (.sent s)
  | ⟨.emit .invocationFailed _ payload, _⟩ => some (.gaveUp payload)
  | _ => none

/-- The view of the attempts. -/
abbrev noteView : View MeshOp MeshOp.Ans Fault Noted := View.ofMark note

/-- Whether a request was sent. -/
def Noted.isSent : Noted → Bool
  | sent _ => true
  | _ => false

/-! ## Turns -/

/-- The attempts at one service, from the number `n` on with `left` tries left: their
entries, and what was noted. -/
structure Tries (s : Service) (n left : ℕ) (entries : List Attempt) (notes : List Noted) : Prop where
  nonempty : 0 < left → entries ≠ []
  length_le : entries.length ≤ left
  numbers : entries.map Attempt.number? = (List.range' n entries.length).map some
  service : ∀ e ∈ entries, e.serviceId = s.id
  failures : ∀ e ∈ entries.dropLast, e.isFailure = true
  /-- Tries that failed are given up early only because the breaker refuses. -/
  refused : (∀ e ∈ entries, e.isFailure = true) → entries.length < left →
    notes.getLast? = some (.checked s.key false)
  sent : notes.countP Noted.isSent = entries.length

namespace Tries

variable {s : Service} {n left : ℕ} {e : Attempt} {entries : List Attempt} {notes : List Noted}

theorem exhausted : Tries s n 0 [] [] where
  nonempty h := absurd h (lt_irrefl 0)
  length_le := le_refl 0
  numbers := rfl
  service _ he := by cases he
  failures _ he := by cases he
  refused _ h := absurd h (lt_irrefl 0)
  sent := rfl

/-- One try after which there is no other. -/
theorem last (hservice : e.serviceId = s.id) (hnumber : e.number? = some n)
    (hnotes : notes = [.sent s.key] ∧ e.isFailure = false ∨
      notes = [.sent s.key, .checked s.key false]) :
    Tries s n (left + 1) [e] notes where
  nonempty _ := List.cons_ne_nil e []
  length_le := Nat.le_add_left 1 left
  numbers := congrArg (fun number ↦ [number]) hnumber
  service e' he := by rwa [List.mem_singleton.mp he]
  failures _ he := by cases he
  refused hfail _ := by
    rcases hnotes with ⟨-, hnot⟩ | rfl
    · rw [hfail e (List.mem_singleton_self e)] at hnot
      cases hnot
    · rfl
  sent := by rcases hnotes with ⟨rfl, -⟩ | rfl <;> rfl

/-- A failed try, and those that follow it. -/
theorem retried (hservice : e.serviceId = s.id) (hnumber : e.number? = some n)
    (hfailure : e.isFailure = true) (h : Tries s (n + 1) left entries notes) :
    Tries s n (left + 1) (e :: entries) (.sent s.key :: .checked s.key true :: notes) where
  nonempty _ := List.cons_ne_nil e entries
  length_le := Nat.succ_le_succ h.length_le
  numbers := by
    rw [List.map_cons, List.length_cons, List.range'_succ, List.map_cons, hnumber, h.numbers]
  service := List.forall_mem_cons.mpr ⟨hservice, h.service⟩
  failures := by
    cases entries with
    | nil =>
        intro e' he
        cases he
    | cons e' entries => exact List.forall_mem_cons.mpr ⟨hfailure, h.failures⟩
  refused hfail hlt := by
    have hlast := h.refused (List.forall_mem_cons.mp hfail).2 (Nat.lt_of_succ_lt_succ hlt)
    rw [List.getLast?_cons, List.getLast?_cons, hlast]
    rfl
  sent := by
    rw [List.countP_cons_of_pos rfl, List.countP_cons_of_neg Bool.false_ne_true, h.sent]
    rfl

end Tries

/-- A candidate's turn in an invocation. -/
structure Turn where
  service : Service
  entries : List Attempt
  notes : List Noted

namespace Turn

/-- The turn is one skipped entry, or a numbered entry for every request that was
sent. -/
def WellShaped (retries : ℕ) (turn : Turn) : Prop :=
  turn.entries = [.openCircuitSkip turn.service.id] ∧
      turn.notes = [.checked turn.service.key false] ∨
    ∃ notes, turn.notes = .checked turn.service.key true :: notes ∧
      Tries turn.service 1 (retries + 1) turn.entries notes

/-- The turn is that of a candidate. -/
def IsOf (candidate : Value) (turn : Turn) : Prop :=
  MeshEngine.candidateService candidate = .ok turn.service

theorem WellShaped.nonempty {retries : ℕ} {turn : Turn} (h : turn.WellShaped retries) :
    turn.entries ≠ [] := by
  rcases h with ⟨e, -⟩ | ⟨notes, -, h⟩
  · rw [e]
    exact List.cons_ne_nil _ _
  · exact h.nonempty (Nat.succ_pos retries)

/-- A turn has one numbered entry for each request that was sent. -/
theorem WellShaped.sent {retries : ℕ} {turn : Turn} (h : turn.WellShaped retries) :
    turn.notes.countP Noted.isSent = turn.entries.countP fun e ↦ e.number?.isSome := by
  rcases h with ⟨hentries, hnotes⟩ | ⟨notes, hnotes, h⟩
  · rw [hentries, hnotes]
    rfl
  · have hall : ∀ e ∈ turn.entries, e.number?.isSome = true := by
      intro e he
      have hmem := List.mem_map_of_mem (f := Attempt.number?) he
      rw [h.numbers] at hmem
      obtain ⟨i, -, hi⟩ := List.mem_map.mp hmem
      rw [← hi]
      rfl
    rw [hnotes, List.countP_cons_of_neg Bool.false_ne_true, h.sent]
    exact (List.countP_eq_length.mpr hall).symm

end Turn

/-! ## One attempt -/

/-- What one attempt may come to. -/
inductive Outcome (s : Service) (n : ℕ) (attempts : List Attempt) :
    Except Fault (InvokeResult ⊕ List Attempt) → Prop
  | completed {result : InvokeResult} {latency : ℚ} (hstatus : result.statusCode < 500)
      (hprovider : result.provider = s.id)
      (hattempts : result.attempts =
        attempts ++ [.answered s.id n result.statusCode latency "completed"]) :
      Outcome s n attempts (.ok (.inl result))
  | failed {e : Attempt} (hservice : e.serviceId = s.id) (hnumber : e.number? = some n)
      (hfailure : e.isFailure = true) : Outcome s n attempts (.ok (.inr (attempts ++ [e])))
  | /-- Only timeouts and network errors are caught. -/
    escaped {e : HttpxError} (h : e.isTimeoutOrNetwork = false) :
      Outcome s n attempts (.error (.httpx e))
  | undecoded (e : PyError) : Outcome s n attempts (.error (.body e))

section Serve

variable {py : Builtins} {cfg : MeshConfig} {request : InvokeRequest} {policy : MeshPolicy}
  {correlationId url : String} {s : Service}

/-- An event that cannot be published raises nothing that an attempt would catch. -/
theorem publishEvent_noted (event : MeshEvent) :
    noteView.Explains (MeshEngine.publishEvent cfg event) fun m r ↦
      m = [] ∧ (r = .ok () ∨ ∃ e, r = .error (.httpx e) ∧ e.isTimeoutOrNetwork = false) := by
  unfold MeshEngine.publishEvent
  split
  · exact View.explains_ret ⟨rfl, .inl rfl⟩
  · simp only [perform_bind]
    refine View.ofMark_op fun answer ↦ ?_
    cases answer with
    | ok response => exact View.explains_ret ⟨rfl, .inl rfl⟩
    | error e =>
        by_cases he : e.isHTTPError = true
        · simp only [he, if_true]
          exact View.explains_ret ⟨rfl, .inl rfl⟩
        · simp only [he]
          exact View.explains_raise ⟨rfl, .inr ⟨e, rfl, e.not_timeoutOrNetwork he⟩⟩

theorem handleResponse_noted (n : ℕ) (attempts : List Attempt) (started : ℚ)
    (response : Response) :
    noteView.Explains
      (MeshEngine.handleResponse py cfg request policy correlationId s url n attempts started
        response)
      fun m r ↦ m = [] ∧ Outcome s n attempts r := by
  unfold MeshEngine.handleResponse
  simp only [perform_bind]
  refine View.ofMark_op fun finished ↦ ?_
  by_cases hcode : response.statusCode < 500
  · simp only [hcode, if_true]
    refine View.ofMark_op fun _ ↦ View.ofMark_op fun event ↦ ?_
    apply View.explains_bind (publishEvent_noted event)
    · rintro m _ ⟨rfl, -⟩
      cases MeshEngine.capturedBody py cfg response with
      | error e => exact View.explains_raise ⟨rfl, .undecoded e⟩
      | ok body => exact View.explains_ret ⟨rfl, .completed hcode rfl rfl⟩
    · rintro m fault ⟨rfl, h | ⟨e, h, he⟩⟩
      · cases h
      · cases h
        exact ⟨rfl, .escaped he⟩
  · simp only [hcode, if_false]
    refine View.ofMark_op fun _ ↦ ?_
    have hfailure : 500 ≤ response.statusCode := not_lt.mp hcode
    refine View.explains_ret ⟨rfl, .failed rfl rfl ?_⟩
    exact decide_eq_true ⟨hfailure, rfl⟩

theorem attemptOnce_noted (n : ℕ) (attempts : List Attempt) :
    noteView.Explains
      (MeshEngine.attemptOnce py cfg request policy correlationId s url n attempts)
      fun m r ↦ m = [.sent s.key] ∧ Outcome s n attempts r := by
  unfold MeshEngine.attemptOnce
  simp only [perform_bind]
  refine View.ofMark_op fun now ↦ View.ofMark_op fun started ↦ ?_
  rw [tryCatch_op]
  refine View.ofMark_op fun answer ↦ ?_
  cases answer with
  | ok response =>
      apply View.ofMark_tryCatch (handleResponse_noted n attempts started response)
      · rintro m outcome ⟨rfl, h⟩
        exact ⟨rfl, h⟩
      · rintro m fault ⟨rfl, houtcome⟩
        cases houtcome with
        | escaped he =>
            simp only [MeshEngine.handleFault, he]
            exact View.explains_raise ⟨rfl, .escaped he⟩
        | undecoded e => exact View.explains_raise ⟨rfl, .undecoded e⟩
  | error e =>
      simp only [throw_eq, tryCatch_raise, MeshEngine.handleFault]
      by_cases he : e.isTimeoutOrNetwork = true
      · simp only [he, if_true, perform_bind]
        refine View.ofMark_op fun _ ↦ ?_
        exact View.explains_ret ⟨rfl, .failed rfl rfl rfl⟩
      · simp only [he]
        exact View.explains_raise ⟨rfl, .escaped (Bool.eq_false_iff.mpr he)⟩

/-! ## The loops -/

/-- The result ends a list of attempts: its last entry is the only completed one. -/
structure Completes (result : InvokeResult) (attempts entries : List Attempt) : Prop where
  status : result.statusCode < 500
  attempts : result.attempts = attempts ++ entries
  last : ∃ n latency, entries.getLast? =
    some (.answered result.provider n result.statusCode latency "completed")
  others : ∀ e ∈ entries.dropLast, e.isCompleted = false

theorem Completes.prepend {result : InvokeResult} {attempts entries entries' : List Attempt}
    (h : Completes result (attempts ++ entries) entries')
    (hnot : ∀ e ∈ entries, e.isCompleted = false) :
    Completes result attempts (entries ++ entries') where
  status := h.status
  attempts := by rw [h.attempts, List.append_assoc]
  last := by
    obtain ⟨n, latency, hlast⟩ := h.last
    refine ⟨n, latency, ?_⟩
    rw [List.getLast?_append, hlast]
    rfl
  others := by
    have hne : entries' ≠ [] := by
      rintro rfl
      obtain ⟨_, _, hlast⟩ := h.last
      cases hlast
    rw [List.dropLast_append_of_ne_nil hne]
    exact List.forall_mem_append.mpr ⟨hnot, h.others⟩

/-- An exception that is not one of the mesh's own. -/
def IsForeign (fault : Fault) : Prop := ∀ code detail, fault ≠ .mesh code detail

theorem isForeign_httpx (e : HttpxError) : IsForeign (.httpx e) := by rintro _ _ ⟨⟩

theorem isForeign_python (e : PyError) : IsForeign (.python e) := by rintro _ _ ⟨⟩

theorem isForeign_body (e : PyError) : IsForeign (.body e) := by rintro _ _ ⟨⟩

/-- The tries at one provider end in a result, or all of them failed. -/
theorem attemptLoop_noted (left n : ℕ) (attempts : List Attempt) :
    noteView.Explains
      (MeshEngine.attemptLoop py cfg request policy correlationId s url (List.range' n left)
        attempts)
      fun m r ↦
        (∃ entries, Tries s n left entries m ∧
          ((∃ result, r = .ok (.inl result) ∧ result.provider = s.id ∧
              Completes result attempts entries) ∨
            r = .ok (.inr (attempts ++ entries)) ∧ ∀ e ∈ entries, e.isFailure = true)) ∨
          ∃ fault, r = .error fault ∧ IsForeign fault := by
  induction left generalizing n attempts with
  | zero =>
      refine View.explains_ret (.inl ⟨[], .exhausted, .inr ⟨?_, List.forall_mem_nil _⟩⟩)
      rw [List.append_nil]
  | succ left ih =>
      rw [List.range'_succ, MeshEngine.attemptLoop]
      apply View.explains_bind (attemptOnce_noted n attempts)
      · rintro m outcome ⟨rfl, houtcome⟩
        cases houtcome with
        | @completed result latency hstatus hprovider hattempts =>
            refine View.explains_ret (.inl ⟨_, .last rfl rfl (.inl ⟨rfl, ?_⟩), .inl ⟨result, rfl,
              hprovider, hstatus, hattempts, ⟨n, latency, ?_⟩, ?_⟩⟩)
            · exact decide_eq_false fun h ↦ absurd hstatus (not_lt.mpr h.1)
            · rw [hprovider]
              rfl
            · exact List.forall_mem_nil _
        | @failed e hservice hnumber hfailure =>
            simp only [perform_bind]
            refine View.ofMark_op fun admitted ↦ ?_
            cases admitted with
            | false =>
                refine View.explains_ret (.inl ⟨[e], ?_, .inr ⟨rfl, ?_⟩⟩)
                · exact .last hservice hnumber (.inr rfl)
                · exact List.forall_mem_singleton.mpr hfailure
            | true =>
                apply (ih (n + 1) (attempts ++ [e])).mono
                rintro m r (⟨entries, htries, h⟩ | hescaped)
                · refine .inl ⟨e :: entries, .retried hservice hnumber hfailure htries, ?_⟩
                  rcases h with ⟨result, rfl, hprovider, hcompletes⟩ | ⟨rfl, hfailures⟩
                  · refine .inl ⟨result, rfl, hprovider, ?_⟩
                    refine hcompletes.prepend (List.forall_mem_singleton.mpr ?_)
                    exact Attempt.not_isCompleted hfailure
                  · refine .inr ⟨?_, List.forall_mem_cons.mpr ⟨hfailure, hfailures⟩⟩
                    rw [List.append_assoc]
                    rfl
                · exact .inr hescaped
      · rintro m fault ⟨rfl, houtcome⟩
        cases houtcome with
        | escaped he => exact .inr ⟨_, rfl, isForeign_httpx _⟩
        | undecoded e => exact .inr ⟨_, rfl, isForeign_body _⟩

/-- The turns of the first candidates of a list. -/
structure Turns (retries : ℕ) (candidates : List Value) (turns : List Turn) : Prop where
  shaped : ∀ turn ∈ turns, turn.WellShaped retries
  inOrder : List.Forall₂ Turn.IsOf (candidates.take turns.length) turns

theorem Turns.nil (retries : ℕ) (candidates : List Value) : Turns retries candidates [] :=
  ⟨List.forall_mem_nil _, .nil⟩

theorem Turns.cons {retries : ℕ} {candidate : Value} {candidates : List Value} {turn : Turn}
    {turns : List Turn} (hshaped : turn.WellShaped retries) (hof : turn.IsOf candidate)
    (h : Turns retries candidates turns) :
    Turns retries (candidate :: candidates) (turn :: turns) where
  shaped := List.forall_mem_cons.mpr ⟨hshaped, h.shaped⟩
  inOrder := .cons hof h.inOrder

/-- What the turns of a list of candidates come to: a result that ends them, or a
turn of every candidate and no completed entry. -/
def TurnsEnd (candidates : List Value) (attempts : List Attempt) (turns : List Turn)
    (r : Except Fault (InvokeResult ⊕ List Attempt)) : Prop :=
  let entries := turns.flatMap Turn.entries
  (∃ result turn, r = .ok (.inl result) ∧ turns.getLast? = some turn ∧
      turn.service.id = result.provider ∧ Completes result attempts entries) ∨
    r = .ok (.inr (attempts ++ entries)) ∧ turns.length = candidates.length ∧
      ∀ e ∈ entries, e.isCompleted = false

/-- A turn without a completed entry leaves the end to the candidates behind it. -/
theorem TurnsEnd.cons {candidate : Value} {candidates : List Value} {attempts : List Attempt}
    {turn : Turn} {turns : List Turn} {r : Except Fault (InvokeResult ⊕ List Attempt)}
    (hnot : ∀ e ∈ turn.entries, e.isCompleted = false)
    (h : TurnsEnd candidates (attempts ++ turn.entries) turns r) :
    TurnsEnd (candidate :: candidates) attempts (turn :: turns) r := by
  unfold TurnsEnd
  rw [List.flatMap_cons]
  rcases h with ⟨result, turn', rfl, hlast, hprovider, hcompletes⟩ | ⟨rfl, hlength, hnots⟩
  · refine .inl ⟨result, turn', rfl, ?_, hprovider, hcompletes.prepend hnot⟩
    rw [List.getLast?_cons, hlast]
    rfl
  · refine .inr ⟨?_, congrArg Nat.succ hlength, List.forall_mem_append.mpr ⟨hnot, hnots⟩⟩
    rw [List.append_assoc]

/-- The candidates take turns in the order of the registry, until one is served. -/
theorem candidateLoop_noted (candidates : List Value) (attempts : List Attempt) :
    noteView.Explains
      (MeshEngine.candidateLoop py cfg request policy correlationId candidates attempts)
      fun m r ↦
        (∃ turns, Turns policy.retries candidates turns ∧ m = turns.flatMap Turn.notes ∧
          TurnsEnd candidates attempts turns r) ∨
          ∃ fault, r = .error fault ∧ IsForeign fault := by
  induction candidates generalizing attempts with
  | nil =>
      refine View.explains_ret (.inl ⟨[], .nil _ _, rfl, .inr ⟨?_, rfl, List.forall_mem_nil _⟩⟩)
      rw [List.flatMap_nil, List.append_nil]
  | cons candidate candidates ih =>
      rw [MeshEngine.candidateLoop]
      cases hservice : MeshEngine.candidateService candidate with
      | error e => exact View.explains_raise (.inr ⟨_, rfl, isForeign_python _⟩)
      | ok s =>
          simp only [MeshM.lift, ret_bind, perform_bind]
          refine View.ofMark_op fun admitted ↦ ?_
          cases admitted with
          | false =>
              apply (ih _).mono
              rintro m r (⟨turns, hturns, rfl, hend⟩ | hforeign)
              · let turn : Turn := ⟨s, [.openCircuitSkip s.id], [.checked s.key false]⟩
                refine .inl ⟨turn :: turns, hturns.cons (.inl ⟨rfl, rfl⟩) hservice, rfl, ?_⟩
                exact hend.cons (List.forall_mem_singleton.mpr rfl)
              · exact .inr hforeign
          | true =>
              rw [if_pos rfl]
              split
              · rename_i url hurl
                rw [ret_bind]
                apply View.explains_bind (attemptLoop_noted (policy.retries + 1) 1 attempts)
                · rintro m outcome (⟨entries, htries, h⟩ | ⟨fault, he, -⟩)
                  · let turn : Turn := ⟨s, entries, .checked s.key true :: m⟩
                    have hshaped : turn.WellShaped policy.retries := .inr ⟨m, rfl, htries⟩
                    rcases h with ⟨result, h, hprovider, hcompletes⟩ | ⟨h, hfailures⟩
                    · cases h
                      refine View.explains_ret (.inl ⟨[turn], (Turns.nil _ _).cons hshaped
                        hservice, ?_, .inl ⟨result, turn, rfl, rfl, hprovider.symm, ?_⟩⟩)
                      · rw [List.flatMap_singleton, List.append_nil]
                        rfl
                      · rwa [List.flatMap_singleton]
                    · cases h
                      apply (ih _).mono
                      rintro m' r (⟨turns, hturns, rfl, hend⟩ | hforeign)
                      · refine .inl ⟨turn :: turns, hturns.cons hshaped hservice, ?_, ?_⟩
                        · rw [List.flatMap_cons]
                          rfl
                        · exact hend.cons fun e he ↦ Attempt.not_isCompleted (hfailures e he)
                      · exact .inr hforeign
                  · cases he
                · rintro m fault (⟨entries, -, ⟨result, he, -⟩ | ⟨he, -⟩⟩ | ⟨fault', he, hforeign⟩)
                  · cases he
                  · cases he
                  · cases he
                    exact .inr ⟨_, rfl, hforeign⟩
              · exact View.explains_raise (.inr ⟨_, rfl, isForeign_python _⟩)

/-! ## The whole invocation -/

/-- Nothing is noted of the preliminaries. -/
theorem note_of_isPreliminary {x : Performed MeshOp MeshOp.Ans} (h : x.1.IsPreliminary) :
    note x = none := by
  obtain ⟨o, a⟩ := x
  cases o with
  | uuid => rfl
  | getPolicy _ => rfl
  | registry _ _ => rfl
  | _ => cases h

/-- The invocation returns: its turns end with the one that was served. -/
structure Returns (turns : List Turn) (notes : List Noted) (r : Except Fault InvokeResult) :
    Prop where
  result : ∃ result turn, r = .ok result ∧ turns.getLast? = some turn ∧
    turn.service.id = result.provider ∧ Completes result [] (turns.flatMap Turn.entries)
  notes : notes = turns.flatMap Turn.notes

/-- The invocation gives up: every candidate had its turn, no entry is completed, and
all of them are reported. -/
structure GivesUp (candidates : List Value) (capabilityId : String) (turns : List Turn)
    (notes : List Noted) (r : Except Fault InvokeResult) : Prop where
  result : r = .error (.mesh 502 "all mesh providers exhausted")
  all : turns.length = candidates.length
  failed : ∀ e ∈ turns.flatMap Turn.entries, e.isCompleted = false
  notes : notes = turns.flatMap Turn.notes ++ [.gaveUp (.object
    [("capability_id", .str capabilityId),
      ("attempts", .list ((turns.flatMap Turn.entries).map Attempt.toValue)),
      ("reason", .str "all providers exhausted")])]

/-- What an invocation comes to that has its candidates. -/
def Concludes (retries : ℕ) (candidates : List Value) (capabilityId : String)
    (notes : List Noted) (r : Except Fault InvokeResult) : Prop :=
  ∃ turns, Turns retries candidates turns ∧
    (Returns turns notes r ∨ GivesUp candidates capabilityId turns notes r)

theorem serveCandidates_noted (candidates : List Value) :
    noteView.Explains
      (MeshEngine.serveCandidates py cfg request policy correlationId candidates)
      fun m r ↦ Concludes policy.retries candidates request.capabilityId m r ∨
        ∃ fault, r = .error fault ∧ IsForeign fault := by
  rw [MeshEngine.serveCandidates]
  cases candidates.mapM MeshEngine.candidateId with
  | error e => exact View.explains_raise (.inr ⟨_, rfl, isForeign_python _⟩)
  | ok providers =>
      simp only [MeshM.lift, ret_bind, perform_bind]
      refine View.ofMark_op fun event ↦ ?_
      apply View.explains_bind (publishEvent_noted event)
      · rintro m _ ⟨rfl, -⟩
        apply View.explains_bind (candidateLoop_noted candidates [])
        · rintro m outcome (⟨turns, hturns, rfl, hend⟩ | ⟨fault, h, -⟩)
          · rcases hend with ⟨result, turn, h, hlast, hprovider, hcompletes⟩ | ⟨h, hlength, hnots⟩
            · cases h
              have hreturns := And.intro hlast (And.intro hprovider hcompletes)
              refine View.explains_ret (.inl ⟨turns, hturns, .inl ⟨⟨result, turn, rfl, hreturns⟩, ?_⟩⟩)
              exact List.append_nil _
            · cases h
              refine View.ofMark_op fun event ↦ ?_
              apply View.explains_bind (publishEvent_noted event)
              · rintro m _ ⟨rfl, -⟩
                exact View.explains_raise
                  (.inl ⟨turns, hturns, .inr ⟨rfl, hlength, hnots, rfl⟩⟩)
              · rintro m fault ⟨-, h | ⟨e, h, -⟩⟩
                · cases h
                · cases h
                  exact .inr ⟨_, rfl, isForeign_httpx _⟩
          · cases h
        · rintro m fault (⟨turns, -, -, ⟨result, turn, h, -⟩ | ⟨h, -⟩⟩ | ⟨fault', h, hforeign⟩)
          · cases h
          · cases h
          · cases h
            exact .inr ⟨_, rfl, hforeign⟩
      · rintro m fault ⟨-, h | ⟨e, h, -⟩⟩
        · cases h
        · cases h
          exact .inr ⟨_, rfl, isForeign_httpx _⟩

end Serve

/-! ## Requests and entries -/

/-- Whether an operation sends a request to a provider. -/
def isUpstream (x : Performed MeshOp MeshOp.Ans) : Bool :=
  match x.1 with
  | .upstream _ _ => true
  | _ => false

/-- The number of requests that were sent to providers. -/
def requestsSent (t : List (Performed MeshOp MeshOp.Ans)) : ℕ := t.countP isUpstream

theorem countP_isSent (t : List (Performed MeshOp MeshOp.Ans)) :
    (t.filterMap note).countP Noted.isSent = requestsSent t := by
  unfold requestsSent
  rw [List.countP_filterMap]
  refine List.countP_congr fun x _ ↦ ?_
  obtain ⟨o, a⟩ := x
  cases o with
  | emit eventType _ _ => cases eventType <;> rfl
  | _ => rfl

/-- A request was sent for every numbered entry, and for no other. -/
theorem Turns.sent {retries : ℕ} {candidates : List Value} {turns : List Turn}
    (h : Turns retries candidates turns) :
    (turns.flatMap Turn.notes).countP Noted.isSent =
      (turns.flatMap Turn.entries).countP fun e ↦ e.number?.isSome := by
  rw [List.countP_flatMap, List.countP_flatMap]
  exact congrArg List.sum (List.map_congr_left fun turn hturn ↦ (h.shaped turn hturn).sent)

/-- The attempts of an invocation that has its candidates are their turns: in the
order of the registry, each a skip or the numbered tries at one provider, which end
early only when the breaker refuses; the last entry is the only completed one if
there is one; and a request was sent for every numbered entry.  Otherwise an
exception that is not the mesh's own has ended the invocation. -/
theorem attempts_are_turns (py : Builtins) (cfg : MeshConfig) (request : InvokeRequest)
    (t : List (Performed MeshOp MeshOp.Ans)) (r : Except Fault InvokeResult)
    (correlationId : String) (policy : MeshPolicy) (candidates : List Value)
    (ht : Trace (MeshEngine.invoke py cfg request) t r)
    (hobtains : Obtains cfg request t correlationId policy candidates) :
    (∃ turns, Turns policy.retries candidates turns ∧
        requestsSent t = (turns.flatMap Turn.entries).countP (fun e ↦ e.number?.isSome) ∧
        (Returns turns (t.filterMap note) r ∨
          GivesUp candidates request.capabilityId turns (t.filterMap note) r)) ∨
      ∃ fault, r = .error fault ∧ IsForeign fault := by
  obtain ⟨t₁, t₂, rfl, h₁, h₂⟩ := hobtains.serve ht
  have hquiet : t₁.filterMap note = [] :=
    List.filterMap_eq_nil_iff.mpr fun x hx ↦
      note_of_isPreliminary ((obtainCandidates_performs cfg request).of_trace h₁ x hx)
  rw [← countP_isSent, List.filterMap_append, hquiet, List.nil_append]
  refine ((serveCandidates_noted candidates).of_trace h₂).imp_left ?_
  rintro ⟨turns, hturns, hend⟩
  refine ⟨turns, hturns, ?_, hend⟩
  rcases hend with h | h
  · rw [h.notes, hturns.sent]
  · rw [h.notes, List.countP_append, hturns.sent]
    rfl

/-- The attempts at two providers of which only the second one can be reached. -/
theorem connect_errors_take_turns :
    let run := twoProviders (List.replicate 20 ({} : Host) ++ [{ net := .ok { statusCode := 200 } }])
    requestsSent run.1 = 4 ∧ ∃ turns, Turns 2 [providerA.candidate, providerB.candidate] turns ∧
      (turns.flatMap Turn.entries).countP (fun e ↦ e.number?.isSome) = 4 ∧
      Returns turns (run.1.filterMap note) run.2.1 := by
  intro run
  have hsent : requestsSent run.1 = 4 := by decide +kernel
  have hrun : Trace (MeshEngine.invoke default notesConfig (notesRequest ∅)) run.1 run.2.1 :=
    exec_trace _ _ _
  have hok : run.2.1.toBool = true := by decide +kernel
  refine ⟨hsent, ?_⟩
  rcases attempts_are_turns _ _ _ _ _ _ _ _ hrun (twoProviders_obtains _) with
    ⟨turns, hturns, hcount, h | h⟩ | ⟨fault, h, -⟩
  · exact ⟨turns, hturns, hcount.symm.trans hsent, h⟩
  · rw [h.result] at hok
    cases hok
  · rw [h] at hok
    cases hok

end EstateMesh
