import EstateMesh.Mesh.RegistryAnswers
import Mathlib.Data.List.TakeWhile
import Mathlib.Data.List.DropRight

/-!
# Where requests go

An invocation has the path from its caller and the endpoint from the registry, and puts them
together as text.  No path leads away from the endpoint: the URL has the scheme and the
authority of the endpoint, or none at all, and then the HTTP client does not know where to send
the request (`origin_of_targetUrl`).  So whatever the caller asks for, the mesh talks to the
registry, to the event gateway, and to the providers that the registry has offered
(`traffic_stays_with_providers`).
-/

namespace EstateMesh

open Lib Prog

/-! ## Origins -/

/-- Whether a character can stand in a scheme, by the generic syntax of URLs. -/
def isSchemeChar (c : Char) : Bool := c ∉ [':', '/', '?', '#']

/-- Whether a character can stand in an authority. -/
def isAuthorityChar (c : Char) : Bool := c ∉ ['/', '?', '#']

/-- The scheme and the authority of a URL that has an authority. -/
def origin (url : List Char) : Option (Option (List Char) × List Char) :=
  let split : Option (List Char) × List Char :=
    match url.dropWhile isSchemeChar with
    | ':' :: rest => (some (url.takeWhile isSchemeChar), rest)
    | _ => (none, url)
  match split.2 with
  | '/' :: '/' :: rest => some (split.1, rest.takeWhile isAuthorityChar)
  | _ => none

/-- What stands before the two slashes. -/
def schemeText : Option (List Char) → List Char
  | none => []
  | some scheme => scheme ++ [':']

theorem slash_not_mem_schemeText {scheme : Option (List Char)}
    (h : ∀ s ∈ scheme, ∀ c ∈ s, isSchemeChar c = true) : '/' ∉ schemeText scheme := by
  cases scheme with
  | none => nofun
  | some s =>
      intro hmem
      rcases List.mem_append.mp hmem with hs | hcolon
      · exact absurd (h s rfl _ hs) (by decide)
      · exact absurd (List.mem_singleton.mp hcolon) (by decide)

/-- A URL with an origin is made of its scheme, two slashes, and what begins with the
authority. -/
theorem origin_eq_some_iff {url : List Char} {o : Option (List Char) × List Char} :
    origin url = some o ↔
      (∀ s ∈ o.1, ∀ c ∈ s, isSchemeChar c = true) ∧
        ∃ rest, url = schemeText o.1 ++ '/' :: '/' :: rest ∧
          o.2 = rest.takeWhile isAuthorityChar := by
  constructor
  · intro h
    rw [origin] at h
    split at h
    · rename_i rest hrest
      obtain rfl := Option.some.inj h
      split at hrest
      · rename_i rest' hdrop
        dsimp only at hrest ⊢
        refine ⟨?_, rest, ?_, rfl⟩
        · rintro s ⟨⟩
          exact fun c hc ↦ List.mem_takeWhile_imp hc
        · rw [schemeText, List.append_assoc, List.singleton_append, ← hrest, ← hdrop,
            List.takeWhile_append_dropWhile]
      · exact ⟨nofun, rest, hrest, rfl⟩
    · cases h
  · obtain ⟨scheme, authority⟩ := o
    rintro ⟨hscheme, rest, rfl, rfl⟩
    cases scheme with
    | none => rfl
    | some s =>
        have hall := hscheme s rfl
        have hcolon : (schemeText (some s) ++ '/' :: '/' :: rest) = s ++ ':' :: '/' :: '/' :: rest :=
          List.append_assoc s [':'] _
        rw [hcolon, origin, List.dropWhile_append_of_pos hall, List.takeWhile_append_of_pos hall]
        simp [isSchemeChar]

variable {url tail : List Char} {o : Option (List Char) × List Char}

/-- What begins with a slash does not change the origin. -/
theorem origin_append (h : origin url = some o) (htail : ∀ c ∈ tail.head?, c = '/') :
    origin (url ++ tail) = some o := by
  obtain ⟨hscheme, rest, rfl, hauthority⟩ := origin_eq_some_iff.mp h
  refine origin_eq_some_iff.mpr ⟨hscheme, rest ++ tail, by simp, ?_⟩
  have hstop : tail.takeWhile isAuthorityChar = [] := by
    cases tail with
    | nil => rfl
    | cons c tail =>
        rw [htail c rfl]
        rfl
  rw [hauthority, List.takeWhile_append, hstop, List.append_nil]
  split
  · rename_i hlength
    exact (List.takeWhile_prefix _).eq_of_length hlength
  · rfl

/-- Two slashes do not come about at the seam. -/
theorem exists_origin_of_append {path : List Char} (hurl : '/' ∉ url.getLast?)
    (hpath : '/' ∉ path.head?) (h : origin (url ++ '/' :: path) = some o) :
    ∃ o', origin url = some o' := by
  obtain ⟨hscheme, rest, heq, -⟩ := origin_eq_some_iff.mp h
  have hslash := slash_not_mem_schemeText hscheme
  rcases List.append_eq_append_iff.mp heq with ⟨a, ha, hrest⟩ | ⟨c, rfl, hrest⟩
  · cases a with
    | nil =>
        obtain ⟨-, rfl⟩ := List.cons.inj hrest
        exact absurd rfl hpath
    | cons c a =>
        obtain ⟨rfl, -⟩ := List.cons.inj hrest
        exact absurd (ha ▸ List.mem_append_right _ List.mem_cons_self) hslash
  · match c, hrest with
    | [], hrest =>
        obtain ⟨-, rfl⟩ := List.cons.inj hrest
        exact absurd rfl hpath
    | [c], hrest =>
        obtain ⟨rfl, -⟩ := List.cons.inj hrest
        exact absurd (by rw [List.getLast?_concat]; rfl) hurl
    | c :: c' :: rest', hrest =>
        obtain ⟨rfl, hrest'⟩ := List.cons.inj hrest
        obtain ⟨rfl, -⟩ := List.cons.inj hrest'
        exact ⟨(o.1, rest'.takeWhile isAuthorityChar),
          origin_eq_some_iff.mpr ⟨hscheme, rest', rfl, rfl⟩⟩

/-! ## Targets -/

theorem not_head?_dropWhile_slash (chars : List Char) :
    '/' ∉ (chars.dropWhile (· = '/')).head? := by
  intro h
  have hnot := List.head?_dropWhile_not (fun c ↦ decide (c = '/')) chars
  rw [Option.mem_def.mp h] at hnot
  cases hnot

/-- A text is what is left of it, and slashes. -/
theorem exists_rstripSlash (s : String) :
    '/' ∉ (rstripSlash s).toList.getLast? ∧
      ∃ n, s.toList = (rstripSlash s).toList ++ List.replicate n '/' := by
  rw [rstripSlash, String.toList_ofList, List.getLast?_reverse]
  refine ⟨not_head?_dropWhile_slash _, (s.toList.reverse.takeWhile (· = '/')).length, ?_⟩
  have hslashes : ∀ c ∈ s.toList.reverse.takeWhile (· = '/'), c = '/' := fun c hc ↦ by
    simpa using List.mem_takeWhile_imp hc
  rw [← List.reverse_replicate, ← List.eq_replicate_of_mem hslashes, ← List.reverse_append,
    List.takeWhile_append_dropWhile, List.reverse_reverse]

variable {endpoint path target : String}

/-- Slashes at the end are not what an authority is made of. -/
theorem exists_origin_rstripSlash (h : origin endpoint.toList = some o) (hne : o.2 ≠ []) :
    ∃ o', origin (rstripSlash endpoint).toList = some o' := by
  obtain ⟨hscheme, rest, heq, hauthority⟩ := origin_eq_some_iff.mp h
  obtain ⟨hlast, n, hendpoint⟩ := exists_rstripSlash endpoint
  obtain ⟨c, rest, rfl⟩ := List.exists_cons_of_ne_nil (l := rest) (by
    rintro rfl
    exact hne hauthority)
  have hc : c ≠ '/' := by
    rintro rfl
    exact hne hauthority
  have hmem (a : List Char) (ha : List.replicate n '/' = a ++ c :: rest) : False :=
    hc (List.eq_of_mem_replicate (ha ▸ List.mem_append_right a List.mem_cons_self))
  rcases List.append_eq_append_iff.mp (hendpoint.symm.trans heq) with ⟨a, -, ha⟩ | ⟨a, hstrip, ha⟩
  · exact (hmem (a ++ ['/', '/']) (by rw [ha, List.append_assoc]; rfl)).elim
  · match a, ha with
    | [], ha => exact (hmem ['/', '/'] ha.symm).elim
    | [_], ha => exact (hmem ['/'] (List.cons.inj ha).2.symm).elim
    | d :: d' :: a, ha =>
        obtain ⟨rfl, ha'⟩ := List.cons.inj ha
        obtain ⟨rfl, -⟩ := List.cons.inj ha'
        exact ⟨(o.1, a.takeWhile isAuthorityChar), origin_eq_some_iff.mpr ⟨hscheme, a, hstrip, rfl⟩⟩

/-- With the stripped endpoint, the endpoint and the URL have an origin, and it is one. -/
theorem origin_of_rstripSlash {o : Option (List Char) × List Char} (hpath : path ≠ "")
    (h : MeshEngine.targetUrl (.str endpoint) path = .ok target)
    (ho : origin (rstripSlash endpoint).toList = some o) :
    origin endpoint.toList = some o ∧ origin target.toList = some o := by
  obtain ⟨-, n, hendpoint⟩ := exists_rstripSlash endpoint
  obtain rfl := Except.ok.inj h
  rw [if_neg hpath, hendpoint, String.toList_append, String.toList_append, List.append_assoc]
  refine ⟨origin_append ho fun c hc ↦ ?_, origin_append ho fun c hc ↦ (Option.some.inj hc).symm⟩
  exact List.eq_of_mem_replicate (List.mem_of_mem_head? hc)

/-- No path leads away from the endpoint. -/
theorem origin_of_targetUrl (h : MeshEngine.targetUrl (.str endpoint) path = .ok target)
    (ho : origin target.toList = some o) : origin endpoint.toList = some o := by
  by_cases hpath : path = ""
  · obtain rfl := Except.ok.inj h
    rwa [if_pos hpath] at ho
  · have hhead : '/' ∉ (lstripSlash path).toList.head? := by
      rw [lstripSlash, String.toList_ofList]
      exact not_head?_dropWhile_slash _
    have htarget : target.toList =
        (rstripSlash endpoint).toList ++ '/' :: (lstripSlash path).toList := by
      obtain rfl := Except.ok.inj h
      rw [if_neg hpath, String.toList_append, String.toList_append, List.append_assoc]
      rfl
    obtain ⟨o', ho'⟩ := exists_origin_of_append (exists_rstripSlash endpoint).1 hhead (htarget ▸ ho)
    obtain ⟨hendpoint, hurl⟩ := origin_of_rstripSlash hpath h ho'
    rwa [Option.some.inj (ho.symm.trans hurl)]

/-- An endpoint with an authority is where the URL leads. -/
theorem origin_targetUrl (h : MeshEngine.targetUrl (.str endpoint) path = .ok target)
    (ho : origin endpoint.toList = some o) (hne : o.2 ≠ []) : origin target.toList = some o := by
  by_cases hpath : path = ""
  · obtain rfl := Except.ok.inj h
    rwa [if_pos hpath]
  · obtain ⟨o', ho'⟩ := exists_origin_rstripSlash ho hne
    obtain ⟨hendpoint, hurl⟩ := origin_of_rstripSlash hpath h ho'
    rwa [Option.some.inj (ho.symm.trans hendpoint)]

/-! ## Invocations -/

/-- The request goes to a provider that was offered, and says what the caller asks. -/
structure SentTo (candidates : List Value) (request : InvokeRequest) (service : ServiceKey)
    (outgoing : UpstreamRequest) : Prop where
  provider : ∃ candidate ∈ candidates, ∃ id endpoint,
    MeshEngine.candidateService candidate = .ok ⟨id, service⟩ ∧
      candidate.getItem "endpoint" = .ok (.str endpoint) ∧
      (∀ o, origin outgoing.url.toList = some o → origin endpoint.toList = some o) ∧
      ∀ o, origin endpoint.toList = some o → o.2 ≠ [] → origin outgoing.url.toList = some o
  method : outgoing.method = request.method
  params : outgoing.params = request.query
  json : outgoing.json = request.body

/-- Where the operations of an invocation may lead. -/
def MeshOp.LeadsTo (cfg : MeshConfig) (sends : ServiceKey → UpstreamRequest → Prop) : MeshOp → Prop
  | .registry url _ => url = cfg.registryUrl ++ "/v1/resolve"
  | .publish url _ => url = cfg.eventGatewayUrl ∧ url ≠ ""
  | .upstream service outgoing => sends service outgoing
  | _ => True

section LeadsTo

variable {py : Builtins} {cfg : MeshConfig} {request : InvokeRequest} {policy : MeshPolicy}
  {correlationId url : String} {service : Service} {sends : ServiceKey → UpstreamRequest → Prop}

theorem publishEvent_leadsTo (event : MeshEvent) :
    Performs (MeshOp.LeadsTo cfg sends) (MeshEngine.publishEvent cfg event) := by
  rw [MeshEngine.publishEvent]
  split
  · trivial
  · rename_i hurl
    simp only [perform_bind]
    refine ⟨⟨rfl, hurl⟩, fun answer ↦ ?_⟩
    cases answer with
    | ok response => trivial
    | error e =>
        dsimp only
        split <;> trivial

theorem handleResponse_leadsTo (n : ℕ) (attempts : List Attempt) (started : ℚ)
    (response : Response) :
    Performs (MeshOp.LeadsTo cfg sends)
      (MeshEngine.handleResponse py cfg request policy correlationId service url n attempts
        started response) := by
  unfold MeshEngine.handleResponse
  simp only [perform_bind]
  refine ⟨trivial, fun finished ↦ ?_⟩
  split
  · refine ⟨trivial, fun _ ↦ ⟨trivial, fun event ↦ ?_⟩⟩
    refine performs_bind (publishEvent_leadsTo event) fun _ ↦ ?_
    exact performs_bind (performs_liftBody _) fun _ ↦ trivial
  · exact ⟨trivial, fun _ ↦ trivial⟩

theorem attemptOnce_leadsTo (n : ℕ) (attempts : List Attempt)
    (hsends : ∀ timestamp, sends service.key
      (MeshEngine.upstreamRequest py cfg request policy correlationId timestamp url)) :
    Performs (MeshOp.LeadsTo cfg sends)
      (MeshEngine.attemptOnce py cfg request policy correlationId service url n attempts) := by
  unfold MeshEngine.attemptOnce
  simp only [perform_bind]
  refine ⟨trivial, fun now ↦ ⟨trivial, fun started ↦ ?_⟩⟩
  refine performs_tryCatch ⟨hsends _, fun answer ↦ ?_⟩ fun fault ↦ ?_
  · cases answer with
    | error e => trivial
    | ok response => exact handleResponse_leadsTo n attempts started response
  · cases fault with
    | httpx e =>
        rw [MeshEngine.handleFault]
        split
        · exact ⟨trivial, fun _ ↦ trivial⟩
        · trivial
    | _ => trivial

theorem attemptLoop_leadsTo (ns : List ℕ) (attempts : List Attempt)
    (hsends : ∀ timestamp, sends service.key
      (MeshEngine.upstreamRequest py cfg request policy correlationId timestamp url)) :
    Performs (MeshOp.LeadsTo cfg sends)
      (MeshEngine.attemptLoop py cfg request policy correlationId service url ns attempts) := by
  induction ns generalizing attempts with
  | nil => trivial
  | cons n ns ih =>
      rw [MeshEngine.attemptLoop]
      refine performs_bind (attemptOnce_leadsTo n attempts hsends) fun outcome ↦ ?_
      cases outcome with
      | inl result => trivial
      | inr attempts =>
          refine ⟨trivial, fun admitted ↦ ?_⟩
          cases admitted with
          | false => trivial
          | true => exact ih attempts

/-- The request that is made of a candidate is sent to it. -/
theorem sentTo_upstreamRequest {candidates : List Value} {candidate : Value}
    (hmem : candidate ∈ candidates)
    (hservice : MeshEngine.candidateService candidate = .ok service)
    (hurl : (do MeshEngine.targetUrl (← candidate.getItem "endpoint") request.path) = .ok url)
    (timestamp : String) :
    SentTo candidates request service.key
      (MeshEngine.upstreamRequest py cfg request policy correlationId timestamp url) := by
  obtain ⟨endpoint, hendpoint, htarget⟩ := bind_eq_ok_iff.mp hurl
  cases endpoint with
  | str endpoint =>
      exact ⟨⟨candidate, hmem, service.id, endpoint, hservice, hendpoint,
        fun o ↦ origin_of_targetUrl htarget, fun o ↦ origin_targetUrl htarget⟩, rfl, rfl, rfl⟩
  | _ => cases htarget

/-- The loop sends to the candidates it is given. -/
theorem candidateLoop_leadsTo {all candidates : List Value} (h : candidates ⊆ all)
    (attempts : List Attempt) :
    Performs (MeshOp.LeadsTo cfg (SentTo all request))
      (MeshEngine.candidateLoop py cfg request policy correlationId candidates attempts) := by
  induction candidates generalizing attempts with
  | nil => trivial
  | cons candidate candidates ih =>
      obtain ⟨hmem, hrest⟩ := List.cons_subset.mp h
      rw [MeshEngine.candidateLoop]
      cases hservice : MeshEngine.candidateService candidate with
      | error e => trivial
      | ok s =>
          simp only [MeshM.lift, ret_bind, perform_bind]
          refine ⟨trivial, fun admitted ↦ ?_⟩
          cases admitted with
          | false => exact ih hrest _
          | true =>
              simp only [if_true]
              split
              · rename_i url hurl
                rw [ret_bind]
                refine performs_bind (attemptLoop_leadsTo _ attempts
                  (sentTo_upstreamRequest hmem hservice hurl)) fun outcome ↦ ?_
                cases outcome with
                | inl result => trivial
                | inr attempts => exact ih hrest attempts
              · trivial

theorem serveCandidates_leadsTo (candidates : List Value) :
    Performs (MeshOp.LeadsTo cfg (SentTo candidates request))
      (MeshEngine.serveCandidates py cfg request policy correlationId candidates) := by
  unfold MeshEngine.serveCandidates
  cases candidates.mapM MeshEngine.candidateId with
  | error e => trivial
  | ok providers =>
      simp only [MeshM.lift, ret_bind, perform_bind]
      refine ⟨trivial, fun event ↦ performs_bind (publishEvent_leadsTo event) fun _ ↦ ?_⟩
      refine performs_bind (candidateLoop_leadsTo (List.Subset.refl candidates) []) fun outcome ↦ ?_
      cases outcome with
      | inl result => trivial
      | inr attempts =>
          exact ⟨trivial, fun event ↦ performs_bind (publishEvent_leadsTo event) fun _ ↦ trivial⟩

theorem MeshOp.LeadsTo.mono {sends' : ServiceKey → UpstreamRequest → Prop} {o : MeshOp}
    (h : o.LeadsTo cfg sends) (hsends : ∀ s outgoing, sends s outgoing → sends' s outgoing) :
    o.LeadsTo cfg sends' := by
  cases o with
  | upstream s outgoing => exact hsends s outgoing h
  | _ => exact h

/-- Before it serves its candidates, an invocation asks the registry and nobody else. -/
theorem MeshOp.LeadsTo.of_isPreliminary {sends' : ServiceKey → UpstreamRequest → Prop} {o : MeshOp}
    (h : o.LeadsTo cfg sends) (ho : o.IsPreliminary) : o.LeadsTo cfg sends' := by
  cases o with
  | upstream s outgoing => exact ho.elim
  | _ => exact h

theorem invoke_leadsTo :
    Performs (MeshOp.LeadsTo cfg fun _ _ ↦ True) (MeshEngine.invoke py cfg request) := by
  rw [invoke_eq_asking, asking]
  refine performs_bind ?_ fun correlationId ↦ ?_
  · rw [MeshEngine.correlationId]
    split
    · exact ⟨trivial, fun _ ↦ trivial⟩
    · trivial
  · simp only [perform_bind, registryCandidates_eq, op_bind]
    refine ⟨trivial, fun policy ↦ ⟨rfl, fun answer ↦ ?_⟩⟩
    dsimp only
    cases registryOutcome answer with
    | error fault => trivial
    | ok candidates =>
        exact (serveCandidates_leadsTo candidates).mono fun o ho ↦ ho.mono fun _ _ _ ↦ trivial

end LeadsTo

/-- Whatever happens to an invocation, and whatever its caller asks for, it asks the registry,
tells the event gateway if there is one, and sends the request of the caller to candidates of
the registry, and nowhere else. -/
theorem traffic_stays_with_providers (py : Builtins) (cfg : MeshConfig) (request : InvokeRequest)
    (t : List (Performed MeshOp MeshOp.Ans)) (r : Except Fault InvokeResult)
    (ht : Trace (MeshEngine.invoke py cfg request) t r) :
    ∀ x ∈ t, x.1.LeadsTo cfg fun service outgoing ↦
      ∃ url json answer candidates,
        (⟨.registry url json, answer⟩ : Performed MeshOp MeshOp.Ans) ∈ t ∧
          Offers answer candidates ∧ SentTo candidates request service outgoing := by
  have hall := invoke_leadsTo.of_trace ht
  rw [invoke_eq_asking] at ht
  obtain ⟨answer, hanswered, houtcome⟩ := asking_trace ht
  obtain ⟨url, json, hasked⟩ := mem_of_registryAnswer hanswered
  cases hanswer : registryOutcome answer with
  | error fault =>
      rw [hanswer] at houtcome
      exact fun x hx ↦ (hall x hx).of_isPreliminary (houtcome.2 x hx)
  | ok candidates =>
      rw [hanswer] at houtcome
      obtain ⟨correlationId, policy, t₁, t₂, rfl, hpreliminary, hserve⟩ := houtcome
      have hoffers := (registryOutcome_eq_ok.mp hanswer).1
      refine List.forall_mem_append.mpr ⟨fun x hx ↦ ?_, fun x hx ↦ ?_⟩
      · exact (hall x (List.mem_append_left _ hx)).of_isPreliminary (hpreliminary x hx)
      · exact ((serveCandidates_leadsTo candidates).of_trace hserve x hx).mono
          fun s outgoing hsent ↦ ⟨url, json, answer, candidates, hasked, hoffers, hsent⟩

/-- The URLs of the requests that are sent to providers. -/
def sentUrls (t : List (Performed MeshOp MeshOp.Ans)) : List String :=
  t.filterMap fun x ↦
    match x.1 with
    | .upstream _ outgoing => some outgoing.url
    | _ => none

/-- A path that looks like another host stays a path. -/
theorem host_in_path_is_a_path :
    let request := { notesRequest ∅ with path := "//elsewhere.example/notes" }
    let registry := offers [describe "svc.a" "http://a.internal//"]
    let run := exec MeshEngine.scripted (MeshEngine.invoke default notesConfig request)
      ([{}, registry, {}, {}, { time := 1000 }, {}, { net := .ok { statusCode := 200 } }], {})
    sentUrls run.1 = ["http://a.internal/elsewhere.example/notes"] ∧
      ∀ x ∈ run.1, x.1.LeadsTo notesConfig fun service outgoing ↦
        ∃ url json answer candidates,
          (⟨.registry url json, answer⟩ : Performed MeshOp MeshOp.Ans) ∈ run.1 ∧
            Offers answer candidates ∧ SentTo candidates request service outgoing :=
  ⟨by decide +kernel, traffic_stays_with_providers _ _ _ _ _ (exec_trace _ _ _)⟩

end EstateMesh
