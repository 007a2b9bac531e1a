import EstateMesh.Mesh.Typestate

/-!
# Caller identity

The headers that identify the caller are written over the headers of the
request.  The merge compares names as strings, while a header name means the
same in every case, so what a provider receives under a name is `sentUnder`: the
values of all keys that are this name up to case.

`IdentityGenuine` is what the mesh promises about them.  For each name the merge
leaves exactly the value of the mesh unless the request has a key that differs
from the name only in case (`sentUnder_update`); the signature is written in one
configuration only, so in the other one the request must not mention it at all.
-/

namespace EstateMesh

open Lib Prog

/-- Whether a key is a header name up to case; the name is given in lower case. -/
def isHeader (name key : String) : Bool := key.toLower = name

/-- The values that a provider receives under a header name. -/
def sentUnder (headers : Dict String String) (name : String) : List String :=
  headers.valuesWhere (isHeader name)

/-- The names of the headers that identify the caller, the signature apart. -/
def identityNames : List String :=
  ["x-ga-caller-service", "x-ga-correlation-id", "x-ga-mesh-timestamp"]

/-- The signature of the mesh. -/
def meshSignature (py : Builtins) (secret caller correlationId timestamp : String)
    (method : Method) (url : String) : String :=
  "sha256=" ++ py.hmacSha256 secret
    ("\n".intercalate [caller, correlationId, timestamp, method.name, url])

/-- A provider receives exactly the identity that the mesh computed. -/
structure IdentityGenuine (py : Builtins) (cfg : MeshConfig) (request : InvokeRequest)
    (correlationId : String) (now : ℚ) (outgoing : UpstreamRequest) : Prop where
  caller : sentUnder outgoing.headers "x-ga-caller-service" = [request.callerService]
  correlation : sentUnder outgoing.headers "x-ga-correlation-id" = [correlationId]
  timestamp : sentUnder outgoing.headers "x-ga-mesh-timestamp" = [toString (truncate now)]
  signature : sentUnder outgoing.headers "x-ga-mesh-signature" =
    if cfg.sharedSecret = "" then []
    else [meshSignature py cfg.sharedSecret request.callerService correlationId
      (toString (truncate now)) request.method outgoing.url]

/-- The headers of a request leave the identity alone: none is a case variant of
an identity header, and none is the signature when no secret is configured. -/
def LeavesIdentity (cfg : MeshConfig) (headers : Dict String String) : Prop :=
  (∀ key ∈ headers.keys, key.toLower ∈ identityNames → key = key.toLower) ∧
    ∀ key ∈ headers.keys, key.toLower = "x-ga-mesh-signature" →
      key = key.toLower ∧ cfg.sharedSecret ≠ ""

/-! ## One header -/

/-- A header that is written in its lower-case form, beside other headers in
theirs, is received as written exactly when the request has no variant of it. -/
theorem sentUnder_update {headers identity : Dict String String} {name value : String}
    (hlower : ∀ key ∈ identity.keys, key = key.toLower)
    (hget : identity.get? name = some value) :
    sentUnder (headers.update identity) name = [value] ↔
      ∀ key ∈ headers.keys, key.toLower = name → key = name := by
  have hmem : name ∈ identity.keys := by
    by_contra h
    rw [Dict.get?_eq_none_iff.mpr h] at hget
    cases hget
  have hself : isHeader name name := decide_eq_true (hlower name hmem).symm
  have hupdate : (headers.update identity).get? name = some value := by
    rw [Dict.get?_update, hget]
    rfl
  unfold sentUnder
  rw [Dict.valuesWhere_eq_singleton_iff hself hupdate]
  simp only [Dict.mem_keys_update, isHeader, decide_eq_true_eq]
  constructor
  · intro h key hkey
    exact h key (.inl hkey)
  · intro h key hkey e
    rcases hkey with hkey | hkey
    · exact h key hkey e
    · exact (hlower key hkey).trans e

/-- A header that is not written is not received exactly when the request has no
variant of it. -/
theorem sentUnder_update_eq_nil {headers identity : Dict String String} {name : String}
    (h : ∀ key ∈ identity.keys, key.toLower ≠ name) :
    sentUnder (headers.update identity) name = [] ↔
      ∀ key ∈ headers.keys, key.toLower ≠ name := by
  unfold sentUnder
  rw [Dict.valuesWhere_eq_nil_iff]
  simp only [Dict.mem_keys_update, isHeader, decide_eq_true_eq]
  constructor
  · intro h' key hkey
    exact h' key (.inl hkey)
  · rintro h' key (hkey | hkey)
    · exact h' key hkey
    · exact h key hkey

/-! ## The identity headers -/

section Headers

variable (py : Builtins) (cfg : MeshConfig) (caller correlationId timestamp : String)
  (method : Method) (url : String)

theorem keys_identityHeaders :
    (MeshEngine.identityHeaders py cfg caller correlationId timestamp method url).keys =
      if cfg.sharedSecret = "" then identityNames else identityNames ++ ["x-ga-mesh-signature"] := by
  unfold MeshEngine.identityHeaders
  split
  · rfl
  · rfl

theorem identityHeaders_lower (key : String)
    (h : key ∈ (MeshEngine.identityHeaders py cfg caller correlationId timestamp method url).keys) :
    key = key.toLower := by
  have hall : ∀ k ∈ identityNames ++ ["x-ga-mesh-signature"], k = k.toLower := by decide +kernel
  rw [keys_identityHeaders] at h
  split at h
  · exact hall key (List.mem_append_left _ h)
  · exact hall key h

theorem get?_identityHeaders :
    let identity := MeshEngine.identityHeaders py cfg caller correlationId timestamp method url
    identity.get? "x-ga-caller-service" = some caller ∧
      identity.get? "x-ga-correlation-id" = some correlationId ∧
      identity.get? "x-ga-mesh-timestamp" = some timestamp := by
  unfold MeshEngine.identityHeaders
  split <;> exact ⟨rfl, rfl, rfl⟩

theorem get?_signature (h : cfg.sharedSecret ≠ "") :
    (MeshEngine.identityHeaders py cfg caller correlationId timestamp method url).get?
        "x-ga-mesh-signature" =
      some (meshSignature py cfg.sharedSecret caller correlationId timestamp method url) := by
  unfold MeshEngine.identityHeaders
  rw [if_neg h]
  rfl

end Headers

/-- The signature is sent alone, or not at all without a secret, exactly when no header of the
request is another spelling of it. -/
theorem sentSignature_iff {py : Builtins} {cfg : MeshConfig} {request : InvokeRequest}
    {correlationId : String} {now : ℚ} {outgoing : UpstreamRequest}
    (h : outgoing.headers = request.upstreamHeaders py cfg correlationId now outgoing.url) :
    (sentUnder outgoing.headers "x-ga-mesh-signature" =
      if cfg.sharedSecret = "" then []
      else [meshSignature py cfg.sharedSecret request.callerService correlationId
        (toString (truncate now)) request.method outgoing.url]) ↔
      ∀ key ∈ request.headers.keys, key.toLower = "x-ga-mesh-signature" →
        key = key.toLower ∧ cfg.sharedSecret ≠ "" := by
  have hlower := identityHeaders_lower py cfg request.callerService correlationId
    (toString (truncate now)) request.method outgoing.url
  rw [h, InvokeRequest.upstreamHeaders]
  by_cases hsecret : cfg.sharedSecret = ""
  · have hnot : ∀ key ∈ (MeshEngine.identityHeaders py cfg request.callerService correlationId
        (toString (truncate now)) request.method outgoing.url).keys,
        key.toLower ≠ "x-ga-mesh-signature" := by
      intro key hkey
      rw [← hlower key hkey]
      rw [keys_identityHeaders, if_pos hsecret] at hkey
      rintro rfl
      revert hkey
      decide
    rw [if_pos hsecret, sentUnder_update_eq_nil hnot]
    simp [hsecret]
  · rw [if_neg hsecret,
      sentUnder_update hlower (get?_signature py cfg _ _ _ _ _ hsecret)]
    constructor
    · intro hkeys key hkey e
      exact ⟨(hkeys key hkey e).trans e.symm, hsecret⟩
    · intro hkeys key hkey e
      exact (hkeys key hkey e).1.trans e

/-- The names are sent alone exactly when no header of the request is another spelling of
one. -/
theorem sentNames_iff {py : Builtins} {cfg : MeshConfig} {request : InvokeRequest}
    {correlationId : String} {now : ℚ} {outgoing : UpstreamRequest}
    (h : outgoing.headers = request.upstreamHeaders py cfg correlationId now outgoing.url) :
    (sentUnder outgoing.headers "x-ga-caller-service" = [request.callerService] ∧
      sentUnder outgoing.headers "x-ga-correlation-id" = [correlationId] ∧
      sentUnder outgoing.headers "x-ga-mesh-timestamp" = [toString (truncate now)]) ↔
      ∀ key ∈ request.headers.keys, key.toLower ∈ identityNames → key = key.toLower := by
  have hlower := identityHeaders_lower py cfg request.callerService correlationId
    (toString (truncate now)) request.method outgoing.url
  obtain ⟨hcaller, hcorr, htime⟩ := get?_identityHeaders py cfg request.callerService
    correlationId (toString (truncate now)) request.method outgoing.url
  rw [h, InvokeRequest.upstreamHeaders, sentUnder_update hlower hcaller,
    sentUnder_update hlower hcorr, sentUnder_update hlower htime]
  constructor
  · rintro ⟨h₁, h₂, h₃⟩ key hkey hmem
    simp only [identityNames, List.mem_cons, List.not_mem_nil, or_false] at hmem
    rcases hmem with e | e | e
    · exact (h₁ key hkey e).trans e.symm
    · exact (h₂ key hkey e).trans e.symm
    · exact (h₃ key hkey e).trans e.symm
  · intro hkeys
    refine ⟨?_, ?_, ?_⟩
    all_goals
      intro key hkey e
      exact (hkeys key hkey (by rw [e]; decide)).trans e

/-- The identity is genuine exactly when the headers of the request leave it
alone. -/
theorem identityGenuine_iff {py : Builtins} {cfg : MeshConfig} {request : InvokeRequest}
    {correlationId : String} {now : ℚ} {outgoing : UpstreamRequest}
    (h : outgoing.headers = request.upstreamHeaders py cfg correlationId now outgoing.url) :
    IdentityGenuine py cfg request correlationId now outgoing ↔
      LeavesIdentity cfg request.headers := by
  constructor
  · rintro ⟨h₁, h₂, h₃, h₄⟩
    exact ⟨(sentNames_iff h).mp ⟨h₁, h₂, h₃⟩, (sentSignature_iff h).mp h₄⟩
  · rintro ⟨hkeys, hsigs⟩
    obtain ⟨h₁, h₂, h₃⟩ := (sentNames_iff h).mpr hkeys
    exact ⟨h₁, h₂, h₃, (sentSignature_iff h).mpr hsigs⟩

/-! ## Invocations -/

/-- A request that an invocation sends to a provider: what the invocation had
done before, and the request. -/
def Sends (t : List (Performed MeshOp MeshOp.Ans))
    (pre : List (Performed MeshOp MeshOp.Ans)) (outgoing : UpstreamRequest) : Prop :=
  ∃ s answer suf, t = pre ++ ⟨.upstream s outgoing, answer⟩ :: suf

/-- Whatever happens to an invocation, the identity in each request it sends is
genuine exactly when the caller's headers leave it alone. -/
theorem identity_genuine_iff_headers_leave_it (py : Builtins) (cfg : MeshConfig)
    (request : InvokeRequest) (t pre : List (Performed MeshOp MeshOp.Ans))
    (r : Except Fault InvokeResult) (outgoing : UpstreamRequest)
    (ht : Trace (MeshEngine.invoke py cfg request) t r) (hs : Sends t pre outgoing) :
    ∃ now, (Progress.of pre).now = some now ∧
      (IdentityGenuine py cfg request (request.correlation (Progress.of pre).minted) now
          outgoing ↔
        LeavesIdentity cfg request.headers) := by
  obtain ⟨s, answer, suf, e⟩ := hs
  have hallow := invoke_follows.allows ht e
  rw [callProtocol_after] at hallow
  obtain ⟨-, request', now, hcall, hnow, hheaders⟩ := hallow
  cases hcall
  exact ⟨now, hnow, identityGenuine_iff hheaders⟩

/-- The first request that a trace sends to a provider, and what came before. -/
def firstSend : List (Performed MeshOp MeshOp.Ans) →
    Option (List (Performed MeshOp MeshOp.Ans) × UpstreamRequest)
  | [] => none
  | x :: t =>
      match x.1 with
      | .upstream _ outgoing => some ([], outgoing)
      | _ => (firstSend t).map fun y ↦ (x :: y.1, y.2)

theorem sends_firstSend {t pre : List (Performed MeshOp MeshOp.Ans)} {outgoing : UpstreamRequest}
    (h : firstSend t = some (pre, outgoing)) : Sends t pre outgoing := by
  induction t generalizing pre with
  | nil => cases h
  | cons x t ih =>
      obtain ⟨o, a⟩ := x
      cases o with
      | upstream s outgoing' =>
          cases h
          exact ⟨s, a, t, rfl⟩
      | _ =>
          obtain ⟨y, hy, e⟩ := Option.map_eq_some_iff.mp h
          cases e
          obtain ⟨s, answer, suf, rfl⟩ := ih hy
          exact ⟨s, answer, suf, rfl⟩

/-- The trace of an invocation with one provider that answers at once. -/
def answeredTrace (headers : Dict String String) : List (Performed MeshOp MeshOp.Ans) :=
  let registry := offers [describe "svc.a" "http://a.internal"]
  let answer : Host := { net := .ok { statusCode := 200 } }
  (exec MeshEngine.scripted (MeshEngine.invoke default notesConfig (notesRequest headers))
    ([{}, registry, {}, {}, { time := 1000 }, {}, answer], {})).1

/-- With a variant of an identity header in the request, a provider receives the
forged caller beside the real one. -/
theorem variant_header_forges_caller :
    ¬ ∀ (py : Builtins) (cfg : MeshConfig) (request : InvokeRequest)
        (t pre : List (Performed MeshOp MeshOp.Ans)) (r : Except Fault InvokeResult)
        (outgoing : UpstreamRequest), Trace (MeshEngine.invoke py cfg request) t r →
        Sends t pre outgoing →
        ∃ now, (Progress.of pre).now = some now ∧
          IdentityGenuine py cfg request (request.correlation (Progress.of pre).minted) now
            outgoing := by
  intro h
  let t := answeredTrace (Dict.ofList [("X-GA-Caller-Service", "ghost.owner")])
  have hsome : (firstSend t).isSome := by decide +kernel
  have hforged : ∀ x ∈ firstSend t,
      sentUnder x.2.headers "x-ga-caller-service" = ["ghost.owner", "estate.mesh"] := by
    decide +kernel
  obtain ⟨⟨pre, outgoing⟩, hx⟩ := Option.isSome_iff_exists.mp hsome
  obtain ⟨now, -, hgenuine⟩ :=
    h _ _ _ t pre _ outgoing (exec_trace _ _ _) (sends_firstSend hx)
  have hcaller := (hforged _ hx).symm.trans hgenuine.caller
  simp at hcaller

/-- Ordinary headers leave the identity alone. -/
theorem ordinary_header_keeps_identity :
    ∃ t pre outgoing, Sends t pre outgoing ∧
      sentUnder outgoing.headers "accept" = ["application/json"] ∧
      sentUnder outgoing.headers "x-ga-caller-service" = ["estate.mesh"] ∧
      sentUnder outgoing.headers "x-ga-mesh-signature" = [] := by
  let headers := Dict.ofList [("accept", "application/json")]
  let t := answeredTrace headers
  have hsome : (firstSend t).isSome := by decide +kernel
  have haccept : ∀ x ∈ firstSend t,
      sentUnder x.2.headers "accept" = ["application/json"] := by decide +kernel
  have hleaves : LeavesIdentity notesConfig headers := by
    unfold LeavesIdentity
    decide +kernel
  obtain ⟨⟨pre, outgoing⟩, hx⟩ := Option.isSome_iff_exists.mp hsome
  have hsends := sends_firstSend hx
  obtain ⟨now, -, hiff⟩ :=
    identity_genuine_iff_headers_leave_it _ _ _ t pre _ outgoing (exec_trace _ _ _) hsends
  have hgenuine := hiff.mpr hleaves
  exact ⟨t, pre, outgoing, hsends, haccept _ hx, hgenuine.caller, hgenuine.signature⟩

end EstateMesh
