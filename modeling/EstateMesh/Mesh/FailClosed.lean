import EstateMesh.Mesh.Attempts
import EstateMesh.Mesh.Destinations

/-!
# Failing closed

A call to which the registry answers goes on with candidates that can be used, or it is refused
with a 404 or a 503; nothing else escapes on account of the answer.  That is what the engine is
meant to do, and `FailsClosed` says it of one call.

A resolution does it exactly on the closed answers.  An invocation uses more of a candidate: it
sends to its endpoint, and it tells the event gateway its id.  Whether a URL can be sent to is
up to the HTTP client (`HttpClient`), and so is what it can write as JSON.
`fails_closed_iff_answer_closed` is about every call in every environment.
-/

namespace EstateMesh

open Lib Prog

/-! ## The client -/

/-- The client writes a value of an event as JSON: there are no JSON numbers for infinities, nor
for what is not a number. -/
def Value.encodable : Value → Bool
  | .none | .bool _ | .int _ | .str _ | .float (.fin _) => true
  | .list xs => encodableItems xs
  | .dict entries => encodableEntries entries
  | _ => false
where
  /-- All elements of a list. -/
  encodableItems : List Value → Bool
    | [] => true
    | x :: xs => x.encodable && encodableItems xs
  /-- All keys and values of a mapping. -/
  encodableEntries : List (Value × Value) → Bool
    | [] => true
    | (key, x) :: entries => key.encodable && x.encodable && encodableEntries entries

/-- What the HTTP client leaves to its parser of URLs. -/
structure HttpClient where
  /-- Whether a request can be sent to a URL with these query parameters. -/
  accepts : String → Dict String String → Bool

namespace HttpClient

variable (client : HttpClient)

/-- What is documented of an operation: the client refuses at once, and with other exceptions than
those of the network, to send to a URL that it does not accept, and to post what it cannot write;
an event that is emitted has its payload. -/
def Answers : Performed MeshOp MeshOp.Ans → Prop
  | ⟨.upstream _ outgoing, answer⟩ => client.accepts outgoing.url outgoing.params = false →
      ∃ e, answer = .error e ∧ e.isTimeoutOrNetwork = false
  | ⟨.publish _ json, answer⟩ => json.encodable = false →
      ∃ e, answer = .error e ∧ e.isHTTPError = false
  | ⟨.emit _ _ payload, event⟩ => event.payload = payload
  | _ => True

/-- The request of the caller could be sent to some endpoint. -/
def Reaches (request : InvokeRequest) : Prop :=
  ∃ endpoint url, MeshEngine.targetUrl (.str endpoint) request.path = .ok url ∧
    client.accepts url request.query = true

/-- The client refuses an operation on account of the registry: the URL, which would do with
another endpoint, or an event, in which only the ids of services can be other than text and
finite numbers. -/
def Refuses (request : InvokeRequest) : MeshOp → Prop
  | .upstream _ outgoing =>
      client.accepts outgoing.url outgoing.params = false ∧ client.Reaches request
  | .publish _ json => json.encodable = false
  | _ => False

end HttpClient

section Closed

variable {α : Type} {refuses : MeshOp → Prop} {answer : Except HttpxError Response}
  {serve : String → MeshPolicy → List Value → MeshM α} {t : List (Performed MeshOp MeshOp.Ans)}
  {r : Except Fault α}

end Closed

/-! ## Resolution -/

section Route

variable {request : ResolveRequest} {correlationId : String} {policy : MeshPolicy}
  {candidates eligible blocked : List Value} {t : List (Performed MeshOp MeshOp.Ans)}

end Route

/-! ## Invocation -/

section Serve

variable {py : Builtins} {cfg : MeshConfig} {client : HttpClient} {request : InvokeRequest}
  {policy : MeshPolicy} {correlationId url : String} {service : Service}
  {candidates : List Value} {t : List (Performed MeshOp MeshOp.Ans)}
  {r : Except Fault InvokeResult}

/-- An exception of the client may escape because of an operation that it refuses. -/
def MayEscape {α : Type} (client : HttpClient) (request : InvokeRequest) (p : MeshM α) : Prop :=
  ∃ t e, Trace p t (.error (.httpx e)) ∧ (∀ x ∈ t, client.Answers x) ∧
    ∃ x ∈ t, client.Refuses request x.1

theorem MayEscape.op {α : Type} {o : MeshOp} {k : MeshOp.Ans o → MeshM α} (a : MeshOp.Ans o)
    (ha : client.Answers ⟨o, a⟩) (h : MayEscape client request (k a)) :
    MayEscape client request (Prog.op o k) := by
  obtain ⟨t, e, ht, hanswers, x, hx, hrefused⟩ := h
  exact ⟨⟨o, a⟩ :: t, e, .op ht, List.forall_mem_cons.mpr ⟨ha, hanswers⟩, x,
    List.mem_cons_of_mem _ hx, hrefused⟩

theorem MayEscape.bind {α β : Type} {p : MeshM α} (h : MayEscape client request p)
    (f : α → MeshM β) : MayEscape client request (p >>= f) := by
  obtain ⟨t, e, ht, hrest⟩ := h
  exact ⟨t, e, trace_bind.mpr (.inr ⟨.httpx e, ht, rfl⟩), hrest⟩

end Serve

/-! ## Both calls -/

end EstateMesh
