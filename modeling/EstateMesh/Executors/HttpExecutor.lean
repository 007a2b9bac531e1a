import EstateMesh.Agent.NodeAgent
import EstateMesh.Dispatch.Fabric
import EstateMesh.Models
import Mathlib.Data.List.DropRight
import Mathlib.Data.List.TakeWhile

/-!
# The HTTP executor

The adapter through which the dispatch fabric executes a packet at another node.
It turns the record into one request and what comes back into a result; whatever
goes wrong on the way is an `ExecutorError`.  The exchange itself is a parameter,
so that the adapter can be put in front of any server.
-/

namespace EstateMesh

open Lib

/-- A request to a server. -/
structure HttpRequest where
  url : String
  method : Method
  headers : Dict String String
  body : Value

/-- The body of a successful response. -/
inductive ResponseBody
  | empty
  | json (body : Value)
  | /-- A text that is not JSON. -/ garbled

/-- What `urlopen` does. -/
inductive UrlOutcome
  | response (status : ℕ) (body : ResponseBody)
  | httpError (code : ℕ)
  | urlError (reason : String)

/-- What an adapter raises. -/
inductive ExecutorFault
  | /-- `ExecutorError`. -/ executorError (message : String)
  | python (e : PyError)
deriving DecidableEq, Repr

/-- The path that the adapter calls. -/
def executePath : String := "/v1/execute"

/-- An adapter. -/
structure HttpExecutor where
  adapterId : String
  baseUrl : String
  tokenEnv : Option String := none

namespace HttpExecutor

variable (environ : Environ) (self : HttpExecutor)

/-- The body of the request for a record. -/
def body (record : DispatchRecord) : Value :=
  .object
    [("dispatch_id", .str record.dispatchId), ("packet_id", .str record.packetId),
      ("capability", .str record.capability), ("payload", .dict record.payload),
      ("source", .str record.source)]

/-- The value of the authorization header, if there is one. -/
def authorization : Except ExecutorFault (Option String) :=
  match self.tokenEnv.getD "" with
  | "" => return none
  | name =>
      let token := environ.getD name ""
      if token = "" then
        throw (.executorError (self.adapterId ++ ": missing credential " ++ name))
      else return some ("Bearer " ++ token)

/-- The request for a record, to a path of the server. -/
def requestTo (path : String) (record : DispatchRecord) : Except ExecutorFault HttpRequest := do
  if self.baseUrl = "" then
    throw (.executorError (self.adapterId ++ ": endpoint not configured"))
  let headers := Dict.ofList
    [("content-type", "application/json"), ("x-ga-dispatch-id", record.dispatchId)]
  let headers := match ← self.authorization environ with
    | some value => headers.set "authorization" value
    | none => headers
  return ⟨rstripSlash self.baseUrl ++ path, .post, headers, body record⟩

/-- What the adapter makes of the outcome of its request. -/
def conclude : UrlOutcome → Except ExecutorFault Value
  | .response status body => do
      let payload ← match body with
        | .empty => pure (.object [])
        | .json body => pure body
        | .garbled => throw (.python .valueError)
      return .object
        [("adapter", .str self.adapterId), ("status", .int status), ("response", payload)]
  | .httpError code => throw (.executorError (self.adapterId ++ ": HTTP " ++ toString code))
  | .urlError reason =>
      throw (.executorError (self.adapterId ++ ": transport failure: " ++ reason))

/-- Call a path of the server.  The exchange says what is done at the other end
and how the request ends. -/
def callPath {ω : Type} (path : String) (urlopen : HttpRequest → List ω × UrlOutcome)
    (record : DispatchRecord) : List ω × Except ExecutorFault Value :=
  match self.requestTo environ path record with
  | .error e => ([], .error e)
  | .ok request => ((urlopen request).1, self.conclude (urlopen request).2)

/-- `HttpExecutor.__call__`. -/
def call {ω : Type} (urlopen : HttpRequest → List ω × UrlOutcome) (record : DispatchRecord) :
    List ω × Except ExecutorFault Value :=
  self.callPath environ executePath urlopen record

end HttpExecutor

/-! ## URLs -/

/-- A URL without its fragment. -/
def splitTag (url : List Char) : List Char :=
  if '#' ∈ url then (url.reverse.dropWhile (· ≠ '#')).tail.reverse else url

/-- Whether a character ends the authority of a URL. -/
def endsAuthority (c : Char) : Bool := c ∈ ['/', '#', '?']

/-- The authority of an `http` URL and what is requested from it. -/
def splitUrl (url : String) : Option (String × String) :=
  let chars := splitTag url.toList
  if "http://".toList <+: chars then
    let rest := chars.drop "http://".toList.length
    let selector := rest.dropWhile fun c ↦ !endsAuthority c
    let selector := if selector.head? = some '/' then selector else '/' :: selector
    some (String.ofList (rest.takeWhile fun c ↦ !endsAuthority c), String.ofList selector)
  else none

/-- The path of what is requested. -/
def pathOf (selector : String) : String := String.ofList (selector.toList.takeWhile (· ≠ '?'))

/-- Whether a character can stand in a host: it is neither blank nor a delimiter of
a URL. -/
def isHostChar (c : Char) : Bool :=
  0x20 < c.toNat ∧ c.toNat ≠ 0x7F ∧ c ∉ ['/', '?', '#', '@', '%']

/-- Whether a text can follow an authority and is all path. -/
def IsPath (path : String) : Prop :=
  path.toList.head? = some '/' ∧ '?' ∉ path.toList ∧ '#' ∉ path.toList

instance (path : String) : Decidable (IsPath path) := inferInstanceAs (Decidable (_ ∧ _ ∧ _))

/-- A URL of an authority and a path is split there. -/
theorem splitUrl_of_isPath {authority path : String}
    (hauthority : ∀ c ∈ authority.toList, isHostChar c = true) (hpath : IsPath path) :
    splitUrl ("http://" ++ authority ++ path) = some (authority, path) := by
  obtain ⟨hslash, -, htag⟩ := hpath
  have hends : ∀ c ∈ authority.toList, (!endsAuthority c) = true := by
    intro c hc
    have hhost := hauthority c hc
    by_contra hcon
    rw [Bool.not_eq_true, Bool.not_eq_false'] at hcon
    have hmem : c ∈ ['/', '#', '?'] := of_decide_eq_true hcon
    simp only [List.mem_cons, List.not_mem_nil, or_false] at hmem
    rcases hmem with rfl | rfl | rfl <;> exact absurd hhost (by decide)
  have hchars : ("http://" ++ authority ++ path).toList =
      "http://".toList ++ (authority.toList ++ path.toList) := by
    rw [String.toList_append, String.toList_append, List.append_assoc]
  have hfragment : '#' ∉ ("http://" ++ authority ++ path).toList := by
    rw [hchars, List.mem_append, List.mem_append]
    rintro (h | h | h)
    · exact absurd h (by decide)
    · exact absurd (hauthority _ h) (by decide)
    · exact htag h
  obtain ⟨rest, hrest⟩ : ∃ rest, path.toList = '/' :: rest := by
    cases hlist : path.toList with
    | nil =>
        rw [hlist] at hslash
        cases hslash
    | cons c rest =>
        rw [hlist] at hslash
        exact ⟨rest, by rw [Option.some.inj hslash]⟩
  have hstop : (!endsAuthority '/') = false := rfl
  rw [splitUrl, splitTag, if_neg hfragment]
  dsimp only
  rw [hchars, if_pos (List.prefix_append _ _), List.drop_left, hrest,
    List.dropWhile_append_of_pos hends, List.takeWhile_append_of_pos hends,
    List.dropWhile_cons_of_neg (by simp [hstop]), List.takeWhile_cons_of_neg (by simp [hstop]),
    List.append_nil, List.head?_cons, if_pos rfl, ← hrest, String.ofList_toList,
    String.ofList_toList]

theorem pathOf_of_isPath {path : String} (hpath : IsPath path) : pathOf path = path := by
  have hall : path.toList.takeWhile (· ≠ '?') = path.toList := by
    rw [List.takeWhile_eq_self_iff]
    intro c hc
    rw [decide_eq_true_iff]
    rintro rfl
    exact hpath.2.1 hc
  rw [pathOf, hall, String.ofList_toList]

/-- Slashes at the end of a base URL do not matter. -/
theorem rstripSlash_append_replicate {base : String}
    (hbase : ∀ h : base.toList ≠ [], base.toList.getLast h ≠ '/') (n : ℕ) :
    rstripSlash (base ++ String.ofList (List.replicate n '/')) = base := by
  have hkeep : base.toList.rdropWhile (· = '/') = base.toList :=
    List.rdropWhile_eq_self_iff.mpr fun h hslash ↦ hbase h (of_decide_eq_true hslash)
  have hslashes : ∀ c ∈ List.replicate n '/', decide (c = '/') = true := fun c hc ↦
    decide_eq_true (List.eq_of_mem_replicate hc)
  rw [rstripSlash, String.toList_append, String.toList_ofList, List.reverse_append,
    List.reverse_replicate, List.dropWhile_append_of_pos hslashes]
  change String.ofList (base.toList.rdropWhile (· = '/')) = base
  rw [hkeep, String.ofList_toList]

end EstateMesh
