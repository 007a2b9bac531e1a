import EstateMesh.Lib.Joined
import EstateMesh.Mesh.Identity

/-!
# The signed string

The signature of the mesh covers the caller, the correlation id, the time, the
method and the URL, joined by newlines.  The caller and the correlation id are
the client's own texts, and nothing keeps newlines out of them, so the join does
not say where one ends and the next begins: it identifies a request among those
whose two texts have as many newlines as its own
(`signed_string_identifies_iff`), and no further.
-/

namespace EstateMesh

open Lib

/-- What `_identity_headers` signs of an invocation that the engine accepted. -/
@[ext] structure SignedRequest where
  caller : String
  correlationId : String
  timestamp : String
  method : Method
  url : String
  caller_ne : caller ≠ ""
  correlationId_ne : correlationId ≠ ""
  timestamp_eq : ∃ now : ℚ, timestamp = toString (truncate now)

/-- An invocation under a correlation id, sent to a URL at some time. -/
def InvokeRequest.signed (request : InvokeRequest) (correlationId : String) (now : ℚ)
    (url : String) (correlationId_ne : correlationId ≠ "" := by decide) : SignedRequest where
  caller := request.callerService
  correlationId := correlationId
  timestamp := toString (truncate now)
  method := request.method
  url := url
  caller_ne := request.callerService_ne
  correlationId_ne := correlationId_ne
  timestamp_eq := ⟨now, rfl⟩

/-- The number of newlines in a text. -/
def newlines (s : String) : ℕ := s.toList.count '\n'

namespace SignedRequest

variable (x y : SignedRequest)

/-- The string that is signed. -/
def canonical : String :=
  "\n".intercalate [x.caller, x.correlationId, x.timestamp, x.method.name, x.url]

/-- The header that carries the signature, if there is one. -/
def signature (py : Builtins) (cfg : MeshConfig) : Option String :=
  (MeshEngine.identityHeaders py cfg x.caller x.correlationId x.timestamp x.method x.url).get?
    "x-ga-mesh-signature"

/-- The texts that the client chooses have the same numbers of newlines. -/
def SameNewlines : Prop :=
  newlines x.caller = newlines y.caller ∧ newlines x.correlationId = newlines y.correlationId

instance : Decidable (SameNewlines x y) := inferInstanceAs (Decidable (_ ∧ _))

/-- The parts of the signed string but the last, as characters. -/
def parts : List (List Char) :=
  [x.caller.toList, x.correlationId.toList, x.timestamp.toList, x.method.name.toList]

theorem toList_canonical : x.canonical.toList = ['\n'].intercalate (x.parts ++ [x.url.toList]) :=
  String.toList_intercalate

end SignedRequest

/-! ## Parts without newlines -/

/-- The text of an integer is digits, possibly behind a sign. -/
theorem newlines_toString (i : ℤ) : newlines (toString i) = 0 := by
  have hdigits (n : ℕ) : '\n' ∉ n.repr.toList := by
    intro hmem
    rw [Nat.toList_repr] at hmem
    have hdigit := Nat.isDigit_of_mem_toDigits (by decide) (by decide) hmem
    exact absurd hdigit (by decide)
  refine List.count_eq_zero_of_not_mem ?_
  show '\n' ∉ i.repr.toList
  rw [Int.repr_eq_if]
  split
  · exact hdigits _
  · rw [String.toList_append, List.mem_append]
    rintro (hmem | hmem)
    · exact absurd hmem (by decide)
    · exact hdigits _ hmem

theorem newlines_timestamp (x : SignedRequest) : newlines x.timestamp = 0 := by
  obtain ⟨now, h⟩ := x.timestamp_eq
  rw [h]
  exact newlines_toString _

theorem newlines_method (method : Method) : newlines method.name = 0 := by
  cases method <;> rfl

/-- Methods are told apart by their names. -/
theorem Method.name_injective : Function.Injective Method.name := by
  intro method method' h
  cases method <;> cases method' <;> first | rfl | exact absurd h (by decide)

namespace SignedRequest

variable {x y : SignedRequest}

/-- Of the first four parts, only the client's texts can differ in newlines. -/
theorem sameSeparators_iff : SameSeparators '\n' x.parts y.parts ↔ SameNewlines x y := by
  have htimestamp := (newlines_timestamp x).trans (newlines_timestamp y).symm
  have hmethod := (newlines_method x.method).trans (newlines_method y.method).symm
  constructor
  · rintro (_ | ⟨hcaller, _ | ⟨hcorrelation, -⟩⟩)
    exact ⟨hcaller, hcorrelation⟩
  · rintro ⟨hcaller, hcorrelation⟩
    exact .cons hcaller (.cons hcorrelation (.cons htimestamp (.cons hmethod .nil)))

/-- The parts make up the request. -/
theorem eq_iff_parts : x = y ↔ x.parts = y.parts ∧ x.url.toList = y.url.toList := by
  constructor
  · rintro rfl
    exact ⟨rfl, rfl⟩
  · rintro ⟨hparts, hurl⟩
    simp only [parts, List.cons.injEq, String.toList_inj, and_true] at hparts hurl
    obtain ⟨hcaller, hcorrelation, htimestamp, hmethod⟩ := hparts
    exact SignedRequest.ext hcaller hcorrelation htimestamp (Method.name_injective hmethod) hurl

theorem eq_iff_sameNewlines (h : x.canonical = y.canonical) : x = y ↔ SameNewlines x y := by
  have hjoin := congrArg String.toList h
  rw [toList_canonical, toList_canonical] at hjoin
  rw [eq_iff_parts, eq_iff_sameSeparators hjoin, sameSeparators_iff]

theorem signature_eq (x : SignedRequest) {py : Builtins} {cfg : MeshConfig}
    (hsecret : cfg.sharedSecret ≠ "") :
    x.signature py cfg = some ("sha256=" ++ py.hmacSha256 cfg.sharedSecret x.canonical) :=
  get?_signature py cfg _ _ _ _ _ hsecret

/-- A MAC without collisions adds none. -/
theorem canonical_eq_of_signature {py : Builtins} {cfg : MeshConfig}
    (hsecret : cfg.sharedSecret ≠ "") (hmac : Function.Injective (py.hmacSha256 cfg.sharedSecret))
    (h : x.signature py cfg = y.signature py cfg) : x.canonical = y.canonical := by
  rw [signature_eq x hsecret, signature_eq y hsecret] at h
  exact hmac ((String.append_right_inj _).mp (Option.some.inj h))

end SignedRequest

/-- Two requests with the same signed string, or with the same signature under a
MAC without collisions, are the same request exactly when their callers have
equally many newlines and so do their correlation ids. -/
theorem signed_string_identifies_iff (x y : SignedRequest) :
    (x.canonical = y.canonical → (x = y ↔ x.SameNewlines y)) ∧
      ∀ (py : Builtins) (cfg : MeshConfig), cfg.sharedSecret ≠ "" →
        Function.Injective (py.hmacSha256 cfg.sharedSecret) →
        x.signature py cfg = y.signature py cfg → (x = y ↔ x.SameNewlines y) := by
  constructor
  · exact SignedRequest.eq_iff_sameNewlines
  · intro py cfg hsecret hmac h
    exact SignedRequest.eq_iff_sameNewlines
      (SignedRequest.canonical_eq_of_signature hsecret hmac h)

/-! ## A newline moved from one text to the next -/

/-- A caller whose name ends in a second line. -/
def longCaller : SignedRequest :=
  { notesRequest ∅ with
    callerService := "estate.mesh\nops", callerService_ne := by decide }.signed "run-1" 1000
    "http://a.internal"

/-- A correlation id that begins with that line. -/
def longCorrelation : SignedRequest :=
  (notesRequest ∅).signed "ops\nrun-1" 1000 "http://a.internal"

theorem longCaller_canonical : longCaller.canonical = longCorrelation.canonical := by
  decide +kernel

/-- One signed string stands for two callers. -/
theorem one_string_two_callers :
    ¬ ∀ x y : SignedRequest, x.canonical = y.canonical →
      x.caller = y.caller ∧ x.correlationId = y.correlationId ∧ x.timestamp = y.timestamp ∧
        x.method = y.method ∧ x.url = y.url := by
  intro h
  obtain ⟨hcaller, -⟩ := h longCaller longCorrelation longCaller_canonical
  exact absurd hcaller (by decide)

/-- The two requests are told apart by their newlines, and not by their string. -/
theorem newlines_tell_apart :
    longCaller.canonical = longCorrelation.canonical ∧ longCaller ≠ longCorrelation := by
  refine ⟨longCaller_canonical, ?_⟩
  rw [Ne, (signed_string_identifies_iff longCaller longCorrelation).1 longCaller_canonical]
  decide +kernel

end EstateMesh
