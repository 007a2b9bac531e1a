import EstateMesh.Lib.Json.Decoder
import EstateMesh.Lib.Monitor
import EstateMesh.Lib.Utf8
import EstateMesh.Mesh.RetryBudget

/-!
# Captured bodies

The result of an invocation carries the first bytes of the provider's response, as a JSON
value if they are a JSON text.  The engine does not look at what it cut off, so it may take
a text for complete that goes on: after a number there may be more digits, and after any
value something that is not JSON.

`CutIsHarmless` is when that does not matter.
-/

namespace EstateMesh

open Lib Prog Monitor

/-! ## The decoder -/

/-- What `json` leaves to the interpreter. -/
structure JsonInterpreter extends Limits where
  /-- `float(s)` on the text of a number. -/
  float : List Char → PyFloat
  /-- A string by its code points, which may be surrogates. -/
  string : List ℕ → String

namespace JsonInterpreter

variable (interp : JsonInterpreter)

/-- A number; an integer with too many digits is refused. -/
def number (literal : List Char) : Json.NumberKind → Option Value
  | .int =>
      if (literal.filter Char.isDigit).length ≤ interp.maxDigits then
        some (.int (Json.intValue literal))
      else none
  | .float => some (.float (interp.float literal))

/-- The hooks of the decoder; of two members with one name the later counts, in the place
of the earlier. -/
def decoder : Json.Decoder Value where
  null := .none
  bool := .bool
  number kind literal := interp.number literal kind
  nan := .float .nan
  infinity negative := .float (.inf negative)
  string codePoints := .str (interp.string codePoints)
  array := .list
  object members :=
    let entries := members.foldl (fun entries x ↦ setEntry x.1 x.2 entries) []
    .dict (entries.map fun x ↦ (.str (interp.string x.1), x.2))
  maxDepth := interp.maxDepth

/-- `json.loads(raw.decode("utf-8"))`, `none` when either of them raises. -/
def loads (raw : List UInt8) : Option Value := (Utf8.decode raw).bind interp.decoder.read

/-- What `json.loads(raw.decode("utf-8"))` raises on bytes that are not read. -/
def failure (raw : List UInt8) : PyError :=
  match Utf8.decode raw with
  | none => .decodeError
  | some text =>
      match interp.decoder.failure .init text with
      | .malformed => .decodeError
      | .number => .valueError
      | .depth => .recursionError

end JsonInterpreter

/-- An interpreter with its `json` module. -/
def Builtins.withJson (py : Builtins) (interp : JsonInterpreter) : Builtins :=
  { py with
    jsonLoads := fun raw ↦ (interp.loads raw).elim (.error (interp.failure raw)) .ok }

theorem Builtins.withJson_loads {py : Builtins} {interp : JsonInterpreter} {raw : List UInt8}
    {v : Value} (h : interp.loads raw = some v) : (py.withJson interp).jsonLoads raw = .ok v := by
  show (interp.loads raw).elim _ _ = _
  rw [h]
  rfl

/-! ## Cuts -/

/-- A cut that does not matter: what was kept is not JSON by itself, only whitespace was
cut off, or the cut is within a fraction or an exponent that does not change the floating
point number. -/
inductive CutIsHarmless (interp : JsonInterpreter) (kept rest : List UInt8) : Prop
  | notJson (hkept : interp.loads kept = none)
  | blank (trail : List Char) (hblank : Json.IsBlank trail) (hrest : rest = Utf8.encode trail)
  | float (text trail literal more : List Char) (hkept : kept = Utf8.encode text)
      (hrest : rest = Utf8.encode trail) (hcut : Json.Decoder.CutsNumber text trail literal more)
      (hliteral : Json.numberKind literal = some .float)
      (hmore : Json.numberKind (literal ++ more) = some .float)
      (hfloat : interp.float (literal ++ more) = interp.float literal)

section Cuts

variable {interp : JsonInterpreter} {kept rest : List UInt8} {text trail literal more : List Char}
  {v : Value}

theorem loads_eq_some_iff :
    interp.loads kept = some v ↔
      ∃ text, kept = Utf8.encode text ∧ interp.decoder.read text = some v := by
  simp only [JsonInterpreter.loads, Option.bind_eq_some_iff, Utf8.decode_eq_some_iff]

theorem loads_append_iff :
    interp.loads (Utf8.encode text ++ rest) = some v ↔
      ∃ trail, rest = Utf8.encode trail ∧ interp.decoder.read (text ++ trail) = some v := by
  rw [JsonInterpreter.loads, Utf8.decode_encode_append]
  simp only [Option.bind_eq_some_iff, Option.map_eq_some_iff, Utf8.decode_eq_some_iff]
  constructor
  · rintro ⟨_, ⟨trail, rfl, rfl⟩, h⟩
    exact ⟨trail, rfl, h⟩
  · rintro ⟨trail, rfl, h⟩
    exact ⟨_, ⟨trail, rfl, rfl⟩, h⟩

/-- The hook for numbers keeps integers and floating point numbers apart. -/
theorem readsNumber_cases (h : interp.decoder.ReadsNumber literal v) :
    (Json.numberKind literal = some .int ∧ v = .int (Json.intValue literal)) ∨
      (Json.numberKind literal = some .float ∧ v = .float (interp.float literal)) := by
  obtain ⟨kind, hkind, hv⟩ := h
  cases kind with
  | int =>
      obtain ⟨-, hv⟩ := Option.ite_none_right_eq_some.mp hv
      exact .inl ⟨hkind, (Option.some.inj hv).symm⟩
  | float => exact .inr ⟨hkind, (Option.some.inj hv).symm⟩

/-- Of numbers that go on only floating point numbers may keep their value. -/
theorem float_of_readsNumber (h : interp.decoder.ReadsNumber literal v)
    (hmore : interp.decoder.ReadsNumber (literal ++ more) v) (hne : more ≠ []) :
    Json.numberKind literal = some .float ∧ Json.numberKind (literal ++ more) = some .float ∧
      interp.float (literal ++ more) = interp.float literal := by
  rcases readsNumber_cases h with ⟨hkind, rfl⟩ | ⟨hkind, rfl⟩
  · rcases readsNumber_cases hmore with ⟨hkind', heq⟩ | ⟨-, ⟨⟩⟩
    exact absurd (Value.int.inj heq).symm (Json.intValue_append_ne hkind hkind' hne)
  · rcases readsNumber_cases hmore with ⟨-, ⟨⟩⟩ | ⟨hkind', heq⟩
    exact ⟨hkind, hkind', (Value.float.inj heq).symm⟩

/-- The value of what was kept is the value of the whole exactly if the cut is harmless. -/
theorem loads_kept_iff :
    (∀ v, interp.loads kept = some v → interp.loads (kept ++ rest) = some v) ↔
      CutIsHarmless interp kept rest := by
  constructor
  · intro h
    cases hkept : interp.loads kept with
    | none => exact .notJson hkept
    | some v =>
        obtain ⟨text, rfl, hread⟩ := loads_eq_some_iff.mp hkept
        obtain ⟨trail, rfl, hwhole⟩ := loads_append_iff.mp (h v hkept)
        rcases (Json.Decoder.read_append hread).mp hwhole with
          ⟨hblank, -⟩ | ⟨literal, more, hcut, hliteral, hmore⟩
        · exact .blank trail hblank rfl
        · obtain ⟨hkind, hkind', hfloat⟩ := float_of_readsNumber hliteral hmore hcut.2.2
          exact .float text trail literal more rfl rfl hcut hkind hkind' hfloat
  · intro h v hkept
    obtain ⟨text, rfl, hread⟩ := loads_eq_some_iff.mp hkept
    refine loads_append_iff.mpr ?_
    cases h with
    | notJson hnot =>
        rw [hnot] at hkept
        cases hkept
    | blank trail hblank hrest =>
        exact ⟨trail, hrest, (Json.Decoder.read_append hread).mpr (.inl ⟨hblank, rfl⟩)⟩
    | float text' trail literal more htext hrest hcut hliteral hmore hfloat =>
        obtain rfl := Utf8.encode_injective htext
        have hfirst : interp.decoder.ReadsNumber literal (.float (interp.float literal)) :=
          ⟨.float, hliteral, rfl⟩
        have hwhole : interp.decoder.ReadsNumber (literal ++ more) (.float (interp.float literal)) :=
          ⟨.float, hmore, congrArg (fun x ↦ some (Value.float x)) hfloat⟩
        obtain ⟨lead, hlead, rfl⟩ := hcut.1
        have hvalue := Json.Decoder.read_number hlead (List.forall_mem_nil _) hfirst
        rw [List.append_nil, hread] at hvalue
        obtain rfl := Option.some.inj hvalue
        exact ⟨trail, hrest,
          (Json.Decoder.read_append hread).mpr (.inr ⟨literal, more, hcut, hfirst, hwhole⟩)⟩

end Cuts

/-! ## The response that a result is about -/

/-- The response to the last request, after an operation. -/
def noteResponse (last : Option Response) : Performed MeshOp MeshOp.Ans → Option Response
  | ⟨.upstream _ _, answer⟩ => answer.toOption
  | _ => last

/-- The response to the last request that was sent to a provider. -/
def lastResponse (t : List (Performed MeshOp MeshOp.Ans)) : Option Response :=
  t.foldl noteResponse none

/-- Watch for the response. -/
def responseMonitor : Monitor MeshOp MeshOp.Ans (Option Response) where
  expects _ _ := True
  next := noteResponse

section Answered

variable {py : Builtins} {cfg : MeshConfig} {request : InvokeRequest} {policy : MeshPolicy}
  {correlationId url : String} {service : Service}

/-- A result is about the last response, and has its captured body. -/
def Answered (py : Builtins) (cfg : MeshConfig) (last : Option Response) (result : InvokeResult) :
    Prop :=
  ∃ response, last = some response ∧ MeshEngine.capturedBody py cfg response = .ok result.body

/-- No request is sent. -/
theorem ends_of_sendsNothing {α : Type} {p : MeshM α} (hp : Performs MeshOp.SendsNothing p)
    (last : Option Response) : Ends responseMonitor p last fun last' _ ↦ last' = last := by
  refine ends_of_performs (I := fun last' ↦ last' = last) (fun last' o a ho h ↦ ?_) hp rfl
  cases o with
  | upstream _ _ => exact ho.elim
  | _ => exact h

/-- The result of an attempt has the body of the response. -/
theorem handleResponse_answered (n : ℕ) (attempts : List Attempt) (started : ℚ)
    (response : Response) :
    Ends responseMonitor
      (MeshEngine.handleResponse py cfg request policy correlationId service url n attempts
        started response) (some response)
      fun last r ↦ ∀ result, r = .ok (.inl result) → Answered py cfg last result := by
  unfold MeshEngine.handleResponse
  simp only [perform_bind]
  intro finished _
  dsimp only
  split
  · intro _ _ event _
    rw [ends_bind]
    refine (ends_of_sendsNothing (publishEvent_sendsNothing event) _).mono ?_
    rintro _ outcome rfl
    cases outcome with
    | error fault => rintro _ ⟨⟩
    | ok _ =>
        cases hbody : MeshEngine.capturedBody py cfg response with
        | error e => rintro _ ⟨⟩
        | ok body =>
            rintro _ ⟨⟩
            exact ⟨response, rfl, hbody⟩
  · rintro _ _ _ ⟨⟩

theorem attemptOnce_answered (n : ℕ) (attempts : List Attempt) (last : Option Response) :
    Ends responseMonitor
      (MeshEngine.attemptOnce py cfg request policy correlationId service url n attempts) last
      fun last r ↦ ∀ result, r = .ok (.inl result) → Answered py cfg last result := by
  unfold MeshEngine.attemptOnce
  simp only [perform_bind]
  intro time _ started _
  rw [ends_tryCatch]
  intro answer _
  have hfault (fault : Fault) (last : Option Response) :
      Ends responseMonitor (MeshEngine.handleFault policy service n attempts fault) last
        fun last r ↦ ∀ result, r = .ok (.inl result) → Answered py cfg last result := by
    cases fault with
    | httpx e =>
        rw [MeshEngine.handleFault]
        split
        · rintro _ _ _ ⟨⟩
        · rintro _ ⟨⟩
    | _ => rintro _ ⟨⟩
  cases answer with
  | error e => exact hfault _ _
  | ok response =>
      refine (handleResponse_answered n attempts started response).mono fun last r h ↦ ?_
      cases r with
      | ok outcome => exact h
      | error fault => exact hfault fault last

theorem attemptLoop_answered (ns : List ℕ) (attempts : List Attempt) (last : Option Response) :
    Ends responseMonitor
      (MeshEngine.attemptLoop py cfg request policy correlationId service url ns attempts) last
      fun last r ↦ ∀ result, r = .ok (.inl result) → Answered py cfg last result := by
  induction ns generalizing attempts last with
  | nil => rintro _ ⟨⟩
  | cons n ns ih =>
      rw [MeshEngine.attemptLoop, ends_bind]
      refine (attemptOnce_answered n attempts last).mono fun last outcome h ↦ ?_
      cases outcome with
      | error fault => rintro _ ⟨⟩
      | ok outcome =>
          cases outcome with
          | inl result => exact h
          | inr attempts =>
              intro admitted _
              cases admitted with
              | false => rintro _ ⟨⟩
              | true => exact ih attempts _

theorem candidateLoop_answered (candidates : List Value) (attempts : List Attempt)
    (last : Option Response) :
    Ends responseMonitor
      (MeshEngine.candidateLoop py cfg request policy correlationId candidates attempts) last
      fun last r ↦ ∀ result, r = .ok (.inl result) → Answered py cfg last result := by
  induction candidates generalizing attempts last with
  | nil => rintro _ ⟨⟩
  | cons candidate candidates ih =>
      rw [MeshEngine.candidateLoop]
      cases MeshEngine.candidateService candidate with
      | error e => rintro _ ⟨⟩
      | ok service =>
          simp only [MeshM.lift, ret_bind, perform_bind]
          intro admitted _
          cases admitted with
          | false => exact ih _ _
          | true =>
              simp only [if_true]
              split
              · rw [ret_bind, ends_bind]
                refine (attemptLoop_answered _ attempts _).mono fun last outcome h ↦ ?_
                cases outcome with
                | error fault => rintro _ ⟨⟩
                | ok outcome =>
                    cases outcome with
                    | inl result => exact h
                    | inr attempts => exact ih attempts last
              · rintro _ ⟨⟩

theorem serveCandidates_answered (candidates : List Value) (last : Option Response) :
    Ends responseMonitor
      (MeshEngine.serveCandidates py cfg request policy correlationId candidates) last
      fun last r ↦ ∀ result, r = .ok result → Answered py cfg last result := by
  rw [MeshEngine.serveCandidates]
  cases candidates.mapM MeshEngine.candidateId with
  | error e => rintro _ ⟨⟩
  | ok providers =>
      simp only [MeshM.lift, ret_bind, perform_bind]
      intro event _
      rw [ends_bind]
      refine (ends_of_sendsNothing (publishEvent_sendsNothing event) _).mono fun last outcome _ ↦ ?_
      cases outcome with
      | error fault => rintro _ ⟨⟩
      | ok _ =>
          dsimp only
          rw [ends_bind]
          refine (candidateLoop_answered candidates [] last).mono fun last outcome h ↦ ?_
          cases outcome with
          | error fault => rintro _ ⟨⟩
          | ok outcome =>
              cases outcome with
              | inl result =>
                  rintro _ ⟨⟩
                  exact h result rfl
              | inr attempts =>
                  intro event _
                  rw [ends_bind]
                  refine (ends_of_sendsNothing (publishEvent_sendsNothing event) _).mono ?_
                  rintro last outcome -
                  cases outcome with
                  | error fault => rintro _ ⟨⟩
                  | ok _ => rintro _ ⟨⟩

/-- A result carries what was captured of the last response. -/
theorem invoke_answered {t : List (Performed MeshOp MeshOp.Ans)} {result : InvokeResult}
    (ht : Trace (MeshEngine.invoke py cfg request) t (.ok result)) :
    Answered py cfg (lastResponse t) result := by
  have hmeets (last : Option Response) (t : List (Performed MeshOp MeshOp.Ans)) :
      responseMonitor.Meets last t := by
    induction t generalizing last with
    | nil => trivial
    | cons x t ih => exact ⟨trivial, ih _⟩
  have hends : Ends responseMonitor (MeshEngine.invoke py cfg request) none
      fun last r ↦ ∀ result, r = .ok result → Answered py cfg last result := by
    unfold MeshEngine.invoke
    rw [ends_bind]
    refine (ends_of_performs (I := fun _ ↦ True) (fun _ _ _ _ _ ↦ trivial)
      (obtainCandidates_performs cfg request) trivial).mono fun last outcome _ ↦ ?_
    cases outcome with
    | error fault => rintro _ ⟨⟩
    | ok obtained => exact serveCandidates_answered obtained.2.2 last
  exact hends.of_trace ht (hmeets none t) result rfl

end Answered

/-- The response is said to be JSON. -/
def Response.IsJson (response : Response) : Prop :=
  "application/json".toList <:+: (response.contentType.getD "").toList

/-- What is captured of a response that is said to be JSON, and is. -/
theorem capturedBody_of_isJson {py : Builtins} {cfg : MeshConfig} {response : Response} {v : Value}
    (hjson : response.IsJson)
    (hkept : py.jsonLoads (response.content.take cfg.maxCaptureBytes) = .ok v) :
    MeshEngine.capturedBody py cfg response = .ok v := by
  unfold MeshEngine.capturedBody
  refine (if_pos hjson).trans ?_
  rw [hkept]

/-- If what was kept of the response is JSON by itself, the result has its value, and the
complete response has it too. -/
def CapturesFaithfully (interp : JsonInterpreter) (cfg : MeshConfig) (response : Response)
    (result : InvokeResult) : Prop :=
  ∀ v, interp.loads (response.content.take cfg.maxCaptureBytes) = some v →
    result.body = v ∧ interp.loads response.content = some v

/-- A JSON response is captured faithfully exactly if the cut is harmless. -/
theorem captures_faithfully_iff (py : Builtins) (interp : JsonInterpreter) (cfg : MeshConfig)
    (request : InvokeRequest) (t : List (Performed MeshOp MeshOp.Ans)) (result : InvokeResult)
    (response : Response)
    (hrun : Trace (MeshEngine.invoke (py.withJson interp) cfg request) t (.ok result))
    (hlast : lastResponse t = some response) (hjson : response.IsJson) :
    CapturesFaithfully interp cfg response result ↔
      CutIsHarmless interp (response.content.take cfg.maxCaptureBytes)
        (response.content.drop cfg.maxCaptureBytes) := by
  obtain ⟨response', hlast', hbody⟩ := invoke_answered hrun
  obtain rfl : response = response' := Option.some.inj (hlast.symm.trans hlast')
  rw [← loads_kept_iff, List.take_append_drop]
  refine ⟨fun h v hv ↦ (h v hv).2, fun h v hv ↦ ⟨?_, h v hv⟩⟩
  exact Except.ok.inj
    (hbody.symm.trans (capturedBody_of_isJson hjson (Builtins.withJson_loads hv)))

/-! ## A long number -/

/-- An interpreter that does not tell floating point numbers apart. -/
def plainInterpreter : JsonInterpreter where
  float _ := .nan
  string codePoints := String.ofList (codePoints.map Char.ofNat)
  maxDigits := 4300
  maxDepth := 1000

/-- A number of ones. -/
def ones (n : ℕ) : List Char := List.replicate n '1'

theorem encode_ones (n : ℕ) : Utf8.encode (ones n) = List.replicate n 49 := by
  induction n with
  | zero => rfl
  | succ n ih =>
      show String.utf8EncodeChar '1' ++ Utf8.encode (ones n) = 49 :: List.replicate n 49
      rw [ih]
      rfl

theorem numberPhase_ones (n : ℕ) : Json.numberPhase (ones (n + 1)) = some .integer := by
  induction n with
  | zero => rfl
  | succ n ih =>
      rw [ones, List.replicate_succ', Json.numberPhase_concat]
      rw [ones] at ih
      rw [ih]
      rfl

theorem numberKind_ones (n : ℕ) : Json.numberKind (ones (n + 1)) = some .int := by
  rw [Json.numberKind, numberPhase_ones]
  rfl

theorem loads_ones {n : ℕ} (h : n + 1 ≤ 4300) :
    plainInterpreter.loads (List.replicate (n + 1) 49) =
      some (.int (Json.intValue (ones (n + 1)))) := by
  have hnumber : plainInterpreter.decoder.ReadsNumber (ones (n + 1))
      (.int (Json.intValue (ones (n + 1)))) := by
    refine ⟨.int, numberKind_ones n, if_pos ?_⟩
    calc ((ones (n + 1)).filter Char.isDigit).length
        ≤ (ones (n + 1)).length := List.length_filter_le _ _
      _ = n + 1 := List.length_replicate
      _ ≤ 4300 := h
  have hread := Json.Decoder.read_number (List.forall_mem_nil _) (List.forall_mem_nil _) hnumber
  rw [List.nil_append, List.append_nil] at hread
  exact loads_eq_some_iff.mpr ⟨ones (n + 1), (encode_ones (n + 1)).symm, hread⟩

/-- The program may return a result with this body, the last response being this one. -/
def MayReturn (p : MeshM InvokeResult) (last : Option Response) (response : Response)
    (body : Value) : Prop :=
  ∃ t result, Trace p t (.ok result) ∧ t.foldl noteResponse last = some response ∧
    result.body = body

theorem MayReturn.op {o : MeshOp} {k : MeshOp.Ans o → MeshM InvokeResult} {last : Option Response}
    {response : Response} {body : Value} (a : MeshOp.Ans o)
    (h : MayReturn (k a) (noteResponse last ⟨o, a⟩) response body) :
    MayReturn (Prog.op o k) last response body := by
  obtain ⟨t, result, ht, hlast, hbody⟩ := h
  exact ⟨⟨o, a⟩ :: t, result, .op ht, hlast, hbody⟩

/-- A response with a JSON body. -/
def jsonResponse (content : List UInt8) : Response :=
  { statusCode := 200, contentType := some "application/json", content := content }

/-- What is captured of the answer of the first provider is returned. -/
theorem mayReturn_jsonResponse {py : Builtins} {maxCaptureBytes : ℤ} {content : List UInt8}
    {body : Value}
    (hbody : MeshEngine.capturedBody py (MeshConfig.init "http://registry" "" "" maxCaptureBytes)
      (jsonResponse content) = .ok body) :
    MayReturn (MeshEngine.invoke py (MeshConfig.init "http://registry" "" "" maxCaptureBytes)
      (notesRequest ∅)) none (jsonResponse content) body := by
  let event : MeshEvent := ⟨"", .invocationStarted, "", "", "", .none⟩
  -- the policy, the registry, the event of the start and the breaker
  refine MayReturn.op ({} : MeshPolicy) ?_
  refine MayReturn.op (offers [providerA.candidate]).net ?_
  refine MayReturn.op event ?_
  refine MayReturn.op true ?_
  -- the attempt, between two readings of the clock
  refine MayReturn.op (0 : ℚ) ?_
  refine MayReturn.op (0 : ℚ) ?_
  refine MayReturn.op (.ok (jsonResponse content)) ?_
  refine MayReturn.op (0 : ℚ) ?_
  refine MayReturn.op () ?_
  refine MayReturn.op event ?_
  rw [hbody]
  exact ⟨[], _, .ret _, rfl, rfl⟩

/-- A number with one digit more than are kept is presented as another number. -/
theorem long_number_is_misread :
    ¬ ∀ (py : Builtins) (interp : JsonInterpreter) (registryUrl eventGatewayUrl sharedSecret : String)
        (maxCaptureBytes : ℤ) (request : InvokeRequest) (t : List (Performed MeshOp MeshOp.Ans))
        (result : InvokeResult) (response : Response),
        Trace (MeshEngine.invoke (py.withJson interp)
          (MeshConfig.init registryUrl eventGatewayUrl sharedSecret maxCaptureBytes) request) t
          (.ok result) →
        lastResponse t = some response → response.IsJson →
        CapturesFaithfully interp
          (MeshConfig.init registryUrl eventGatewayUrl sharedSecret maxCaptureBytes) response
          result := by
  intro h
  have hkept : plainInterpreter.loads ((jsonResponse (List.replicate 1025 49)).content.take
      (MeshConfig.init "http://registry" "" "" 1024).maxCaptureBytes) =
        some (.int (Json.intValue (ones 1024))) := by
    have hlimit : (MeshConfig.init "http://registry" "" "" 1024).maxCaptureBytes = 1024 := rfl
    rw [hlimit, jsonResponse, List.take_replicate]
    exact loads_ones (by norm_num)
  obtain ⟨t, result, hrun, hlast, -⟩ := mayReturn_jsonResponse
    (@capturedBody_of_isJson ((default : Builtins).withJson plainInterpreter) _ _ _ List.infix_rfl
      (Builtins.withJson_loads hkept))
  obtain ⟨-, hwhole⟩ := h _ _ _ _ _ _ _ _ _ _ hrun hlast List.infix_rfl _ hkept
  have hsame := (loads_ones (n := 1024) (by norm_num)).symm.trans hwhole
  have hones : ones 1025 = ones 1024 ++ ['1'] := List.replicate_succ'
  have hkind := numberKind_ones 1024
  rw [hones] at hkind hsame
  exact Json.intValue_append_ne (numberKind_ones 1023) hkind (List.cons_ne_nil _ _)
    (Value.int.inj (Option.some.inj hsame))

/-! ## Whitespace that is cut off -/

/-- A list and blanks. -/
def paddedBody (n : ℕ) : List UInt8 := Utf8.encode "[1, 2]".toList ++ List.replicate n 32

theorem paddedBody_add (m n : ℕ) : paddedBody (m + n) = paddedBody m ++ List.replicate n 32 := by
  rw [paddedBody, paddedBody, List.replicate_add, List.append_assoc]

theorem length_paddedBody (n : ℕ) : (paddedBody n).length = 6 + n := by
  rw [paddedBody, List.length_append, List.length_replicate]
  rfl

theorem encode_blanks (n : ℕ) : Utf8.encode (List.replicate n ' ') = List.replicate n 32 := by
  induction n with
  | zero => rfl
  | succ n ih => exact congrArg (List.cons 32) ih

theorem isBlank_blanks (n : ℕ) : Json.IsBlank (List.replicate n ' ') := by
  intro c hc
  rw [List.eq_of_mem_replicate hc]
  rfl

theorem loads_paddedBody (n : ℕ) :
    plainInterpreter.loads (paddedBody n) = some (.list [.int 1, .int 2]) := by
  have hread : plainInterpreter.decoder.read "[1, 2]".toList = some (.list [.int 1, .int 2]) := rfl
  exact loads_append_iff.mpr ⟨_, (encode_blanks n).symm,
    (Json.Decoder.read_append hread).mpr (.inl ⟨isBlank_blanks n, rfl⟩)⟩

/-- A body that is cut within trailing whitespace is captured faithfully. -/
theorem short_body_is_faithful :
    ∃ t result, Trace (MeshEngine.invoke ((default : Builtins).withJson plainInterpreter)
        (MeshConfig.init "http://registry" "" "" 1024) (notesRequest ∅)) t (.ok result) ∧
      lastResponse t = some (jsonResponse (paddedBody 1020)) ∧
      (paddedBody 1020).drop 1024 = [32, 32] ∧ result.body = .list [.int 1, .int 2] ∧
      CapturesFaithfully plainInterpreter (MeshConfig.init "http://registry" "" "" 1024)
        (jsonResponse (paddedBody 1020)) result := by
  have hsplit : paddedBody 1020 = paddedBody 1018 ++ [32, 32] := paddedBody_add 1018 2
  have hlength : (paddedBody 1018).length = 1024 := length_paddedBody 1018
  have hkept : (paddedBody 1020).take 1024 = paddedBody 1018 := by
    rw [hsplit, ← hlength, List.take_left]
  have hrest : (paddedBody 1020).drop 1024 = [32, 32] := by
    rw [hsplit, ← hlength, List.drop_left]
  have hloads : plainInterpreter.loads ((jsonResponse (paddedBody 1020)).content.take
      (MeshConfig.init "http://registry" "" "" 1024).maxCaptureBytes) =
        some (.list [.int 1, .int 2]) :=
    (congrArg _ hkept).trans (loads_paddedBody 1018)
  obtain ⟨t, result, hrun, hlast, hbody⟩ := mayReturn_jsonResponse
    (@capturedBody_of_isJson ((default : Builtins).withJson plainInterpreter) _ _ _ List.infix_rfl
      (Builtins.withJson_loads hloads))
  exact ⟨t, result, hrun, hlast, hrest, hbody,
    (captures_faithfully_iff default plainInterpreter _ _ _ _ _ hrun hlast List.infix_rfl).mpr
      (.blank [' ', ' '] (isBlank_blanks 2) (hrest.trans (encode_blanks 2).symm))⟩

end EstateMesh
