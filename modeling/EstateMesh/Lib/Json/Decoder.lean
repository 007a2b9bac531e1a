import EstateMesh.Lib.Json.Number

/-!
# Reading JSON

A decoder of JSON texts that takes one character at a time: its state is the stack of the
arrays and objects that are open, and what is read inside the innermost of them.  It
builds values through hooks, so the values may be anything.  The dialect is the one with
`NaN` and the infinities; an interpreter may refuse a number, and it may bound how deeply
arrays and objects are nested.

Taking one character at a time makes it plain what a text has to do with a text that
continues it.  If the first is read to its end then the decoder either has a value, and
only whitespace may follow, or it is within a number, which may go on
(`read_append`).
-/

universe u

namespace Lib.Json

/-! ## Strings -/

/-- The quotation mark. -/
def quote : Char := Char.ofNat 34

/-- The backslash. -/
def backslash : Char := Char.ofNat 92

/-- How far a character of a string has been read. -/
inductive StringPhase
  | plain | escaped | /-- Within four hexadecimal digits. -/ unit (digits value : ℕ)
deriving DecidableEq, Repr

/-- The character that an escaped character stands for. -/
def escape (c : Char) : Option ℕ :=
  if c = quote ∨ c = backslash ∨ c = '/' then some c.toNat
  else if c = 'b' then some 8
  else if c = 'f' then some 12
  else if c = 'n' then some 10
  else if c = 'r' then some 13
  else if c = 't' then some 9
  else none

/-- The value of a hexadecimal digit. -/
def hexDigit (c : Char) : Option ℕ :=
  if '0' ≤ c ∧ c ≤ '9' then some (c.toNat - 48)
  else if 'a' ≤ c ∧ c ≤ 'f' then some (c.toNat - 87)
  else if 'A' ≤ c ∧ c ≤ 'F' then some (c.toNat - 55)
  else none

/-- Two surrogates are one character. -/
def isPair (high low : ℕ) : Prop := 0xD800 ≤ high ∧ high ≤ 0xDBFF ∧ 0xDC00 ≤ low ∧ low ≤ 0xDFFF

instance (high low : ℕ) : Decidable (isPair high low) := by
  unfold isPair
  infer_instance

/-- A string with one more code unit; the second of two surrogates completes the first. -/
def addUnit (text : List ℕ) (low : ℕ) : List ℕ :=
  match text.getLast? with
  | none => [low]
  | some high =>
      if isPair high low then
        text.dropLast ++ [0x10000 + (high - 0xD800) * 0x400 + (low - 0xDC00)]
      else text ++ [low]

/-- A further character of a string, other than the mark that ends it. -/
def StringPhase.next (text : List ℕ) (c : Char) : StringPhase → Option (StringPhase × List ℕ)
  | plain =>
      if c = backslash then some (escaped, text)
      else if c.toNat < 0x20 then none
      else some (plain, text ++ [c.toNat])
  | escaped =>
      if c = 'u' then some (unit 0 0, text) else (escape c).map fun code ↦ (plain, text ++ [code])
  | unit digits value =>
      (hexDigit c).map fun digit ↦
        if digits = 3 then (plain, addUnit text (16 * value + digit))
        else (unit (digits + 1) (16 * value + digit), text)

/-! ## The decoder -/

/-- The hooks of a decoder. -/
structure Decoder (α : Type u) where
  null : α
  bool : Bool → α
  /-- `none` where a number is refused. -/
  number : NumberKind → List Char → Option α
  nan : α
  infinity (negative : Bool) : α
  string (codePoints : List ℕ) : α
  array : List α → α
  object : List (List ℕ × α) → α
  /-- How many arrays and objects may be open. -/
  maxDepth : ℕ

/-- An array or object that is open around a value: what it has so far, and for an object
the name of the value. -/
inductive Frame (α : Type u)
  | element (elements : List α)
  | member (members : List (List ℕ × α)) (name : List ℕ)

/-- What is read inside the arrays and objects that are open around it. -/
inductive Position (α : Type u)
  | /-- Before a value. -/ value
  | /-- After the bracket of an array. -/ firstElement
  | /-- After an element. -/ nextElement (elements : List α)
  | /-- After the brace of an object. -/ firstMember
  | /-- After the comma between members. -/ name (members : List (List ℕ × α))
  | nameText (members : List (List ℕ × α)) (phase : StringPhase) (text : List ℕ)
  | /-- After a name. -/ colon (members : List (List ℕ × α)) (name : List ℕ)
  | /-- After a member. -/ nextMember (members : List (List ℕ × α))
  | text (phase : StringPhase) (text : List ℕ)
  | /-- Within a word that stands for a value. -/ word (rest : List Char) (x : α)
  | number (phase : NumberPhase) (literal : List Char)
  | /-- After the value of the text. -/ done (x : α)

/-- The state of a decoder. -/
structure State (α : Type u) where
  stack : List (Frame α)
  position : Position α

namespace State

variable {α : Type u}

/-- Before the text. -/
def init : State α := ⟨[], .value⟩

/-- A value is complete. -/
def complete : List (Frame α) → α → State α
  | [], x => ⟨[], .done x⟩
  | .element elements :: stack, x => ⟨stack, .nextElement (elements ++ [x])⟩
  | .member members name :: stack, x => ⟨stack, .nextMember (members ++ [(name, x)])⟩

end State

namespace Decoder

variable {α : Type u} (d : Decoder α)

/-- The words that stand for values, by their first letters. -/
def word (c : Char) : Option (List Char × α) :=
  if c = 'n' then some ("ull".toList, d.null)
  else if c = 't' then some ("rue".toList, d.bool true)
  else if c = 'f' then some ("alse".toList, d.bool false)
  else if c = 'N' then some ("aN".toList, d.nan)
  else if c = 'I' then some ("nfinity".toList, d.infinity false)
  else none

/-- The first character of a value. -/
def begin (stack : List (Frame α)) (c : Char) : Option (State α) :=
  match NumberPhase.start.next c with
  | some phase => some ⟨stack, .number phase [c]⟩
  | none =>
      if c = quote then some ⟨stack, .text .plain []⟩
      else if c = '[' then
        if stack.length < d.maxDepth then some ⟨stack, .firstElement⟩ else none
      else if c = '{' then
        if stack.length < d.maxDepth then some ⟨stack, .firstMember⟩ else none
      else (d.word c).map fun x ↦ ⟨stack, .word x.1 x.2⟩

/-- A number that ends. -/
def literal (phase : NumberPhase) (literal : List Char) : Option α :=
  phase.kind?.bind fun kind ↦ d.number kind literal

/-- A character after a value. -/
def after (σ : State α) (c : Char) : Option (State α) :=
  if isSpace c then some σ
  else
    match σ.position with
    | .nextElement elements =>
        if c = ',' then some ⟨.element elements :: σ.stack, .value⟩
        else if c = ']' then some (.complete σ.stack (d.array elements))
        else none
    | .nextMember members =>
        if c = ',' then some ⟨σ.stack, .name members⟩
        else if c = '}' then some (.complete σ.stack (d.object members))
        else none
    | _ => none

/-- One character. -/
def step (σ : State α) (c : Char) : Option (State α) :=
  match σ.position with
  | .value => if isSpace c then some σ else d.begin σ.stack c
  | .firstElement =>
      if isSpace c then some σ
      else if c = ']' then some (.complete σ.stack (d.array []))
      else d.begin (.element [] :: σ.stack) c
  | .firstMember =>
      if isSpace c then some σ
      else if c = '}' then some (.complete σ.stack (d.object []))
      else if c = quote then some ⟨σ.stack, .nameText [] .plain []⟩
      else none
  | .name members =>
      if isSpace c then some σ
      else if c = quote then some ⟨σ.stack, .nameText members .plain []⟩
      else none
  | .nameText members phase text =>
      if phase = .plain ∧ c = quote then some ⟨σ.stack, .colon members text⟩
      else (phase.next text c).map fun x ↦ ⟨σ.stack, .nameText members x.1 x.2⟩
  | .colon members name =>
      if isSpace c then some σ
      else if c = ':' then some ⟨.member members name :: σ.stack, .value⟩
      else none
  | .text phase text =>
      if phase = .plain ∧ c = quote then some (.complete σ.stack (d.string text))
      else (phase.next text c).map fun x ↦ ⟨σ.stack, .text x.1 x.2⟩
  | .word [] _ => none
  | .word [c'] x => if c = c' then some (.complete σ.stack x) else none
  | .word (c' :: rest) x => if c = c' then some ⟨σ.stack, .word rest x⟩ else none
  | .number phase literal =>
      match phase.next c with
      | some phase => some ⟨σ.stack, .number phase (literal ++ [c])⟩
      | none =>
          if phase = .minus ∧ c = 'I' then
            some ⟨σ.stack, .word "nfinity".toList (d.infinity true)⟩
          else (d.literal phase literal).bind fun x ↦ d.after (.complete σ.stack x) c
  | .nextElement _ | .nextMember _ | .done _ => d.after σ c

/-- Some characters. -/
def run (σ : State α) (text : List Char) : Option (State α) := text.foldlM d.step σ

/-- The value of a text that ends here. -/
def finish : State α → Option α
  | ⟨[], .done x⟩ => some x
  | ⟨[], .number phase literal⟩ => d.literal phase literal
  | _ => none

/-- The value of a text. -/
def read (text : List Char) : Option α := (d.run .init text).bind d.finish

/-- Why a text is not read. -/
inductive Failure
  | /-- It is not JSON. -/ malformed
  | /-- A number is refused. -/ number
  | /-- Too many arrays and objects are open. -/ depth
deriving DecidableEq, Repr

/-- The longest start of a text that is a number by itself. -/
def numberStart (text : List Char) : Option (NumberKind × List Char) :=
  (text.inits.filterMap fun start ↦ (numberKind start).map fun kind ↦ (kind, start)).getLast?

/-- The decoder stands after a number that is refused, if the text has no more of a number. -/
def refusesNumber (σ : State α) : Bool :=
  match σ.position with
  | .number _ literal => (numberStart literal).any fun x ↦ (d.number x.1 x.2).isNone
  | _ => false

/-- Why a character is not taken. -/
def stepFailure (σ : State α) (c : Char) : Failure :=
  match σ.position with
  | .value | .firstElement => if c = '[' ∨ c = '{' then .depth else .malformed
  | .number _ _ => if d.refusesNumber σ then .number else .malformed
  | _ => .malformed

/-- Why some characters are not read to the end of a value. -/
def failure : State α → List Char → Failure
  | σ, [] => if d.refusesNumber σ then .number else .malformed
  | σ, c :: text =>
      match d.step σ c with
      | some σ' => failure σ' text
      | none => d.stepFailure σ c

end Decoder

namespace Decoder

variable {α : Type u} {d : Decoder α} {σ σ' : State α} {c : Char} {text text' : List Char} {x y : α}

theorem run_append : d.run σ (text ++ text') = (d.run σ text).bind fun σ' ↦ d.run σ' text' :=
  List.foldlM_append

theorem run_cons : d.run σ (c :: text) = (d.step σ c).bind fun σ' ↦ d.run σ' text := rfl

/-- After the value only whitespace may follow. -/
theorem run_done : d.run ⟨[], .done x⟩ text = some σ ↔ IsBlank text ∧ σ = ⟨[], .done x⟩ := by
  induction text with
  | nil =>
      show some _ = some σ ↔ _
      rw [Option.some.injEq, eq_comm]
      exact ⟨fun h ↦ ⟨List.forall_mem_nil _, h⟩, fun h ↦ h.2⟩
  | cons c text ih =>
      rw [run_cons, isBlank_cons]
      show (if isSpace c then some _ else none).bind _ = _ ↔ _
      split
      · rename_i hspace
        rw [Option.bind_some, ih, and_iff_right hspace]
      · rename_i hnot
        rw [Option.bind_none]
        exact iff_of_false (by rintro ⟨⟩) fun h ↦ hnot h.1.1

/-- Whitespace before a value. -/
theorem run_value_blank (stack : List (Frame α)) (h : IsBlank text) :
    d.run ⟨stack, .value⟩ text = some ⟨stack, .value⟩ := by
  induction text with
  | nil => rfl
  | cons c text ih =>
      obtain ⟨hspace, hblank⟩ := isBlank_cons.mp h
      rw [run_cons]
      show (if isSpace c then some _ else _).bind _ = _
      rw [if_pos hspace]
      exact ih hblank

/-! ## Inside a number -/

/-- Whitespace has been read, and perhaps a part of a number. -/
inductive IsBare : State α → Prop
  | blank : IsBare .init
  | number (phase : NumberPhase) (literal : List Char) : IsBare ⟨[], .number phase literal⟩

theorem not_isBare_complete (stack : List (Frame α)) (x : α) : ¬ IsBare (State.complete stack x) := by
  cases stack with
  | nil => rintro ⟨⟩
  | cons frame stack => cases frame <;> rintro ⟨⟩

/-- Either a choice was taken or the other was. -/
theorem of_ite_some {β : Type u} {p : Prop} [Decidable p] {a b : β} {other : Option β}
    (h : (if p then some a else other) = some b) : a = b ∨ other = some b := by
  split at h
  · exact .inl (Option.some.inj h)
  · exact .inr h

theorem not_isBare_after (hbefore : ¬ IsBare σ) (h : d.after σ c = some σ') : ¬ IsBare σ' := by
  obtain ⟨stack, position⟩ := σ
  rcases of_ite_some h with rfl | h
  · exact hbefore
  · cases position with
    | nextElement elements =>
        rcases of_ite_some h with rfl | h
        · rintro ⟨⟩
        · rcases of_ite_some h with rfl | ⟨⟨⟩⟩
          exact not_isBare_complete _ _
    | nextMember members =>
        rcases of_ite_some h with rfl | h
        · rintro ⟨⟩
        · rcases of_ite_some h with rfl | ⟨⟨⟩⟩
          exact not_isBare_complete _ _
    | _ => cases h

/-- Only a number begins with a state that is bare. -/
theorem isBare_begin {stack : List (Frame α)} (h : d.begin stack c = some σ) (hbare : IsBare σ) :
    stack = [] ∧ ∃ phase, NumberPhase.start.next c = some phase ∧ σ = ⟨[], .number phase [c]⟩ := by
  unfold begin at h
  split at h
  · rename_i phase hphase
    obtain rfl := Option.some.inj h
    cases hbare with
    | number => exact ⟨rfl, phase, hphase, rfl⟩
  · rcases of_ite_some h with rfl | h
    · cases hbare
    · split at h
      · obtain ⟨-, h⟩ := Option.ite_none_right_eq_some.mp h
        obtain rfl := Option.some.inj h
        cases hbare
      · split at h
        · obtain ⟨-, h⟩ := Option.ite_none_right_eq_some.mp h
          obtain rfl := Option.some.inj h
          cases hbare
        · obtain ⟨x, -, rfl⟩ := Option.map_eq_some_iff.mp h
          cases hbare

/-- Inside an array, an object, a string or a word, and after a value, the state does not
become bare. -/
theorem not_isBare_step (hvalue : σ.position ≠ .value)
    (hnumber : ∀ phase literal, σ.position ≠ .number phase literal) (h : d.step σ c = some σ') :
    ¬ IsBare σ' := by
  obtain ⟨stack, position⟩ := σ
  cases position with
  | value => exact absurd rfl hvalue
  | number phase literal => exact absurd rfl (hnumber phase literal)
  | firstElement =>
      rcases of_ite_some h with rfl | h
      · rintro ⟨⟩
      · rcases of_ite_some h with rfl | h
        · exact not_isBare_complete _ _
        · intro hbare
          obtain ⟨⟨⟩, -⟩ := isBare_begin h hbare
  | firstMember =>
      rcases of_ite_some h with rfl | h
      · rintro ⟨⟩
      · rcases of_ite_some h with rfl | h
        · exact not_isBare_complete _ _
        · rcases of_ite_some h with rfl | ⟨⟨⟩⟩
          rintro ⟨⟩
  | name members =>
      rcases of_ite_some h with rfl | h
      · rintro ⟨⟩
      · rcases of_ite_some h with rfl | ⟨⟨⟩⟩
        rintro ⟨⟩
  | nameText members phase text =>
      rcases of_ite_some h with rfl | h
      · rintro ⟨⟩
      · obtain ⟨x, -, rfl⟩ := Option.map_eq_some_iff.mp h
        rintro ⟨⟩
  | colon members name =>
      rcases of_ite_some h with rfl | h
      · rintro ⟨⟩
      · rcases of_ite_some h with rfl | ⟨⟨⟩⟩
        rintro ⟨⟩
  | text phase text =>
      rcases of_ite_some h with rfl | h
      · exact not_isBare_complete _ _
      · obtain ⟨x, -, rfl⟩ := Option.map_eq_some_iff.mp h
        rintro ⟨⟩
  | word rest x =>
      match rest with
      | [] => cases h
      | [c'] =>
          rcases of_ite_some h with rfl | ⟨⟨⟩⟩
          exact not_isBare_complete _ _
      | c' :: c'' :: rest =>
          rcases of_ite_some h with rfl | ⟨⟨⟩⟩
          rintro ⟨⟩
  | nextElement elements => exact not_isBare_after (d := d) (by rintro ⟨⟩) h
  | nextMember members => exact not_isBare_after (d := d) (by rintro ⟨⟩) h
  | done x => exact not_isBare_after (d := d) (by rintro ⟨⟩) h

/-- What a character may be that leads to a bare state. -/
theorem isBare_step (h : d.step σ c = some σ') (hbare : IsBare σ') :
    (σ = .init ∧ σ' = .init ∧ isSpace c = true) ∨
      (σ = .init ∧ ∃ phase, NumberPhase.start.next c = some phase ∧ σ' = ⟨[], .number phase [c]⟩) ∨
      ∃ phase literal phase', σ = ⟨[], .number phase literal⟩ ∧ phase.next c = some phase' ∧
        σ' = ⟨[], .number phase' (literal ++ [c])⟩ := by
  obtain ⟨stack, position⟩ := σ
  cases position with
  | value =>
      simp only [step] at h
      split at h
      · rename_i hspace
        obtain rfl := Option.some.inj h
        cases hbare
        exact .inl ⟨rfl, rfl, hspace⟩
      · obtain ⟨rfl, hnumber⟩ := isBare_begin h hbare
        exact .inr (.inl ⟨rfl, hnumber⟩)
  | number phase literal =>
      simp only [step] at h
      split at h
      · rename_i phase' hphase
        obtain rfl := Option.some.inj h
        cases hbare
        exact .inr (.inr ⟨phase, literal, phase', rfl, hphase, rfl⟩)
      · rcases of_ite_some h with rfl | h
        · cases hbare
        · obtain ⟨x, -, h⟩ := Option.bind_eq_some_iff.mp h
          exact absurd hbare (not_isBare_after (not_isBare_complete _ _) h)
  | _ => exact absurd hbare (not_isBare_step (by rintro ⟨⟩) (by rintro _ _ ⟨⟩) h)

theorem run_concat : d.run σ (text ++ [c]) = (d.run σ text).bind fun σ' ↦ d.step σ' c := by
  rw [run_append]
  congr 1
  funext σ'
  exact Option.bind_fun_some _

/-- What has been read in a bare state. -/
theorem isBare_run (h : d.run .init text = some σ) (hbare : IsBare σ) :
    (σ = .init ∧ IsBlank text) ∨
      ∃ lead literal phase, text = lead ++ literal ∧ IsBlank lead ∧
        numberPhase literal = some phase ∧ σ = ⟨[], .number phase literal⟩ := by
  induction text using List.reverseRecOn generalizing σ with
  | nil => exact .inl ⟨(Option.some.inj h).symm, List.forall_mem_nil _⟩
  | append_singleton text c ih =>
      rw [run_concat, Option.bind_eq_some_iff] at h
      obtain ⟨σ', hrun, hstep⟩ := h
      rcases isBare_step hstep hbare with ⟨rfl, rfl, hspace⟩ | ⟨rfl, phase, hphase, rfl⟩ |
          ⟨phase, literal, phase', rfl, hphase, rfl⟩
      · rcases ih hrun .blank with ⟨-, hblank⟩ | ⟨lead, literal, phase, -, -, -, hnot⟩
        · exact .inl ⟨rfl, isBlank_append.mpr ⟨hblank, List.forall_mem_singleton.mpr hspace⟩⟩
        · cases hnot
      · rcases ih hrun .blank with ⟨-, hblank⟩ | ⟨lead, literal, phase, -, -, -, hnot⟩
        · refine .inr ⟨text, [c], phase, rfl, hblank, ?_, rfl⟩
          exact (Option.bind_fun_some _).trans hphase
        · cases hnot
      · rcases ih hrun (.number _ _) with ⟨hnot, -⟩ | ⟨lead, literal', phase'', rfl, hblank, hread, heq⟩
        · cases hnot
        · cases heq
          refine .inr ⟨lead, literal ++ [c], phase', List.append_assoc _ _ _, hblank, ?_, rfl⟩
          rw [numberPhase_concat, hread, Option.bind_some, hphase]

/-! ## Numbers that go on -/

theorem run_number {stack : List (Frame α)} {phase phase' : NumberPhase} {literal more : List Char}
    (h : more.foldlM NumberPhase.next phase = some phase') :
    d.run ⟨stack, .number phase literal⟩ more = some ⟨stack, .number phase' (literal ++ more)⟩ := by
  induction more generalizing phase literal with
  | nil =>
      obtain rfl := Option.some.inj h
      rw [List.append_nil]
      rfl
  | cons c more ih =>
      obtain ⟨phase₁, hnext, hmore⟩ := Option.bind_eq_some_iff.mp h
      rw [run_cons]
      simp only [step, hnext, Option.bind_some]
      rw [ih hmore, List.append_assoc, List.singleton_append]

/-- A number after whitespace. -/
theorem run_init_number {lead literal : List Char} {phase : NumberPhase} (hblank : IsBlank lead)
    (hne : literal ≠ []) (h : numberPhase literal = some phase) :
    d.run .init (lead ++ literal) = some ⟨[], .number phase literal⟩ := by
  obtain ⟨c, more, rfl⟩ := List.exists_cons_of_ne_nil hne
  obtain ⟨phase₁, hnext, hmore⟩ := Option.bind_eq_some_iff.mp h
  have hspace : ¬ isSpace c = true := fun hspace ↦ by
    rw [NumberPhase.next_space hspace] at hnext
    cases hnext
  have hbegin : d.step .init c = some ⟨[], .number phase₁ [c]⟩ := by
    show (if isSpace c then _ else d.begin [] c) = _
    rw [if_neg hspace, begin, hnext]
  rw [run_append, State.init, run_value_blank [] hblank, Option.bind_some, run_cons]
  rw [State.init] at hbegin
  rw [hbegin, Option.bind_some, run_number hmore, List.singleton_append]

/-- What may follow a number at the end of its first part. -/
theorem finish_number {phase : NumberPhase} {literal rest : List Char} (hphase : phase.IsStarted)
    (h : (d.run ⟨[], .number phase literal⟩ rest).bind d.finish = some y) :
    ∃ more trail phase', rest = more ++ trail ∧ IsBlank trail ∧
      more.foldlM NumberPhase.next phase = some phase' ∧
      d.literal phase' (literal ++ more) = some y := by
  induction rest generalizing phase literal with
  | nil => exact ⟨[], [], phase, rfl, List.forall_mem_nil _, rfl, by rwa [List.append_nil]⟩
  | cons c rest ih =>
      rw [run_cons] at h
      simp only [step] at h
      cases hnext : phase.next c with
      | some phase₁ =>
          simp only [hnext, Option.bind_some] at h
          obtain ⟨more, trail, phase', rfl, hblank, hmore, hvalue⟩ := ih (hphase.next hnext) h
          refine ⟨c :: more, trail, phase', rfl, hblank, ?_, ?_⟩
          · exact Option.bind_eq_some_iff.mpr ⟨phase₁, hnext, hmore⟩
          · rwa [List.append_assoc, List.singleton_append] at hvalue
      | none =>
          simp only [hnext, if_neg fun hminus ↦ hphase.2 (And.left hminus)] at h
          obtain ⟨σ, hσ, hfinish⟩ := Option.bind_eq_some_iff.mp h
          obtain ⟨σ₁, hafter, hrest⟩ := Option.bind_eq_some_iff.mp hσ
          obtain ⟨x, hx, hafter⟩ := Option.bind_eq_some_iff.mp hafter
          have hdone : d.run ⟨[], .done x⟩ (c :: rest) = some σ :=
            Option.bind_eq_some_iff.mpr ⟨σ₁, hafter, hrest⟩
          obtain ⟨hblank, rfl⟩ := run_done.mp hdone
          obtain rfl := Option.some.inj hfinish
          exact ⟨[], c :: rest, phase, rfl, hblank, rfl, by rwa [List.append_nil]⟩

/-- Whitespace after a number. -/
theorem finish_number_blank {phase : NumberPhase} {literal trail : List Char}
    (hblank : IsBlank trail) :
    (d.run ⟨[], .number phase literal⟩ trail).bind d.finish = d.literal phase literal := by
  cases trail with
  | nil => rfl
  | cons c trail =>
      obtain ⟨hspace, hrest⟩ := isBlank_cons.mp hblank
      have hword : ¬ (phase = .minus ∧ c = 'I') := by
        rintro ⟨-, rfl⟩
        cases hspace
      rw [run_cons]
      simp only [step, NumberPhase.next_space hspace, if_neg hword]
      cases d.literal phase literal with
      | none => rfl
      | some x =>
          show ((d.step ⟨[], .done x⟩ c).bind fun σ' ↦ d.run σ' trail).bind d.finish = some x
          rw [← run_cons, run_done.mpr ⟨hblank, rfl⟩]
          rfl

/-! ## Texts that go on -/

/-- A text that is a number with a value. -/
def ReadsNumber (d : Decoder α) (literal : List Char) (x : α) : Prop :=
  ∃ kind, numberKind literal = some kind ∧ d.number kind literal = some x

theorem readsNumber_iff {literal : List Char} :
    d.ReadsNumber literal x ↔
      ∃ phase, numberPhase literal = some phase ∧ d.literal phase literal = some x := by
  simp only [ReadsNumber, numberKind, Decoder.literal, Option.bind_eq_some_iff]
  exact ⟨fun ⟨kind, ⟨phase, h, hkind⟩, hx⟩ ↦ ⟨phase, h, kind, hkind, hx⟩,
    fun ⟨phase, h, kind, hkind, hx⟩ ↦ ⟨kind, ⟨phase, h, hkind⟩, hx⟩⟩

/-- The state after a number. -/
theorem ReadsNumber.run {lead literal : List Char} (h : d.ReadsNumber literal x)
    (hlead : IsBlank lead) :
    ∃ phase, d.run .init (lead ++ literal) = some ⟨[], .number phase literal⟩ ∧
      d.literal phase literal = some x := by
  obtain ⟨phase, hphase, hx⟩ := readsNumber_iff.mp h
  have hne : literal ≠ [] := by
    rintro rfl
    obtain rfl := Option.some.inj hphase
    cases hx
  exact ⟨phase, run_init_number hlead hne hphase, hx⟩

/-- A text that consists of a number, up to whitespace. -/
theorem read_number {lead literal trail : List Char} (hlead : IsBlank lead) (htrail : IsBlank trail)
    (h : d.ReadsNumber literal x) : d.read (lead ++ literal ++ trail) = some x := by
  obtain ⟨phase, hrun, hx⟩ := h.run hlead
  rw [read, run_append, hrun, Option.bind_some, finish_number_blank htrail, hx]

/-- The first part of a text ends within a number: `literal` before the cut, and `more`
after it. -/
def CutsNumber (text rest literal more : List Char) : Prop :=
  (∃ lead, IsBlank lead ∧ text = lead ++ literal) ∧
    (∃ trail, IsBlank trail ∧ rest = more ++ trail) ∧ more ≠ []

/-- What a text with a value has to do with a text that continues it. -/
theorem read_append {rest : List Char} (h : d.read text = some x) :
    d.read (text ++ rest) = some y ↔
      (IsBlank rest ∧ y = x) ∨ ∃ literal more, CutsNumber text rest literal more ∧
        d.ReadsNumber literal x ∧ d.ReadsNumber (literal ++ more) y := by
  obtain ⟨σ, hrun, hfinish⟩ := Option.bind_eq_some_iff.mp h
  have hread : d.read (text ++ rest) = (d.run σ rest).bind d.finish := by
    rw [read, run_append, hrun, Option.bind_some]
  unfold finish at hfinish
  split at hfinish
  · -- the value was complete
    obtain rfl := Option.some.inj hfinish
    rw [hread, Option.bind_eq_some_iff]
    constructor
    · rintro ⟨σ, hrest, hy⟩
      obtain ⟨hblank, rfl⟩ := run_done.mp hrest
      exact .inl ⟨hblank, (Option.some.inj hy).symm⟩
    · rintro (⟨hblank, rfl⟩ | ⟨literal, more, ⟨⟨lead, hlead, rfl⟩, -⟩, hx, -⟩)
      · exact ⟨_, run_done.mpr ⟨hblank, rfl⟩, rfl⟩
      · obtain ⟨phase, hnumber, -⟩ := hx.run hlead
        rw [hnumber] at hrun
        cases hrun
  · -- the text ended within a number
    rename_i phase literal
    obtain ⟨hnot, -⟩ | ⟨lead, literal', phase', rfl, hlead, hphase, heq⟩ :=
      isBare_run hrun (.number phase literal)
    · cases hnot
    · cases heq
      have hx : d.ReadsNumber literal x := readsNumber_iff.mpr ⟨phase, hphase, hfinish⟩
      have hstarted : phase.IsStarted := by
        constructor <;> (rintro rfl; cases hfinish)
      constructor
      · rw [hread]
        intro hy
        obtain ⟨more, trail, phase', rfl, htrail, hmore, hvalue⟩ := finish_number hstarted hy
        by_cases hne : more = []
        · subst hne
          obtain rfl := Option.some.inj hmore
          rw [List.append_nil, hfinish] at hvalue
          exact .inl ⟨htrail, (Option.some.inj hvalue).symm⟩
        · refine .inr ⟨literal, more, ⟨⟨lead, hlead, rfl⟩, ⟨trail, htrail, rfl⟩, hne⟩, hx, ?_⟩
          refine readsNumber_iff.mpr ⟨phase', ?_, hvalue⟩
          rw [numberPhase, List.foldlM_append]
          exact Option.bind_eq_some_iff.mpr ⟨phase, hphase, hmore⟩
      · rintro (⟨hblank, rfl⟩ |
          ⟨literal', more, ⟨⟨lead', hlead', heq⟩, ⟨trail, htrail, rfl⟩, -⟩, -, hy⟩)
        · rw [hread, finish_number_blank hblank, hfinish]
        · rw [heq, ← List.append_assoc, List.append_assoc lead']
          exact read_number hlead' htrail hy
  · cases hfinish

end Decoder

end Lib.Json
