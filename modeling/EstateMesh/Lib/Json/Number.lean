import Mathlib.Algebra.Order.Group.Int
import Mathlib.Data.List.Induction
import Mathlib.Data.Option.Basic

/-!
# JSON numbers

The numbers of JSON, read one character at a time.  A number that has been read to a point
where it may end can go on in two ways: an integer by further digits, which make it another
integer, or by a fraction or an exponent, which make it a floating point number
(`intValue_append_ne`).
-/

namespace Lib.Json

/-- Whitespace between the tokens. -/
def isSpace (c : Char) : Bool := c = ' ' ∨ c = '\t' ∨ c = '\n' ∨ c = '\r'

/-- Nothing but whitespace. -/
def IsBlank (text : List Char) : Prop := ∀ c ∈ text, isSpace c = true

theorem isBlank_cons {c : Char} {text : List Char} :
    IsBlank (c :: text) ↔ isSpace c = true ∧ IsBlank text :=
  List.forall_mem_cons

theorem isBlank_append {text text' : List Char} :
    IsBlank (text ++ text') ↔ IsBlank text ∧ IsBlank text' :=
  List.forall_mem_append

/-! ## Numbers -/

/-- How far a number has been read. -/
inductive NumberPhase
  | start | minus | zero | integer | point | fraction | exponent | exponentSign | exponentDigits
deriving DecidableEq, Repr

/-- The types of numbers. -/
inductive NumberKind
  | int | float
deriving DecidableEq, Repr

namespace NumberPhase

/-- The first digit of a number. -/
def afterSign (c : Char) : Option NumberPhase :=
  if c = '0' then some zero else if c.isDigit then some integer else none

/-- What may follow the digits of an integer. -/
def afterInteger (c : Char) : Option NumberPhase :=
  if c = '.' then some point else if c = 'e' ∨ c = 'E' then some exponent else none

/-- A further character of a number, if it can be one. -/
def next : NumberPhase → Char → Option NumberPhase
  | start, c => if c = '-' then some minus else afterSign c
  | minus, c => afterSign c
  | zero, c => afterInteger c
  | integer, c => if c.isDigit then some integer else afterInteger c
  | point, c => if c.isDigit then some fraction else none
  | fraction, c =>
      if c.isDigit then some fraction else if c = 'e' ∨ c = 'E' then some exponent else none
  | exponent, c =>
      if c = '+' ∨ c = '-' then some exponentSign
      else if c.isDigit then some exponentDigits else none
  | exponentSign, c => if c.isDigit then some exponentDigits else none
  | exponentDigits, c => if c.isDigit then some exponentDigits else none

/-- A digit has been read. -/
def IsStarted (phase : NumberPhase) : Prop := phase ≠ start ∧ phase ≠ minus

/-- The type of a number that ends here, if it can. -/
def kind? : NumberPhase → Option NumberKind
  | zero | integer => some .int
  | fraction | exponentDigits => some .float
  | _ => none

end NumberPhase

/-- How far a text is read as a number. -/
def numberPhase (literal : List Char) : Option NumberPhase := literal.foldlM NumberPhase.next .start

theorem numberPhase_concat (literal : List Char) (c : Char) :
    numberPhase (literal ++ [c]) = (numberPhase literal).bind fun phase ↦ phase.next c := by
  unfold numberPhase
  rw [List.foldlM_append]
  congr 1
  funext phase
  exact Option.bind_fun_some _

/-- The type of the number that a text is. -/
def numberKind (literal : List Char) : Option NumberKind :=
  (numberPhase literal).bind NumberPhase.kind?

/-- The number with some decimal digits. -/
def natValue (digits : List Char) : ℕ := digits.foldl (fun n c ↦ 10 * n + (c.toNat - 48)) 0

/-- The integer that a text is. -/
def intValue (literal : List Char) : ℤ :=
  let digits := literal.filter Char.isDigit
  if literal.head? = some '-' then -(natValue digits : ℤ) else natValue digits

/-! ## Phases -/

/-- Whitespace is not part of a number. -/
theorem NumberPhase.next_space {c : Char} (h : isSpace c = true) (phase : NumberPhase) :
    phase.next c = none := by
  rcases of_decide_eq_true h with rfl | rfl | rfl | rfl <;> cases phase <;> rfl

theorem NumberPhase.IsStarted.next {c : Char} {phase phase' : NumberPhase} (hphase : phase.IsStarted)
    (h : phase.next c = some phase') : phase'.IsStarted := by
  obtain ⟨hstart, hminus⟩ := hphase
  cases phase with
  | start => exact absurd rfl hstart
  | minus => exact absurd rfl hminus
  | _ => grind [NumberPhase.next, NumberPhase.afterInteger, NumberPhase.IsStarted]

/-! ## Integers -/

theorem natAbs_intValue (literal : List Char) :
    (intValue literal).natAbs = natValue (literal.filter Char.isDigit) := by
  unfold intValue
  dsimp only
  split
  · rw [Int.natAbs_neg, Int.natAbs_natCast]
  · rw [Int.natAbs_natCast]

theorem natValue_concat (digits : List Char) (c : Char) :
    natValue (digits ++ [c]) = 10 * natValue digits + (c.toNat - 48) := by
  rw [natValue, List.foldl_append]
  rfl

theorem natValue_le_append (digits digits' : List Char) :
    natValue digits ≤ natValue (digits ++ digits') := by
  induction digits' using List.reverseRecOn with
  | nil => rw [List.append_nil]
  | append_singleton digits' c ih =>
      rw [← List.append_assoc, natValue_concat]
      omega

/-- An integer that goes on does not start with a zero. -/
theorem eq_integer_of_next {c : Char} {phase phase' : NumberPhase} (hstarted : phase.IsStarted)
    (h : phase.next c = some phase') (hkind : phase'.kind? = some .int) :
    phase = .integer ∧ c.isDigit = true := by
  obtain ⟨hstart, hminus⟩ := hstarted
  cases phase with
  | start => exact absurd rfl hstart
  | minus => exact absurd rfl hminus
  | _ => grind [NumberPhase.next, NumberPhase.afterInteger, NumberPhase.kind?]

theorem eq_integer_of_foldlM {c : Char} {more : List Char} {phase phase' : NumberPhase}
    (hstarted : phase.IsStarted) (h : (c :: more).foldlM NumberPhase.next phase = some phase')
    (hkind : phase'.kind? = some .int) : phase = .integer ∧ c.isDigit = true := by
  induction more generalizing phase c with
  | nil =>
      obtain ⟨phase₁, hnext, hmore⟩ := Option.bind_eq_some_iff.mp h
      obtain rfl := Option.some.inj hmore
      exact eq_integer_of_next hstarted hnext hkind
  | cons c' more ih =>
      obtain ⟨phase₁, hnext, hmore⟩ := Option.bind_eq_some_iff.mp h
      obtain ⟨rfl, -⟩ := ih (hstarted.next hnext) hmore
      exact eq_integer_of_next hstarted hnext rfl

/-- The first digit of such an integer is not a zero. -/
theorem digit_of_next {c : Char} {phase : NumberPhase} (h : phase.next c = some .integer) :
    c.isDigit = true ∧ (phase = .integer ∨ c ≠ '0') := by
  cases phase with
  | _ => grind [NumberPhase.next, NumberPhase.afterSign, NumberPhase.afterInteger]

theorem one_le_digit {c : Char} (hdigit : c.isDigit = true) (hnot : c ≠ '0') : 1 ≤ c.toNat - 48 := by
  have hlow : 48 ≤ c.toNat := by
    have hrange := (Bool.and_eq_true_iff.mp hdigit).1
    exact of_decide_eq_true hrange
  have hne : c.toNat ≠ 48 := fun heq ↦ hnot (by rw [← Char.ofNat_toNat c, heq])
  omega

/-- An integer whose first digit is not a zero is not zero. -/
theorem one_le_natValue {literal : List Char} (h : numberPhase literal = some .integer) :
    1 ≤ natValue (literal.filter Char.isDigit) := by
  induction literal using List.reverseRecOn with
  | nil => cases h
  | append_singleton literal c ih =>
      rw [numberPhase_concat, Option.bind_eq_some_iff] at h
      obtain ⟨phase, hphase, hnext⟩ := h
      obtain ⟨hdigit, hcase⟩ := digit_of_next hnext
      rw [List.filter_append, List.filter_cons_of_pos hdigit, List.filter_nil, natValue_concat]
      rcases hcase with rfl | hnot
      · have hpos := ih hphase
        omega
      · have hpos := one_le_digit hdigit hnot
        omega

/-- Further digits make another integer. -/
theorem intValue_append_ne {literal more : List Char} (h : numberKind literal = some .int)
    (hmore : numberKind (literal ++ more) = some .int) (hne : more ≠ []) :
    intValue (literal ++ more) ≠ intValue literal := by
  obtain ⟨phase, hphase, hkind⟩ := Option.bind_eq_some_iff.mp h
  obtain ⟨phase', hphase', hkind'⟩ := Option.bind_eq_some_iff.mp hmore
  obtain ⟨c, more, rfl⟩ := List.exists_cons_of_ne_nil hne
  have hstarted : phase.IsStarted := by
    constructor <;> (rintro rfl; cases hkind)
  rw [numberPhase, List.foldlM_append] at hphase'
  obtain ⟨phase₁, hphase₁, hrest⟩ := Option.bind_eq_some_iff.mp hphase'
  obtain rfl : phase₁ = phase := Option.some.inj (hphase₁.symm.trans hphase)
  obtain ⟨rfl, hdigit⟩ := eq_integer_of_foldlM hstarted hrest hkind'
  have hpos := one_le_natValue hphase
  have hle := natValue_le_append (literal.filter Char.isDigit ++ [c]) (more.filter Char.isDigit)
  rw [natValue_concat, List.append_assoc, List.singleton_append] at hle
  intro heq
  have habs := congrArg Int.natAbs heq
  rw [natAbs_intValue, natAbs_intValue, List.filter_append, List.filter_cons_of_pos hdigit] at habs
  omega

end Lib.Json
