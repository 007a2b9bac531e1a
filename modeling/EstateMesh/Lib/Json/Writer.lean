import EstateMesh.Lib.Json.Decoder

/-!
# Writing JSON

Documents as texts of ASCII characters, in any layout that puts whitespace between the
tokens.  A decoder that accepts the numbers of a document and may go as deep as it reads the
text as that document (`read_write`).

The decoder learns that a number has ended from the character after it.  So a value that has
been written leaves the decoder in one of two states (`Settles`), which the next comma,
bracket or blank brings together.
-/

universe u

namespace Lib.Json

/-! ## Strings -/

/-- A hexadecimal digit, in lower case. -/
def hexChar (n : ℕ) : Char := if n < 10 then Char.ofNat (n + 48) else Char.ofNat (n + 87)

/-- A code unit by its four hexadecimal digits. -/
def unitText (n : ℕ) : List Char :=
  [backslash, 'u', hexChar (n / 4096 % 16), hexChar (n / 256 % 16), hexChar (n / 16 % 16),
    hexChar (n % 16)]

/-- A character within a string. -/
def writeChar (c : Char) : List Char :=
  if c = quote ∨ c = backslash then [backslash, c]
  else if c.toNat = 8 then [backslash, 'b']
  else if c.toNat = 12 then [backslash, 'f']
  else if c.toNat = 10 then [backslash, 'n']
  else if c.toNat = 13 then [backslash, 'r']
  else if c.toNat = 9 then [backslash, 't']
  else if 0x20 ≤ c.toNat ∧ c.toNat ≤ 0x7E then [c]
  else if c.toNat < 0x10000 then unitText c.toNat
  else
    -- a character outside the first plane is written as two surrogates
    unitText (0xD800 + (c.toNat - 0x10000) / 0x400) ++
      unitText (0xDC00 + (c.toNat - 0x10000) % 0x400)

/-- A string with its marks. -/
def quoted (text : List Char) : List Char := quote :: text.flatMap writeChar ++ [quote]

theorem hexDigit_hexChar {n : ℕ} (h : n < 16) : hexDigit (hexChar n) = some n := by
  have hall : ∀ n < 16, hexDigit (hexChar n) = some n := by decide
  exact hall n h

/-- Read some characters of a string. -/
def StringPhase.scan (σ : StringPhase × List ℕ) (chars : List Char) :
    Option (StringPhase × List ℕ) :=
  chars.foldlM (fun σ c ↦ if σ.1 = .plain ∧ c = quote then none else σ.1.next σ.2 c) σ

namespace StringPhase

theorem scan_append (σ : StringPhase × List ℕ) (chars chars' : List Char) :
    scan σ (chars ++ chars') = (scan σ chars).bind fun σ' ↦ scan σ' chars' :=
  List.foldlM_append

theorem scan_cons (σ : StringPhase × List ℕ) {c : Char} (chars : List Char)
    (hc : ¬ (σ.1 = .plain ∧ c = quote)) :
    scan σ (c :: chars) = (σ.1.next σ.2 c).bind fun σ' ↦ scan σ' chars := by
  show Option.bind (if _ then _ else _) _ = _
  rw [if_neg hc]
  rfl

/-- A hexadecimal digit of a code unit. -/
theorem scan_hexChar (digits value n : ℕ) (text : List ℕ) (chars : List Char) :
    scan (.unit digits value, text) (hexChar (n % 16) :: chars) =
      scan (if digits = 3 then (.plain, addUnit text (16 * value + n % 16))
        else (.unit (digits + 1) (16 * value + n % 16), text)) chars := by
  rw [scan_cons _ _ (by rintro ⟨⟨⟩, -⟩)]
  show Option.bind (Option.map _ (hexDigit (hexChar (n % 16)))) _ = _
  rw [hexDigit_hexChar (Nat.mod_lt n (by decide))]
  rfl

/-- A code unit is read from its digits. -/
theorem scan_unitText {n : ℕ} (h : n < 0x10000) (text : List ℕ) :
    scan (.plain, text) (unitText n) = some (.plain, addUnit text n) := by
  have hvalue : 16 * (16 * (16 * (16 * 0 + n / 4096 % 16) + n / 256 % 16) + n / 16 % 16) + n % 16 =
      n := by omega
  have hbegin (chars : List Char) :
      scan (.plain, text) (backslash :: 'u' :: chars) = scan (.unit 0 0, text) chars := rfl
  rw [unitText, hbegin, scan_hexChar, if_neg (by decide), scan_hexChar, if_neg (by decide),
    scan_hexChar, if_neg (by decide), scan_hexChar, if_pos rfl, hvalue]
  rfl

/-- A text does not end in the first of two surrogates. -/
def IsClosed (text : List ℕ) : Prop := ∀ high ∈ text.getLast?, ¬ (0xD800 ≤ high ∧ high ≤ 0xDBFF)

theorem addUnit_of_isClosed {text : List ℕ} (h : IsClosed text) (low : ℕ) :
    addUnit text low = text ++ [low] := by
  unfold addUnit
  split
  · rename_i hnone
    rw [List.getLast?_eq_none_iff.mp hnone]
    rfl
  · rename_i high hlast
    rw [if_neg fun hpair ↦ h high hlast ⟨hpair.1, hpair.2.1⟩]

/-- The second of two surrogates completes the first. -/
theorem addUnit_pair {text : List ℕ} {high low : ℕ} (h : isPair high low) :
    addUnit (text ++ [high]) low =
      text ++ [0x10000 + (high - 0xD800) * 0x400 + (low - 0xDC00)] := by
  rw [addUnit, List.getLast?_concat]
  dsimp only
  rw [if_pos h, List.dropLast_concat]

theorem isClosed_nil : IsClosed [] := by
  rintro _ ⟨⟩

theorem isClosed_concat (text : List ℕ) (c : Char) : IsClosed (text ++ [c.toNat]) := by
  intro high hlast
  rw [List.getLast?_concat] at hlast
  obtain rfl := Option.some.inj hlast
  have hvalid : c.toNat < 0xD800 ∨ 0xDFFF < c.toNat ∧ c.toNat < 0x110000 := c.valid
  omega

/-- An escaped character is read as the character. -/
theorem scan_writeChar {text : List ℕ} (h : IsClosed text) (c : Char) :
    scan (.plain, text) (writeChar c) = some (.plain, text ++ [c.toNat]) := by
  have hchar (n : ℕ) (hn : c.toNat = n) : c = Char.ofNat n := by rw [← hn, Char.ofNat_toNat]
  have hvalid : c.toNat < 0xD800 ∨ 0xDFFF < c.toNat ∧ c.toNat < 0x110000 := c.valid
  unfold writeChar
  split_ifs with hself hb hf hn hr ht hplain hplane
  · rcases hself with rfl | rfl <;> rfl
  · rw [hchar _ hb]
    rfl
  · rw [hchar _ hf]
    rfl
  · rw [hchar _ hn]
    rfl
  · rw [hchar _ hr]
    rfl
  · rw [hchar _ ht]
    rfl
  · rw [scan_cons _ _ fun hquote ↦ hself (.inl hquote.2), next, if_neg fun hslash ↦ hself (.inr hslash),
      if_neg (by omega)]
    rfl
  · rw [scan_unitText hplane, addUnit_of_isClosed h]
  · obtain ⟨n, hn⟩ : ∃ n, c.toNat = n + 0x10000 := ⟨c.toNat - 0x10000, by omega⟩
    rw [hn, Nat.add_sub_cancel]
    have hpair : isPair (0xD800 + n / 0x400) (0xDC00 + n % 0x400) :=
      ⟨by omega, by omega, by omega, by omega⟩
    have hvalue : 0x10000 + (0xD800 + n / 0x400 - 0xD800) * 0x400 + (0xDC00 + n % 0x400 - 0xDC00) =
        n + 0x10000 := by omega
    rw [scan_append, scan_unitText (by omega), Option.bind_some, addUnit_of_isClosed h,
      scan_unitText (by omega), addUnit_pair hpair, hvalue]

/-- A string is read as its characters. -/
theorem scan_flatMap_writeChar {text : List ℕ} (h : IsClosed text) (chars : List Char) :
    scan (.plain, text) (chars.flatMap writeChar) = some (.plain, text ++ chars.map Char.toNat) := by
  induction chars generalizing text with
  | nil =>
      rw [List.map_nil, List.append_nil]
      rfl
  | cons c chars ih =>
      rw [List.flatMap_cons, scan_append, scan_writeChar h, Option.bind_some,
        ih (isClosed_concat text c), List.map_cons, List.append_assoc, List.singleton_append]

end StringPhase

/-! ## Integers -/

/-- An integer in decimal digits. -/
def intText (i : ℤ) : List Char := (if i < 0 then ['-'] else []) ++ Nat.toDigits 10 i.natAbs

theorem isDigit_toDigits (n : ℕ) : ∀ c ∈ Nat.toDigits 10 n, c.isDigit = true := fun _ hc ↦
  Nat.isDigit_of_mem_toDigits (by decide) (by decide) hc

theorem filter_intText (i : ℤ) : (intText i).filter Char.isDigit = Nat.toDigits 10 i.natAbs := by
  rw [intText, List.filter_append, List.filter_eq_self.mpr (isDigit_toDigits _)]
  split <;> rfl

/-- The digits of a positive number do not start with a zero. -/
theorem foldlM_toDigits {n : ℕ} (hn : 0 < n) {phase : NumberPhase}
    (hphase : ∀ c, c ≠ '-' → phase.next c = NumberPhase.afterSign c) :
    (Nat.toDigits 10 n).foldlM NumberPhase.next phase = some .integer := by
  have hdigit : ∀ d < 10, (Nat.digitChar d).isDigit = true ∧ Nat.digitChar d ≠ '-' ∧
      (0 < d → Nat.digitChar d ≠ '0') := by decide
  induction n using Nat.strongRecOn with
  | ind n ih =>
      rcases Nat.lt_or_ge n 10 with hlt | hle
      · obtain ⟨hisDigit, hminus, hzero⟩ := hdigit n hlt
        have hnext : phase.next (Nat.digitChar n) = some .integer := by
          rw [hphase _ hminus, NumberPhase.afterSign, if_neg (hzero hn), if_pos hisDigit]
        rw [Nat.toDigits_of_lt_base hlt]
        exact (Option.bind_fun_some _).trans hnext
      · have hrest := ih (n / 10) (by omega) (by omega)
        have hlast : NumberPhase.integer.next (Nat.digitChar (n % 10)) = some .integer :=
          if_pos (hdigit _ (Nat.mod_lt n (by decide))).1
        rw [Nat.toDigits_of_base_le (by decide) hle, List.foldlM_append, hrest]
        exact (Option.bind_fun_some _).trans hlast

/-- An integer is written as a number. -/
theorem numberKind_intText (i : ℤ) : numberKind (intText i) = some .int := by
  have hphase : ∃ phase, numberPhase (intText i) = some phase ∧ phase.kind? = some .int := by
    rcases Nat.eq_zero_or_pos i.natAbs with hzero | hpos
    · obtain rfl := Int.natAbs_eq_zero.mp hzero
      exact ⟨.zero, rfl, rfl⟩
    · rw [intText, numberPhase]
      split
      · exact ⟨.integer, foldlM_toDigits hpos fun _ _ ↦ rfl, rfl⟩
      · exact ⟨.integer, foldlM_toDigits hpos fun _ hc ↦ if_neg hc, rfl⟩
  obtain ⟨phase, hphase, hkind⟩ := hphase
  rw [numberKind, hphase]
  exact hkind

/-- And the number is the integer. -/
theorem intValue_intText (i : ℤ) : intValue (intText i) = i := by
  have hvalue : natValue (Nat.toDigits 10 i.natAbs) = i.natAbs := Nat.ofDigitChars_ten_toDigits
  rw [intValue, filter_intText, hvalue]
  by_cases hneg : i < 0
  · have hhead : (intText i).head? = some '-' := by rw [intText, if_pos hneg]; rfl
    rw [if_pos hhead]
    omega
  · have hhead : (intText i).head? ≠ some '-' := by
      rw [intText, if_neg hneg, List.nil_append]
      intro h
      exact absurd (isDigit_toDigits _ _ (List.mem_of_mem_head? h)) (by decide)
    rw [if_neg hhead]
    omega

/-! ## Documents -/

/-- A document as it is written. -/
inductive Tree
  | null
  | bool (b : Bool)
  | /-- A number by its text. -/ number (literal : List Char)
  | nan
  | infinity (negative : Bool)
  | string (text : List Char)
  | array (elements : List Tree)
  | object (members : List (List Char × Tree))

instance (text : List Char) : Decidable (IsBlank text) :=
  List.decidableBAll _ text

/-- Where there is whitespace. -/
structure Layout where
  afterComma : List Char
  afterColon : List Char
  /-- What a line starts with inside some arrays and objects. -/
  line : ℕ → List Char
  afterComma_blank : IsBlank afterComma
  afterColon_blank : IsBlank afterColon
  line_blank : ∀ depth, IsBlank (line depth)

/-- What stands between a comma and what follows it. -/
def Layout.between (l : Layout) (depth : ℕ) : List Char := l.afterComma ++ l.line depth

theorem Layout.between_blank (l : Layout) (depth : ℕ) : IsBlank (l.between depth) :=
  isBlank_append.mpr ⟨l.afterComma_blank, l.line_blank depth⟩

namespace Tree

mutual

/-- The text of a document inside some arrays and objects. -/
def write (l : Layout) : ℕ → Tree → List Char
  | _, null => "null".toList
  | _, bool b => (if b then "true" else "false").toList
  | _, number literal => literal
  | _, nan => "NaN".toList
  | _, infinity negative => (if negative then "-Infinity" else "Infinity").toList
  | _, string text => quoted text
  | _, array [] => "[]".toList
  | depth, array (x :: xs) =>
      '[' :: (l.line (depth + 1) ++ write l (depth + 1) x ++ writeElements l (depth + 1) xs ++
        l.line depth ++ [']'])
  | _, object [] => "\x7b\x7d".toList
  | depth, object ((name, x) :: members) =>
      '\x7b' :: (l.line (depth + 1) ++ quoted name ++ ':' :: l.afterColon ++ write l (depth + 1) x ++
        writeMembers l (depth + 1) members ++ l.line depth ++ ['\x7d'])

/-- The elements after the first. -/
def writeElements (l : Layout) : ℕ → List Tree → List Char
  | _, [] => []
  | depth, x :: xs => ',' :: (l.between depth ++ write l depth x ++ writeElements l depth xs)

/-- The members after the first. -/
def writeMembers (l : Layout) : ℕ → List (List Char × Tree) → List Char
  | _, [] => []
  | depth, (name, x) :: members =>
      ',' :: (l.between depth ++ quoted name ++ ':' :: l.afterColon ++ write l depth x ++
        writeMembers l depth members)

end

end Tree

namespace Decoder

variable {α : Type u}

mutual

/-- What a document stands for inside some arrays and objects, if the decoder accepts its
numbers and may go as deep. -/
def value (d : Decoder α) : ℕ → Tree → Option α
  | _, .null => some d.null
  | _, .bool b => some (d.bool b)
  | _, .number literal => (numberPhase literal).bind fun phase ↦ d.literal phase literal
  | _, .nan => some d.nan
  | _, .infinity negative => some (d.infinity negative)
  | _, .string text => some (d.string (text.map Char.toNat))
  | depth, .array elements =>
      if depth < d.maxDepth then (values d (depth + 1) elements).map d.array else none
  | depth, .object members =>
      if depth < d.maxDepth then (memberValues d (depth + 1) members).map d.object else none

/-- What the elements of an array stand for. -/
def values (d : Decoder α) : ℕ → List Tree → Option (List α)
  | _, [] => some []
  | depth, x :: xs =>
      (value d depth x).bind fun a ↦ (values d depth xs).map fun as ↦ a :: as

/-- What the members of an object stand for. -/
def memberValues (d : Decoder α) : ℕ → List (List Char × Tree) → Option (List (List ℕ × α))
  | _, [] => some []
  | depth, (name, x) :: members =>
      (value d depth x).bind fun a ↦
        (memberValues d depth members).map fun as ↦ (name.map Char.toNat, a) :: as

end

variable {d : Decoder α} {stack : List (Frame α)} {σ : State α} {x y : α} {c : Char}
  {text blank : List Char}

/-! ## Strings that are read -/

/-- A position within a string goes on as the string does. -/
theorem run_scan {mk : StringPhase → List ℕ → Position α}
    (hmk : ∀ phase text c, ¬ (phase = .plain ∧ c = quote) → d.step ⟨stack, mk phase text⟩ c =
      (phase.next text c).map fun x ↦ ⟨stack, mk x.1 x.2⟩)
    {ρ ρ' : StringPhase × List ℕ} (h : StringPhase.scan ρ text = some ρ') :
    d.run ⟨stack, mk ρ.1 ρ.2⟩ text = some ⟨stack, mk ρ'.1 ρ'.2⟩ := by
  induction text generalizing ρ with
  | nil =>
      obtain rfl := Option.some.inj h
      rfl
  | cons c text ih =>
      obtain ⟨ρ₁, hnext, hrest⟩ := Option.bind_eq_some_iff.mp h
      obtain ⟨hc, hnext⟩ := Option.ite_none_left_eq_some.mp hnext
      rw [run_cons, hmk _ _ _ hc, hnext]
      exact ih hrest

/-- The rest of a string. -/
theorem run_text (text : List Char) :
    d.run ⟨stack, .text .plain []⟩ (text.flatMap writeChar ++ [quote]) =
      some (.complete stack (d.string (text.map Char.toNat))) := by
  have hstep : ∀ phase text c, ¬ (phase = .plain ∧ c = quote) →
      d.step ⟨stack, .text phase text⟩ c =
        (phase.next text c).map fun x ↦ ⟨stack, .text x.1 x.2⟩ := fun _ _ _ hc ↦ if_neg hc
  have hscan := StringPhase.scan_flatMap_writeChar StringPhase.isClosed_nil text
  have hrun : d.run ⟨stack, .text .plain []⟩ (text.flatMap writeChar) =
      some ⟨stack, .text .plain ([] ++ text.map Char.toNat)⟩ := run_scan hstep hscan
  rw [run_append, hrun]
  rfl

/-- The rest of the name of a member. -/
theorem run_nameText (members : List (List ℕ × α)) (name : List Char) :
    d.run ⟨stack, .nameText members .plain []⟩ (name.flatMap writeChar ++ [quote]) =
      some ⟨stack, .colon members (name.map Char.toNat)⟩ := by
  have hstep : ∀ phase text c, ¬ (phase = .plain ∧ c = quote) →
      d.step ⟨stack, .nameText members phase text⟩ c =
        (phase.next text c).map fun x ↦ ⟨stack, .nameText members x.1 x.2⟩ :=
    fun _ _ _ hc ↦ if_neg hc
  have hscan := StringPhase.scan_flatMap_writeChar StringPhase.isClosed_nil name
  have hrun : d.run ⟨stack, .nameText members .plain []⟩ (name.flatMap writeChar) =
      some ⟨stack, .nameText members .plain ([] ++ name.map Char.toNat)⟩ := run_scan hstep hscan
  rw [run_append, hrun]
  rfl

/-! ## Values that end -/

/-- The states after a value: it is complete, or it is a number that may end here. -/
inductive Settles (d : Decoder α) (stack : List (Frame α)) (x : α) : State α → Prop
  | complete : Settles d stack x (.complete stack x)
  | number {phase : NumberPhase} {literal : List Char} (h : d.literal phase literal = some x) :
      Settles d stack x ⟨stack, .number phase literal⟩

/-- What may follow a value. -/
def IsDelimiter (c : Char) : Prop := isSpace c = true ∨ c = ',' ∨ c = ']' ∨ c = '\x7d'

/-- Nothing that may follow a value goes on with a number. -/
theorem IsDelimiter.next (h : IsDelimiter c) (phase : NumberPhase) : phase.next c = none := by
  rcases h with hspace | rfl | rfl | rfl
  · exact NumberPhase.next_space hspace phase
  all_goals cases phase <;> rfl

/-- It brings the two states together. -/
theorem Settles.step (h : Settles d stack x σ) (hc : IsDelimiter c) :
    d.step σ c = d.after (.complete stack x) c := by
  cases h with
  | complete =>
      cases stack with
      | nil => rfl
      | cons frame stack => cases frame <;> rfl
  | @number phase literal h =>
      have hminus : ¬ (phase = .minus ∧ c = 'I') := by
        rintro ⟨rfl, -⟩
        cases h
      simp only [Decoder.step, hc.next, if_neg hminus, h, Option.bind_some]

theorem Settles.run_blank (h : Settles d stack x σ) (hblank : IsBlank blank) :
    ∃ σ', d.run σ blank = some σ' ∧ Settles d stack x σ' := by
  induction blank generalizing σ with
  | nil => exact ⟨σ, rfl, h⟩
  | cons c blank ih =>
      obtain ⟨hspace, hblank⟩ := isBlank_cons.mp hblank
      have hafter : d.after (.complete stack x) c = some (.complete stack x) := if_pos hspace
      rw [run_cons, h.step (.inl hspace), hafter]
      exact ih .complete hblank

theorem Settles.finish (h : Settles d [] x σ) : d.finish σ = some x := by
  cases h with
  | complete => rfl
  | number h => exact h

/-- A text that is a value, whatever is open around it: how it begins, and that it ends. -/
def ReadsAs (d : Decoder α) (stack : List (Frame α)) (text : List Char) (x : α) : Prop :=
  ∃ c rest σ σ', text = c :: rest ∧ isSpace c = false ∧ c ≠ ']' ∧
    d.begin stack c = some σ ∧ d.run σ rest = some σ' ∧ Settles d stack x σ'

theorem ReadsAs.run_value (h : ReadsAs d stack text x) (hblank : IsBlank blank) :
    ∃ σ, d.run ⟨stack, .value⟩ (blank ++ text) = some σ ∧ Settles d stack x σ := by
  obtain ⟨c, rest, σ, σ', rfl, hspace, -, hbegin, hrun, hsettles⟩ := h
  have hstep : d.step ⟨stack, .value⟩ c = d.begin stack c := if_neg (by rw [hspace]; nofun)
  refine ⟨σ', ?_, hsettles⟩
  rw [run_append, run_value_blank stack hblank, Option.bind_some, run_cons, hstep, hbegin]
  exact hrun

/-- Whitespace where it changes nothing. -/
theorem run_blank_of_step (hstep : ∀ c, isSpace c = true → d.step σ c = some σ)
    (h : IsBlank blank) : d.run σ blank = some σ := by
  induction blank with
  | nil => rfl
  | cons c blank ih =>
      obtain ⟨hspace, hblank⟩ := isBlank_cons.mp h
      rw [run_cons, hstep c hspace]
      exact ih hblank

/-- The first element of an array. -/
theorem ReadsAs.run_firstElement (h : ReadsAs d (.element [] :: stack) text x)
    (hblank : IsBlank blank) :
    ∃ σ, d.run ⟨stack, .firstElement⟩ (blank ++ text) = some σ ∧
      Settles d (.element [] :: stack) x σ := by
  obtain ⟨c, rest, σ, σ', rfl, hspace, hbracket, hbegin, hrun, hsettles⟩ := h
  have hstep : d.step ⟨stack, .firstElement⟩ c = d.begin (.element [] :: stack) c := by
    show (if isSpace c then _ else if c = ']' then _ else _) = _
    rw [if_neg (by rw [hspace]; nofun), if_neg hbracket]
  have hblanks : d.run ⟨stack, .firstElement⟩ blank = some ⟨stack, .firstElement⟩ :=
    run_blank_of_step (fun _ hspace ↦ if_pos hspace) hblank
  refine ⟨σ', ?_, hsettles⟩
  rw [run_append, hblanks, Option.bind_some, run_cons, hstep, hbegin]
  exact hrun

/-- A word that stands for a value. -/
theorem readsAs_word {c : Char} {rest : List Char} (hnumber : NumberPhase.start.next c = none)
    (hspace : isSpace c = false) (hc : c ≠ quote ∧ c ≠ '[' ∧ c ≠ ']' ∧ c ≠ '\x7b')
    (hword : d.word c = some (rest, x)) (hrest : rest ≠ []) : ReadsAs d stack (c :: rest) x := by
  obtain ⟨hquote, hopen, hclose, hbrace⟩ := hc
  have hrun : d.run ⟨stack, .word rest x⟩ rest = some (.complete stack x) := by
    clear hword
    induction rest with
    | nil => exact absurd rfl hrest
    | cons c rest ih =>
        cases rest with
        | nil =>
            show Option.bind (if c = c then _ else _) _ = _
            rw [if_pos rfl]
            rfl
        | cons c' rest =>
            show Option.bind (if c = c then _ else _) _ = _
            rw [if_pos rfl]
            exact ih (List.cons_ne_nil _ _)
  refine ⟨c, rest, ⟨stack, .word rest x⟩, _, rfl, hspace, hclose, ?_, hrun, .complete⟩
  rw [begin, hnumber]
  dsimp only
  rw [if_neg hquote, if_neg hopen, if_neg hbrace, hword]
  rfl

/-- A number. -/
theorem readsAs_number {literal : List Char} {phase : NumberPhase}
    (hphase : numberPhase literal = some phase) (h : d.literal phase literal = some x) :
    ReadsAs d stack literal x := by
  cases literal with
  | nil =>
      obtain rfl := Option.some.inj hphase
      cases h
  | cons c literal =>
      obtain ⟨phase₁, hnext, hrest⟩ := Option.bind_eq_some_iff.mp hphase
      have hdelimiter (hc : IsDelimiter c) : False := by
        rw [hc.next] at hnext
        cases hnext
      have hrun : d.run ⟨stack, .number phase₁ [c]⟩ literal = some ⟨stack, .number phase (c :: literal)⟩ :=
        run_number hrest
      refine ⟨c, literal, ⟨stack, .number phase₁ [c]⟩, _, rfl, ?_, ?_, ?_, hrun, .number h⟩
      · exact Bool.eq_false_iff.mpr fun hspace ↦ hdelimiter (.inl hspace)
      · rintro rfl
        exact hdelimiter (.inr (.inr (.inl rfl)))
      · rw [begin, hnext]

theorem readsAs_quoted (stack : List (Frame α)) (text : List Char) :
    ReadsAs d stack (quoted text) (d.string (text.map Char.toNat)) :=
  ⟨quote, _, ⟨stack, .text .plain []⟩, _, rfl, by decide, by decide, rfl, run_text text, .complete⟩

/-- The negative infinity begins like a number. -/
theorem readsAs_infinity (stack : List (Frame α)) (negative : Bool) :
    ReadsAs d stack (if negative then "-Infinity" else "Infinity").toList (d.infinity negative) := by
  cases negative with
  | false => exact readsAs_word (by decide) (by decide) (by decide) rfl (by decide)
  | true =>
      exact ⟨'-', "Infinity".toList, ⟨stack, .number .minus ['-']⟩, .complete stack _, rfl,
        by decide, by decide, rfl, rfl, .complete⟩

/-! ## Elements and members -/

/-- An array that has an element is closed. -/
theorem Settles.close_array {elements : List α} (h : Settles d (.element elements :: stack) x σ)
    (hblank : IsBlank blank) :
    d.run σ (blank ++ [']']) = some (.complete stack (d.array (elements ++ [x]))) := by
  obtain ⟨σ', hrun, hsettles⟩ := h.run_blank hblank
  rw [run_append, hrun, Option.bind_some, run_cons, hsettles.step (.inr (.inr (.inl rfl)))]
  rfl

/-- An object that has a member is closed. -/
theorem Settles.close_object {members : List (List ℕ × α)} {name : List ℕ}
    (h : Settles d (.member members name :: stack) x σ) (hblank : IsBlank blank) :
    d.run σ (blank ++ ['\x7d']) = some (.complete stack (d.object (members ++ [(name, x)]))) := by
  obtain ⟨σ', hrun, hsettles⟩ := h.run_blank hblank
  rw [run_append, hrun, Option.bind_some, run_cons, hsettles.step (.inr (.inr (.inr rfl)))]
  rfl

/-- A further element. -/
theorem Settles.run_element {elements : List α} (h : Settles d (.element elements :: stack) x σ)
    (hblank : IsBlank blank)
    (hreads : ReadsAs d (.element (elements ++ [x]) :: stack) text y) :
    ∃ σ', d.run σ (',' :: (blank ++ text)) = some σ' ∧
      Settles d (.element (elements ++ [x]) :: stack) y σ' := by
  obtain ⟨σ', hrun, hsettles⟩ := hreads.run_value hblank
  refine ⟨σ', ?_, hsettles⟩
  rw [run_cons, h.step (.inr (.inl rfl))]
  exact hrun

/-- A member, where its name may stand. -/
theorem run_member {position : Position α} {members : List (List ℕ × α)} {name colonBlank : List Char}
    (hspace : ∀ c, isSpace c = true → d.step ⟨stack, position⟩ c = some ⟨stack, position⟩)
    (hquote : d.step ⟨stack, position⟩ quote = some ⟨stack, .nameText members .plain []⟩)
    (hblank : IsBlank blank) (hcolon : IsBlank colonBlank)
    (hreads : ReadsAs d (.member members (name.map Char.toNat) :: stack) text x) :
    ∃ σ, d.run ⟨stack, position⟩ (blank ++ quoted name ++ ':' :: colonBlank ++ text) = some σ ∧
      Settles d (.member members (name.map Char.toNat) :: stack) x σ := by
  obtain ⟨σ, hrun, hsettles⟩ := hreads.run_value hcolon
  refine ⟨σ, ?_, hsettles⟩
  rw [List.append_assoc, List.append_assoc, run_append, run_blank_of_step hspace hblank,
    Option.bind_some, quoted, List.cons_append, List.cons_append, run_cons, hquote, Option.bind_some,
    run_append, run_nameText]
  exact hrun

/-- A further member. -/
theorem Settles.run_member {members : List (List ℕ × α)} {name : List ℕ}
    {name' colonBlank : List Char} (h : Settles d (.member members name :: stack) x σ)
    (hblank : IsBlank blank) (hcolon : IsBlank colonBlank)
    (hreads : ReadsAs d (.member (members ++ [(name, x)]) (name'.map Char.toNat) :: stack) text y) :
    ∃ σ', d.run σ (',' :: (blank ++ quoted name' ++ ':' :: colonBlank ++ text)) = some σ' ∧
      Settles d (.member (members ++ [(name, x)]) (name'.map Char.toNat) :: stack) y σ' := by
  rw [run_cons, h.step (.inr (.inl rfl))]
  exact Decoder.run_member (fun _ hspace ↦ if_pos hspace) rfl hblank hcolon hreads

/-! ## Documents that are read -/

mutual

/-- A document that has been written is read as what it stands for. -/
theorem readsAs_write (l : Layout) (depth : ℕ) :
    ∀ (t : Tree) (stack : List (Frame α)) (x : α), d.value stack.length t = some x →
      ReadsAs d stack (t.write l depth) x
  | .null, stack, x, h => by
      obtain rfl := Option.some.inj h
      exact readsAs_word (by decide) (by decide) (by decide) rfl (by decide)
  | .bool b, stack, x, h => by
      obtain rfl := Option.some.inj h
      cases b with
      | false => exact readsAs_word (by decide) (by decide) (by decide) rfl (by decide)
      | true => exact readsAs_word (by decide) (by decide) (by decide) rfl (by decide)
  | .number literal, stack, x, h => by
      obtain ⟨phase, hphase, hx⟩ := Option.bind_eq_some_iff.mp h
      exact readsAs_number hphase hx
  | .nan, stack, x, h => by
      obtain rfl := Option.some.inj h
      exact readsAs_word (by decide) (by decide) (by decide) rfl (by decide)
  | .infinity negative, stack, x, h => by
      obtain rfl := Option.some.inj h
      exact readsAs_infinity stack negative
  | .string text, stack, x, h => by
      obtain rfl := Option.some.inj h
      exact readsAs_quoted stack text
  | .array [], stack, x, h => by
      obtain ⟨hdepth, h⟩ := Option.ite_none_right_eq_some.mp h
      obtain rfl := Option.some.inj h
      exact ⟨'[', [']'], ⟨stack, .firstElement⟩, _, rfl, by decide, by decide, if_pos hdepth, rfl,
        .complete⟩
  | .array (t :: ts), stack, x, h => by
      obtain ⟨hdepth, h⟩ := Option.ite_none_right_eq_some.mp h
      obtain ⟨_, hvalues, rfl⟩ := Option.map_eq_some_iff.mp h
      obtain ⟨y, hy, h⟩ := Option.bind_eq_some_iff.mp hvalues
      obtain ⟨ys, hys, rfl⟩ := Option.map_eq_some_iff.mp h
      have hreads := readsAs_write l (depth + 1) t (.element [] :: stack) y hy
      obtain ⟨σ, hrun, hsettles⟩ := hreads.run_firstElement (l.line_blank (depth + 1))
      have hrest := run_writeElements l (depth + 1) (l.line_blank depth) ts stack [] y ys σ hsettles hys
      refine ⟨'[', _, ⟨stack, .firstElement⟩, .complete stack _, rfl, by decide, by decide,
        if_pos hdepth, ?_, .complete⟩
      rw [List.append_assoc, List.append_assoc, run_append, hrun, Option.bind_some,
        ← List.append_assoc, hrest]
      rfl
  | .object [], stack, x, h => by
      obtain ⟨hdepth, h⟩ := Option.ite_none_right_eq_some.mp h
      obtain rfl := Option.some.inj h
      exact ⟨'\x7b', ['\x7d'], ⟨stack, .firstMember⟩, _, rfl, by decide, by decide, if_pos hdepth, rfl,
        .complete⟩
  | .object ((name, t) :: members), stack, x, h => by
      obtain ⟨hdepth, h⟩ := Option.ite_none_right_eq_some.mp h
      obtain ⟨_, hvalues, rfl⟩ := Option.map_eq_some_iff.mp h
      obtain ⟨y, hy, h⟩ := Option.bind_eq_some_iff.mp hvalues
      obtain ⟨ys, hys, rfl⟩ := Option.map_eq_some_iff.mp h
      have hreads := readsAs_write l (depth + 1) t (.member [] (name.map Char.toNat) :: stack) y hy
      have hspace : ∀ c, isSpace c = true →
          d.step ⟨stack, .firstMember⟩ c = some ⟨stack, .firstMember⟩ := fun _ hspace ↦ if_pos hspace
      obtain ⟨σ, hrun, hsettles⟩ :=
        run_member hspace rfl (l.line_blank (depth + 1)) l.afterColon_blank hreads
      have hrest := run_writeMembers l (depth + 1) (l.line_blank depth) members stack []
        (name.map Char.toNat) y ys σ hsettles hys
      refine ⟨'\x7b', _, ⟨stack, .firstMember⟩, .complete stack _, rfl, by decide, by decide,
        if_pos hdepth, ?_, .complete⟩
      rw [List.append_assoc, List.append_assoc, run_append, hrun, Option.bind_some,
        ← List.append_assoc, hrest]
      rfl

/-- The elements after the first, and the bracket. -/
theorem run_writeElements (l : Layout) (depth : ℕ) {closing : List Char} (hclosing : IsBlank closing) :
    ∀ (ts : List Tree) (stack : List (Frame α)) (elements : List α) (x : α) (xs : List α)
      (σ : State α), Settles d (.element elements :: stack) x σ →
      d.values (stack.length + 1) ts = some xs →
      d.run σ (Tree.writeElements l depth ts ++ closing ++ [']']) =
        some (.complete stack (d.array (elements ++ x :: xs)))
  | [], stack, elements, x, xs, σ, hsettles, h => by
      obtain rfl := Option.some.inj h
      exact hsettles.close_array hclosing
  | t :: ts, stack, elements, x, xs, σ, hsettles, h => by
      obtain ⟨y, hy, h⟩ := Option.bind_eq_some_iff.mp h
      obtain ⟨ys, hys, rfl⟩ := Option.map_eq_some_iff.mp h
      have hreads := readsAs_write l depth t (.element (elements ++ [x]) :: stack) y hy
      obtain ⟨σ', hrun, hsettles'⟩ := hsettles.run_element (l.between_blank depth) hreads
      have hrest := run_writeElements l depth hclosing ts stack (elements ++ [x]) y ys σ' hsettles' hys
      rw [Tree.writeElements, ← List.cons_append, List.append_assoc, List.append_assoc, run_append, hrun,
        Option.bind_some, ← List.append_assoc, hrest, List.append_assoc, List.singleton_append]

/-- The members after the first, and the brace. -/
theorem run_writeMembers (l : Layout) (depth : ℕ) {closing : List Char} (hclosing : IsBlank closing) :
    ∀ (ts : List (List Char × Tree)) (stack : List (Frame α)) (members : List (List ℕ × α))
      (name : List ℕ) (x : α) (xs : List (List ℕ × α)) (σ : State α),
      Settles d (.member members name :: stack) x σ →
      d.memberValues (stack.length + 1) ts = some xs →
      d.run σ (Tree.writeMembers l depth ts ++ closing ++ ['\x7d']) =
        some (.complete stack (d.object (members ++ (name, x) :: xs)))
  | [], stack, members, name, x, xs, σ, hsettles, h => by
      obtain rfl := Option.some.inj h
      exact hsettles.close_object hclosing
  | (name', t) :: ts, stack, members, name, x, xs, σ, hsettles, h => by
      obtain ⟨y, hy, h⟩ := Option.bind_eq_some_iff.mp h
      obtain ⟨ys, hys, rfl⟩ := Option.map_eq_some_iff.mp h
      have hreads := readsAs_write l depth t
        (.member (members ++ [(name, x)]) (name'.map Char.toNat) :: stack) y hy
      obtain ⟨σ', hrun, hsettles'⟩ :=
        hsettles.run_member (l.between_blank depth) l.afterColon_blank hreads
      have hrest := run_writeMembers l depth hclosing ts stack (members ++ [(name, x)])
        (name'.map Char.toNat) y ys σ' hsettles' hys
      rw [Tree.writeMembers, ← List.cons_append, List.append_assoc, List.append_assoc, run_append, hrun,
        Option.bind_some, ← List.append_assoc, hrest, List.append_assoc, List.singleton_append]

end

/-- The text of a document is read as what the document stands for. -/
theorem read_write (l : Layout) {t : Tree} (h : d.value 0 t = some x) :
    d.read (t.write l 0) = some x := by
  have hblank : IsBlank [] := List.forall_mem_nil _
  obtain ⟨σ, hrun, hsettles⟩ := (readsAs_write l 0 t [] x h).run_value hblank
  rw [List.nil_append] at hrun
  rw [read, State.init, hrun]
  exact hsettles.finish

end Decoder

/-! ## What the text is made of -/

/-- A text of ASCII characters that are not control characters. -/
def IsPrintable (text : List Char) : Prop := ∀ c ∈ text, 0x20 ≤ c.toNat ∧ c.toNat ≤ 0x7E

instance (text : List Char) : Decidable (IsPrintable text) :=
  List.decidableBAll _ text

@[simp] theorem isPrintable_nil : IsPrintable [] := List.forall_mem_nil _

@[simp] theorem isPrintable_cons {c : Char} {text : List Char} :
    IsPrintable (c :: text) ↔ (0x20 ≤ c.toNat ∧ c.toNat ≤ 0x7E) ∧ IsPrintable text :=
  List.forall_mem_cons

@[simp] theorem isPrintable_append {text text' : List Char} :
    IsPrintable (text ++ text') ↔ IsPrintable text ∧ IsPrintable text' :=
  List.forall_mem_append

theorem isPrintable_unitText (n : ℕ) : IsPrintable (unitText n) := by
  have hdigit (n : ℕ) : 0x20 ≤ (hexChar (n % 16)).toNat ∧ (hexChar (n % 16)).toNat ≤ 0x7E := by
    have hall : ∀ n < 16, 0x20 ≤ (hexChar n).toNat ∧ (hexChar n).toNat ≤ 0x7E := by decide
    exact hall _ (Nat.mod_lt n (by decide))
  simp [unitText, hdigit, backslash]

theorem isPrintable_writeChar (c : Char) : IsPrintable (writeChar c) := by
  unfold writeChar
  split_ifs with hself hb hf hn hr ht hplain hplane
  · rcases hself with rfl | rfl <;> decide
  · decide
  · decide
  · decide
  · decide
  · decide
  · exact isPrintable_cons.mpr ⟨hplain, isPrintable_nil⟩
  · exact isPrintable_unitText _
  · exact isPrintable_append.mpr ⟨isPrintable_unitText _, isPrintable_unitText _⟩

theorem isPrintable_quoted (text : List Char) : IsPrintable (quoted text) := by
  have htext : IsPrintable (text.flatMap writeChar) := by
    intro c hc
    obtain ⟨c', -, hc⟩ := List.mem_flatMap.mp hc
    exact isPrintable_writeChar c' c hc
  simp [quoted, quote, htext]

/-- A number has no other characters. -/
theorem isPrintable_of_numberPhase {literal : List Char} {phase : NumberPhase}
    (h : numberPhase literal = some phase) : IsPrintable literal := by
  have hnext {phase phase' : NumberPhase} {c : Char} (h : phase.next c = some phase') :
      0x20 ≤ c.toNat ∧ c.toNat ≤ 0x7E := by
    have hc : c.isDigit = true ∨ c = '-' ∨ c = '+' ∨ c = '.' ∨ c = 'e' ∨ c = 'E' ∨ c = '0' := by
      cases phase <;> grind [NumberPhase.next, NumberPhase.afterSign, NumberPhase.afterInteger]
    rcases hc with hdigit | rfl | rfl | rfl | rfl | rfl | rfl
    · obtain ⟨hlow, hhigh⟩ := Char.isDigit_iff_toNat.mp hdigit
      have hlow : 48 ≤ c.toNat := hlow
      have hhigh : c.toNat ≤ 57 := hhigh
      omega
    all_goals decide
  induction literal using List.reverseRecOn generalizing phase with
  | nil => exact isPrintable_nil
  | append_singleton literal c ih =>
      rw [numberPhase_concat] at h
      obtain ⟨phase', hphase', hc⟩ := Option.bind_eq_some_iff.mp h
      exact isPrintable_append.mpr ⟨ih hphase', isPrintable_cons.mpr ⟨hnext hc, isPrintable_nil⟩⟩

theorem isPrintable_intText (i : ℤ) : IsPrintable (intText i) := by
  obtain ⟨phase, hphase, -⟩ := Option.bind_eq_some_iff.mp (numberKind_intText i)
  exact isPrintable_of_numberPhase hphase

/-- A layout without line breaks. -/
def Layout.IsFlat (l : Layout) : Prop :=
  IsPrintable l.afterComma ∧ IsPrintable l.afterColon ∧ ∀ depth, l.line depth = []

namespace Tree

mutual

/-- The texts of the numbers of a document. -/
def numbers : Tree → List (List Char)
  | number literal => [literal]
  | array elements => numbersElements elements
  | object members => numbersMembers members
  | _ => []

def numbersElements : List Tree → List (List Char)
  | [] => []
  | x :: xs => numbers x ++ numbersElements xs

def numbersMembers : List (List Char × Tree) → List (List Char)
  | [] => []
  | (_, x) :: members => numbers x ++ numbersMembers members

end

variable {l : Layout}

mutual

/-- A document is written on one line, in printable characters. -/
theorem isPrintable_write (hl : l.IsFlat) (depth : ℕ) :
    ∀ t : Tree, (∀ literal ∈ t.numbers, IsPrintable literal) → IsPrintable (t.write l depth)
  | .null, _ => by
      rw [write]
      decide
  | .bool b, _ => by
      rw [write]
      cases b <;> decide
  | .number literal, h => h literal (List.mem_singleton_self _)
  | .nan, _ => by
      rw [write]
      decide
  | .infinity negative, _ => by
      rw [write]
      cases negative <;> decide
  | .string text, _ => isPrintable_quoted text
  | .array [], _ => by
      rw [write]
      decide
  | .array (t :: ts), h => by
      obtain ⟨ht, hts⟩ := List.forall_mem_append.mp h
      simp [write, hl.2.2, isPrintable_write hl (depth + 1) t ht,
        isPrintable_writeElements hl (depth + 1) ts hts]
  | .object [], _ => by
      rw [write]
      decide
  | .object ((name, t) :: members), h => by
      obtain ⟨ht, hmembers⟩ := List.forall_mem_append.mp h
      simp [write, hl.2.1, hl.2.2, isPrintable_quoted, isPrintable_write hl (depth + 1) t ht,
        isPrintable_writeMembers hl (depth + 1) members hmembers]

theorem isPrintable_writeElements (hl : l.IsFlat) (depth : ℕ) :
    ∀ ts : List Tree, (∀ literal ∈ numbersElements ts, IsPrintable literal) →
      IsPrintable (writeElements l depth ts)
  | [], _ => isPrintable_nil
  | t :: ts, h => by
      obtain ⟨ht, hts⟩ := List.forall_mem_append.mp h
      simp [writeElements, Layout.between, hl.1, hl.2.2, isPrintable_write hl depth t ht,
        isPrintable_writeElements hl depth ts hts]

theorem isPrintable_writeMembers (hl : l.IsFlat) (depth : ℕ) :
    ∀ ts : List (List Char × Tree), (∀ literal ∈ numbersMembers ts, IsPrintable literal) →
      IsPrintable (writeMembers l depth ts)
  | [], _ => isPrintable_nil
  | (name, t) :: members, h => by
      obtain ⟨ht, hmembers⟩ := List.forall_mem_append.mp h
      simp [writeMembers, Layout.between, hl.1, hl.2.1, hl.2.2, isPrintable_quoted,
        isPrintable_write hl depth t ht, isPrintable_writeMembers hl depth members hmembers]

end

end Tree

end Lib.Json
