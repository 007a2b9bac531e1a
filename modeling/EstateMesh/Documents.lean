import EstateMesh.Lib.Fallible
import EstateMesh.Lib.Json.Writer
import EstateMesh.Mesh.Capture

/-!
# Documents as texts

What is sent to a process, over a stream or from one tool to the next is the text of a
document.  The text is written by one process and read by another one, both with the `json`
module, and this file says which documents survive that (`loads_dumps`): those that JSON has
a form for.  The names of their members are strings, and none of their numbers is out of
reach of the interpreter.
-/

namespace EstateMesh

open Lib

/-- The `json` module: what it leaves to the interpreter for writing as well. -/
structure JsonModule extends JsonInterpreter where
  /-- `float.__repr__(x)` on a finite number. -/
  floatText : ℚ → List Char
  floatText_float : ∀ q, Json.numberKind (floatText q) = some .float
  /-- A string is what its characters make. -/
  string_toList : ∀ s : String, string (s.toList.map Char.toNat) = s

/-- A module that knows whole numbers only. -/
instance : Inhabited JsonModule where
  default :=
    { float := fun _ ↦ .nan
      string := fun codePoints ↦ String.ofList (codePoints.map Char.ofNat)
      maxDigits := 4300
      maxDepth := 1000
      floatText := fun _ ↦ "0.0".toList
      floatText_float := fun _ ↦ rfl
      string_toList := fun s ↦ by
        have hchars : (s.toList.map Char.toNat).map Char.ofNat = s.toList := by
          rw [List.map_map]
          exact (List.map_congr_left fun c _ ↦ Char.ofNat_toNat c).trans (List.map_id _)
        rw [hchars, String.ofList_toList] }

namespace JsonModule

variable (m : JsonModule)

/-! ## Writing -/

/-- `int.__repr__(i)`, which refuses a number with too many digits. -/
def intText (i : ℤ) : Except PyError (List Char) :=
  if m.writesInt i then .ok (Json.intText i) else .error .valueError

/-- A number as it is written. -/
def floatTree : PyFloat → Json.Tree
  | .fin q => .number (m.floatText q)
  | .inf negative => .infinity negative
  | .nan => .nan

/-- The name that a key of a mapping is written as. -/
def keyText : Value → Except PyError (List Char)
  | .str s => .ok s.toList
  | .none => .ok "null".toList
  | .bool b => .ok (if b then "true" else "false").toList
  | .int i => m.intText i
  | .float (.fin q) => .ok (m.floatText q)
  | .float (.inf negative) => .ok (if negative then "-Infinity" else "Infinity").toList
  | .float .nan => .ok "NaN".toList
  | _ => .error .typeError

mutual

/-- The document that a value is written as. -/
def tree (m : JsonModule) : Value → Except PyError Json.Tree
  | .none => .ok .null
  | .bool b => .ok (.bool b)
  | .int i => return .number (← m.intText i)
  | .float x => .ok (m.floatTree x)
  | .str s => .ok (.string s.toList)
  | .list xs => return .array (← treeItems m xs)
  | .pair x y => do
      let x ← tree m x
      return .array [x, ← tree m y]
  | .dict entries => return .object (← treeEntries m entries)
  | .bytes _ | .set _ | .other _ => .error .typeError
  | .again => .error .valueError

/-- The elements of a list. -/
def treeItems (m : JsonModule) : List Value → Except PyError (List Json.Tree)
  | [] => .ok []
  | x :: xs => do
      let x ← tree m x
      return x :: (← treeItems m xs)

/-- The entries of a mapping. -/
def treeEntries (m : JsonModule) : List (Value × Value) → Except PyError (List (List Char × Json.Tree))
  | [] => .ok []
  | (key, x) :: entries => do
      let name ← m.keyText key
      let x ← tree m x
      return (name, x) :: (← treeEntries m entries)

end

/-- `json.dumps(x)` in a layout. -/
def dumps (layout : Json.Layout) (x : Value) : Except PyError (List Char) :=
  return (← m.tree x).write layout 0

/-- `json.loads(s)` on a string, `none` when it raises. -/
def loads (text : List Char) : Option Value := m.decoder.read text

/-! ## Layouts -/

/-- `json.dumps(x)`. -/
def spaced : Json.Layout where
  afterComma := [' ']
  afterColon := [' ']
  line _ := []
  afterComma_blank := by decide
  afterColon_blank := by decide
  line_blank _ := List.forall_mem_nil _

/-- `json.dumps(x, separators=(",", ":"))`. -/
def compact : Json.Layout where
  afterComma := []
  afterColon := []
  line _ := []
  afterComma_blank := List.forall_mem_nil _
  afterColon_blank := List.forall_mem_nil _
  line_blank _ := List.forall_mem_nil _

/-- `json.dumps(x, indent=2)`. -/
def indented : Json.Layout where
  afterComma := []
  afterColon := [' ']
  line depth := '\n' :: List.replicate (2 * depth) ' '
  afterComma_blank := List.forall_mem_nil _
  afterColon_blank := by decide
  line_blank depth := by
    rw [Json.isBlank_cons]
    exact ⟨rfl, fun c hc ↦ by rw [List.eq_of_mem_replicate hc]; rfl⟩

/-- A number that the interpreter can write, and that it reads as itself. -/
def IsNumber : Value → Prop
  | .int i => m.writesInt i = true
  | .float (.fin q) => m.float (m.floatText q) = .fin q
  | _ => True

mutual

/-- A value that JSON has a form for, inside some lists and mappings. -/
def IsDocument (m : JsonModule) : ℕ → Value → Prop
  | depth, .list xs => depth < m.maxDepth ∧ AreDocuments m (depth + 1) xs
  | depth, .dict entries =>
      depth < m.maxDepth ∧ (entries.map Prod.fst).Nodup ∧ AreMembers m (depth + 1) entries
  | _, .bytes _ | _, .pair _ _ | _, .set _ | _, .other _ | _, .again => False
  | _, x => m.IsNumber x

/-- The elements of a list. -/
def AreDocuments (m : JsonModule) : ℕ → List Value → Prop
  | _, [] => True
  | depth, x :: xs => IsDocument m depth x ∧ AreDocuments m depth xs

/-- The entries of a mapping, whose keys are strings. -/
def AreMembers (m : JsonModule) : ℕ → List (Value × Value) → Prop
  | _, [] => True
  | depth, (key, x) :: entries =>
      (∃ s, key = .str s) ∧ IsDocument m depth x ∧ AreMembers m depth entries

end

/-! ## Reading what was written -/

variable {m : JsonModule}

/-- The number of an integer is read as it. -/
theorem value_int {i : ℤ} (h : m.writesInt i = true) (depth : ℕ) :
    m.decoder.value depth (.number (Json.intText i)) = some (.int i) := by
  have hnumber : m.decoder.ReadsNumber (Json.intText i) (.int i) := by
    refine ⟨.int, Json.numberKind_intText i, ?_⟩
    show (if _ then some (Value.int (Json.intValue (Json.intText i))) else none) = _
    rw [Json.filter_intText, if_pos (of_decide_eq_true h), Json.intValue_intText]
  obtain ⟨phase, hphase, hvalue⟩ := Json.Decoder.readsNumber_iff.mp hnumber
  exact Option.bind_eq_some_iff.mpr ⟨phase, hphase, hvalue⟩

/-- A floating point number is read as it. -/
theorem value_float {x : PyFloat} (h : m.IsNumber (.float x)) (depth : ℕ) :
    m.decoder.value depth (m.floatTree x) = some (.float x) := by
  cases x with
  | fin q =>
      have hnumber : m.decoder.ReadsNumber (m.floatText q) (.float (.fin q)) :=
        ⟨.float, m.floatText_float q, congrArg (fun x ↦ some (Value.float x)) h⟩
      obtain ⟨phase, hphase, hvalue⟩ := Json.Decoder.readsNumber_iff.mp hnumber
      exact Option.bind_eq_some_iff.mpr ⟨phase, hphase, hvalue⟩
  | inf negative => rfl
  | nan => rfl

/-- The code points of a key. -/
def keyPoints : Value → List ℕ
  | .str s => s.toList.map Char.toNat
  | _ => []

theorem keyPoints_inj {s s' : String} (h : keyPoints (.str s) = keyPoints (.str s')) : s = s' := by
  have hinjective : Function.Injective Char.toNat := fun c c' hc ↦ by
    rw [← Char.ofNat_toNat c, hc, Char.ofNat_toNat]
  exact String.toList_inj.mp (List.map_injective_iff.mpr hinjective h)

theorem AreMembers.exists_str {depth : ℕ} {entries : List (Value × Value)}
    (h : m.AreMembers depth entries) : ∀ e ∈ entries, ∃ s, e.1 = .str s := by
  induction entries with
  | nil => nofun
  | cons e entries ih =>
      obtain ⟨hkey, -, hrest⟩ := h
      exact List.forall_mem_cons.mpr ⟨hkey, ih hrest⟩

/-- The members of an object are the entries of the mapping. -/
theorem object_of_members {depth : ℕ} {entries : List (Value × Value)}
    (h : m.AreMembers depth entries) (hnodup : (entries.map Prod.fst).Nodup) :
    m.decoder.object (entries.map fun e ↦ (keyPoints e.1, e.2)) = .dict entries := by
  have hstr := h.exists_str
  have hnames : ((entries.map fun e ↦ (keyPoints e.1, e.2)).map Prod.fst).Nodup := by
    have hmap : (entries.map fun e ↦ (keyPoints e.1, e.2)).map Prod.fst =
        (entries.map Prod.fst).map keyPoints := by
      rw [List.map_map, List.map_map]
      rfl
    rw [hmap]
    refine hnodup.map_on ?_
    intro key hkey key' hkey' heq
    obtain ⟨e, he, rfl⟩ := List.mem_map.mp hkey
    obtain ⟨e', he', rfl⟩ := List.mem_map.mp hkey'
    obtain ⟨s, hs⟩ := hstr e he
    obtain ⟨s', hs'⟩ := hstr e' he'
    rw [hs, hs'] at heq ⊢
    rw [keyPoints_inj heq]
  show Value.dict ((List.foldl _ [] _).map _) = _
  rw [Dict.foldl_setEntry hnames, List.map_map]
  refine congrArg Value.dict ((List.map_congr_left fun e he ↦ ?_).trans (List.map_id _))
  obtain ⟨s, hs⟩ := hstr e he
  show (Value.str (m.string (keyPoints e.1)), e.2) = e
  rw [hs, keyPoints, m.string_toList, ← hs]

mutual

/-- A document is written, and the text stands for it. -/
theorem value_tree (m : JsonModule) : ∀ (depth : ℕ) (v : Value), m.IsDocument depth v →
    ∃ t, m.tree v = .ok t ∧ m.decoder.value depth t = some v
  | _, .none, _ => ⟨_, rfl, rfl⟩
  | _, .bool _, _ => ⟨_, rfl, rfl⟩
  | depth, .int i, h => by
      have hdigits : m.writesInt i = true := h
      refine ⟨.number (Json.intText i), ?_, value_int hdigits depth⟩
      rw [tree, intText, if_pos hdigits]
      rfl
  | depth, .float x, h => ⟨_, rfl, value_float h depth⟩
  | _, .str s, _ => by
      refine ⟨_, rfl, ?_⟩
      show some (Value.str (m.string (s.toList.map Char.toNat))) = _
      rw [m.string_toList]
  | depth, .list xs, ⟨hdepth, hxs⟩ => by
      obtain ⟨ts, hts, hvalues⟩ := values_treeItems m (depth + 1) xs hxs
      refine ⟨.array ts, by rw [tree, hts]; rfl, ?_⟩
      show (if depth < m.maxDepth then _ else _) = _
      rw [if_pos hdepth, hvalues]
      rfl
  | depth, .dict entries, ⟨hdepth, hnodup, hentries⟩ => by
      obtain ⟨ts, hts, hvalues⟩ := memberValues_treeEntries m (depth + 1) entries hentries
      refine ⟨.object ts, by rw [tree, hts]; rfl, ?_⟩
      show (if depth < m.maxDepth then _ else _) = _
      rw [if_pos hdepth, hvalues, Option.map_some, object_of_members hentries hnodup]
  | _, .bytes _, h | _, .pair _ _, h | _, .set _, h | _, .other _, h | _, .again, h => h.elim

/-- The elements of a list are written. -/
theorem values_treeItems (m : JsonModule) : ∀ (depth : ℕ) (xs : List Value),
    m.AreDocuments depth xs →
      ∃ ts, m.treeItems xs = .ok ts ∧ m.decoder.values depth ts = some xs
  | _, [], _ => ⟨[], rfl, rfl⟩
  | depth, x :: xs, ⟨hx, hxs⟩ => by
      obtain ⟨t, ht, hvalue⟩ := value_tree m depth x hx
      obtain ⟨ts, hts, hvalues⟩ := values_treeItems m depth xs hxs
      refine ⟨t :: ts, by rw [treeItems, ht, hts]; rfl, ?_⟩
      rw [Json.Decoder.values, hvalue, hvalues]
      rfl

/-- The entries of a mapping are written. -/
theorem memberValues_treeEntries (m : JsonModule) : ∀ (depth : ℕ) (entries : List (Value × Value)),
    m.AreMembers depth entries →
      ∃ ts, m.treeEntries entries = .ok ts ∧
        m.decoder.memberValues depth ts = some (entries.map fun e ↦ (keyPoints e.1, e.2))
  | _, [], _ => ⟨[], rfl, rfl⟩
  | depth, (_, x) :: entries, ⟨⟨s, rfl⟩, hx, hentries⟩ => by
      obtain ⟨t, ht, hvalue⟩ := value_tree m depth x hx
      obtain ⟨ts, hts, hvalues⟩ := memberValues_treeEntries m depth entries hentries
      refine ⟨(s.toList, t) :: ts, by rw [treeEntries, ht, hts]; rfl, ?_⟩
      rw [Json.Decoder.memberValues, hvalue, hvalues]
      rfl

end

/-- A document is read as itself, in whatever layout it was written. -/
theorem loads_dumps {v : Value} (h : m.IsDocument 0 v) (layout : Json.Layout) :
    ∃ text, m.dumps layout v = .ok text ∧ m.loads text = some v := by
  obtain ⟨t, ht, hvalue⟩ := value_tree m 0 v h
  exact ⟨t.write layout 0, by rw [dumps, ht]; rfl, Json.Decoder.read_write layout hvalue⟩

/-! ## Texts on one line -/

theorem isPrintable_of_intText {i : ℤ} {text : List Char} (h : m.intText i = .ok text) :
    Json.IsPrintable text := by
  rw [intText] at h
  split at h
  · obtain rfl := Except.ok.inj h
    exact Json.isPrintable_intText i
  · cases h

theorem isPrintable_floatText (m : JsonModule) (q : ℚ) : Json.IsPrintable (m.floatText q) := by
  obtain ⟨phase, hphase, -⟩ := Option.bind_eq_some_iff.mp (m.floatText_float q)
  exact Json.isPrintable_of_numberPhase hphase

mutual

/-- The numbers of what is written are those of the interpreter. -/
theorem isPrintable_tree (m : JsonModule) : ∀ (v : Value) (t : Json.Tree), m.tree v = .ok t →
    ∀ literal ∈ t.numbers, Json.IsPrintable literal
  | .none, t, h => by obtain rfl := Except.ok.inj h; nofun
  | .bool _, t, h => by obtain rfl := Except.ok.inj h; nofun
  | .int i, t, h => by
      obtain ⟨text, htext, h⟩ := bind_eq_ok_iff.mp h
      obtain rfl := Except.ok.inj h
      intro literal hliteral
      obtain rfl := List.mem_singleton.mp hliteral
      exact isPrintable_of_intText htext
  | .float (.fin q), t, h => by
      obtain rfl := Except.ok.inj h
      intro literal hliteral
      obtain rfl := List.mem_singleton.mp hliteral
      exact isPrintable_floatText m q
  | .float (.inf _), t, h => by obtain rfl := Except.ok.inj h; nofun
  | .float .nan, t, h => by obtain rfl := Except.ok.inj h; nofun
  | .str _, t, h => by obtain rfl := Except.ok.inj h; nofun
  | .list xs, t, h => by
      obtain ⟨ts, hts, h⟩ := bind_eq_ok_iff.mp h
      obtain rfl := Except.ok.inj h
      exact isPrintable_treeItems m xs ts hts
  | .dict entries, t, h => by
      obtain ⟨ts, hts, h⟩ := bind_eq_ok_iff.mp h
      obtain rfl := Except.ok.inj h
      exact isPrintable_treeEntries m entries ts hts
  | .pair x y, t, h => by
      obtain ⟨t₁, h₁, h⟩ := bind_eq_ok_iff.mp h
      obtain ⟨t₂, h₂, h⟩ := bind_eq_ok_iff.mp h
      obtain rfl := Except.ok.inj h
      refine List.forall_mem_append.mpr ⟨isPrintable_tree m x t₁ h₁, ?_⟩
      exact List.forall_mem_append.mpr ⟨isPrintable_tree m y t₂ h₂, List.forall_mem_nil _⟩
  | .bytes _, t, h | .set _, t, h | .other _, t, h | .again, t, h => by cases h

theorem isPrintable_treeItems (m : JsonModule) : ∀ (xs : List Value) (ts : List Json.Tree),
    m.treeItems xs = .ok ts → ∀ literal ∈ Json.Tree.numbersElements ts, Json.IsPrintable literal
  | [], ts, h => by obtain rfl := Except.ok.inj h; nofun
  | x :: xs, ts, h => by
      obtain ⟨t, ht, h⟩ := bind_eq_ok_iff.mp h
      obtain ⟨ts, hts, h⟩ := bind_eq_ok_iff.mp h
      obtain rfl := Except.ok.inj h
      exact List.forall_mem_append.mpr
        ⟨isPrintable_tree m x t ht, isPrintable_treeItems m xs ts hts⟩

theorem isPrintable_treeEntries (m : JsonModule) :
    ∀ (entries : List (Value × Value)) (ts : List (List Char × Json.Tree)),
      m.treeEntries entries = .ok ts →
      ∀ literal ∈ Json.Tree.numbersMembers ts, Json.IsPrintable literal
  | [], ts, h => by obtain rfl := Except.ok.inj h; nofun
  | (_, x) :: entries, ts, h => by
      obtain ⟨_, -, h⟩ := bind_eq_ok_iff.mp h
      obtain ⟨t, ht, h⟩ := bind_eq_ok_iff.mp h
      obtain ⟨ts, hts, h⟩ := bind_eq_ok_iff.mp h
      obtain rfl := Except.ok.inj h
      exact List.forall_mem_append.mpr
        ⟨isPrintable_tree m x t ht, isPrintable_treeEntries m entries ts hts⟩

end

/-- Without line breaks of its own, a text is on one line whatever the strings in it are. -/
theorem isPrintable_dumps {layout : Json.Layout} (hlayout : layout.IsFlat) {v : Value}
    {text : List Char} (h : m.dumps layout v = .ok text) : Json.IsPrintable text := by
  obtain ⟨t, ht, h⟩ := bind_eq_ok_iff.mp h
  obtain rfl := Except.ok.inj h
  exact Json.Tree.isPrintable_write hlayout 0 t (isPrintable_tree m v t ht)

/-- What one process writes another one reads. -/
theorem loads_of_dumps {layout : Json.Layout} {v : Value} (hv : m.IsDocument 0 v)
    {text : List Char} (h : m.dumps layout v = .ok text) : m.loads text = some v := by
  obtain ⟨text', htext', hloads⟩ := loads_dumps hv layout
  obtain rfl := Except.ok.inj (h.symm.trans htext')
  exact hloads

/-! ## Lists and mappings -/

theorem areDocuments_iff {depth : ℕ} {xs : List Value} :
    m.AreDocuments depth xs ↔ ∀ x ∈ xs, m.IsDocument depth x := by
  induction xs with
  | nil => simp [AreDocuments]
  | cons x xs ih => simp [AreDocuments, ih]

theorem areMembers_iff {depth : ℕ} {entries : List (Value × Value)} :
    m.AreMembers depth entries ↔
      ∀ e ∈ entries, (∃ s, e.1 = .str s) ∧ m.IsDocument depth e.2 := by
  induction entries with
  | nil => simp [AreMembers]
  | cons e entries ih => simp only [AreMembers, ih, List.forall_mem_cons, and_assoc]

theorem isDocument_list_iff {depth : ℕ} {xs : List Value} :
    m.IsDocument depth (.list xs) ↔
      depth < m.maxDepth ∧ ∀ x ∈ xs, m.IsDocument (depth + 1) x := by
  simp only [IsDocument, areDocuments_iff]

/-- A mapping is a document if its keys are different strings and its values are documents. -/
theorem isDocument_dict_iff {depth : ℕ} {entries : List (Value × Value)} :
    m.IsDocument depth (.dict entries) ↔
      depth < m.maxDepth ∧ (entries.map Prod.fst).Nodup ∧
        ∀ e ∈ entries, (∃ s, e.1 = .str s) ∧ m.IsDocument (depth + 1) e.2 := by
  simp only [IsDocument, areMembers_iff]

/-- A mapping whose names are different strings is a document if its members are. -/
theorem isDocument_object {depth : ℕ} {es : List (String × Value)} (hdepth : depth < m.maxDepth)
    (hnames : (es.map Prod.fst).Nodup) (h : ∀ e ∈ es, m.IsDocument (depth + 1) e.2) :
    m.IsDocument depth (.object es) := by
  refine isDocument_dict_iff.mpr
    ⟨hdepth, ?_, List.forall_mem_map.mpr fun e he ↦ ⟨⟨e.1, rfl⟩, h e he⟩⟩
  have hmap : (es.map fun e ↦ (Value.str e.1, e.2)).map Prod.fst = (es.map Prod.fst).map Value.str := by
    rw [List.map_map, List.map_map]
    rfl
  rw [hmap]
  exact hnames.map fun _ _ e ↦ Value.str.inj e

end JsonModule

end EstateMesh
