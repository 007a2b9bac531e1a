import Mathlib.Data.Rat.Floor
import Mathlib.Data.List.Infix

/-!
# Python data

The values that move through the mesh are whatever a JSON body or a YAML file
denotes, so the model needs Python's dynamically typed data rather than one
record per document: a registry may put a scalar where a list is expected, and
what the code then does is part of its behaviour.  This file has the data, the
few built-ins the code applies to it, and the exceptions they raise.

A YAML document may hold itself.  It is unfolded then to below the depth to
which the code looks, and `Value.again` is where the unfolding stops; of the
functions of the code only the writer of JSON and `flatten` get there, and they
raise.

`Builtins` collects the built-ins whose full definition is a table of the
interpreter (`str` of arbitrary objects, Unicode case mapping, number syntax,
the JSON decoder).  The model takes them as a parameter, with the one law that
the code relies on: `str` is the identity on strings.  It is taken to be defined
wherever it is used, so no canonical id and no capability is an integer with
more digits than the interpreter writes.
-/

namespace EstateMesh

/-- A floating point number. -/
inductive PyFloat
  | /-- A finite number; every one is a rational. -/ fin (q : ℚ)
  | /-- An infinity. -/ inf (negative : Bool)
  | /-- Not a number. -/ nan
deriving DecidableEq, Repr

/-- What `json` and `yaml` can produce. -/
inductive Value
  | none
  | bool (b : Bool)
  | int (i : ℤ)
  | float (x : PyFloat)
  | str (s : String)
  | bytes (content : List UInt8)
  | list (xs : List Value)
  | /-- A tuple of two, as in `!!pairs`. -/ pair (x y : Value)
  | /-- A set, in the order of iteration. -/ set (xs : List Value)
  | dict (entries : List (Value × Value))
  | /-- An object of another class (a YAML timestamp, say), known by its text. -/
    other (text : String)
  | /-- A list or a mapping that this is a part of. -/ again
deriving Repr, Inhabited

/-- The entries of a `dict`. -/
abbrev PyDict := List (Value × Value)

/-- The exceptions of the built-ins. -/
inductive PyError
  | typeError
  | valueError
  | /-- `UnicodeDecodeError` or `JSONDecodeError`, which are `ValueError`s. -/ decodeError
  | overflowError
  | attributeError
  | keyError
  | recursionError
deriving DecidableEq, Repr

/-! ## Built-ins of the interpreter -/

/-- What an interpreter is limited by. -/
structure Limits where
  /-- `sys.get_int_max_str_digits()`. -/
  maxDigits : ℕ
  /-- How deeply its calls may be nested. -/
  maxDepth : ℕ

/-- An integer has a text. -/
def Limits.writesInt (limits : Limits) (i : ℤ) : Bool :=
  (Nat.toDigits 10 i.natAbs).length ≤ limits.maxDigits

/-- Built-ins that the model leaves to the interpreter. -/
structure Builtins where
  /-- `str(x)`, where it is defined. -/
  str : Value → String
  /-- `str` is the identity on strings. -/
  str_str : ∀ s, str (.str s) = s
  /-- `s.upper()`. -/
  upper : String → String
  /-- `int(s)` on a string, `none` for a `ValueError`. -/
  parseInt : String → Option ℤ
  /-- `json.loads(raw.decode("utf-8"))`. -/
  jsonLoads : List UInt8 → Except PyError Value
  /-- `raw.decode("utf-8", errors="replace")`. -/
  decodeReplace : List UInt8 → String
  /-- `hmac.new(key, message, hashlib.sha256).hexdigest()`, both arguments encoded. -/
  hmacSha256 : String → String → String

/-- An interpreter that knows the empty text only. -/
instance : Inhabited Builtins where
  default :=
    { str := fun x ↦ match x with
        | .str s => s
        | _ => ""
      str_str := fun _ ↦ rfl
      upper := fun s ↦ s
      parseInt := fun _ ↦ none
      jsonLoads := fun _ ↦ .error .decodeError
      decodeReplace := fun _ ↦ ""
      hmacSha256 := fun _ _ ↦ "" }

namespace Value

/-- Truth value testing. -/
def truthy : Value → Bool
  | none => false
  | bool b => b
  | int i => i ≠ 0
  | float (.fin q) => q ≠ 0
  | float _ => true
  | str s => s ≠ ""
  | bytes content => !content.isEmpty
  | list xs | set xs => !xs.isEmpty
  | dict es => !es.isEmpty
  | pair _ _ | other _ | again => true

/-- `x or y`. -/
def or (x y : Value) : Value := if x.truthy then x else y

/-- `x == s` for a string `s`. -/
def isStr (x : Value) (s : String) : Bool :=
  match x with
  | str s' => s' = s
  | _ => false

/-- The rational that a finite number denotes. -/
def number : Value → Option ℚ
  | bool b => some (if b then 1 else 0)
  | int i => some i
  | float (.fin q) => some q
  | _ => .none

/-- Equality of hashable values; numbers compare across their types. -/
def eqv : Value → Value → Bool
  | none, none => true
  | str s, str s' => s = s'
  | bytes content, bytes content' => content = content'
  | pair x y, pair x' y' => x.eqv x' && y.eqv y'
  | other s, other s' => s = s'
  | float (.inf n), float (.inf n') => n = n'
  -- each reader has one object for it, which a container finds again
  | float .nan, float .nan => true
  | x, y =>
      match x.number, y.number with
      | some p, some q => p = q
      | _, _ => false

/-- Whether `hash(x)` is defined. -/
def hashable : Value → Bool
  | list _ | set _ | dict _ | again => false
  | pair x y => x.hashable && y.hashable
  | _ => true

/-- `iter(x)`, as the list of what it yields. -/
def iter : Value → Except PyError (List Value)
  | list xs | set xs => .ok xs
  | pair x y => .ok [x, y]
  | str s => .ok (s.toList.map fun c ↦ str c.toString)
  | bytes content => .ok (content.map fun b ↦ int b.toNat)
  | dict es => .ok (es.map Prod.fst)
  | _ => .error .typeError

/-- `s in x` for a string `s`. -/
def containsStr (s : String) : Value → Except PyError Bool
  | list xs | set xs => .ok (xs.any (·.isStr s))
  | pair x y => .ok (x.isStr s || y.isStr s)
  | str s' => .ok (decide (s.toList <:+: s'.toList))
  | dict es => .ok (es.any (·.1.isStr s))
  | _ => .error .typeError

end Value

namespace PyDict

/-- The value at a string key, if it is present. -/
def get? (key : String) : PyDict → Option Value
  | [] => none
  | (k, v) :: es => if k.isStr key then some v else get? key es

/-- `d.get(key)`. -/
def get (d : PyDict) (key : String) : Value := (d.get? key).getD .none

/-- `d.get(key, default)`. -/
def getD (d : PyDict) (key : String) (default : Value) : Value := (d.get? key).getD default

end PyDict

/-- `x.get(key, default)` on a value that has to be a `dict`. -/
def Value.getD (self : Value) (key : String) (default : Value) : Except PyError Value :=
  match self with
  | dict es => .ok (PyDict.getD es key default)
  | _ => .error .attributeError

/-- `x[key]` on a value that has to be a `dict`. -/
def Value.getItem (self : Value) (key : String) : Except PyError Value :=
  match self with
  | dict es => (PyDict.get? key es).elim (.error .keyError) .ok
  | _ => .error .typeError

/-- A `dict` literal with string keys. -/
def Value.object (es : List (String × Value)) : Value := .dict (es.map fun e ↦ (.str e.1, e.2))

/-- An optional string. -/
def Value.ofStr? : Option String → Value
  | .none => .none
  | .some s => .str s

/-! ## Numbers -/

/-- `int(x)` on a finite number. -/
def truncate (q : ℚ) : ℤ := if 0 ≤ q then ⌊q⌋ else ⌈q⌉

/-- `round(x)` on a finite number: ties go to the even neighbour. -/
def roundHalfEven (q : ℚ) : ℤ :=
  let r := q - ⌊q⌋
  if r < 1 / 2 then ⌊q⌋
  else if 1 / 2 < r then ⌊q⌋ + 1
  else if ⌊q⌋ % 2 = 0 then ⌊q⌋ else ⌊q⌋ + 1

/-- `round(x, 2)`. -/
def round2 (q : ℚ) : ℚ := roundHalfEven (q * 100) / 100

namespace Builtins

/-- `int(x)`. -/
def int (py : Builtins) : Value → Except PyError ℤ
  | .bool b => .ok (if b then 1 else 0)
  | .int i => .ok i
  | .float (.fin q) => .ok (truncate q)
  | .float (.inf _) => .error .overflowError
  | .float .nan => .error .valueError
  | .str s => (py.parseInt s).elim (.error .valueError) .ok
  | _ => .error .typeError

end Builtins

/-! ## Sequences -/

/-- `s.rstrip("/")`. -/
def rstripSlash (s : String) : String :=
  String.ofList (s.toList.reverse.dropWhile (· = '/')).reverse

/-- `s.lstrip("/")`. -/
def lstripSlash (s : String) : String := String.ofList (s.toList.dropWhile (· = '/'))

/-- `xs[-n:]`. -/
def lastItems {α : Type} (n : ℕ) (xs : List α) : List α :=
  if n = 0 then xs else xs.drop (xs.length - n)

theorem mem_of_mem_lastItems {α : Type} {n : ℕ} {xs : List α} {x : α} (h : x ∈ lastItems n xs) :
    x ∈ xs := by
  rw [lastItems] at h
  split at h
  · exact h
  · exact List.mem_of_mem_drop h

/-- `list(dict.fromkeys(xs))`: the first occurrence of every value. -/
def fromKeys (xs : List Value) : Except PyError (List Value) :=
  if xs.all Value.hashable then
    .ok (xs.foldl (fun acc x ↦ if acc.any (·.eqv x) then acc else acc ++ [x]) [])
  else .error .typeError

end EstateMesh
