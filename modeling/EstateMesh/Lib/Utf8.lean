import Mathlib.Data.List.Basic
import Mathlib.Data.Option.Basic
import Mathlib.Logic.Function.Basic

/-!
# Lists of bytes as text

Strict decoding of a list of bytes as UTF-8, with the two facts that matter for text that
was cut: a text decodes to itself whatever follows it, and only its own bytes decode to it.
-/

namespace Lib.Utf8

/-- The bytes of a text. -/
def encode (text : List Char) : List UInt8 := text.flatMap String.utf8EncodeChar

/-- The text of some bytes, if they are one. -/
def decode (raw : List UInt8) : Option (List Char) := raw.toByteArray.utf8Decode?.map Array.toList

theorem encode_append (text text' : List Char) : encode (text ++ text') = encode text ++ encode text' :=
  List.flatMap_append

theorem toByteArray_encode (text : List Char) : (encode text).toByteArray = text.utf8Encode := rfl

theorem decode_encode (text : List Char) : decode (encode text) = some text := by
  unfold decode
  rw [toByteArray_encode, List.utf8Decode?_utf8Encode]
  rfl

/-- Only its own bytes decode to a text. -/
theorem decode_eq_some_iff {raw : List UInt8} {text : List Char} :
    decode raw = some text ↔ raw = encode text := by
  constructor
  · intro h
    obtain ⟨chars, hchars, rfl⟩ := Option.map_eq_some_iff.mp h
    have hsome : raw.toByteArray.utf8Decode?.isSome := by
      rw [hchars]
      rfl
    have hbytes := ByteArray.utf8Encode_get_utf8Decode? (h := hsome)
    simp only [hchars, Option.get_some] at hbytes
    rw [← toByteArray_encode] at hbytes
    exact (List.toByteArray_inj.mp hbytes).symm
  · rintro rfl
    exact decode_encode text

theorem encode_injective : Function.Injective encode := fun text text' h ↦ by
  have hdecode := decode_encode text
  rw [h, decode_encode] at hdecode
  exact (Option.some.inj hdecode).symm

/-- A text decodes to itself whatever follows it. -/
theorem decode_encode_append (text : List Char) (raw : List UInt8) :
    decode (encode text ++ raw) = (decode raw).map (text ++ ·) := by
  cases h : decode raw with
  | some rest =>
      obtain rfl := decode_eq_some_iff.mp h
      rw [← encode_append, decode_encode]
      rfl
  | none =>
      induction text with
      | nil => exact h
      | cons c text ih =>
          have hcons : (encode (c :: text) ++ raw).toByteArray =
              [c].utf8Encode ++ (encode text ++ raw).toByteArray := by
            rw [← toByteArray_encode, ← List.toByteArray_append]
            simp [encode]
          unfold decode at ih ⊢
          rw [hcons, ByteArray.utf8Decode?_utf8Encode_singleton_append, Option.map_map]
          rw [Option.map_none, Option.map_eq_none_iff] at ih
          rw [ih]
          rfl

end Lib.Utf8
