import Seedbed.Fixture.Literal
import Seedbed.Proofs.Base64.Reading
import Seedbed.Proofs.Text.ByteOrder

/-!
# Literals of bytes

A literal stands for bytes exactly if it is the base64 of them, so that every value of bytes has one literal and no other
(`binary_eq_ok_iff`, `binary_one_literal`).
-/

namespace Seedbed.Fixture

open Base64

/-- No two texts have the same bytes. -/
theorem utf8_injective : Function.Injective utf8 := by
  intro cs ds h
  have hbytes : Text.bytes (String.ofList cs) = Text.bytes (String.ofList ds) := by
    rw [Text.bytes_eq_flatMap, Text.bytes_eq_flatMap, String.toList_ofList, String.toList_ofList]
    exact h
  have hstrings : String.ofList cs = String.ofList ds :=
    String.toByteArray_inj.1 (ByteArray.ext (Array.toList_inj.1 hbytes))
  exact String.ofList_injective hstrings

/-- A text is read as bytes exactly if it is the base64 of them. -/
theorem decode_utf8_eq_ok_iff {text : List Char} {bytes : List UInt8} : decode (utf8 text) = .ok bytes ↔ IsBase64 bytes text := by
  rw [decode_eq_ok_iff, ← flatMap_encode, isBase64_iff]
  exact utf8_injective.eq_iff

/-- A literal stands for bytes exactly if it is the base64 of them, and then for nothing but these. -/
theorem binary_eq_ok_iff {field literal : String} {v : Value} :
    binary field literal = .ok v ↔ ∃ bytes, v = .binary 0 bytes ∧ IsBase64 bytes literal.toList := by
  simp only [← decode_utf8_eq_ok_iff]
  unfold binary
  cases decode (utf8 literal.toList) with
  | error fault => simp
  | ok bytes => simp [eq_comm]

/-- A literal is refused exactly if it is the base64 of no bytes, and the error names the field and the literal. -/
theorem binary_eq_error_iff {field literal : String} :
    (∃ fault, binary field literal = .error (.representation field literal (.base64 fault))) ↔ ∀ bytes, ¬IsBase64 bytes literal.toList := by
  simp only [← decode_utf8_eq_ok_iff]
  unfold binary
  cases decode (utf8 literal.toList) with
  | error fault => simp
  | ok bytes => simp

/-- Bytes have exactly one text in base64, and that is the only literal that stands for them; a literal stands for nothing but the bytes
whose text it is, and it is refused exactly if it is malformed. -/
theorem binary_one_literal :
    (∀ bytes text, IsBase64 bytes text ↔ text = encode bytes) ∧
    (∀ field bytes, binary field (String.ofList (encode bytes)) = .ok (.binary 0 bytes)) ∧
    (∀ field literal v, binary field literal = .ok v → ∃ bytes, v = .binary 0 bytes ∧ IsBase64 bytes literal.toList) ∧
    ∀ field literal, (∃ fault, binary field literal = .error (.representation field literal (.base64 fault))) ↔
      Malformed literal.toList := by
  refine ⟨fun bytes text => isBase64_iff, ?_, ?_, ?_⟩
  · intro field bytes
    rw [binary_eq_ok_iff, String.toList_ofList]
    exact ⟨bytes, rfl, isBase64_encode bytes⟩
  · intro field literal v h
    exact binary_eq_ok_iff.1 h
  · intro field literal
    rw [binary_eq_error_iff, malformed_iff]

/-- A literal of four bytes, and five that go wrong: with a pad too few, a pad too many, a character of no letter, letters behind a pad,
and a bit too many in the last letter. -/
theorem binary_one_literal_near_misses :
    binary "blob_type" "3q2+7w==" = .ok (.binary 0 [222, 173, 190, 239]) ∧
      ∀ literal ∈ ["3q2+7w=", "3q2+7===", "3q2-7w==", "3q==7w2+", "3q2+7x=="],
        ∃ fault, binary "blob_type" literal = .error (.representation "blob_type" literal (.base64 fault)) := by
  refine ⟨binary_one_literal.2.1 "blob_type" [222, 173, 190, 239], ?_⟩
  intro literal hliteral
  refine (binary_one_literal.2.2.2 "blob_type" literal).2 ?_
  simp only [List.mem_cons, List.not_mem_nil, or_false] at hliteral
  rcases hliteral with rfl | rfl | rfl | rfl | rfl
  · exact Malformed.length (by decide)
  · exact Malformed.pads (by decide)
  · exact @Malformed.symbol _ '-' (by decide) (by decide) (by decide)
  · exact @Malformed.trailing ['3', 'q'] ['=', '7', 'w', '2', '+'] '7' (by decide) (by decide)
  · exact @Malformed.bits ['3', 'q', '2', '+', '7'] 'x' 2 (by decide) (by decide)

end Seedbed.Fixture
