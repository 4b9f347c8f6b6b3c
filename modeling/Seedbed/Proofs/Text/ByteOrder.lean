import Mathlib.Tactic.SplitIfs

/-!
# The order of texts is that of their bytes

Texts are ordered by their code points (`<` of `String`). In UTF-8 a greater code point has more bytes, of which the first one is
greater, or equally many, which are greater as digits to the base of sixty-four. So the order of texts is the lexicographic order
of their bytes (`lt_iff_bytes_lt`), and a list of texts is sorted alike by either.
-/

namespace Seedbed.Text

/-- The bytes of a text in UTF-8. -/
def bytes (s : String) : List UInt8 := s.toUTF8.data.toList

/-- The bytes of a text are those of its characters. -/
theorem bytes_eq_flatMap (s : String) : bytes s = s.toList.flatMap String.utf8EncodeChar := by
  obtain ⟨cs, rfl⟩ : ∃ cs, s = String.ofList cs := ⟨s.toList, String.ofList_toList.symm⟩
  rw [bytes, String.toUTF8_eq_toByteArray, String.toByteArray_ofList, List.utf8Encode, List.toList_data_toByteArray,
    String.toList_ofList]

/-- Of two numbers of at most twenty-one bits the lesser one has, in four digits to the base of sixty-four, the lesser digit at the
first place where they differ. -/
theorem digits_lt {m n : Nat} (h : m < n) (hn : n < 2097152) :
    m / 262144 % 8 < n / 262144 % 8 ∨ m / 262144 % 8 = n / 262144 % 8 ∧
      (m / 4096 % 64 < n / 4096 % 64 ∨ m / 4096 % 64 = n / 4096 % 64 ∧
        (m / 64 % 64 < n / 64 % 64 ∨ m / 64 % 64 = n / 64 % 64 ∧ m % 64 < n % 64)) := by
  have hm8 : m / 262144 % 8 = m / 262144 := Nat.mod_eq_of_lt (by omega)
  have hn8 : n / 262144 % 8 = n / 262144 := Nat.mod_eq_of_lt (by omega)
  omega

/-- The byte of a small number is that number. -/
theorem toNat_ofNat_of_lt {n : Nat} (h : n < 256) : (UInt8.ofNat n).toNat = n := UInt8.toNat_ofNat_of_lt' h

/-- The bytes of a character that comes before another one come before those of the other one, whatever follows. -/
theorem utf8EncodeChar_append_lt {c d : Char} (h : c < d) (x y : List UInt8) :
    String.utf8EncodeChar c ++ x < String.utf8EncodeChar d ++ y := by
  have hlt : c.val.toNat < d.val.toNat := UInt32.lt_iff_toNat_lt.1 h
  have hd : d.val.toNat < 1114112 := by
    rcases d.valid with hd | hd
    · have : d.val.toNat < 55296 := hd
      omega
    · exact hd.2
  unfold String.utf8EncodeChar
  generalize c.val.toNat = m at *
  generalize d.val.toNat = n at *
  have hdigits := digits_lt hlt (by omega)
  dsimp only
  -- a character with fewer bytes has the lesser first byte; among those with equally many the first place that differs decides
  split_ifs <;>
    simp (disch := omega) only [List.cons_append, List.nil_append, List.cons_lt_cons_iff, UInt8.lt_iff_toNat_lt,
      ← UInt8.toNat_inj, toNat_ofNat_of_lt] <;>
    omega

/-- A list of characters that comes before another one has the bytes that come before those of the other one. -/
theorem flatMap_utf8EncodeChar_lt {cs ds : List Char} (h : cs < ds) :
    cs.flatMap String.utf8EncodeChar < ds.flatMap String.utf8EncodeChar := by
  induction h with
  | @nil d ds =>
    rw [List.flatMap_nil, List.flatMap_cons]
    have hpos : 0 < (String.utf8EncodeChar d).length := by
      rw [String.length_utf8EncodeChar]
      exact d.utf8Size_pos
    obtain ⟨b, bs, hb⟩ := List.exists_cons_of_length_pos hpos
    rw [hb]
    exact List.nil_lt_cons b _
  | rel h => exact utf8EncodeChar_append_lt h _ _
  | cons _ ih => exact List.append_left_lt ih

/-- The order of texts is that of their bytes. -/
theorem lt_iff_bytes_lt {s t : String} : s < t ↔ bytes s < bytes t := by
  have forward : ∀ {s t : String}, s < t → bytes s < bytes t := by
    intro s t h
    rw [bytes_eq_flatMap, bytes_eq_flatMap]
    exact flatMap_utf8EncodeChar_lt h
  refine ⟨forward, fun h => ?_⟩
  by_cases hst : s < t
  · exact hst
  by_cases hts : t < s
  · exact absurd (List.lt_trans h (forward hts)) (List.lt_irrefl _)
  · have e : s = t := String.le_antisymm (String.not_lt.1 hts) (String.not_lt.1 hst)
    exact absurd h (e ▸ List.lt_irrefl _)

end Seedbed.Text
