import Seedbed.Bson.Coding

/-!
# Reading integers of 32 bits

An integer of 32 bits is read from an integer of either width, and from none that is out of its range.
-/

namespace Seedbed.Value

/-- An integer of either width is read if it is one of 32 bits. -/
theorem readInt32_of_integer? {v : Value} {i : Int} (h : v.integer? = some i) :
    v.readInt32 =
      if -2147483648 ≤ i ∧ i ≤ 2147483647 then .ok (Int32.ofInt i) else .error (.invalidValue (.integer i) "i32") := by
  unfold readInt32 readInteger
  rw [h]
  dsimp only
  by_cases hrange : -2147483648 ≤ i ∧ i ≤ 2147483647
  · rw [if_pos hrange, if_pos hrange]
  · rw [if_neg hrange, if_neg hrange]

/-- An integer of 32 bits is read from itself, in either width. -/
theorem readInt32_of_integer?_toInt {v : Value} {n : Int32} (h : v.integer? = some n.toInt) : v.readInt32 = .ok n := by
  have hrange : -2147483648 ≤ n.toInt ∧ n.toInt ≤ 2147483647 := ⟨Int32.le_toInt n, Int32.toInt_le n⟩
  rw [readInt32_of_integer? h, if_pos hrange, Int32.ofInt_toInt]

theorem readInt32_int32 (n : Int32) : (Value.int32 n).readInt32 = .ok n := readInt32_of_integer?_toInt rfl

theorem readInt32_int64 (n : Int32) : (Value.int64 n.toInt64).readInt32 = .ok n := by
  refine readInt32_of_integer?_toInt ?_
  rw [integer?, Int32.toInt_toInt64]

end Seedbed.Value
