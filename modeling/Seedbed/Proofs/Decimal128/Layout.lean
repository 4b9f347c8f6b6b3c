import Seedbed.Decimal128.Basic

/-!
# What the bits of a decimal say

The patterns that are made for a finite value and for an infinity say just that (`shape_ofFinite`, `shape_ofInfinity`), and whatever
the bits of a decimal are, what they say as a finite value is within the bounds of the format (`inBounds_of_shape`). So each decimal
has a pattern in which this library makes what it says (`normal`); bits in the ordinary layout are that pattern already
(`isCanonical_of_bits`).
-/

namespace Seedbed.Decimal128

variable {negative : Bool} {coefficient : Nat} {exponent : Int} {d : Decimal128}

/-- Whether a finite value is one of the format. -/
structure InBounds (coefficient : Nat) (exponent : Int) : Prop where
  coefficient_lt : coefficient < Nat.pow 10 34
  min_le : -6176 ≤ exponent
  le_max : exponent ≤ 6111

/-! ## Patterns that are made -/

/-- The bits of a finite value: its sign, its exponent and its coefficient, one after the other. -/
theorem toNat_ofFinite (negative : Bool) (h : InBounds coefficient exponent) :
    (ofFinite negative coefficient exponent).bits.toNat =
      (if negative then 1 else 0) * Nat.pow 2 127 + (exponent + 6176).toNat * Nat.pow 2 113 + coefficient := by
  obtain ⟨hc, hmin, hmax⟩ := h
  have hsub : exponent - minExponent = exponent + 6176 := by
    unfold minExponent
    omega
  rw [ofFinite, BitVec.toNat_ofNat, signBits, hsub]
  cases negative <;> simp only [Nat.pow_eq, Bool.false_eq_true, if_true, if_false] at hc ⊢ <;> omega

/-- The pattern of a finite value says that value. -/
theorem shape_ofFinite (negative : Bool) (h : InBounds coefficient exponent) :
    (ofFinite negative coefficient exponent).shape = .finite negative coefficient exponent := by
  have hbits := toNat_ofFinite negative h
  obtain ⟨hc, hmin, hmax⟩ := h
  have hsmall : coefficient < Nat.pow 10 maxDigits := hc
  simp only [Nat.pow_eq] at hbits hc
  generalize ofFinite negative coefficient exponent = d at hbits ⊢
  have hsign : (d.bits.toNat / Nat.pow 2 127 == 1) = negative := by
    rw [hbits]
    cases negative <;> simp only [Nat.pow_eq, Bool.false_eq_true, if_true, if_false, beq_iff_eq, beq_eq_false_iff_ne] <;> omega
  have hcombination : d.bits.toNat / Nat.pow 2 122 % 32 < 24 := by
    rw [hbits]
    cases negative <;> simp only [Nat.pow_eq, Bool.false_eq_true, if_true, if_false] <;> omega
  have hexponent : d.bits.toNat / Nat.pow 2 113 % Nat.pow 2 14 = (exponent + 6176).toNat := by
    rw [hbits]
    cases negative <;> simp only [Nat.pow_eq, Bool.false_eq_true, if_true, if_false] <;> omega
  have hcoefficient : d.bits.toNat % Nat.pow 2 113 = coefficient := by
    rw [hbits]
    cases negative <;> simp only [Nat.pow_eq, Bool.false_eq_true, if_true, if_false] <;> omega
  have hback : ((exponent + 6176).toNat : Int) + minExponent = exponent := by
    unfold minExponent
    omega
  simp only [shape, hsign, hexponent, hcoefficient, if_pos hsmall, hback]
  rw [if_neg (by omega), if_neg (by omega), if_neg (by omega)]

theorem shape_ofInfinity (negative : Bool) : (ofInfinity negative).shape = .infinity negative := by
  cases negative <;> decide

theorem shape_notANumber (negative signalling : Bool) : (notANumber negative signalling).shape = .notANumber := by
  cases negative <;> cases signalling <;> decide

/-! ## Patterns of any kind -/

/-- What any bits say as a finite value is within the bounds of the format. -/
theorem inBounds_of_shape (h : d.shape = .finite negative coefficient exponent) : InBounds coefficient exponent := by
  generalize hn : d.bits.toNat = n
  simp only [shape, hn] at h
  split at h
  · cases h
  split at h
  · cases h
  next h31 h30 =>
  split at h
  · next hlarge =>
    -- the exponent stands two places later, and the coefficient is none
    obtain ⟨-, rfl, rfl⟩ := Shape.finite.inj h
    have hexponent : n / Nat.pow 2 111 % Nat.pow 2 14 < 12288 := by
      simp only [Nat.pow_eq, Nat.reducePow] at *
      omega
    unfold minExponent
    exact ⟨by decide, by omega, by omega⟩
  · next hordinary =>
    obtain ⟨-, rfl, rfl⟩ := Shape.finite.inj h
    have hexponent : n / Nat.pow 2 113 % Nat.pow 2 14 < 12288 := by
      simp only [Nat.pow_eq, Nat.reducePow] at *
      omega
    unfold minExponent
    refine ⟨?_, by omega, by omega⟩
    split
    · next hsmall => exact hsmall
    · decide

/-- The pattern in which this library makes what a decimal says. -/
def normal (d : Decimal128) : Decimal128 :=
  match d.shape with
  | .notANumber => notANumber false false
  | .infinity negative => ofInfinity negative
  | .finite negative coefficient exponent => ofFinite negative coefficient exponent

/-- It says the same. -/
theorem shape_normal (d : Decimal128) : d.normal.shape = d.shape := by
  unfold normal
  cases h : d.shape with
  | notANumber => exact shape_notANumber false false
  | infinity negative => exact shape_ofInfinity negative
  | finite negative coefficient exponent => exact shape_ofFinite negative (inBounds_of_shape h)

/-- Whether a decimal is an infinity or a finite value of the format, in the pattern that is made for it. -/
def IsCanonical (d : Decimal128) : Prop :=
  (∃ negative, d = ofInfinity negative) ∨
    ∃ negative coefficient exponent, InBounds coefficient exponent ∧ d = ofFinite negative coefficient exponent

/-- Bits with the exponent in its ordinary place and a coefficient that the format admits are those that are made. -/
theorem isCanonical_of_bits (hcombination : d.bits.toNat / Nat.pow 2 122 % 32 < 24)
    (hcoefficient : d.bits.toNat % Nat.pow 2 113 < Nat.pow 10 34) :
    d.IsCanonical := by
  have hbound := d.bits.isLt
  have hin : InBounds (d.bits.toNat % Nat.pow 2 113) ((d.bits.toNat / Nat.pow 2 113 % Nat.pow 2 14 : Nat) - 6176) := by
    simp only [Nat.pow_eq] at hcombination ⊢
    exact ⟨hcoefficient, by omega, by omega⟩
  refine .inr ⟨d.bits.toNat / Nat.pow 2 127 == 1, _, _, hin, ?_⟩
  refine congrArg Decimal128.mk (BitVec.eq_of_toNat_eq ?_)
  have hbits := toNat_ofFinite (d.bits.toNat / Nat.pow 2 127 == 1) hin
  rw [ofFinite] at hbits
  rw [hbits]
  simp only [Nat.pow_eq] at hcombination ⊢
  rcases Nat.lt_or_ge d.bits.toNat (2 ^ 127) with hlow | hhigh
  · rw [if_neg (by simp only [beq_iff_eq]; omega)]
    omega
  · rw [if_pos (by simp only [beq_iff_eq]; omega)]
    omega

theorem normal_of_isCanonical (h : d.IsCanonical) : d.normal = d := by
  unfold normal
  rcases h with ⟨negative, rfl⟩ | ⟨negative, coefficient, exponent, h, rfl⟩
  · rw [shape_ofInfinity]
  · rw [shape_ofFinite negative h]

end Seedbed.Decimal128
