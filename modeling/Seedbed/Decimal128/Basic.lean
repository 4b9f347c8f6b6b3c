/-!
# Decimal floating-point numbers of 128 bits

The decimals of the interchange format of 128 bits with a coefficient in binary. A value is its bits; what the bits say is its
`shape`: no number, one of two infinities, or a sign, a coefficient of at most thirty-four digits and a power of ten. Several
bit patterns can say the same: a coefficient that the format does not admit says zero, and a number that is none may carry a
sign and more. `ofFinite`, `ofInfinity` and `notANumber` are the patterns that this library makes.
-/

namespace Seedbed

/-- A decimal of 128 bits, as its bits. -/
structure Decimal128 where
  bits : BitVec 128
  deriving DecidableEq, Repr

namespace Decimal128

/-- What the bits of a decimal say. -/
inductive Shape where
  | notANumber
  | infinity (negative : Bool)
  | finite (negative : Bool) (coefficient : Nat) (exponent : Int)
  deriving DecidableEq, Repr

/-- The most digits that a coefficient has. -/
def maxDigits : Nat := 34

/-- The least power of ten. -/
def minExponent : Int := -6176

/-- The greatest power of ten. -/
def maxExponent : Int := 6111

/-- What the bits of a decimal say. The sign is the first bit; the five bits after it tell apart numbers that are none,
infinities and finite values; a finite value has fourteen bits of exponent and then its coefficient, two places later if the
first two of the five are set, and then the coefficient is too large to be admitted. -/
def shape (d : Decimal128) : Shape :=
  let n := d.bits.toNat
  let negative := n / Nat.pow 2 127 == 1
  let combination := n / Nat.pow 2 122 % 32
  if combination = 31 then .notANumber
  else if combination = 30 then .infinity negative
  else if 24 ≤ combination then .finite negative 0 ((n / Nat.pow 2 111 % Nat.pow 2 14 : Nat) + minExponent)
  else
    let coefficient := n % Nat.pow 2 113
    .finite negative (if coefficient < Nat.pow 10 maxDigits then coefficient else 0)
      ((n / Nat.pow 2 113 % Nat.pow 2 14 : Nat) + minExponent)

/-- The sign as a number of bits. -/
def signBits (negative : Bool) : Nat := if negative then Nat.pow 2 127 else 0

/-- The bits of a finite value. -/
def ofFinite (negative : Bool) (coefficient : Nat) (exponent : Int) : Decimal128 :=
  ⟨BitVec.ofNat 128 (signBits negative + (exponent - minExponent).toNat * Nat.pow 2 113 + coefficient)⟩

/-- The bits of an infinity. -/
def ofInfinity (negative : Bool) : Decimal128 := ⟨BitVec.ofNat 128 (signBits negative + 30 * Nat.pow 2 122)⟩

/-- The bits of a number that is none; one that signals has a bit more. -/
def notANumber (negative signalling : Bool) : Decimal128 :=
  ⟨BitVec.ofNat 128 (signBits negative + 31 * Nat.pow 2 122 + (if signalling then Nat.pow 2 121 else 0))⟩

/-- The bytes of a decimal, the least significant first. -/
def bytes (d : Decimal128) : List UInt8 :=
  (List.range 16).map (fun i => UInt8.ofNat (d.bits.toNat / Nat.pow 256 i % 256))

/-- The decimal of sixteen bytes, the least significant first. -/
def ofBytes (bs : List UInt8) : Decimal128 :=
  ⟨BitVec.ofNat 128 (bs.foldr (fun b n => n * 256 + b.toNat) 0)⟩

end Decimal128

end Seedbed
