/-!
# Doubles as bits, and the shortest decimal that reads back

A double is its 64 bits. This file reads the parts of the bits, compares two doubles as numbers, and finds the shortest decimal
that lies nearer to a finite double than to any other: of all grids of powers of ten the coarsest one that has a point in the
interval of reals that round to the double, and of its points there the one nearest to the double.
-/

namespace Seedbed

/-- A binary floating-point number of 64 bits, as its bits. -/
structure Double where
  bits : UInt64
  deriving DecidableEq, Repr

namespace Double

/-- Whether the sign bit is set; zeros and numbers that are none have a sign too. -/
def negative (x : Double) : Bool := x.bits.toNat / Nat.pow 2 63 == 1

/-- The biased exponent, of eleven bits. -/
def exponentField (x : Double) : Nat := x.bits.toNat / Nat.pow 2 52 % Nat.pow 2 11

/-- The fraction, of fifty-two bits. -/
def fractionField (x : Double) : Nat := x.bits.toNat % Nat.pow 2 52

/-- Whether the bits stand for no number at all. -/
def isNaN (x : Double) : Bool := x.exponentField == 2047 && x.fractionField != 0

/-- Whether the bits stand for one of the two infinities. -/
def isInfinite (x : Double) : Bool := x.exponentField == 2047 && x.fractionField == 0

/-- Whether the bits stand for one of the two zeros. -/
def isZero (x : Double) : Bool := x.exponentField == 0 && x.fractionField == 0

/-- Equality of numbers: the two zeros are equal, what is no number equals nothing, and all other doubles equal themselves
alone. -/
def same (x y : Double) : Bool :=
  !x.isNaN && !y.isNaN && (x == y || (x.isZero && y.isZero))

/-- The magnitude of a finite double as a natural number times a power of two. -/
def magnitude (x : Double) : Nat × Int :=
  if x.exponentField == 0 then (x.fractionField, -1074)
  else (Nat.pow 2 52 + x.fractionField, (x.exponentField : Int) - 1075)

/-- A decimal: a natural number times a power of ten. -/
structure Decimal where
  coefficient : Nat
  exponent : Int
  deriving DecidableEq, Repr

/-- The interval of a positive double, and what is in it: the double and the two ends are `value`, `lower` and `upper` times
`unit / scale`, and the ends belong to the interval exactly when `closed`. -/
structure Interval where
  value : Nat
  lower : Nat
  upper : Nat
  unit : Nat
  scale : Nat
  closed : Bool

/-- The reals that round to a positive finite double: half-way to its neighbours, of which the lower one is nearer where the
exponent changes, and the ends only for an even fraction, since a tie rounds to even. -/
def interval (x : Double) : Interval :=
  let (m, q) := x.magnitude
  { value := 4 * m
    lower := if x.fractionField == 0 && 1 < x.exponentField then 4 * m - 1 else 4 * m - 2
    upper := 4 * m + 2
    unit := Nat.pow 2 (q - 2).toNat
    scale := Nat.pow 2 (2 - q).toNat
    closed := m % 2 == 0 }

/-- The point of the grid of multiples of `10 ^ k` that lies in the interval and is nearest to the value, the larger one of two
that are equally near; none if no point of the grid lies in the interval. Only the two neighbours of the value can be nearest,
and one of them is in the interval if any point is. -/
def Interval.gridPoint (i : Interval) (k : Int) : Option Nat :=
  let mul := i.unit * Nat.pow 10 (-k).toNat
  let den := i.scale * Nat.pow 10 k.toNat
  let inside (c : Nat) : Bool :=
    if i.closed then i.lower * mul ≤ c * den && c * den ≤ i.upper * mul
    else i.lower * mul < c * den && c * den < i.upper * mul
  let below := i.value * mul / den
  let above := below + 1
  match inside below, inside above with
  | true, true =>
    if above * den - i.value * mul ≤ i.value * mul - below * den then some above else some below
  | true, false => some below
  | false, true => some above
  | false, false => none

/-- The first grid with a point in the interval, from the grid of `10 ^ k` on downwards through `fuel` grids. -/
def Interval.coarsest (i : Interval) : Nat → Int → Decimal
  | 0, k => ⟨i.value, k⟩
  | fuel + 1, k =>
    match i.gridPoint k with
    | some c => ⟨c, k⟩
    | none => i.coarsest fuel (k - 1)

/-- The shortest decimal for the magnitude of a finite double that is not zero. The search starts at a power of ten above the
double, for `30103 / 100000` is just above the logarithm of two, and seventeen digits always suffice. -/
def shortest (x : Double) : Decimal :=
  let (m, q) := x.magnitude
  let top := (Nat.log2 m : Int) + q
  let start := Int.fdiv (top * 30103) 100000 + 2
  x.interval.coarsest 24 start

end Double

end Seedbed
