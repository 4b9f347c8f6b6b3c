import Seedbed.Double.Shortest
import Seedbed.Text.Numeral

/-!
# Doubles in words

A finite double is written with the digits of its shortest decimal. A layout says where the point stands: which magnitudes are
written with all their places, whether a whole number keeps a point and a zero, and how an exponent is signed.
-/

namespace Seedbed.Double

/-- How a finite double is laid out. -/
structure Layout where
  /-- Whether a number whose first digit has this power of ten is written without an exponent. -/
  positional : Int → Bool
  /-- Whether a whole number that is written without an exponent ends in a point and a zero. -/
  pointed : Bool
  /-- Whether an exponent that is not negative has a plus sign. -/
  plus : Bool

/-- Every number with all its places, whole numbers without a point. -/
def Layout.plain : Layout := ⟨fun _ => true, false, false⟩

/-- Every number with all its places and a point. -/
def Layout.fractional : Layout := ⟨fun _ => true, true, false⟩

/-- All places from 1e-4 to below 1e16, always with a point, and an exponent elsewhere. -/
def Layout.exact : Layout := ⟨fun e => -4 ≤ e && e < 16, true, false⟩

/-- All places from 1e-5 to below 1e16, always with a point, and a signed exponent elsewhere. -/
def Layout.json : Layout := ⟨fun e => -5 ≤ e && e < 16, true, true⟩

/-- The digits of a decimal with all its places. -/
def Layout.places (layout : Layout) (digits : List Char) (exponent : Int) : List Char :=
  let whole := digits.length + exponent
  if 0 ≤ exponent then
    digits ++ List.replicate exponent.toNat '0' ++ (if layout.pointed then ['.', '0'] else [])
  else if 0 < whole then
    digits.take whole.toNat ++ '.' :: digits.drop whole.toNat
  else
    '0' :: '.' :: List.replicate (-whole).toNat '0' ++ digits

/-- The digits of a decimal with one place before the point and an exponent. -/
def Layout.scientific (layout : Layout) (digits : List Char) (power : Int) : List Char :=
  let sign := if power < 0 then ['-'] else if layout.plus then ['+'] else []
  let mantissa :=
    match digits with
    | first :: second :: rest => first :: '.' :: second :: rest
    | short => short
  mantissa ++ 'e' :: sign ++ Text.digits power.natAbs

/-- A decimal in a layout. -/
def Layout.magnitude (layout : Layout) (d : Decimal) : List Char :=
  let digits := Text.digits d.coefficient
  let power := (digits.length : Int) + d.exponent - 1
  if layout.positional power then layout.places digits d.exponent else layout.scientific digits power

/-- A double in a layout; the sign of a zero is kept, and what is no number has no sign. -/
def render (layout : Layout) (x : Double) : String :=
  if x.isNaN then "NaN"
  else
    let body :=
      if x.isInfinite then ['i', 'n', 'f']
      else if x.isZero then layout.magnitude ⟨0, 0⟩
      else layout.magnitude x.shortest
    String.ofList (if x.negative then '-' :: body else body)

end Seedbed.Double
