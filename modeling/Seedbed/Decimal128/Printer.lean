import Seedbed.Decimal128.Basic
import Seedbed.Text.Numeral

/-!
# The printed form of a decimal

The text that the format prescribes for a decimal. A power of ten that is not positive is written by the place of the point as
long as the first digit stands at most six places behind it; everything else is written in scientific notation, and then the
exponent has a plus sign only if it is positive.
-/

namespace Seedbed.Decimal128

/-- The digits of a value with a point, `places` digits being after it. -/
def pointed (digits : List Char) (places : Nat) : List Char :=
  if places = 0 then digits
  else if places < digits.length then
    digits.take (digits.length - places) ++ '.' :: digits.drop (digits.length - places)
  else '0' :: '.' :: List.replicate (places - digits.length) '0' ++ digits

/-- The digits of a value in scientific notation, the first digit having the power `power` of ten. -/
def scientific (digits : List Char) (power : Int) : List Char :=
  let mantissa :=
    match digits with
    | first :: second :: rest => first :: '.' :: second :: rest
    | short => short
  let sign := if 0 < power then ['+'] else if power < 0 then ['-'] else []
  mantissa ++ 'E' :: sign ++ Text.digits power.natAbs

/-- The printed form of a coefficient and a power of ten. -/
def printMagnitude (coefficient : Nat) (exponent : Int) : List Char :=
  let digits := Text.digits coefficient
  let power := exponent + (digits.length : Int) - 1
  if exponent ≤ 0 ∧ -6 ≤ power then pointed digits (-exponent).toNat else scientific digits power

/-- The printed form of a decimal. -/
def print (d : Decimal128) : List Char :=
  match d.shape with
  | .notANumber => ['N', 'a', 'N']
  | .infinity negative => (if negative then ['-'] else []) ++ ['I', 'n', 'f', 'i', 'n', 'i', 't', 'y']
  | .finite negative coefficient exponent =>
    (if negative then ['-'] else []) ++ printMagnitude coefficient exponent

/-- The printed form of a decimal, as a string. -/
def render (d : Decimal128) : String := String.ofList d.print

end Seedbed.Decimal128
