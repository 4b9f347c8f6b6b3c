import Seedbed.Double.Shortest

/-!
# Doubles that stand for integers

A double stands for an integer between two bounds if it is one, or if it is farther from zero than one by no more than the
distance from 1 to the next double, which is what arithmetic on whole doubles may leave over. The bounds are those of a width of
integers, and the power of two behind the upper one, which a double cannot tell from it, stands for it too.
-/

namespace Seedbed.Double

/-- The integer between two bounds that a double stands for, if it stands for one. -/
def whole? (low high : Int) (x : Double) : Option Int :=
  let (m, q) := x.magnitude
  let scaled := m * Nat.pow 2 q.toNat
  let unit := Nat.pow 2 (-q).toNat
  let n : Int := if x.negative then -(scaled / unit : Nat) else (scaled / unit : Nat)
  if x.exponentField == 2047 || n < low || high + 1 < n || unit < scaled % unit * Nat.pow 2 52 then none
  else some (min n high)

end Seedbed.Double
