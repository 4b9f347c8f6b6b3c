/-!
# Blanks around a text

The white space of Unicode, which is the set of characters with the property `White_Space`, and a text without the blanks
around it.
-/

namespace Seedbed.Text

/-- Whether a character is white space by Unicode's property of that name. -/
def isBlank (c : Char) : Bool :=
  let n := c.toNat
  (9 ≤ n && n ≤ 13) || n == 0x20 || n == 0x85 || n == 0xA0 || n == 0x1680 || (0x2000 ≤ n && n ≤ 0x200A) ||
    n == 0x2028 || n == 0x2029 || n == 0x202F || n == 0x205F || n == 0x3000

/-- A text without the blanks at its two ends; blanks between other characters stay. -/
def trim (cs : List Char) : List Char :=
  ((cs.dropWhile isBlank).reverse.dropWhile isBlank).reverse

end Seedbed.Text
