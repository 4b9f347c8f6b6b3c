/-!
# Numerals of bounded integers

Reading a decimal numeral into an integer of bounded size. A numeral is one or more ASCII digits after an optional sign; it is
read from the left, and the first character that is no digit, or the first digit that leaves the range, decides which of the
two faults is reported. Leading zeros are read like any other digit and never leave the range.
-/

namespace Seedbed.Text

/-- Why a text is not the numeral of an integer in range. -/
inductive NumeralFault where
  | empty | invalidDigit | tooLarge | tooSmall
  deriving DecidableEq, Repr

/-- A fault in words. -/
def NumeralFault.message : NumeralFault → String
  | .empty => "cannot parse integer from empty string"
  | .invalidDigit => "invalid digit found in string"
  | .tooLarge => "number too large to fit in target type"
  | .tooSmall => "number too small to fit in target type"

/-- A fault by the name of its kind. -/
def NumeralFault.kind : NumeralFault → String
  | .empty => "Empty"
  | .invalidDigit => "InvalidDigit"
  | .tooLarge => "PosOverflow"
  | .tooSmall => "NegOverflow"

/-- The value of an ASCII digit, and none of any other character. -/
def digit? (c : Char) : Option Nat :=
  if '0' ≤ c ∧ c ≤ '9' then some (c.toNat - 48) else none

/-- The digits of a numeral read onto the value `acc` of the digits before them, none of the values on the way being above
`limit`. -/
def readDigits (limit : Nat) : Nat → List Char → Except NumeralFault Nat
  | acc, [] => .ok acc
  | acc, c :: rest =>
    match digit? c with
    | none => .error .invalidDigit
    | some d => if limit < acc * 10 + d then .error .tooLarge else readDigits limit (acc * 10 + d) rest

/-- A natural number up to `limit`: digits after an optional plus sign. A lone sign is an invalid digit, and so is a minus. -/
def readNatural (limit : Nat) : List Char → Except NumeralFault Nat
  | [] => .error .empty
  | ['+'] => .error .invalidDigit
  | '+' :: rest => readDigits limit 0 rest
  | cs => readDigits limit 0 cs

/-- An integer from `-low` to `high`: digits after an optional sign of either kind. -/
def readInteger (low high : Nat) : List Char → Except NumeralFault Int
  | [] => .error .empty
  | ['+'] => .error .invalidDigit
  | ['-'] => .error .invalidDigit
  | '-' :: rest =>
    match readDigits low 0 rest with
    | .ok n => .ok (-(n : Int))
    | .error .tooLarge => .error .tooSmall
    | .error fault => .error fault
  | '+' :: rest => (readDigits high 0 rest).map Int.ofNat
  | cs => (readDigits high 0 cs).map Int.ofNat

/-- The decimal digits of a natural number. -/
def digits (n : Nat) : List Char := Nat.toDigits 10 n

/-- The decimal digits of a natural number with zeros in front up to the given width. -/
def padded (width n : Nat) : List Char :=
  List.replicate (width - (digits n).length) '0' ++ digits n

end Seedbed.Text
