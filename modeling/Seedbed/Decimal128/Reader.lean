import Seedbed.Decimal128.Basic
import Seedbed.Text.Numeral
import Seedbed.Text.Utf8

/-!
# Reading a decimal

A text read as a decimal. Words for what is no number and for the infinities are read in any case; every other text is a
coefficient with an optional point and an optional exponent. The value is never changed in reading: where it has more digits or
another exponent than the format admits, zeros are cut off or appended as long as nothing is lost, and otherwise the text is
refused. Lengths are those of the text in UTF-8, which are the numbers of digits wherever the text is a numeral.
-/

namespace Seedbed.Decimal128

/-- Why a text is not read as a decimal. -/
inductive ReadFault where
  | emptyExponent
  | invalidExponent (fault : Text.NumeralFault)
  | invalidCoefficient (fault : Text.NumeralFault)
  | overflow
  | underflow
  | inexactRounding
  | unparseable
  deriving DecidableEq, Repr

/-- A fault in words. -/
def ReadFault.message : ReadFault → String
  | .emptyExponent => "EmptyExponent"
  | .invalidExponent fault => s!"InvalidExponent(ParseIntError \x7b kind: {fault.kind} \x7d)"
  | .invalidCoefficient fault => s!"InvalidCoefficient(ParseIntError \x7b kind: {fault.kind} \x7d)"
  | .overflow => "Overflow"
  | .underflow => "Underflow"
  | .inexactRounding => "InexactRounding"
  | .unparseable => "Unparseable"

/-- A text cut after the given number of bytes, unless that is in the middle of a character. -/
def cutAt : Nat → List Char → Option (List Char × List Char)
  | 0, cs => some ([], cs)
  | _ + 1, [] => none
  | n + 1, c :: rest =>
    if n + 1 < c.utf8Size then none
    else (cutAt (n + 1 - c.utf8Size) rest).map (fun (front, back) => (c :: front, back))

/-- The first bytes of a text, if what is cut off is all zeros. -/
def shorten (length : Nat) (cs : List Char) : Except ReadFault (List Char) :=
  match cutAt length cs with
  | none => .error .unparseable
  | some (front, back) => if back.all (· == '0') then .ok front else .error .inexactRounding

/-- A text split at the first place where `mark` stands, without the mark; none if it stands nowhere. -/
def splitAtMark (mark : Char) : List Char → Option (List Char × List Char)
  | [] => none
  | c :: rest => if c = mark then some ([], rest) else (splitAtMark mark rest).map (fun (front, back) => (c :: front, back))

/-- ASCII letters in lower case. -/
def lower (c : Char) : Char := if 'A' ≤ c ∧ c ≤ 'Z' then Char.ofNat (c.toNat + 32) else c

/-- The sign of a text and the text without it. -/
def takeSign : List Char → Bool × List Char
  | '-' :: rest => (true, rest)
  | '+' :: rest => (false, rest)
  | cs => (false, cs)

/-- The exponent after the mark `e`, a numeral of sixteen bits, and the text before it. -/
def takeExponent (cs : List Char) : Except ReadFault (List Char × Int) :=
  match splitAtMark 'e' cs with
  | none => .ok (cs, 0)
  | some (_, []) => .error .emptyExponent
  | some (front, back) =>
    match Text.readInteger 32768 32767 back with
    | .error fault => .error (.invalidExponent fault)
    | .ok exponent => .ok (front, exponent)

/-- The text without its point, and the exponent less the number of bytes after the point. -/
def takePoint (cs : List Char) (exponent : Int) : Except ReadFault (List Char × Int) :=
  match splitAtMark '.' cs with
  | none => .ok (cs, exponent)
  | some (front, back) =>
    if 32767 < Text.byteLength back ∨ exponent - Text.byteLength back < -32768 then .error .underflow
    else .ok (front ++ back, exponent - Text.byteLength back)

/-- The text without the zeros in front of it, but one zero if nothing else is left. -/
def dropZeros (cs : List Char) : List Char :=
  match cs.dropWhile (· == '0') with
  | [] => ['0']
  | rest => rest

/-- A coefficient of more than thirty-four bytes cut to that length, and the exponent grown by what was cut off. -/
def fitDigits (cs : List Char) (exponent : Int) : Except ReadFault (List Char × Int) :=
  if maxDigits < Text.byteLength cs then
    match shorten maxDigits cs with
    | .error fault => .error fault
    | .ok front =>
      let cut := Text.byteLength cs - maxDigits
      if 32767 < cut ∨ 32767 < exponent + cut then .error .overflow else .ok (front, exponent + cut)
  else .ok (cs, exponent)

/-- An exponent below the least one raised to it, zeros being cut off the coefficient. A zero keeps its value at any exponent. -/
def fitMinimum (cs : List Char) (exponent : Int) : Except ReadFault (List Char × Int) :=
  if exponent < minExponent then
    if cs = ['0'] then .ok (cs, minExponent)
    else
      let cut := (minExponent - exponent).toNat
      if Text.byteLength cs < cut then .error .underflow
      else
        match shorten (Text.byteLength cs - cut) cs with
        | .error fault => .error fault
        | .ok front => .ok (front, minExponent)
  else .ok (cs, exponent)

/-- An exponent above the greatest one lowered to it, zeros being appended to the coefficient. A zero keeps its value at any
exponent. -/
def fitMaximum (cs : List Char) (exponent : Int) : Except ReadFault (List Char × Int) :=
  if maxExponent < exponent then
    if cs = ['0'] then .ok (cs, maxExponent)
    else
      let grown := (exponent - maxExponent).toNat
      if maxDigits < Text.byteLength cs + grown then .error .overflow
      else .ok (cs ++ List.replicate grown '0', maxExponent)
  else .ok (cs, exponent)

/-- A finite value, the sign having been taken off and the letters being in lower case. -/
def readFinite (negative : Bool) (text : List Char) : Except ReadFault Decimal128 := do
  let (text, exponent) ← takeExponent text
  let (text, exponent) ← takePoint text exponent
  let (text, exponent) ← fitDigits (dropZeros text) exponent
  let (text, exponent) ← fitMinimum text exponent
  let (text, exponent) ← fitMaximum text exponent
  match Text.readNatural (Nat.pow 2 128 - 1) text with
  | .error fault => .error (.invalidCoefficient fault)
  | .ok coefficient => .ok (ofFinite negative coefficient exponent)

/-- A text read as a decimal. -/
def read (text : List Char) : Except ReadFault Decimal128 :=
  let (negative, rest) := takeSign text
  let word := rest.map lower
  if word = ['n', 'a', 'n'] then .ok (notANumber negative false)
  else if word = ['s', 'n', 'a', 'n'] then .ok (notANumber negative true)
  else if word = ['i', 'n', 'f'] ∨ word = ['i', 'n', 'f', 'i', 'n', 'i', 't', 'y'] then .ok (ofInfinity negative)
  else readFinite negative word

end Seedbed.Decimal128
