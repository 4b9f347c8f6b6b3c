import Seedbed.Text.Blank
import Seedbed.Text.Numeral

/-!
# Durations

A duration in whole seconds as it is written on a command line: a number of hours, minutes or seconds with the letter of the unit
behind it, or a number of seconds alone, with any blanks around. Neither the number nor the seconds it stands for may be too
large for 64 bits.
-/

namespace Seedbed

/-- A duration in whole seconds. -/
structure Duration where
  seconds : Nat
  deriving DecidableEq, Repr

/-- Why a text is no duration; the text is the one without the blanks around it. -/
inductive DurationFault where
  | empty
  | invalid (text : String) (fault : Text.NumeralFault)
  | outOfRange (text : String)
  deriving DecidableEq, Repr

/-- A fault in words, without the fault of the number. -/
def DurationFault.headline : DurationFault → String
  | .empty => "Empty duration string"
  | .invalid text _ => "Invalid duration value: " ++ text
  | .outOfRange text => "Duration out of range: " ++ text

/-- A fault in words, with the fault of the number. -/
def DurationFault.message : DurationFault → String
  | .invalid text fault => (DurationFault.invalid text fault).headline ++ ": " ++ fault.message
  | fault => fault.headline

namespace Duration

/-- The greatest number of 64 bits. -/
def limit : Nat := Nat.pow 2 64 - 1

/-- The seconds of the unit of a letter, if it is the letter of one. -/
def unit? (c : Char) : Option Nat :=
  if c = 'h' then some 3600 else if c = 'm' then some 60 else if c = 's' then some 1 else none

/-- The number and the seconds of the unit in a text. -/
def splitUnit (cs : List Char) : List Char × Nat :=
  match cs.getLast?.bind unit? with
  | some seconds => (cs.dropLast, seconds)
  | none => (cs, 1)

/-- The duration of a text. -/
def read (text : List Char) : Except DurationFault Duration :=
  let trimmed := Text.trim text
  if trimmed = [] then .error .empty
  else
    let (number, unit) := splitUnit trimmed
    match Text.readNatural limit number with
    | .error fault => .error (.invalid (String.ofList trimmed) fault)
    | .ok n => if limit < n * unit then .error (.outOfRange (String.ofList trimmed)) else .ok ⟨n * unit⟩

end Duration

end Seedbed
