import Seedbed.Instant.Basic
import Seedbed.Text.Utf8

/-!
# Reading an instant in the profile of RFC 3339

A date, a separator, a time of day with an optional fraction and an offset. A text that is too short for a date and a time is
refused before anything else; otherwise the text is read from the left, and the first thing that is wrong decides which fault is
reported. That the day exists in its month is looked at as soon as the date is read, that the time is one of a day when its
fraction is read, and that the offset is less than a day when nothing is left. The sixtieth second stands for the second after
the fifty-ninth, digits of the fraction beyond nanoseconds are passed over, and the milliseconds of the instant are those that
have gone by.
-/

namespace Seedbed.Rfc3339

/-- Why a text is no instant. -/
inductive Fault where
  | tooShort | invalid | outOfRange | trailing
  deriving DecidableEq, Repr

/-- A fault in words. -/
def Fault.message : Fault → String
  | .tooShort => "premature end of input"
  | .invalid => "input contains invalid characters"
  | .outOfRange => "input is out of range"
  | .trailing => "trailing input"

/-- A step of reading: a value and the text after it, or a fault. -/
abbrev Step (α : Type) := Except Fault (α × List Char)

/-- A number of exactly `width` digits, read onto the value of the digits before them. A text that is shorter than the number,
in bytes of UTF-8, is too short whatever it holds. -/
def numberFrom : Nat → Nat → List Char → Step Nat
  | 0, acc, cs => .ok (acc, cs)
  | _ + 1, _, [] => .error .tooShort
  | width + 1, acc, c :: rest =>
    match Text.digit? c with
    | none => .error .invalid
    | some d => numberFrom width (acc * 10 + d) rest

/-- A number of exactly `width` digits. -/
def number (width : Nat) (cs : List Char) : Step Nat :=
  if Text.byteLength cs < width then .error .tooShort else numberFrom width 0 cs

/-- The given character. -/
def mark (expected : Char) : List Char → Step Unit
  | [] => .error .tooShort
  | c :: rest => if c = expected then .ok ((), rest) else .error .invalid

/-- The separator between the date and the time: the letter T in either case, or a space. -/
def separator : List Char → Step Unit
  | [] => .error .tooShort
  | c :: rest => if c = 'T' ∨ c = 't' ∨ c = ' ' then .ok ((), rest) else .error .invalid

/-- The nanoseconds of the digits after the point, of which the first is worth `unit`; digits below a nanosecond are worth
nothing. -/
def fractionFrom : Nat → List Char → Nat × List Char
  | _, [] => (0, [])
  | unit, c :: rest =>
    match Text.digit? c with
    | none => (0, c :: rest)
    | some d =>
      let (nanos, after) := fractionFrom (unit / 10) rest
      (d * unit + nanos, after)

/-- An optional fraction of a second in nanoseconds: a point and one digit at least. -/
def fraction : List Char → Step Nat
  | '.' :: [] => .error .tooShort
  | '.' :: c :: rest => if (Text.digit? c).isSome then .ok (fractionFrom 100000000 (c :: rest)) else .error .invalid
  | cs => .ok (0, cs)

/-- A date of the calendar. -/
def date (cs : List Char) : Except Fault (Date × List Char) := do
  let (year, cs) ← number 4 cs
  let ((), cs) ← mark '-' cs
  let (month, cs) ← number 2 cs
  let ((), cs) ← mark '-' cs
  let (day, cs) ← number 2 cs
  let date : Date := ⟨year, month, day⟩
  if date.exists? then .ok (date, cs) else .error .outOfRange

/-- A time of day in nanoseconds since midnight; the last minute of a day, like any other, may have sixty-one seconds. -/
def time (cs : List Char) : Except Fault (Nat × List Char) := do
  let (hour, cs) ← number 2 cs
  let ((), cs) ← mark ':' cs
  let (minute, cs) ← number 2 cs
  let ((), cs) ← mark ':' cs
  let (second, cs) ← number 2 cs
  let (nanos, cs) ← fraction cs
  if hour ≤ 23 ∧ minute ≤ 59 ∧ second ≤ 60 then .ok (((hour * 60 + minute) * 60 + second) * 1000000000 + nanos, cs)
  else .error .outOfRange

/-- The hours and minutes of an offset, in seconds. -/
def offsetTime (cs : List Char) : Except Fault (Nat × List Char) := do
  let (hours, cs) ← number 2 cs
  let ((), cs) ← mark ':' cs
  let (minutes, cs) ← number 2 cs
  if minutes ≤ 59 then .ok (hours * 3600 + minutes * 60, cs) else .error .outOfRange

/-- The offset from coordinated universal time in seconds: the letter Z in either case, or a sign, of which the minus may be
the mathematical one, and hours and minutes. -/
def offset : List Char → Step Int
  | [] => .error .tooShort
  | c :: rest =>
    if c = 'Z' ∨ c = 'z' then .ok (0, rest)
    else if c = '+' then (offsetTime rest).map (fun (seconds, after) => ((seconds : Int), after))
    else if c = '-' ∨ c = '\u2212' then (offsetTime rest).map (fun (seconds, after) => (-(seconds : Int), after))
    else .error .invalid

/-- What a text says: a date, the nanoseconds since its midnight, and the offset in seconds. -/
structure Reading where
  date : Date
  nanos : Nat
  offset : Int

/-- The milliseconds from the beginning of 1970 that have gone by at what a text says. -/
def Reading.millis (r : Reading) : Int :=
  (r.date.dayNumber * 86400 - r.offset) * 1000 + (r.nanos / 1000000 : Nat)

/-- The bytes of a date, a separator and a time without a fraction. -/
def leastLength : Nat := 19

/-- What a text says, all of it being read. -/
def fields (cs : List Char) : Except Fault Reading := do
  if Text.byteLength cs < leastLength then .error .tooShort
  else
    let (date, cs) ← date cs
    let ((), cs) ← separator cs
    let (nanos, cs) ← time cs
    let (offset, cs) ← offset cs
    if cs ≠ [] then .error .trailing
    else if offset.natAbs < 86400 then .ok ⟨date, nanos, offset⟩
    else .error .outOfRange

/-- The instant of a text. -/
def read (cs : List Char) : Except Fault Instant := (fields cs).map (fun r => ⟨Int64.ofInt r.millis⟩)

end Seedbed.Rfc3339
