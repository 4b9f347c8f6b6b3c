import Seedbed.Instant.Calendar
import Seedbed.Text.Numeral

/-!
# Instants

A point in time as milliseconds since the beginning of 1970 in coordinated universal time, and its text: the date, the time of
day and the offset, which is always zero. The hour is written without a leading zero, the fraction of the second without
trailing zeros but with one digit at least, and a year of more than four digits with its sign. An instant whose year has more
than six digits is written as its milliseconds.
-/

namespace Seedbed

/-- A point in time, in milliseconds since the beginning of 1970. -/
structure Instant where
  millis : Int64
  deriving DecidableEq, Repr

namespace Instant

/-- The milliseconds of a day. -/
def dayMillis : Int := 86400000

/-- The date of an instant. -/
def date (t : Instant) : Date := Date.ofDayNumber (t.millis.toInt / dayMillis)

/-- The milliseconds of an instant since the beginning of its day. -/
def millisOfDay (t : Instant) : Nat := (t.millis.toInt % dayMillis).toNat

/-- A year: four digits at least, a minus before a negative one and a plus before one of more than four digits. -/
def yearText (year : Int) : List Char :=
  (if year < 0 then ['-'] else if 9999 < year then ['+'] else []) ++ Text.padded 4 year.natAbs

/-- The milliseconds of a second as a fraction without trailing zeros, but with one digit. -/
def fractionText (millis : Nat) : List Char :=
  if millis % 100 = 0 then Text.padded 1 (millis / 100)
  else if millis % 10 = 0 then Text.padded 2 (millis / 10)
  else Text.padded 3 millis

/-- The date and the time of day of an instant, the hour being written with the given number of digits at least. -/
def dayAndTime (hourWidth : Nat) (separator : Char) (t : Instant) : List Char :=
  let d := t.date
  let ms := t.millisOfDay
  yearText d.year ++ '-' :: Text.padded 2 d.month ++ '-' :: Text.padded 2 d.day ++ separator ::
    Text.padded hourWidth (ms / 3600000) ++ ':' :: Text.padded 2 (ms / 60000 % 60) ++ ':' ::
    Text.padded 2 (ms / 1000 % 60)

/-- Whether the year of an instant has at most six digits. -/
def isWritable (t : Instant) : Bool := -999999 ≤ t.date.year && t.date.year ≤ 999999

/-- An instant in words. -/
def text (t : Instant) : List Char :=
  if t.isWritable then
    t.dayAndTime 1 ' ' ++ '.' :: fractionText (t.millisOfDay % 1000) ++ [' ', '+', '0', '0', ':', '0', '0', ':', '0', '0']
  else (toString t.millis.toInt).toList

/-- An instant in words, as a string. -/
def render (t : Instant) : String := String.ofList t.text

end Instant

end Seedbed
