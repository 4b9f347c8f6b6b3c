/-!
# The proleptic Gregorian calendar

Dates and the days they fall on. Days are counted from the first of January 1970. Years are reckoned from March, so that the
leap day is the last of its year, and in cycles of four hundred years, which have the same number of days each.
-/

namespace Seedbed

/-- A date of the calendar: a year, a month from 1 and a day from 1. -/
structure Date where
  year : Int
  month : Nat
  day : Nat
  deriving DecidableEq, Repr

namespace Date

/-- Whether a year has a leap day. -/
def isLeap (year : Int) : Bool := year % 4 == 0 && (year % 100 != 0 || year % 400 == 0)

/-- The number of days of a month; none for what is no month. -/
def daysInMonth (year : Int) (month : Nat) : Nat :=
  if month = 2 then (if isLeap year then 29 else 28)
  else if month = 4 ∨ month = 6 ∨ month = 9 ∨ month = 11 then 30
  else if 1 ≤ month ∧ month ≤ 12 then 31
  else 0

/-- Whether the date is one of the calendar. -/
def exists? (d : Date) : Bool := 1 ≤ d.day && d.day ≤ daysInMonth d.year d.month

/-- The days of a cycle of four hundred years. -/
def cycleDays : Int := 146097

/-- The day of the first of March of the year 0, counted from the first of January 1970, with its sign turned. -/
def epochShift : Int := 719468

/-- The day a date falls on, counted from the first of January 1970. -/
def dayNumber (d : Date) : Int :=
  let year := if d.month ≤ 2 then d.year - 1 else d.year
  let yearOfCycle := year % 400
  let monthFromMarch := (d.month + 9) % 12
  let dayOfYear : Int := ((153 * monthFromMarch + 2) / 5 + d.day : Nat) - 1
  year / 400 * cycleDays + (yearOfCycle * 365 + yearOfCycle / 4 - yearOfCycle / 100 + dayOfYear) - epochShift

/-- The date of a day counted from the first of January 1970. -/
def ofDayNumber (n : Int) : Date :=
  let shifted := n + epochShift
  let cycle := shifted / cycleDays
  let dayOfCycle := (shifted % cycleDays).toNat
  let yearOfCycle := (dayOfCycle - dayOfCycle / 1460 + dayOfCycle / 36524 - dayOfCycle / 146096) / 365
  let dayOfYear := dayOfCycle - (365 * yearOfCycle + yearOfCycle / 4 - yearOfCycle / 100)
  let monthFromMarch := (5 * dayOfYear + 2) / 153
  let day := dayOfYear - (153 * monthFromMarch + 2) / 5 + 1
  let month := if monthFromMarch < 10 then monthFromMarch + 3 else monthFromMarch - 9
  let year := (yearOfCycle : Int) + cycle * 400
  ⟨if month ≤ 2 then year + 1 else year, month, day⟩

end Date

end Seedbed
