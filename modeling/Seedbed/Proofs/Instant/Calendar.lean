import Mathlib.Algebra.BigOperators.Group.Finset.Basic
import Mathlib.Tactic.IntervalCases
import Seedbed.Instant.Calendar

/-!
# Days of the calendar are counted

The number of a day is computed from its date by a formula. Here it is compared with counting: the days of the years before, of the
months before in the same year, and of the days before in the same month (`Date.counted`). The formula counts from the first of January
1970 (`dayNumber_eq`). In the other direction, the date of a day is one of the calendar (`exists?_ofDayNumber`), and it falls on that day
(`dayNumber_ofDayNumber`).
-/

namespace Seedbed.Date

/-! ## Counting -/

/-- The days of a year. -/
def yearDays (year : Int) : Nat := if isLeap year then 366 else 365

/-- The days from the first of January of the year 0 to a date, year by year, month by month and day by day. -/
def counted (d : Date) : Int :=
  (∑ year ∈ Finset.range d.year.toNat, yearDays year : Nat) + (∑ month ∈ Finset.range (d.month - 1), daysInMonth d.year (month + 1) : Nat) +
    (d.day - 1 : Int)

/-- The first of January 1970. -/
def epoch : Date := ⟨1970, 1, 1⟩

theorem isLeap_iff {year : Int} : isLeap year = true ↔ year % 4 = 0 ∧ (year % 100 ≠ 0 ∨ year % 400 = 0) := by
  simp [isLeap]

/-- A year in four has a leap day, but not every hundredth, and yet every four hundredth. -/
theorem sum_yearDays (n : Nat) :
    ((∑ year ∈ Finset.range n, yearDays year : Nat) : Int) = 365 * n + (n + 3) / 4 - (n + 99) / 100 + (n + 399) / 400 := by
  induction n with
  | zero => rfl
  | succ n ih =>
    rw [Finset.sum_range_succ, Nat.cast_add, ih, yearDays]
    by_cases hleap : isLeap (n : Int) = true
    · rw [if_pos hleap]
      rw [isLeap_iff] at hleap
      omega
    · rw [if_neg hleap]
      rw [isLeap_iff] at hleap
      omega

/-- The days of the months before a month. -/
theorem sum_daysInMonth (year : Int) {month : Nat} (hmin : 1 ≤ month) (hmax : month ≤ 12) :
    ∑ m ∈ Finset.range (month - 1), daysInMonth year (m + 1) =
      if month ≤ 2 then 31 * (month - 1) else (153 * (month - 3) + 2) / 5 + 59 + if isLeap year then 1 else 0 := by
  have hfebruary : daysInMonth year 2 = 28 + if isLeap year then 1 else 0 := by
    rw [daysInMonth, if_pos rfl]
    split <;> rfl
  interval_cases month <;> simp [Finset.sum_range_succ, hfebruary] <;> simp [daysInMonth] <;> omega

theorem exists?_iff {d : Date} : d.exists? = true ↔ 1 ≤ d.day ∧ d.day ≤ daysInMonth d.year d.month := by
  simp [exists?]

/-- There are twelve months. -/
theorem month_of_exists {d : Date} (h : d.exists? = true) : 1 ≤ d.month ∧ d.month ≤ 12 := by
  rw [exists?_iff] at h
  unfold daysInMonth at h
  split_ifs at h <;> omega

/-- The number of a day in the leap cycle, counted from the first of March of the year 0. -/
theorem dayNumber_formula (d : Date) :
    d.dayNumber = let year := if d.month ≤ 2 then d.year - 1 else d.year
      365 * year + year / 4 - year / 100 + year / 400 + (((153 * ((d.month + 9) % 12) + 2) / 5 + d.day : Nat) - 1) - 719468 := by
  unfold dayNumber cycleDays epochShift
  dsimp only
  split <;> omega

theorem counted_epoch : epoch.counted = 719528 := by
  have hyears : ((∑ year ∈ Finset.range 1970, yearDays year : Nat) : Int) = 719528 := sum_yearDays 1970
  exact congrArg (· + (0 : Int) + 0) hyears

/-- The formula for the number of a day counts from the first of January 1970. -/
theorem dayNumber_eq {d : Date} (hyear : 0 ≤ d.year) (h : d.exists? = true) : d.dayNumber = d.counted - epoch.counted := by
  obtain ⟨hmin, hmax⟩ := month_of_exists h
  obtain ⟨year, month, day⟩ := d
  obtain ⟨n, rfl⟩ := Int.eq_ofNat_of_zero_le hyear
  dsimp only at hmin hmax
  have hday : 1 ≤ day := (exists?_iff.1 h).1
  rw [dayNumber_formula, counted, counted_epoch]
  dsimp only
  rw [Int.toNat_natCast, sum_yearDays, sum_daysInMonth _ hmin hmax]
  by_cases hwinter : month ≤ 2
  · -- the leap day of the year is still to come
    rw [if_pos hwinter, if_pos hwinter]
    omega
  · rw [if_neg hwinter, if_neg hwinter]
    by_cases hleap : isLeap (n : Int) = true
    · rw [if_pos hleap]
      rw [isLeap_iff] at hleap
      omega
    · rw [if_neg hleap]
      rw [isLeap_iff] at hleap
      omega

theorem daysInMonth_le (year : Int) (month : Nat) : daysInMonth year month ≤ 31 := by
  unfold daysInMonth
  split_ifs <;> omega

/-- The days of the years of four digits, from the first of January of the year 0 to the last of December of the year 9999. -/
theorem dayNumber_mem {d : Date} (hmin : 0 ≤ d.year) (hmax : d.year ≤ 9999) (h : d.exists? = true) :
    -719528 ≤ d.dayNumber ∧ d.dayNumber ≤ 2932896 := by
  obtain ⟨hjanuary, hdecember⟩ := month_of_exists h
  obtain ⟨hfirst, hlast⟩ := exists?_iff.1 h
  obtain ⟨year, month, day⟩ := d
  have hday : day ≤ 31 := Nat.le_trans hlast (daysInMonth_le year month)
  dsimp only at hmin hmax hjanuary hdecember hfirst
  clear h hlast
  rw [dayNumber_formula]
  dsimp only
  -- the bounds are tight in the first and in the last year
  rcases (by omega : year = 0 ∨ year = 9999 ∨ 1 ≤ year ∧ year ≤ 9998) with rfl | rfl | hbetween
  · split <;> omega
  · split <;> omega
  · split <;> omega

/-! ## From days to dates -/

/-- The first of March of a year in the cycle of four hundred years, counted from the beginning of the cycle. -/
def yearStart (year : Nat) : Nat := 365 * year + year / 4 - year / 100

/-- The date of a day of a year that begins with March. -/
def fromMarch (year : Int) (day : Nat) : Date :=
  let monthFromMarch := (5 * day + 2) / 153
  let month := if monthFromMarch < 10 then monthFromMarch + 3 else monthFromMarch - 9
  ⟨if month ≤ 2 then year + 1 else year, month, day - (153 * monthFromMarch + 2) / 5 + 1⟩

/-- A day of the cycle lies in a century, in four years of it, and in one of these years, whose last day may be a leap day. -/
theorem exists_century {n : Nat} (h : n < 146097) :
    ∃ century span year day, century ≤ 3 ∧ span ≤ 24 ∧ year ≤ 3 ∧ day ≤ 365 ∧ (day = 365 → year = 3 ∧ (span < 24 ∨ century = 3)) ∧
      n = 36524 * century + 1461 * span + 365 * year + day := by
  -- the last century and the last of four years are a day longer than the others
  obtain ⟨century, hcentury, hlow, hhigh⟩ :
      ∃ century ≤ 3, 36524 * century ≤ n ∧ n - 36524 * century ≤ if century = 3 then 36524 else 36523 :=
    ⟨min 3 (n / 36524), by omega, by omega, by split <;> omega⟩
  obtain ⟨year, hyear, hlow', hhigh'⟩ :
      ∃ year ≤ 3, 365 * year ≤ (n - 36524 * century) % 1461 ∧
        (n - 36524 * century) % 1461 - 365 * year ≤ if year = 3 then 365 else 364 :=
    ⟨min 3 ((n - 36524 * century) % 1461 / 365), by omega, by omega, by split <;> omega⟩
  refine ⟨century, (n - 36524 * century) / 1461, year, (n - 36524 * century) % 1461 - 365 * year, hcentury, ?_, hyear, ?_, ?_, ?_⟩
  · split at hhigh <;> omega
  · split at hhigh' <;> omega
  · split at hhigh <;> split at hhigh' <;> omega
  · omega

theorem yearStart_eq {century span year : Nat} (hspan : span ≤ 24) (hyear : year ≤ 3) :
    yearStart (100 * century + 4 * span + year) = 36524 * century + 1461 * span + 365 * year := by
  unfold yearStart
  omega

/-- The year of a day of the cycle is found by taking the leap days out. -/
theorem yearOfCycle_eq {n century span year day : Nat} (hspan : span ≤ 24) (hyear : year ≤ 3) (hcentury : century ≤ 3)
    (hday : day ≤ 365) (hleap : day = 365 → year = 3 ∧ (span < 24 ∨ century = 3))
    (hn : n = 36524 * century + 1461 * span + 365 * year + day) :
    (n - n / 1460 + n / 36524 - n / 146096) / 365 = 100 * century + 4 * span + year := by
  have hfour : n / 1460 = 25 * century + span + if 1460 ≤ 24 * century + span + 365 * year + day then 1 else 0 := by
    split <;> omega
  have hhundred : n / 36524 = century + if n = 146096 then 1 else 0 := by
    split <;> omega
  have hcycle : n / 146096 = if n = 146096 then 1 else 0 := by
    split <;> omega
  rw [hfour, hhundred, hcycle]
  clear hfour hhundred hcycle
  split <;> split <;> omega

/-- A day of the cycle is one of a year, which is the one that is found, and it is the last one of a year of 366 days only if there is a
leap day. -/
theorem exists_year_of_cycle {n : Nat} (h : n < 146097) :
    ∃ year day, year < 400 ∧ day ≤ 365 ∧ (day = 365 → (year + 1) % 4 = 0 ∧ ((year + 1) % 100 ≠ 0 ∨ (year + 1) % 400 = 0)) ∧
      n = yearStart year + day ∧ (n - n / 1460 + n / 36524 - n / 146096) / 365 = year := by
  obtain ⟨century, span, year, day, hcentury, hspan, hyear, hday, hleap, hn⟩ := exists_century h
  have hfound := yearOfCycle_eq hspan hyear hcentury hday hleap hn
  have hstart : yearStart (100 * century + 4 * span + year) = _ := yearStart_eq hspan hyear
  refine ⟨100 * century + 4 * span + year, day, by omega, hday, fun hlast => ?_, by rw [hstart, hn], hfound⟩
  obtain ⟨rfl, hlong⟩ := hleap hlast
  clear hfound hn hstart
  rcases hlong with hlong | rfl <;> omega

/-- The date of a day is that of a day in a year of some cycle. -/
theorem exists_fromMarch (n : Int) :
    ∃ (cycle : Int) (year day : Nat), year < 400 ∧ day ≤ 365 ∧ (day = 365 → isLeap (400 * cycle + year + 1) = true) ∧
      n + 719468 = 146097 * cycle + (yearStart year + day : Nat) ∧ yearStart year + day < 146097 ∧
      ofDayNumber n = fromMarch (400 * cycle + year) day := by
  obtain ⟨dayOfCycle, hday⟩ : ∃ k : Nat, (n + 719468) % 146097 = k := Int.eq_ofNat_of_zero_le (Int.emod_nonneg _ (by decide))
  have hless : dayOfCycle < 146097 := by omega
  obtain ⟨year, day, hyear, hlength, hleap, rfl, hfound⟩ := exists_year_of_cycle hless
  refine ⟨(n + 719468) / 146097, year, day, hyear, hlength, ?_, by omega, hless, ?_⟩
  · intro hlast
    have hcycle := hleap hlast
    rw [isLeap_iff]
    omega
  · have hrest : yearStart year + day - (365 * year + year / 4 - year / 100) = day := by
      rw [← yearStart, Nat.add_sub_cancel_left]
    have hcycle : (year : Int) + (n + 719468) / 146097 * 400 = 400 * ((n + 719468) / 146097) + year := by omega
    unfold ofDayNumber epochShift cycleDays
    dsimp only
    rw [hday, Int.toNat_natCast, hfound, hrest, hcycle, fromMarch]

/-- The formula turns a date back into the day of the year that begins with March. -/
theorem dayNumber_fromMarch (year : Int) {day : Nat} (h : day ≤ 365) :
    (fromMarch year day).dayNumber = 365 * year + year / 4 - year / 100 + year / 400 + day - 719468 := by
  obtain ⟨m, hm⟩ : ∃ m, m = (5 * day + 2) / 153 := ⟨_, rfl⟩
  have hmonth : m ≤ 11 := by omega
  have hbefore : (153 * m + 2) / 5 ≤ day := by omega
  rw [dayNumber_formula, fromMarch]
  dsimp only
  rw [← hm]
  by_cases hautumn : m < 10
  · have hback : (m + 3 + 9) % 12 = m := by omega
    rw [if_pos hautumn, if_neg (by omega), if_neg (by omega), hback]
    omega
  · have hback : (m - 9 + 9) % 12 = m := by omega
    rw [if_neg hautumn, if_pos (by omega), if_pos (by omega), hback, Int.add_sub_cancel]
    omega

/-- A month but February has the same days in all years. -/
theorem daysInMonth_of_ne {year : Int} {month : Nat} (hmin : 1 ≤ month) (hmax : month ≤ 12) (hne : month ≠ 2) :
    daysInMonth year month = if month = 4 ∨ month = 6 ∨ month = 9 ∨ month = 11 then 30 else 31 := by
  rw [daysInMonth, if_neg hne]
  split
  · rfl
  · exact if_pos ⟨hmin, hmax⟩

/-- A day of a year that begins with March is one of its month. -/
theorem exists?_fromMarch {year : Int} {day : Nat} (h : day ≤ 365) (hleap : day = 365 → isLeap (year + 1) = true) :
    (fromMarch year day).exists? = true := by
  obtain ⟨m, hm⟩ : ∃ m, m = (5 * day + 2) / 153 := ⟨_, rfl⟩
  have hmonth : m ≤ 11 := by omega
  rw [exists?_iff, fromMarch]
  dsimp only
  rw [← hm]
  refine ⟨by omega, ?_⟩
  by_cases hfebruary : m = 11
  · subst hfebruary
    simp only [daysInMonth]
    by_cases hlast : day = 365
    · simp [hleap hlast, hlast]
    · have hlength : day - (153 * 11 + 2) / 5 + 1 ≤ 28 := by omega
      simp
      split <;> omega
  · rw [daysInMonth_of_ne (by split <;> omega) (by split <;> omega) (by split <;> omega)]
    split <;> split <;> omega

/-- The date of a day is one of the calendar. -/
theorem exists?_ofDayNumber (n : Int) : (ofDayNumber n).exists? = true := by
  obtain ⟨cycle, year, day, -, hday, hleap, -, -, hdate⟩ := exists_fromMarch n
  rw [hdate]
  exact exists?_fromMarch hday hleap

/-- The date of a day falls on that day. -/
theorem dayNumber_ofDayNumber (n : Int) : (ofDayNumber n).dayNumber = n := by
  obtain ⟨cycle, year, day, hyear, hday, -, hn, -, hdate⟩ := exists_fromMarch n
  rw [hdate, dayNumber_fromMarch _ hday]
  unfold yearStart at hn
  omega

/-- The days from the first of January of the year 0 to the last of December of the year 9999 have years of four digits. -/
theorem year_ofDayNumber {n : Int} (hmin : -719528 ≤ n) (hmax : n ≤ 2932896) :
    0 ≤ (ofDayNumber n).year ∧ (ofDayNumber n).year ≤ 9999 := by
  obtain ⟨cycle, year, day, hyear, hday, -, hn, hless, hdate⟩ := exists_fromMarch n
  rw [hdate, fromMarch]
  unfold yearStart at hn hless
  dsimp only
  split <;> omega

end Seedbed.Date
