import Mathlib
import Seedbed.Proofs.Instant.Rfc3339

/-!
# The text of an instant is read back

An instant is written as its date, its time of day and the offset, which is none. With two digits for the hour and the letter Z for the
offset, this is the text of a stamp (`text_stamp`), whose date is the one of the calendar that falls on the day of the instant, so that the
stamp is valid (`valid_stamp`) and says the instant itself (`floor_stamp`). The year has to have four digits, which is a matter of the
milliseconds alone (`hasStamp_iff`).
-/

namespace Seedbed.Instant

open Text Rfc3339

/-! ## From the text to the stamp -/

/-- A text of an instant with two digits for the hour and the letter Z for the offset. The hour stands between the first space and the
first colon behind it, and the offset behind the next space. -/
def restyle (cs : List Char) : List Char :=
  let day := cs.takeWhile (· ≠ ' ')
  let clock := (cs.dropWhile (· ≠ ' ')).drop 1
  let hour := clock.takeWhile (· ≠ ':')
  let rest := (clock.dropWhile (· ≠ ':')).takeWhile (· ≠ ' ')
  day ++ ' ' :: (hour.leftpad 2 '0' ++ rest) ++ ['Z']

/-- The part before a mark, and the mark with what is behind it. -/
theorem takeWhile_mark {front : List Char} {mark : Char} (h : mark ∉ front) (rest : List Char) :
    (front ++ mark :: rest).takeWhile (· ≠ mark) = front := by
  rw [List.takeWhile_append_of_pos (fun c hc => decide_eq_true (ne_of_mem_of_not_mem hc h)), List.takeWhile_cons_of_neg (by simp),
    List.append_nil]

theorem dropWhile_mark {front : List Char} {mark : Char} (h : mark ∉ front) (rest : List Char) :
    (front ++ mark :: rest).dropWhile (· ≠ mark) = mark :: rest := by
  rw [List.dropWhile_append_of_pos (fun c hc => decide_eq_true (ne_of_mem_of_not_mem hc h)), List.dropWhile_cons_of_neg (by simp)]

theorem restyle_append {day hour rest : List Char} (hday : ' ' ∉ day) (hhour : ':' ∉ hour) (hrest : ' ' ∉ rest) (offset : List Char) :
    restyle (day ++ ' ' :: (hour ++ ':' :: (rest ++ ' ' :: offset))) = day ++ ' ' :: (hour.leftpad 2 '0' ++ ':' :: (rest ++ ['Z'])) := by
  have hclock : ' ' ∉ ':' :: rest := List.not_mem_cons_of_ne_of_not_mem (by decide) hrest
  have hbehind : (':' :: (rest ++ ' ' :: offset)).takeWhile (· ≠ ' ') = ':' :: rest := takeWhile_mark hclock offset
  unfold restyle
  simp only [takeWhile_mark hday, dropWhile_mark hday, List.drop_succ_cons, List.drop_zero, takeWhile_mark hhour, dropWhile_mark hhour,
    hbehind, List.append_assoc, List.cons_append]

/-- An hour of one digit and one of two digits. -/
theorem leftpad_padded (n : Nat) : (padded 1 n).leftpad 2 '0' = padded 2 n := by
  have hlength : 1 - (digits n).length = 0 := Nat.sub_eq_zero_of_le (List.length_pos_iff.2 (digits_ne_nil n))
  rw [padded, hlength]
  rfl

/-! ## The fields of an instant -/

variable {t : Instant}

/-- The day of an instant, counted from the first of January 1970. -/
def dayNumber (t : Instant) : Int := t.millis.toInt / dayMillis

theorem exists?_date (t : Instant) : t.date.exists? = true := Date.exists?_ofDayNumber _

theorem dayNumber_date (t : Instant) : t.date.dayNumber = t.dayNumber := Date.dayNumber_ofDayNumber _

theorem month_lt (t : Instant) : t.date.month < 10 ^ 2 := by
  have hmonth := (Date.month_of_exists t.exists?_date).2
  omega

theorem day_lt (t : Instant) : t.date.day < 10 ^ 2 := by
  have hday := (Date.exists?_iff.1 t.exists?_date).2
  have hlength := Date.daysInMonth_le t.date.year t.date.month
  omega

theorem millisOfDay_lt (t : Instant) : t.millisOfDay < 86400000 := by
  unfold millisOfDay dayMillis
  omega

theorem millis_eq (t : Instant) : t.millis.toInt = t.dayNumber * 86400000 + t.millisOfDay := by
  unfold dayNumber millisOfDay dayMillis
  omega

/-- Whether the year of an instant has four digits. -/
def HasStamp (t : Instant) : Prop := 0 ≤ t.date.year ∧ t.date.year ≤ 9999

/-- The instants of the years of four digits, from the beginning of the first day to the last millisecond of the last. -/
theorem hasStamp_iff : t.HasStamp ↔ -62167219200000 ≤ t.millis.toInt ∧ t.millis.toInt ≤ 253402300799999 := by
  have hdays : (-62167219200000 ≤ t.millis.toInt ∧ t.millis.toInt ≤ 253402300799999) ↔
      -719528 ≤ t.dayNumber ∧ t.dayNumber ≤ 2932896 := by
    unfold dayNumber dayMillis
    omega
  rw [hdays]
  constructor
  · rintro ⟨hmin, hmax⟩
    rw [← dayNumber_date]
    exact Date.dayNumber_mem hmin hmax t.exists?_date
  · rintro ⟨hmin, hmax⟩
    exact Date.year_ofDayNumber hmin hmax

theorem allDigits_fractionText (millis : Nat) : AllDigits (fractionText millis) := by
  unfold fractionText
  split_ifs <;> exact allDigits_padded _ _

/-- Zeros at the end of a fraction do not count. -/
theorem parts_fractionText {millis : Nat} (h : millis < 1000) : parts 3 (fractionText millis) = millis := by
  unfold fractionText parts
  -- one digit, two and three differ in the width only
  split_ifs with hhundreds htens
  all_goals
    rw [valueOf_padded, length_padded (by decide) (by omega)]
    omega

theorem fractionText_ne_nil (millis : Nat) : fractionText millis ≠ [] := by
  unfold fractionText
  split_ifs <;> exact List.append_ne_nil_of_right_ne_nil _ (digits_ne_nil _)

theorem year_lt (h : t.HasStamp) : t.date.year.natAbs < 10 ^ 4 := by
  obtain ⟨hmin, hmax⟩ := h
  omega

theorem hour_lt (t : Instant) : t.millisOfDay / 3600000 < 10 ^ 2 := by
  have hless := t.millisOfDay_lt
  omega

/-- An instant as a stamp. -/
def stamp (t : Instant) (h : t.HasStamp) : Stamp where
  year := Field.ofNat 4 t.date.year.natAbs (by decide) (year_lt h)
  month := Field.ofNat 2 t.date.month (by decide) t.month_lt
  day := Field.ofNat 2 t.date.day (by decide) t.day_lt
  separator := ' '
  hour := Field.ofNat 2 (t.millisOfDay / 3600000) (by decide) t.hour_lt
  minute := Field.ofNat 2 (t.millisOfDay / 60000 % 60) (by decide) (by omega)
  second := Field.ofNat 2 (t.millisOfDay / 1000 % 60) (by decide) (by omega)
  fraction := some (fractionText (t.millisOfDay % 1000))
  zone := .utc 'Z' (.inl rfl)
  separator_eq := .inr (.inr rfl)
  fraction_digits := by
    rintro ds ⟨⟩
    exact ⟨allDigits_fractionText _, fractionText_ne_nil _⟩

/-- The date of the stamp is that of the instant. -/
theorem date_stamp (h : t.HasStamp) : (t.stamp h).date = t.date := by
  have hyear : ((t.date.year.natAbs : Nat) : Int) = t.date.year := Int.natAbs_of_nonneg h.1
  simp only [Stamp.date, stamp, Field.value_ofNat, hyear]

/-- The stamp of an instant names a date of the calendar and a time of day. -/
theorem valid_stamp (h : t.HasStamp) : (t.stamp h).Valid := by
  have hless := t.millisOfDay_lt
  refine ⟨date_stamp h ▸ t.exists?_date, ?_, ?_, ?_, trivial⟩ <;> simp only [stamp, Field.value_ofNat] <;> omega

/-- The stamp of an instant says that instant. -/
theorem floor_stamp (h : t.HasStamp) : ⌊(t.stamp h).seconds * 1000⌋ = t.millis.toInt := by
  have hless := t.millisOfDay_lt
  have hdate : (t.stamp h).date.counted - Date.epoch.counted = t.dayNumber := by
    rw [← Date.dayNumber_eq (t.stamp h).zero_le_year (valid_stamp h).1, date_stamp, dayNumber_date]
  have htime : (t.stamp h).secondOfDay = t.millisOfDay / 1000 := by
    simp only [Stamp.secondOfDay, stamp, Field.value_ofNat]
    omega
  have hzone : (t.stamp h).zone.seconds = 0 := rfl
  have hfraction : parts 3 (t.stamp h).decimals = t.millisOfDay % 1000 := parts_fractionText (Nat.mod_lt _ (by decide))
  rw [Stamp.floor_seconds, Stamp.wholeSeconds, hdate, htime, hzone, hfraction, millis_eq]
  omega

/-! ## The text of an instant -/

/-- The date of an instant as it is written. -/
def dayText (t : Instant) : List Char := padded 4 t.date.year.natAbs ++ '-' :: (padded 2 t.date.month ++ '-' :: padded 2 t.date.day)

/-- The time of day of an instant as it is written, without the hour. -/
def restText (t : Instant) : List Char :=
  padded 2 (t.millisOfDay / 60000 % 60) ++ ':' ::
    (padded 2 (t.millisOfDay / 1000 % 60) ++ '.' :: fractionText (t.millisOfDay % 1000))

theorem text_eq (h : t.HasStamp) :
    t.text = t.dayText ++ ' ' ::
      (padded 1 (t.millisOfDay / 3600000) ++ ':' :: (t.restText ++ [' ', '+', '0', '0', ':', '0', '0', ':', '0', '0'])) := by
  obtain ⟨hmin, hmax⟩ := h
  have hwritable : t.isWritable = true := by
    simp only [isWritable, Bool.and_eq_true, decide_eq_true_eq]
    omega
  have hyear : yearText t.date.year = padded 4 t.date.year.natAbs := by
    rw [yearText, if_neg (by omega), if_neg (by omega), List.nil_append]
  rw [text, if_pos hwritable, dayAndTime, hyear]
  simp [dayText, restText]

theorem text_stamp_eq (h : t.HasStamp) :
    (t.stamp h).text = t.dayText ++ ' ' :: (padded 2 (t.millisOfDay / 3600000) ++ ':' :: (t.restText ++ ['Z'])) := by
  simp [Stamp.text, Stamp.timeText, Stamp.fractionText, stamp, Field.ofNat, Zone.text, dayText, restText]

theorem not_mem_padded {c : Char} (hc : c.isDigit = false) (width n : Nat) : c ∉ padded width n :=
  not_mem_of_allDigits (allDigits_padded width n) hc

/-- With two digits for the hour and the letter Z for the offset, the text of an instant is that of its stamp. -/
theorem text_stamp (h : t.HasStamp) : (t.stamp h).text = restyle t.text := by
  have hday : ' ' ∉ t.dayText := by simp [dayText, not_mem_padded]
  have hhour : ':' ∉ padded 1 (t.millisOfDay / 3600000) := not_mem_padded rfl _ _
  have hfraction : ' ' ∉ fractionText (t.millisOfDay % 1000) := not_mem_of_allDigits (allDigits_fractionText _) rfl
  have hrest : ' ' ∉ t.restText := by simp [restText, not_mem_padded, hfraction]
  rw [text_stamp_eq, text_eq h, restyle_append hday hhour hrest, leftpad_padded]

/-- The text of an instant, with two digits for the hour and the letter Z for the offset, is read as that instant. -/
theorem read_restyle (h : t.HasStamp) : read (restyle t.text) = .ok t := by
  rw [← text_stamp h, Stamp.read_text, if_pos (valid_stamp h), floor_stamp, Int64.ofInt_toInt]

end Seedbed.Instant
