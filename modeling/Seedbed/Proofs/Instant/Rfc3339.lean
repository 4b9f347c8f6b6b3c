import Mathlib
import Seedbed.Instant.Rfc3339
import Seedbed.Proofs.Instant.Calendar
import Seedbed.Proofs.Text.Digits

/-!
# Stamps of instants

A stamp is a date, a separator, a time of day, a fraction of a second of any length and a zone, each field having its full number of
digits. The reader accepts a stamp exactly if it names a date of the calendar and a time of day, and finds in it the fields that it has
(`fields_text`). The instant that it makes of them is the last millisecond that is not after the exact one, which is a number of seconds
from the beginning of 1970 and may be negative (`Stamp.read_text`), so that nothing behind the third digit of the fraction counts
(`Stamp.read_cut`).
-/

namespace Seedbed.Rfc3339

open Text

/-! ## Fields -/

/-- A number of so many digits. -/
structure Field (width : Nat) where
  digits : List Char
  allDigits : AllDigits digits
  length_eq : digits.length = width

/-- The number of a field. -/
def Field.value {width : Nat} (f : Field width) : Nat := valueOf f.digits

/-- A number with zeros in front up to the width of a field. -/
def Field.ofNat (width n : Nat) (hwidth : 0 < width) (h : n < 10 ^ width) : Field width where
  digits := padded width n
  allDigits := allDigits_padded width n
  length_eq := length_padded hwidth h

@[simp] theorem Field.value_ofNat {width n : Nat} (hwidth : 0 < width) (h : n < 10 ^ width) : (ofNat width n hwidth h).value = n :=
  valueOf_padded width n

/-- A zone: the letter Z in either case, or a sign with hours and minutes. -/
inductive Zone where
  | utc (letter : Char) (letter_eq : letter = 'Z' ∨ letter = 'z')
  | offset (negative : Bool) (hours minutes : Field 2)

namespace Zone

/-- A zone as it is written. -/
def text : Zone → List Char
  | utc letter _ => [letter]
  | offset negative hours minutes => (if negative then '-' else '+') :: (hours.digits ++ ':' :: minutes.digits)

/-- How far the clocks of a zone are ahead of coordinated universal time, in seconds. -/
def seconds : Zone → Int
  | utc _ _ => 0
  | offset negative hours minutes =>
    let ahead : Int := (hours.value * 3600 + minutes.value * 60 : Nat)
    if negative then -ahead else ahead

/-- Whether the hours and minutes of a zone are some of a day. -/
def Valid : Zone → Prop
  | utc _ _ => True
  | offset _ hours minutes => hours.value ≤ 23 ∧ minutes.value ≤ 59

/-- The minutes of a zone. -/
def minute : Zone → Nat
  | utc _ _ => 0
  | offset _ _ minutes => minutes.value

instance (z : Zone) : Decidable z.Valid := by
  unfold Valid
  cases z <;> infer_instance

end Zone

/-- A stamp of an instant. -/
structure Stamp where
  year : Field 4
  month : Field 2
  day : Field 2
  separator : Char
  hour : Field 2
  minute : Field 2
  second : Field 2
  fraction : Option (List Char)
  zone : Zone
  separator_eq : separator = 'T' ∨ separator = 't' ∨ separator = ' '
  fraction_digits : ∀ ds ∈ fraction, AllDigits ds ∧ ds ≠ []

namespace Stamp

variable (s : Stamp)

/-- The fraction of the second as it is written. -/
def fractionText : List Char :=
  match s.fraction with
  | none => []
  | some ds => '.' :: ds

/-- The time of day as it is written. -/
def timeText : List Char :=
  s.hour.digits ++ ':' :: (s.minute.digits ++ ':' :: (s.second.digits ++ s.fractionText))

/-- A stamp as it is written. -/
def text : List Char :=
  s.year.digits ++ '-' :: (s.month.digits ++ '-' :: (s.day.digits ++ s.separator :: (s.timeText ++ s.zone.text)))

/-- A stamp as a literal. -/
def literal : String := String.ofList s.text

/-- The date of a stamp. -/
def date : Date := ⟨s.year.value, s.month.value, s.day.value⟩

/-- The digits of the fraction. -/
def decimals : List Char := s.fraction.getD []

/-- Whether a stamp names a date of the calendar, a time of day and a zone; every minute may have sixty-one seconds. -/
def Valid : Prop := s.date.exists? = true ∧ s.hour.value ≤ 23 ∧ s.minute.value ≤ 59 ∧ s.second.value ≤ 60 ∧ s.zone.Valid

instance : Decidable s.Valid := by
  unfold Valid
  infer_instance

/-- The whole seconds of a stamp since midnight. -/
def secondOfDay : Nat := (s.hour.value * 60 + s.minute.value) * 60 + s.second.value

/-- The whole seconds of a stamp from the beginning of 1970 in coordinated universal time, the days being counted one by one. -/
def wholeSeconds : Int := (s.date.counted - Date.epoch.counted) * 86400 + s.secondOfDay - s.zone.seconds

/-- The exact seconds of a stamp from the beginning of 1970 in coordinated universal time. -/
def seconds : ℚ := s.wholeSeconds + valueOf s.decimals / 10 ^ s.decimals.length

end Stamp

/-- How many parts of a fraction have gone by, of which a power of ten makes a whole: milliseconds if it is the third. -/
def parts (k : Nat) (ds : List Char) : Nat := valueOf ds * 10 ^ k / 10 ^ ds.length

/-- What the reader keeps of a stamp. -/
def Stamp.reading (s : Stamp) : Reading where
  date := s.date
  nanos := s.secondOfDay * 1000000000 + parts 9 s.decimals
  offset := s.zone.seconds

/-! ## Reading a field -/

/-- Every character takes a byte at least. -/
theorem length_le_byteLength (cs : List Char) : cs.length ≤ byteLength cs := by
  induction cs with
  | nil => exact Nat.le_refl 0
  | cons c rest ih =>
    have hc := c.utf8Size_pos
    rw [List.length_cons, byteLength]
    omega

theorem numberFrom_append {ds : List Char} (h : AllDigits ds) (acc : Nat) (rest : List Char) :
    numberFrom ds.length acc (ds ++ rest) = .ok (Nat.ofDigitChars 10 ds acc, rest) := by
  induction ds generalizing acc with
  | nil => rfl
  | cons c cs ih =>
    obtain ⟨hc, hcs⟩ := List.forall_mem_cons.1 h
    rw [List.length_cons, List.cons_append, numberFrom, digit?_of_isDigit hc, Nat.ofDigitChars_cons, Nat.mul_comm 10]
    exact ih hcs _

/-- A field is read as its number. -/
theorem number_field {width : Nat} (f : Field width) (rest : List Char) : number width (f.digits ++ rest) = .ok (f.value, rest) := by
  have hbytes := length_le_byteLength (f.digits ++ rest)
  rw [List.length_append, f.length_eq] at hbytes
  rw [number, if_neg (by omega)]
  have hread := numberFrom_append f.allDigits 0 rest
  rwa [f.length_eq] at hread

theorem mark_cons (c : Char) (rest : List Char) : mark c (c :: rest) = .ok ((), rest) := if_pos rfl

/-! ## Reading a fraction -/

variable {ds : List Char} {c : Char}

/-- Digits behind the one that is worth one unit are worth nothing. -/
theorem fractionFrom_zero (h : AllDigits ds) (hc : c.isDigit = false) (rest : List Char) :
    fractionFrom 0 (ds ++ c :: rest) = (0, c :: rest) := by
  induction ds with
  | nil => rw [List.nil_append, fractionFrom, digit?_of_not_isDigit hc]
  | cons d ds ih =>
    obtain ⟨hd, hds⟩ := List.forall_mem_cons.1 h
    rw [List.cons_append, fractionFrom, digit?_of_isDigit hd]
    simp only [Nat.zero_div, ih hds]
    rfl

theorem parts_nil (k : Nat) : parts k [] = 0 := Nat.div_eq_of_lt (by simp)

/-- A digit that is worth one part, and digits behind it. -/
theorem parts_one_cons (h : AllDigits ds) (d : Char) : parts 1 (d :: ds) = d.toNat - 48 := by
  rw [parts, List.length_cons, Nat.pow_one, Nat.pow_succ, Nat.mul_div_mul_right _ _ (by decide), ← List.singleton_append,
    valueOf_append_div h, valueOf_singleton]

/-- A digit that is worth more parts, and digits behind it. -/
theorem parts_succ_cons (k : Nat) (d : Char) (ds : List Char) :
    parts (k + 2) (d :: ds) = (d.toNat - 48) * 10 ^ (k + 1) + parts (k + 1) ds := by
  unfold parts
  rw [valueOf_cons, List.length_cons]
  generalize d.toNat - 48 = n
  calc (n * 10 ^ ds.length + valueOf ds) * 10 ^ (k + 2) / 10 ^ (ds.length + 1)
      = (n * 10 ^ ds.length + valueOf ds) * 10 ^ (k + 1) * 10 / (10 ^ ds.length * 10) := by
        rw [Nat.pow_succ 10 (k + 1), Nat.pow_succ 10 ds.length, Nat.mul_assoc]
    _ = (10 ^ ds.length * (n * 10 ^ (k + 1)) + valueOf ds * 10 ^ (k + 1)) / 10 ^ ds.length := by
        rw [Nat.mul_div_mul_right _ _ (by decide), Nat.add_mul, Nat.mul_right_comm, Nat.mul_comm (10 ^ ds.length)]
    _ = n * 10 ^ (k + 1) + valueOf ds * 10 ^ (k + 1) / 10 ^ ds.length := Nat.mul_add_div (Nat.pow_pos (by decide)) _ _

/-- Digits of which the first is worth a power of ten are read as the parts that have gone by. -/
theorem fractionFrom_append (h : AllDigits ds) (hc : c.isDigit = false) (rest : List Char) (k : Nat) :
    fractionFrom (10 ^ k) (ds ++ c :: rest) = (parts (k + 1) ds, c :: rest) := by
  induction ds generalizing k with
  | nil => rw [List.nil_append, fractionFrom, digit?_of_not_isDigit hc, parts_nil]
  | cons d ds ih =>
    obtain ⟨hd, hds⟩ := List.forall_mem_cons.1 h
    rw [List.cons_append, fractionFrom, digit?_of_isDigit hd]
    cases k with
    | zero => simp only [fractionFrom_zero hds hc, parts_one_cons hds, Nat.pow_zero, Nat.mul_one, Nat.add_zero]
    | succ k =>
      have hunit : 10 ^ (k + 1) / 10 = 10 ^ k := Nat.mul_div_cancel _ (by decide)
      simp only [hunit, ih hds k, parts_succ_cons]

/-- A fraction is read as its nanoseconds. -/
theorem fraction_text (s : Stamp) (hc : c.isDigit = false) (hpoint : c ≠ '.') (rest : List Char) :
    fraction (s.fractionText ++ c :: rest) = .ok (parts 9 s.decimals, c :: rest) := by
  have hdigits := s.fraction_digits
  unfold Stamp.fractionText Stamp.decimals
  cases hfraction : s.fraction with
  | none =>
    show fraction (c :: rest) = .ok (parts 9 [], c :: rest)
    rw [parts_nil]
    unfold fraction
    split <;> simp_all
  | some ds =>
    obtain ⟨hall, hne⟩ := hdigits ds hfraction
    obtain ⟨d, more, rfl⟩ := List.exists_cons_of_ne_nil hne
    have hsome : (digit? d).isSome = true := by rw [digit?_of_isDigit (hall d List.mem_cons_self)]; rfl
    have hread := fractionFrom_append hall hc rest 8
    simp only [List.cons_append, fraction, hsome, if_true]
    exact congrArg Except.ok hread

/-! ## Reading a stamp -/

theorem date_text (s : Stamp) (rest : List Char) :
    Rfc3339.date (s.year.digits ++ '-' :: (s.month.digits ++ '-' :: (s.day.digits ++ rest))) =
      if s.date.exists? then .ok (s.date, rest) else .error .outOfRange := by
  simp only [Rfc3339.date, number_field, mark_cons, bind, Except.bind]
  rfl

theorem time_text (s : Stamp) (hc : c.isDigit = false) (hpoint : c ≠ '.') (rest : List Char) :
    time (s.timeText ++ c :: rest) =
      if s.hour.value ≤ 23 ∧ s.minute.value ≤ 59 ∧ s.second.value ≤ 60 then .ok (s.reading.nanos, c :: rest)
      else .error .outOfRange := by
  have htext : s.timeText ++ c :: rest =
      s.hour.digits ++ ':' :: (s.minute.digits ++ ':' :: (s.second.digits ++ (s.fractionText ++ c :: rest))) := by
    simp [Stamp.timeText]
  rw [htext]
  simp only [time, number_field, mark_cons, fraction_text s hc hpoint, bind, Except.bind]
  rfl

theorem separator_cons (s : Stamp) (rest : List Char) : separator (s.separator :: rest) = .ok ((), rest) := if_pos s.separator_eq

/-- A zone is less than a day ahead or behind exactly if its hours and minutes are some of a day. -/
theorem Zone.valid_iff (z : Zone) : z.Valid ↔ z.minute ≤ 59 ∧ z.seconds.natAbs < 86400 := by
  cases z with
  | utc letter hletter => simp [Valid, minute, seconds]
  | offset negative hours minutes =>
    have habs : (offset negative hours minutes).seconds.natAbs = hours.value * 3600 + minutes.value * 60 := by
      cases negative with
      | false => exact Int.natAbs_natCast _
      | true => exact (Int.natAbs_neg _).trans (Int.natAbs_natCast _)
    rw [habs]
    show hours.value ≤ 23 ∧ minutes.value ≤ 59 ↔ minutes.value ≤ 59 ∧ _
    omega

theorem Zone.text_eq (z : Zone) : ∃ c rest, z.text = c :: rest ∧ c.isDigit = false ∧ c ≠ '.' := by
  cases z with
  | utc letter hletter => exact ⟨letter, [], rfl, by rcases hletter with rfl | rfl <;> decide⟩
  | offset negative hours minutes => exact ⟨_, _, rfl, by cases negative <;> decide⟩

theorem offsetTime_text (hours minutes : Field 2) :
    offsetTime (hours.digits ++ ':' :: minutes.digits) =
      if minutes.value ≤ 59 then .ok (hours.value * 3600 + minutes.value * 60, []) else .error .outOfRange := by
  have hminutes := number_field minutes []
  rw [List.append_nil] at hminutes
  simp only [offsetTime, number_field, mark_cons, hminutes, bind, Except.bind]

theorem offset_text (z : Zone) : offset z.text = if z.minute ≤ 59 then .ok (z.seconds, []) else .error .outOfRange := by
  cases z with
  | utc letter hletter => exact if_pos hletter
  | offset negative hours minutes =>
    have hread (f : Nat × List Char → Int × List Char) : (offsetTime (hours.digits ++ ':' :: minutes.digits)).map f =
        if minutes.value ≤ 59 then .ok (f (hours.value * 3600 + minutes.value * 60, [])) else .error .outOfRange := by
      rw [offsetTime_text, apply_ite (Except.map f)]
      rfl
    cases negative with
    | false => exact hread _
    | true => exact hread _

theorem leastLength_le (s : Stamp) : leastLength ≤ byteLength s.text := by
  refine Nat.le_trans ?_ (length_le_byteLength s.text)
  simp only [Stamp.text, Stamp.timeText, List.length_append, List.length_cons, Field.length_eq, leastLength]
  omega

/-- A stamp is read as its fields, or it is out of range. -/
theorem fields_text (s : Stamp) : fields s.text = if s.Valid then .ok s.reading else .error .outOfRange := by
  obtain ⟨c, rest, hzone, hc, hpoint⟩ := s.zone.text_eq
  have hoffset := offset_text s.zone
  rw [hzone] at hoffset
  rw [fields, if_neg (Nat.not_lt.2 (leastLength_le s)), Stamp.text, hzone]
  simp only [date_text, bind, Except.bind]
  by_cases hdate : s.date.exists? = true
  · rw [if_pos hdate]
    simp only [separator_cons, time_text s hc hpoint]
    by_cases htime : s.hour.value ≤ 23 ∧ s.minute.value ≤ 59 ∧ s.second.value ≤ 60
    · rw [if_pos htime]
      simp only [hoffset]
      have hvalid : s.Valid ↔ s.zone.minute ≤ 59 ∧ s.zone.seconds.natAbs < 86400 := by
        rw [← Zone.valid_iff]
        exact ⟨fun h => h.2.2.2.2, fun h => ⟨hdate, htime.1, htime.2.1, htime.2.2, h⟩⟩
      by_cases hminute : s.zone.minute ≤ 59
      · rw [if_pos hminute]
        simp only [hvalid, hminute, true_and, ne_eq, not_true_eq_false, if_false]
        rfl
      · rw [if_neg hminute, if_neg (fun h => hminute (hvalid.1 h).1)]
    · rw [if_neg htime, if_neg (fun h => htime ⟨h.2.1, h.2.2.1, h.2.2.2.1⟩)]
  · rw [if_neg hdate, if_neg (fun h => hdate h.1)]

/-! ## The instant of a stamp -/

namespace Stamp

variable {s : Stamp}

theorem allDigits_decimals (s : Stamp) : AllDigits s.decimals := allDigits_getD (fun ds hds => (s.fraction_digits ds hds).1)

theorem zero_le_year (s : Stamp) : 0 ≤ s.date.year := Int.natCast_nonneg _

/-- Nanoseconds of a fraction make milliseconds. -/
theorem parts_nine_div (ds : List Char) : parts 9 ds / 1000000 = parts 3 ds := by
  have hsplit : valueOf ds * 10 ^ 9 = valueOf ds * 10 ^ 3 * 1000000 := (Nat.mul_assoc _ (10 ^ 3) 1000000).symm
  rw [parts, hsplit, Nat.div_div_eq_div_mul, Nat.mul_div_mul_right _ _ (by decide), parts]

/-- The milliseconds of what is read are those of the fields, with those of the fraction that are whole. -/
theorem millis_reading (h : s.Valid) : s.reading.millis = s.wholeSeconds * 1000 + parts 3 s.decimals := by
  have hnanos : s.reading.nanos / 1000000 = s.secondOfDay * 1000 + parts 3 s.decimals := by
    have hsplit : s.secondOfDay * 1000000000 = 1000000 * (s.secondOfDay * 1000) := by omega
    rw [reading, hsplit, Nat.mul_add_div (by decide), parts_nine_div]
  rw [Reading.millis, hnanos, wholeSeconds, ← Date.dayNumber_eq s.zero_le_year h.1]
  show (s.date.dayNumber * 86400 - s.zone.seconds) * 1000 + _ = _
  push_cast
  ring

/-- The milliseconds that have gone by at the exact instant. -/
theorem floor_seconds (s : Stamp) : ⌊s.seconds * 1000⌋ = s.wholeSeconds * 1000 + parts 3 s.decimals := by
  have hsplit : s.seconds * 1000 =
      ((s.wholeSeconds * 1000 : Int) : ℚ) + ((valueOf s.decimals * 10 ^ 3 : Nat) : ℚ) / ((10 ^ s.decimals.length : Nat) : ℚ) := by
    rw [seconds]
    push_cast
    ring
  rw [hsplit, Int.floor_intCast_add, Rat.floor_natCast_div_natCast, ← Int.natCast_ediv, parts]

/-- The milliseconds of a stamp that is valid are a number of 64 bits. -/
theorem toInt_floor (h : s.Valid) : (Int64.ofInt ⌊s.seconds * 1000⌋).toInt = ⌊s.seconds * 1000⌋ := by
  have hyear : s.date.year ≤ 9999 := by
    have hless := valueOf_lt s.year.allDigits
    rw [s.year.length_eq] at hless
    exact Int.ofNat_le.2 (Nat.le_of_lt_succ hless)
  obtain ⟨hdate, hhour, hminute, hsecond, hzone⟩ := h
  have hahead := ((Zone.valid_iff _).1 hzone).2
  obtain ⟨hmin, hmax⟩ := Date.dayNumber_mem s.zero_le_year hyear hdate
  have hpart : parts 3 s.decimals ≤ 1000 :=
    Nat.div_le_of_le_mul (Nat.mul_le_mul_right (10 ^ 3) (Nat.le_of_lt (valueOf_lt s.allDigits_decimals)))
  rw [floor_seconds, wholeSeconds, ← Date.dayNumber_eq s.zero_le_year hdate, secondOfDay]
  refine Int64.toInt_ofInt_of_le ?_ ?_ <;> omega

/-- A stamp is read as the last millisecond that is not after it. -/
theorem read_text (s : Stamp) : read s.text = if s.Valid then .ok ⟨Int64.ofInt ⌊s.seconds * 1000⌋⟩ else .error .outOfRange := by
  rw [read, fields_text]
  by_cases h : s.Valid
  · rw [if_pos h, if_pos h, floor_seconds, ← millis_reading h]
    rfl
  · rw [if_neg h, if_neg h]
    rfl

/-! ## The first three digits of the fraction -/

/-- A stamp without what is behind the third digit of its fraction. -/
def cut (s : Stamp) : Stamp :=
  { s with
    fraction := s.fraction.map (List.take 3)
    fraction_digits := by
      intro ds hds
      obtain ⟨all, hall, rfl⟩ := Option.mem_map.1 hds
      obtain ⟨hdigits, hne⟩ := s.fraction_digits all hall
      exact ⟨fun c hc => hdigits c (List.mem_of_mem_take hc), by simpa using hne⟩ }

theorem decimals_cut (s : Stamp) : s.cut.decimals = s.decimals.take 3 := by
  show (s.fraction.map (List.take 3)).getD [] = (s.fraction.getD []).take 3
  cases s.fraction <;> rfl

/-- The parts that have gone by are in so many first digits. -/
theorem parts_take (k : Nat) {ds : List Char} (h : AllDigits ds) : parts k (ds.take k) = parts k ds := by
  rcases Nat.lt_or_ge ds.length k with hshort | hlong
  · rw [List.take_of_length_le (Nat.le_of_lt hshort)]
  · have hfront : (ds.take k).length = k := List.length_take_of_le hlong
    have hrest : AllDigits (ds.drop k) := fun c hc => h c (List.mem_of_mem_drop hc)
    have hlength : 10 ^ ds.length = 10 ^ (ds.drop k).length * 10 ^ k := by
      rw [List.length_drop, ← Nat.pow_add, Nat.sub_add_cancel hlong]
    calc valueOf (ds.take k) * 10 ^ k / 10 ^ (ds.take k).length
        = valueOf (ds.take k) := by rw [hfront, Nat.mul_div_cancel _ (Nat.pow_pos (by decide))]
      _ = valueOf (ds.take k ++ ds.drop k) / 10 ^ (ds.drop k).length := (valueOf_append_div hrest).symm
      _ = valueOf ds * 10 ^ k / 10 ^ ds.length := by
        rw [List.take_append_drop, hlength, Nat.mul_div_mul_right _ _ (Nat.pow_pos (by decide))]

/-- What is behind the third digit of the fraction is not read. -/
theorem read_cut (s : Stamp) : read s.cut.text = read s.text := by
  have hvalid : s.cut.Valid ↔ s.Valid := Iff.rfl
  have hfloor : ⌊s.cut.seconds * 1000⌋ = ⌊s.seconds * 1000⌋ := by
    rw [floor_seconds, floor_seconds, decimals_cut, parts_take 3 s.allDigits_decimals]
    rfl
  rw [read_text, read_text, hfloor]
  exact if_congr hvalid rfl rfl

end Stamp

end Seedbed.Rfc3339
