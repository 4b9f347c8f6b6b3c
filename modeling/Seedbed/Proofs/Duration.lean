import Seedbed.Duration
import Seedbed.Proofs.Text.Blank
import Seedbed.Proofs.Text.Numeral

/-!
# Which texts are durations

A duration is written as digits, with a plus sign in front of them or none and the letter of a unit behind them or none, between
blanks (`Writing`). The reader takes such a text apart and no other (`readNatural_splitUnit_iff`), so that it accepts exactly those of
which neither the number nor the seconds that it stands for need more than 64 bits, and says of those of which only the seconds do, and
of no other text, that they are out of range (`duration_exact`).
-/

namespace Seedbed.Duration

open Text

/-- A unit of time that has a letter of its own. -/
inductive TimeUnit where
  | hour | minute | second

namespace TimeUnit

/-- The letter of a unit. -/
def letter : TimeUnit → Char
  | hour => 'h'
  | minute => 'm'
  | second => 's'

/-- The seconds of a unit. -/
def seconds : TimeUnit → Nat
  | hour => 3600
  | minute => 60
  | second => 1

end TimeUnit

/-- A duration as it is written: a number, maybe with a plus sign, and maybe the letter of its unit. -/
structure Writing where
  plus : Bool
  digits : List Char
  unit : Option TimeUnit
  digits_ne_nil : digits ≠ []
  allDigits : AllDigits digits

namespace Writing

variable (w : Writing)

/-- The number with its sign as it is written. -/
def numeral : List Char := if w.plus then '+' :: w.digits else w.digits

/-- A duration as it is written. -/
def text : List Char := w.numeral ++ (w.unit.map TimeUnit.letter).toList

/-- The number that is written. -/
def number : Nat := valueOf w.digits

/-- The seconds of the unit; a number without a unit is one of seconds. -/
def factor : Nat := (w.unit.map TimeUnit.seconds).getD 1

/-- Whether a text is what is written between blanks. -/
def StandsIn (text : List Char) : Prop := ∃ front back, text = front ++ w.text ++ back ∧ AllBlank front ∧ AllBlank back

end Writing

/-! ## Units -/

/-- The letters of the units are the ones that have a number of seconds. -/
theorem unit?_eq_some_iff {c : Char} {k : Nat} : unit? c = some k ↔ ∃ u : TimeUnit, c = u.letter ∧ k = u.seconds := by
  constructor
  · intro h
    unfold unit? at h
    split at h
    · next hc => exact ⟨.hour, hc, (Option.some.inj h).symm⟩
    split at h
    · next hc => exact ⟨.minute, hc, (Option.some.inj h).symm⟩
    split at h
    · next hc => exact ⟨.second, hc, (Option.some.inj h).symm⟩
    · cases h
  · rintro ⟨u, rfl, rfl⟩
    cases u <;> rfl

/-- A digit is the letter of no unit. -/
theorem unit?_of_isDigit {c : Char} (h : c.isDigit = true) : unit? c = none := by
  rw [unit?, if_neg (ne_of_isDigit h rfl), if_neg (ne_of_isDigit h rfl), if_neg (ne_of_isDigit h rfl)]

/-- What is split off a text is the letter of a unit at its end, or nothing. -/
theorem eq_of_splitUnit (cs : List Char) : ∃ u : Option TimeUnit,
    cs = (splitUnit cs).1 ++ (u.map TimeUnit.letter).toList ∧ (splitUnit cs).2 = (u.map TimeUnit.seconds).getD 1 := by
  unfold splitUnit
  split
  · next k hunit =>
    obtain ⟨c, hlast, hc⟩ := Option.bind_eq_some_iff.1 hunit
    obtain ⟨u, rfl, rfl⟩ := unit?_eq_some_iff.1 hc
    exact ⟨some u, (List.dropLast_append_getLast? _ hlast).symm, rfl⟩
  · exact ⟨none, (List.append_nil cs).symm, rfl⟩

namespace Writing

variable (w : Writing)

/-- A numeral ends in a digit. -/
theorem exists_getLast?_numeral : ∃ d, w.numeral.getLast? = some d ∧ d.isDigit = true := by
  obtain ⟨front, d, hdigits⟩ := (List.eq_nil_or_concat' w.digits).resolve_left w.digits_ne_nil
  refine ⟨d, ?_, w.allDigits d (hdigits ▸ List.mem_append_right front (List.mem_singleton_self d))⟩
  rw [numeral, hdigits]
  split
  · rw [← List.cons_append, List.getLast?_concat]
  · rw [List.getLast?_concat]

/-- The unit is split off the number. -/
theorem splitUnit_text : splitUnit w.text = (w.numeral, w.factor) := by
  unfold splitUnit text factor
  cases w.unit with
  | none =>
    obtain ⟨d, hlast, hd⟩ := w.exists_getLast?_numeral
    rw [Option.map_none, Option.toList_none, List.append_nil, hlast, Option.bind_some, unit?_of_isDigit hd]
    rfl
  | some u =>
    have hunit : unit? u.letter = some u.seconds := unit?_eq_some_iff.2 ⟨u, rfl, rfl⟩
    rw [Option.map_some, Option.toList_some, List.getLast?_concat, Option.bind_some, hunit, List.dropLast_concat]
    rfl

/-- A duration is written without blanks. -/
theorem isBlank_of_mem_text {c : Char} (h : c ∈ w.text) : isBlank c = false := by
  rcases List.mem_append.1 h with h | h
  · rw [numeral] at h
    have hmem : c = '+' ∨ c ∈ w.digits := by
      split at h
      · exact List.mem_cons.1 h
      · exact .inr h
    rcases hmem with rfl | hmem
    · rfl
    · have hcode := toNat_of_isDigit (w.allDigits c hmem)
      simp only [isBlank, Bool.or_eq_false_iff, Bool.and_eq_false_iff, decide_eq_false_iff_not, beq_eq_false_iff_ne]
      omega
  · obtain ⟨u, -, rfl⟩ := Option.map_eq_some_iff.1 (Option.mem_toList.1 h)
    cases u <;> rfl

/-- A duration stands in a text exactly if it is left of the text without the blanks at the ends. -/
theorem standsIn_iff {text : List Char} : w.StandsIn text ↔ trim text = w.text := by
  constructor
  · rintro ⟨front, back, rfl, hfront, hback⟩
    exact trim_append hfront (fun _ hc => w.isBlank_of_mem_text hc) hback
  · intro h
    obtain ⟨front, back, htext, hfront, hback⟩ := exists_append_trim text
    rw [h] at htext
    exact ⟨front, back, htext, hfront, hback⟩

end Writing

/-! ## Reading -/

/-- The reader finds a number and a unit in a text exactly if a duration with them is what the text writes, and the number is not above
the limit. -/
theorem readNatural_splitUnit_iff {cs : List Char} {n k : Nat} :
    (readNatural limit (splitUnit cs).1 = .ok n ∧ (splitUnit cs).2 = k) ↔
      ∃ w : Writing, cs = w.text ∧ w.number = n ∧ w.factor = k ∧ n ≤ limit := by
  constructor
  · rintro ⟨hread, rfl⟩
    obtain ⟨u, hcs, hfactor⟩ := eq_of_splitUnit cs
    obtain ⟨ds, hnumeral, hne, hdigits, hn, hle⟩ := readNatural_eq_ok_iff.1 hread
    rcases hnumeral with hnumeral | hnumeral
    · refine ⟨⟨false, ds, u, hne, hdigits⟩, ?_, hn, hfactor.symm, hle⟩
      rw [hnumeral] at hcs
      exact hcs
    · refine ⟨⟨true, ds, u, hne, hdigits⟩, ?_, hn, hfactor.symm, hle⟩
      rw [hnumeral] at hcs
      exact hcs
  · rintro ⟨w, rfl, rfl, rfl, hle⟩
    rw [w.splitUnit_text]
    refine ⟨readNatural_eq_ok_iff.2 ⟨w.digits, ?_, w.digits_ne_nil, w.allDigits, rfl, hle⟩, rfl⟩
    cases hplus : w.plus with
    | false => exact .inl (by simp [Writing.numeral, hplus])
    | true => exact .inr (by simp [Writing.numeral, hplus])

/-- A text with a number in it is out of range or the duration of its seconds. -/
theorem read_of_ok {text : List Char} {n : Nat} (h : readNatural limit (splitUnit (trim text)).1 = .ok n) :
    read text = if limit < n * (splitUnit (trim text)).2 then .error (.outOfRange (String.ofList (trim text)))
      else .ok ⟨n * (splitUnit (trim text)).2⟩ := by
  have hne : trim text ≠ [] := by
    intro hnil
    rw [hnil] at h
    cases h
  simp only [read, if_neg hne, h]

/-- A text without one is neither. -/
theorem read_of_error {text : List Char} {fault : NumeralFault} (h : readNatural limit (splitUnit (trim text)).1 = .error fault) :
    read text = .error (if trim text = [] then .empty else .invalid (String.ofList (trim text)) fault) := by
  by_cases hnil : trim text = []
  · simp only [read, if_pos hnil]
  · simp only [read, if_neg hnil, h]

/-- A text is read as the duration of the number and the unit that are found in it, if there is room for its seconds. -/
theorem read_eq_ok_iff {text : List Char} {d : Duration} :
    read text = .ok d ↔ ∃ n k, (readNatural limit (splitUnit (trim text)).1 = .ok n ∧ (splitUnit (trim text)).2 = k) ∧
      n * k ≤ limit ∧ d.seconds = n * k := by
  cases hread : readNatural limit (splitUnit (trim text)).1 with
  | error fault => simp [read_of_error hread]
  | ok n =>
    obtain ⟨seconds⟩ := d
    rw [read_of_ok hread]
    by_cases hout : limit < n * (splitUnit (trim text)).2
    · simp [hout, Nat.not_le.2 hout]
    · simp [hout, Nat.le_of_not_lt hout, eq_comm]

/-- A text is out of range if there is room for the number that is found in it, but not for the seconds. -/
theorem read_eq_outOfRange_iff {text : List Char} :
    (∃ t, read text = .error (.outOfRange t)) ↔ ∃ n k, (readNatural limit (splitUnit (trim text)).1 = .ok n ∧
      (splitUnit (trim text)).2 = k) ∧ limit < n * k := by
  cases hread : readNatural limit (splitUnit (trim text)).1 with
  | error fault => by_cases hnil : trim text = [] <;> simp [read_of_error hread, hnil]
  | ok n =>
    rw [read_of_ok hread]
    by_cases hout : limit < n * (splitUnit (trim text)).2 <;> simp [hout]

/-- Whether words begin by saying that a duration is out of range. -/
def saysOutOfRange (words : String) : Bool := "Duration out of range".toList.isPrefixOf words.toList

/-- The words for a fault say so only if it is that. -/
theorem saysOutOfRange_message {fault : DurationFault} : saysOutOfRange fault.message = true ↔ ∃ t, fault = .outOfRange t := by
  cases fault with
  | empty =>
    have htold : saysOutOfRange DurationFault.empty.message = false := rfl
    simp [htold]
  | invalid t fault =>
    have htold : saysOutOfRange (DurationFault.invalid t fault).message = false := by
      show saysOutOfRange ("Invalid duration value: " ++ t ++ ": " ++ fault.message) = false
      simp [saysOutOfRange, List.isPrefixOf]
    simp [htold]
  | outOfRange t =>
    have htold : saysOutOfRange (DurationFault.outOfRange t).message = true := by
      show saysOutOfRange ("Duration out of range: " ++ t) = true
      simp [saysOutOfRange]
    simp [htold]

/-- A text is a duration exactly if it is a number with or without a unit, between blanks, and neither the number nor the seconds that it
stands for need more than 64 bits; the duration is of exactly these seconds. It is refused as out of range exactly if there is room for
the number, but not for the seconds. -/
theorem duration_exact (text : List Char) :
    (∀ d, read text = .ok d ↔ ∃ w : Writing, w.StandsIn text ∧ w.number < 2 ^ 64 ∧ w.number * w.factor < 2 ^ 64 ∧
        d.seconds = w.number * w.factor) ∧
      ((∃ fault, read text = .error fault ∧ saysOutOfRange fault.message = true) ↔
        ∃ w : Writing, w.StandsIn text ∧ w.number < 2 ^ 64 ∧ 2 ^ 64 ≤ w.number * w.factor) := by
  have hlimit : limit = 2 ^ 64 - 1 := rfl
  constructor
  · intro d
    rw [read_eq_ok_iff]
    simp only [readNatural_splitUnit_iff, Writing.standsIn_iff]
    constructor
    · rintro ⟨-, -, ⟨w, htext, rfl, rfl, hnumber⟩, hle, hd⟩
      exact ⟨w, htext, by omega, by omega, hd⟩
    · rintro ⟨w, htext, hnumber, hless, hd⟩
      exact ⟨_, _, ⟨w, htext, rfl, rfl, by omega⟩, by omega, hd⟩
  · have hwords : (∃ fault, read text = .error fault ∧ saysOutOfRange fault.message = true) ↔ ∃ t, read text = .error (.outOfRange t) := by
      simp only [saysOutOfRange_message]
      constructor
      · rintro ⟨-, hread, t, rfl⟩
        exact ⟨t, hread⟩
      · rintro ⟨t, hread⟩
        exact ⟨_, hread, t, rfl⟩
    rw [hwords, read_eq_outOfRange_iff]
    simp only [readNatural_splitUnit_iff, Writing.standsIn_iff]
    constructor
    · rintro ⟨-, -, ⟨w, htext, rfl, rfl, hnumber⟩, hmore⟩
      exact ⟨w, htext, by omega, by omega⟩
    · rintro ⟨w, htext, hnumber, hmore⟩
      exact ⟨_, _, ⟨w, htext, rfl, rfl, by omega⟩, by omega⟩

/-- The greatest number of hours, with everything around it that may be, and the least that is out of range. -/
example : read " +005124095576030431h ".toList = .ok ⟨18446744073709551600⟩ ∧
    read "5124095576030432h".toList = .error (.outOfRange "5124095576030432h") := by decide

end Seedbed.Duration
