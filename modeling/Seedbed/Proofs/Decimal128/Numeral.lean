import Mathlib.Tactic.FieldSimp
import Seedbed.Proofs.Decimal128.Exactness

/-!
# Decimal numerals

A numeral is a sign, digits with a point among them and an exponent, of which the digits alone must be there. Its absolute value is that
of its digits before the point and behind it, times a power of ten (`Numeral.magnitude`). The reader finds in the text of a numeral its
digits, and its exponent less the number of digits behind the point (`takeNumeral_text`), which say the same number (`magnitude_eq`). So
reading a numeral that is not too long is exact (`read_exact`).
-/

namespace Seedbed.Decimal128

open Text

/-- The exponent of a numeral as it is written: a letter, a sign and digits. -/
structure Power where
  letter : Char
  sign : Sign
  digits : List Char
  letter_eq : letter = 'e' ∨ letter = 'E'
  allDigits : AllDigits digits
  ne_nil : digits ≠ []

namespace Power

def text (p : Power) : List Char := p.letter :: (p.sign.text ++ p.digits)

def value (p : Power) : Int := p.sign.apply (valueOf p.digits)

end Power

/-- A decimal numeral: a sign, digits before a point and behind it, and an exponent. The point may be missing with what is behind it, and
so may the exponent, but one digit is there. -/
structure Numeral where
  sign : Sign
  whole : List Char
  fraction : Option (List Char)
  power : Option Power
  whole_digits : AllDigits whole
  fraction_digits : ∀ ds ∈ fraction, AllDigits ds
  some_digit : whole ++ fraction.getD [] ≠ []

namespace Numeral

variable (n : Numeral)

/-- The digits behind the point. -/
def decimals : List Char := n.fraction.getD []

/-- The digits and the point between them, as they are written. -/
def mantissaText : List Char :=
  match n.fraction with
  | none => n.whole
  | some ds => n.whole ++ '.' :: ds

/-- The exponent as it is written. -/
def powerText : List Char :=
  match n.power with
  | none => []
  | some p => p.text

/-- A numeral as it is written. -/
def text : List Char := n.sign.text ++ (n.mantissaText ++ n.powerText)

/-- A numeral as a literal. -/
def literal : String := String.ofList n.text

/-- The exponent that is written, zero if none is. -/
def exponent : Int := (n.power.map Power.value).getD 0

/-- The absolute value of a numeral. -/
def magnitude : ℚ := (valueOf n.whole + valueOf n.decimals / 10 ^ n.decimals.length) * 10 ^ n.exponent

/-- Whether a numeral is short enough for the numbers that its exponent and its lengths are kept in. -/
structure WithinLimits : Prop where
  min_le_exponent : -32768 ≤ n.exponent
  exponent_le_max : n.exponent ≤ 32767
  decimals_le : n.decimals.length ≤ 32767
  min_le_shifted : -32768 ≤ n.exponent - n.decimals.length
  significant_le : ((n.whole ++ n.decimals).dropWhile (· == '0')).length ≤ 32801

theorem allDigits_decimals : AllDigits n.decimals := allDigits_getD n.fraction_digits

/-- The absolute value of a numeral is that of all its digits at the place of the last one. -/
theorem magnitude_eq : n.magnitude = scaled (valueOf (n.whole ++ n.decimals)) (n.exponent - n.decimals.length) := by
  have hpow : (10 : ℚ) ^ n.decimals.length ≠ 0 := pow_ne_zero _ (by norm_num)
  rw [magnitude, scaled, valueOf_append, zpow_sub₀ (by norm_num), zpow_natCast]
  push_cast
  field_simp

/-! ## What stands in the text -/

/-- Digits and a point are digits and points. -/
theorem plain_mantissaText : Plain n.mantissaText := by
  unfold mantissaText
  cases h : n.fraction with
  | none => exact plain_of_allDigits n.whole_digits
  | some ds => exact plain_append n.whole_digits (n.fraction_digits ds h)

/-- A numeral without its sign begins with a digit or a point. -/
theorem exists_cons_mantissaText : ∃ c rest, n.mantissaText = c :: rest ∧ (c.isDigit = true ∨ c = '.') := by
  have hne : n.mantissaText ≠ [] := by
    have hdigit := n.some_digit
    unfold mantissaText
    cases h : n.fraction with
    | none => simpa [h] using hdigit
    | some ds => simp
  obtain ⟨c, rest, hcons⟩ := List.exists_cons_of_ne_nil hne
  exact ⟨c, rest, hcons, n.plain_mantissaText c (hcons ▸ List.mem_cons_self)⟩

theorem lower_sign (s : Sign) : s.text.map lower = s.text := by
  cases s <;> rfl

/-- In lower case only the letter of the exponent may be another one. -/
theorem map_lower_text :
    (n.mantissaText ++ n.powerText).map lower =
      n.mantissaText ++ match n.power with
        | none => []
        | some p => 'e' :: (p.sign.text ++ p.digits) := by
  rw [List.map_append, map_lower_of_plain n.plain_mantissaText, powerText]
  cases n.power with
  | none => rfl
  | some p =>
    have hletter : lower p.letter = 'e' := by
      rcases p.letter_eq with h | h <;> rw [h] <;> rfl
    have hdigits := map_lower_of_plain (plain_of_allDigits p.allDigits)
    simp only [Power.text, List.map_cons, List.map_append, hletter, lower_sign, hdigits]

/-- The digits of a numeral are found without the point, and they count against the exponent. -/
theorem takePoint_mantissaText (h : n.WithinLimits) :
    takePoint n.mantissaText n.exponent = .ok (n.whole ++ n.decimals, n.exponent - n.decimals.length) := by
  obtain ⟨-, -, hlength, hmin, -⟩ := h
  unfold mantissaText
  unfold decimals at hlength hmin ⊢
  cases hfraction : n.fraction with
  | none =>
    have hpoint := takePoint_of_allDigits n.whole_digits n.exponent
    simpa using hpoint
  | some ds =>
    rw [hfraction] at hlength hmin
    exact takePoint_append n.whole_digits (n.fraction_digits ds hfraction) hlength hmin

/-- What the reader finds in the text of a numeral, without its sign. -/
theorem takeNumeral_text (h : n.WithinLimits) :
    takeNumeral ((n.mantissaText ++ n.powerText).map lower) = .ok (n.whole ++ n.decimals, n.exponent - n.decimals.length) := by
  have hpoint := n.takePoint_mantissaText h
  have hmark : 'e' ∉ n.mantissaText := not_mem_of_plain n.plain_mantissaText
  rw [map_lower_text, takeNumeral]
  unfold exponent at hpoint ⊢
  cases hpower : n.power with
  | none =>
    rw [hpower] at hpoint
    rw [List.append_nil, takeExponent_of_not_mem hmark]
    exact hpoint
  | some p =>
    have hexponent : n.exponent = p.value := by rw [exponent, hpower]; rfl
    have hmin : -32768 ≤ p.value := hexponent ▸ h.min_le_exponent
    have hmax : p.value ≤ 32767 := hexponent ▸ h.exponent_le_max
    have hread : readInteger 32768 32767 (p.sign.text ++ p.digits) = .ok p.value :=
      readInteger_sign p.sign p.ne_nil p.allDigits hmin hmax
    rw [hpower] at hpoint
    rw [takeExponent_mark hmark (List.append_ne_nil_of_right_ne_nil _ p.ne_nil) hread]
    exact hpoint

/-- A numeral is no word. -/
theorem read_text : read n.text = readFinite n.sign.isMinus ((n.mantissaText ++ n.powerText).map lower) := by
  obtain ⟨c, rest, hcons, hc⟩ := n.exists_cons_mantissaText
  have hne {d : Char} (hd : d.isDigit = false) (hpoint : d ≠ '.') : c ≠ d := by
    rintro rfl
    rcases hc with hdigit | rfl
    · exact absurd hdigit (by rw [hd]; decide)
    · exact hpoint rfl
  have hlower : lower c = c := by
    rcases hc with hdigit | rfl
    · exact lower_of_isDigit hdigit
    · rfl
  have hsign : takeSign n.text = (n.sign.isMinus, c :: (rest ++ n.powerText)) := by
    have hplus : c ≠ '+' := hne rfl (by decide)
    have hminus : c ≠ '-' := hne rfl (by decide)
    rw [text, hcons]
    cases n.sign with
    | none =>
      show takeSign (c :: (rest ++ n.powerText)) = _
      unfold takeSign
      split <;> simp_all [Sign.isMinus]
    | plus => rfl
    | minus => rfl
  have hn : c ≠ 'n' := hne rfl (by decide)
  have hs : c ≠ 's' := hne rfl (by decide)
  have hi : c ≠ 'i' := hne rfl (by decide)
  rw [hcons]
  simp [read, hsign, hlower, hn, hs, hi]

/-- Reading a numeral is exact: it is read as a decimal with its sign and its absolute value, or refused, and then the format has no
value for it. -/
theorem read_exact (h : n.WithinLimits) : Exact n.magnitude (fun d => d.Says n.sign.isMinus n.magnitude) (read n.text) := by
  rw [read_text, readFinite_eq_settle (n.takeNumeral_text h), magnitude_eq]
  exact settle_exact n.sign.isMinus _ (allDigits_append n.whole_digits n.allDigits_decimals) h.significant_le

end Numeral

end Seedbed.Decimal128
