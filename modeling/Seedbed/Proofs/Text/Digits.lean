import Mathlib.Algebra.Group.Nat.Defs
import Mathlib.Data.List.Basic
import Seedbed.Text.Numeral
import Seedbed.Text.Utf8

/-!
# Texts of digits

The digits of a number are digits and nothing else, they begin with a zero only if the number is zero (`dropWhile_digits`), and each
takes one byte. What digits say as a number depends on the text as follows: digits behind others add to their number shifted by as many
places (`valueOf_append`), zeros in front add nothing, and the length bounds the number, from above always (`valueOf_lt`) and from below
where the first digit is not a zero (`pow_le_valueOf`). A power of ten divides the number exactly if so many digits at the end are zeros
(`pow_dvd_valueOf_iff`).
-/

namespace Seedbed.Text

variable {c : Char} {cs front back : List Char} {n width : Nat}

/-- Whether a text consists of digits. -/
def AllDigits (cs : List Char) : Prop := ∀ c ∈ cs, c.isDigit = true

instance (cs : List Char) : Decidable (AllDigits cs) := List.decidableBAll (fun c : Char => c.isDigit = true) cs

/-! ## Digits -/

/-- A digit is none of the characters that are no digit. -/
theorem ne_of_isDigit {d : Char} (hc : c.isDigit = true) (hd : d.isDigit = false) : c ≠ d := by
  rintro rfl
  rw [hc] at hd
  cases hd

theorem digit?_of_isDigit (h : c.isDigit = true) : digit? c = some (c.toNat - 48) := by
  have hle : '0' ≤ c ∧ c ≤ '9' := by simpa [Char.isDigit, Char.le_def] using h
  rw [digit?, if_pos hle]

theorem digit?_of_not_isDigit (h : c.isDigit = false) : digit? c = none := by
  have hle : ¬('0' ≤ c ∧ c ≤ '9') := by simpa [Char.isDigit, Char.le_def] using h
  rw [digit?, if_neg hle]

theorem allDigits_digits (n : Nat) : AllDigits (digits n) :=
  fun _ hc => Nat.isDigit_of_mem_toDigits (by decide) (by decide) hc

theorem allDigits_append {ds : List Char} (hc : AllDigits cs) (hd : AllDigits ds) : AllDigits (cs ++ ds) :=
  List.forall_mem_append.2 ⟨hc, hd⟩

theorem allDigits_zeros (n : Nat) : AllDigits (List.replicate n '0') := by
  intro c hc
  rw [List.eq_of_mem_replicate hc]
  rfl

/-- Digits that may be missing. -/
theorem allDigits_getD {o : Option (List Char)} (h : ∀ ds ∈ o, AllDigits ds) : AllDigits (o.getD []) := by
  cases o with
  | none => exact fun c hc => absurd hc List.not_mem_nil
  | some ds => exact h ds rfl

theorem not_mem_of_allDigits {d : Char} (h : AllDigits cs) (hd : d.isDigit = false) : d ∉ cs :=
  fun hmem => ne_of_isDigit (h d hmem) hd rfl

theorem digits_ne_nil (n : Nat) : digits n ≠ [] := Nat.toDigits_ne_nil

/-- Every number has a first digit. -/
theorem exists_cons_digits (n : Nat) : ∃ d rest, digits n = d :: rest ∧ d.isDigit = true := by
  obtain ⟨d, rest, h⟩ := List.exists_cons_of_ne_nil (digits_ne_nil n)
  have hmem : d ∈ digits n := by
    rw [h]
    exact List.mem_cons_self
  exact ⟨d, rest, h, allDigits_digits n d hmem⟩

/-- The digits of a number that is not zero begin with one that is not. -/
theorem head_digits_ne (h : n ≠ 0) : ∃ d rest, digits n = d :: rest ∧ d ≠ '0' := by
  induction n using Nat.strongRecOn with
  | _ n ih =>
    rcases Nat.lt_or_ge n 10 with hlt | hge
    · exact ⟨n.digitChar, [], Nat.toDigits_of_lt_base hlt, fun e => h (Nat.digitChar_eq_zero.1 e)⟩
    · obtain ⟨d, rest, hd, hne⟩ := ih (n / 10) (by omega) (by omega)
      refine ⟨d, rest ++ [(n % 10).digitChar], ?_, hne⟩
      rw [digits, Nat.toDigits_of_base_le (by decide) hge, ← digits, hd]
      rfl

/-- Zeros in front of the digits of a number that is not zero are all that there is to leave out. -/
theorem dropWhile_digits (h : n ≠ 0) (zeros : Nat) :
    (List.replicate zeros '0' ++ digits n).dropWhile (· == '0') = digits n := by
  obtain ⟨d, rest, hd, hne⟩ := head_digits_ne h
  rw [List.dropWhile_append_of_pos (by simp), hd, List.dropWhile_cons_of_neg (by simpa using hne)]

/-- Each digit takes one byte. -/
theorem byteLength_of_allDigits (h : AllDigits cs) : byteLength cs = cs.length := by
  induction cs with
  | nil => rfl
  | cons c rest ih =>
    have hc := h c List.mem_cons_self
    have hsize : c.utf8Size = 1 := by
      rw [Char.isDigit_iff_toNat] at hc
      rw [Char.utf8Size_eq_one_iff, UInt32.le_iff_toNat_le]
      exact Nat.le_trans hc.2 (by decide)
    rw [byteLength, hsize, ih (fun d hd => h d (List.mem_cons_of_mem _ hd)), List.length_cons, Nat.add_comm]

/-! ## The number of a text of digits -/

/-- The number of a text of digits. -/
def valueOf (cs : List Char) : Nat := Nat.ofDigitChars 10 cs 0

@[simp] theorem valueOf_nil : valueOf [] = 0 := rfl

/-- Digits behind others shift them. -/
theorem valueOf_append (front back : List Char) : valueOf (front ++ back) = valueOf front * 10 ^ back.length + valueOf back := by
  rw [valueOf, Nat.ofDigitChars_append, Nat.ofDigitChars_eq_ofDigitChars_zero, Nat.mul_comm]
  rfl

theorem valueOf_singleton (c : Char) : valueOf [c] = c.toNat - 48 := by
  rw [valueOf, Nat.ofDigitChars_cons, Nat.ofDigitChars_nil, Nat.mul_zero, Nat.zero_add]
  rfl

theorem valueOf_cons (c : Char) (cs : List Char) : valueOf (c :: cs) = (c.toNat - 48) * 10 ^ cs.length + valueOf cs := by
  rw [← List.singleton_append, valueOf_append, valueOf_singleton]

theorem valueOf_zeros (n : Nat) : valueOf (List.replicate n '0') = 0 := by
  rw [valueOf, Nat.ofDigitChars_replicate_zero, Nat.mul_zero]

@[simp] theorem valueOf_digits (n : Nat) : valueOf (digits n) = n := Nat.ofDigitChars_toDigits (by decide) (by decide)

/-- The codes of the digits. -/
theorem toNat_of_isDigit {c : Char} (h : c.isDigit = true) : 48 ≤ c.toNat ∧ c.toNat ≤ 57 := Char.isDigit_iff_toNat.1 h

/-- A digit is worth less than ten, and nothing only if it is the zero. -/
theorem digit_lt {c : Char} (h : c.isDigit = true) : c.toNat - 48 < 10 := by
  have hcode := toNat_of_isDigit h
  omega

theorem digit_eq_zero_iff {c : Char} (h : c.isDigit = true) : c.toNat - 48 = 0 ↔ c = '0' := by
  have hcode := toNat_of_isDigit h
  constructor
  · intro hzero
    have hc : c.toNat = 48 := by omega
    rw [← Char.ofNat_toNat c, hc]
  · rintro rfl
    rfl

/-- A number of so many digits is less than the power of ten. -/
theorem valueOf_lt (h : AllDigits cs) : valueOf cs < 10 ^ cs.length := by
  induction cs with
  | nil => exact Nat.one_pos
  | cons c rest ih =>
    obtain ⟨hc, hrest⟩ := List.forall_mem_cons.1 h
    have hdigit := Nat.mul_le_mul_right (10 ^ rest.length) (Nat.le_of_lt_succ (digit_lt hc))
    have hless := ih hrest
    rw [valueOf_cons, List.length_cons, Nat.pow_succ]
    omega

/-- Leaving digits behind others out divides by their power of ten. -/
theorem valueOf_append_div (h : AllDigits back) : valueOf (front ++ back) / 10 ^ back.length = valueOf front := by
  rw [valueOf_append, Nat.mul_comm, Nat.mul_add_div (Nat.pow_pos (by decide)), Nat.div_eq_of_lt (valueOf_lt h), Nat.add_zero]

/-- A number whose first digit is not a zero is at least a power of ten. -/
theorem pow_le_valueOf {d : Char} (hdigit : d.isDigit = true) (hne : d ≠ '0') (rest : List Char) :
    10 ^ rest.length ≤ valueOf (d :: rest) := by
  have hpos : 1 ≤ d.toNat - 48 := Nat.one_le_iff_ne_zero.2 (mt (digit_eq_zero_iff hdigit).1 hne)
  rw [valueOf_cons]
  have hle := Nat.mul_le_mul_right (10 ^ rest.length) hpos
  omega

/-- Only zeros say zero. -/
theorem valueOf_eq_zero_iff (h : AllDigits cs) : valueOf cs = 0 ↔ cs.all (· == '0') = true := by
  induction cs with
  | nil => simp
  | cons c rest ih =>
    obtain ⟨hc, hrest⟩ := List.forall_mem_cons.1 h
    rw [valueOf_cons, Nat.add_eq_zero_iff, ih hrest, Nat.mul_eq_zero, digit_eq_zero_iff hc]
    simp

/-- A power of ten divides a number exactly if the digits behind the others are zeros. -/
theorem pow_dvd_valueOf_iff (hback : AllDigits back) :
    10 ^ back.length ∣ valueOf (front ++ back) ↔ back.all (· == '0') = true := by
  rw [valueOf_append, Nat.dvd_add_right (Nat.dvd_mul_left _ _), ← valueOf_eq_zero_iff hback]
  constructor
  · exact fun hdvd => Nat.eq_zero_of_dvd_of_lt hdvd (valueOf_lt hback)
  · intro hzero
    rw [hzero]
    exact Nat.dvd_zero _

/-- Zeros in front of a number add nothing. -/
theorem valueOf_dropWhile (cs : List Char) : valueOf (cs.dropWhile (· == '0')) = valueOf cs := by
  induction cs with
  | nil => rfl
  | cons c rest ih =>
    rw [List.dropWhile_cons]
    split
    · next hzero =>
      rw [ih, valueOf_cons, beq_iff_eq.1 hzero]
      simp
    · rfl

/-- Digits padded with zeros say the same. -/
@[simp] theorem valueOf_padded (width n : Nat) : valueOf (padded width n) = n := by
  rw [padded, valueOf_append, valueOf_zeros, valueOf_digits, Nat.zero_mul, Nat.zero_add]

theorem allDigits_padded (width n : Nat) : AllDigits (padded width n) :=
  allDigits_append (allDigits_zeros _) (allDigits_digits n)

/-- A number that has no more digits than the width is padded to the width. -/
theorem length_padded (hwidth : 0 < width) (h : n < 10 ^ width) : (padded width n).length = width := by
  have hlength : (digits n).length ≤ width := (Nat.length_toDigits_le_iff (by decide) hwidth).2 h
  rw [padded, List.length_append, List.length_replicate]
  omega

end Seedbed.Text
