import Seedbed.Proofs.Text.Digits

/-!
# Numerals are read as they are written

Digits are read as the number that they are the digits of (`readDigits_of_digits`), so that a numeral is read as its number, without a
sign (`readNatural_of_digits`) or with one (`readInteger_sign`), and the numeral that is written for a number as that number
(`readNatural_digits`, `readInteger_signed`). A natural number is read from nothing else (`readNatural_eq_ok_iff`).
-/

namespace Seedbed.Text

variable {c : Char} {cs : List Char} {n : Nat}

/-- Reading more digits makes no number less. -/
theorem le_ofDigitChars (acc : Nat) (cs : List Char) : acc ≤ Nat.ofDigitChars 10 cs acc := by
  induction cs generalizing acc with
  | nil => exact Nat.le_refl acc
  | cons c rest ih =>
    rw [Nat.ofDigitChars_cons]
    exact Nat.le_trans (by omega) (ih _)

/-- Digits are read as their number, unless it is above the limit. -/
theorem readDigits_of_digits {limit acc : Nat} (h : AllDigits cs) (hle : Nat.ofDigitChars 10 cs acc ≤ limit) :
    readDigits limit acc cs = .ok (Nat.ofDigitChars 10 cs acc) := by
  induction cs generalizing acc with
  | nil => rfl
  | cons c rest ih =>
    rw [Nat.ofDigitChars_cons, Nat.mul_comm] at hle ⊢
    have hacc : ¬limit < acc * 10 + (c.toNat - 48) := Nat.not_lt.2 (Nat.le_trans (le_ofDigitChars _ rest) hle)
    rw [readDigits, digit?_of_isDigit (h c List.mem_cons_self)]
    simp only [if_neg hacc]
    exact ih (fun d hd => h d (List.mem_cons_of_mem _ hd)) hle

/-- What is read is digits, and their number is not above the limit. -/
theorem of_readDigits {limit acc : Nat} (hacc : acc ≤ limit) (h : readDigits limit acc cs = .ok n) :
    AllDigits cs ∧ n = Nat.ofDigitChars 10 cs acc ∧ n ≤ limit := by
  induction cs generalizing acc with
  | nil =>
    cases h
    exact ⟨fun _ hc => absurd hc List.not_mem_nil, rfl, hacc⟩
  | cons c rest ih =>
    rw [readDigits] at h
    cases hdigit : c.isDigit with
    | false =>
      rw [digit?_of_not_isDigit hdigit] at h
      cases h
    | true =>
      rw [digit?_of_isDigit hdigit] at h
      simp only at h
      split at h
      · cases h
      · next hle =>
        obtain ⟨hrest, hn, hlimit⟩ := ih (Nat.le_of_not_lt hle) h
        refine ⟨List.forall_mem_cons.2 ⟨hdigit, hrest⟩, ?_, hlimit⟩
        rw [hn, Nat.ofDigitChars_cons, Nat.mul_comm]
        rfl

/-- What begins with a digit is read without a sign. -/
theorem readNatural_cons {limit : Nat} (h : c.isDigit = true) : readNatural limit (c :: cs) = readDigits limit 0 (c :: cs) := by
  have hplus := ne_of_isDigit h (d := '+') rfl
  unfold readNatural
  split <;> simp_all

theorem readInteger_cons {low high : Nat} (h : c.isDigit = true) :
    readInteger low high (c :: cs) = (readDigits high 0 (c :: cs)).map Int.ofNat := by
  have hplus := ne_of_isDigit h (d := '+') rfl
  have hminus := ne_of_isDigit h (d := '-') rfl
  unfold readInteger
  split <;> simp_all

/-- A text of digits is read as its number. -/
theorem readNatural_of_digits {limit : Nat} (hne : cs ≠ []) (h : AllDigits cs) (hle : valueOf cs ≤ limit) :
    readNatural limit cs = .ok (valueOf cs) := by
  obtain ⟨c, rest, rfl⟩ := List.exists_cons_of_ne_nil hne
  rw [readNatural_cons (h c List.mem_cons_self)]
  exact readDigits_of_digits h hle

/-- A natural number is read from its digits, which may stand behind a plus sign, and from nothing else. -/
theorem readNatural_eq_ok_iff {limit : Nat} :
    readNatural limit cs = .ok n ↔ ∃ ds, (cs = ds ∨ cs = '+' :: ds) ∧ ds ≠ [] ∧ AllDigits ds ∧ valueOf ds = n ∧ n ≤ limit := by
  constructor
  · intro h
    unfold readNatural at h
    split at h
    · cases h
    · cases h
    · next rest hne =>
      obtain ⟨hdigits, rfl, hle⟩ := of_readDigits (Nat.zero_le limit) h
      exact ⟨rest, .inr rfl, fun hnil => hne (hnil ▸ rfl), hdigits, rfl, hle⟩
    · next hne _ _ =>
      obtain ⟨hdigits, rfl, hle⟩ := of_readDigits (Nat.zero_le limit) h
      exact ⟨cs, .inl rfl, hne, hdigits, rfl, hle⟩
  · rintro ⟨ds, rfl | rfl, hne, hdigits, rfl, hle⟩
    · exact readNatural_of_digits hne hdigits hle
    · obtain ⟨d, rest, rfl⟩ := List.exists_cons_of_ne_nil hne
      exact readDigits_of_digits hdigits hle

theorem readNatural_digits {limit : Nat} (h : n ≤ limit) : readNatural limit (digits n) = .ok n := by
  have hread : readNatural limit (digits n) = .ok (valueOf (digits n)) :=
    readNatural_of_digits (digits_ne_nil n) (allDigits_digits n) (by rwa [valueOf_digits])
  rwa [valueOf_digits] at hread

/-! ## Signs -/

/-- What may stand before the digits of a numeral. -/
inductive Sign where
  | none | plus | minus
  deriving DecidableEq, Repr

namespace Sign

/-- A sign as it is written. -/
def text : Sign → List Char
  | none => []
  | plus => ['+']
  | minus => ['-']

/-- Whether a sign turns a number negative. -/
def isMinus : Sign → Bool
  | minus => true
  | _ => false

/-- A number with a sign. -/
def apply (s : Sign) (n : Nat) : Int := if s.isMinus then -(n : Int) else n

/-- The sign of an integer, of which zero has none. -/
def ofInt (n : Int) : Sign := if 0 < n then plus else if n < 0 then minus else none

theorem apply_ofInt (n : Int) : (ofInt n).apply n.natAbs = n := by
  unfold ofInt
  split
  · next hpos => exact Int.natAbs_of_nonneg (by omega)
  split
  · next hneg =>
    show -(n.natAbs : Int) = n
    omega
  · exact Int.natAbs_of_nonneg (by omega)

end Sign

/-- Digits behind a sign are read as their number with that sign, if it is in range. -/
theorem readInteger_sign {low high : Nat} (s : Sign) (hne : cs ≠ []) (h : AllDigits cs) (hlow : -(low : Int) ≤ s.apply (valueOf cs))
    (hhigh : s.apply (valueOf cs) ≤ high) :
    readInteger low high (s.text ++ cs) = .ok (s.apply (valueOf cs)) := by
  obtain ⟨c, rest, rfl⟩ := List.exists_cons_of_ne_nil hne
  have hread {limit : Nat} (hle : valueOf (c :: rest) ≤ limit) : readDigits limit 0 (c :: rest) = .ok (valueOf (c :: rest)) :=
    readDigits_of_digits h hle
  cases s with
  | none => exact (readInteger_cons (h c List.mem_cons_self)).trans (by rw [hread (Int.ofNat_le.1 hhigh)]; rfl)
  | plus =>
    simp only [Sign.text, List.cons_append, List.nil_append, readInteger, hread (Int.ofNat_le.1 hhigh)]
    rfl
  | minus =>
    have hle : valueOf (c :: rest) ≤ low := by
      simp only [Sign.apply, Sign.isMinus, if_true] at hlow
      omega
    simp only [Sign.text, List.cons_append, List.nil_append, readInteger, hread hle]
    rfl

/-- The sign of an integer as it is written, of which zero has none. -/
def sign (n : Int) : List Char := if 0 < n then ['+'] else if n < 0 then ['-'] else []

theorem sign_eq (n : Int) : sign n = (Sign.ofInt n).text := by
  unfold sign Sign.ofInt
  split
  · rfl
  · split <;> rfl

/-- The digits of an integer behind its sign are read as that integer, if it is in range. -/
theorem readInteger_signed {low high : Nat} {n : Int} (hlow : -(low : Int) ≤ n) (hhigh : n ≤ high) :
    readInteger low high (sign n ++ digits n.natAbs) = .ok n := by
  have hvalue : (Sign.ofInt n).apply (valueOf (digits n.natAbs)) = n := by rw [valueOf_digits, Sign.apply_ofInt]
  have hread : readInteger low high ((Sign.ofInt n).text ++ digits n.natAbs) = .ok ((Sign.ofInt n).apply (valueOf (digits n.natAbs))) :=
    readInteger_sign (Sign.ofInt n) (digits_ne_nil n.natAbs) (allDigits_digits n.natAbs) (by rwa [hvalue]) (by rwa [hvalue])
  rwa [hvalue, ← sign_eq] at hread

end Seedbed.Text
