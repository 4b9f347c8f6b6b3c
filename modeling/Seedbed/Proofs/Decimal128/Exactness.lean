import Mathlib.Algebra.Order.Field.Power
import Mathlib.Algebra.Order.Field.Rat
import Mathlib.Tactic.NormNum
import Mathlib.Tactic.Ring
import Seedbed.Proofs.Decimal128.RoundTrip

/-!
# Reading a decimal changes no value

The digits and the exponent that are found in a numeral say a number, `scaled`. Where they are not those of a value of the format,
zeros are cut off or appended in three steps. Each step keeps the number or gives up, and it gives up only where the format has no value
that is the number (`fitDigits_exact`, `fitMinimum_exact`, `fitMaximum_exact`); steps that are `Exact` are so one after the other. So what
is read in the end is exactly the number of the numeral, and a numeral is refused exactly if the format has no value for it
(`settle_exact`).
-/

namespace Seedbed.Decimal128

open Text

variable {cs : List Char} {x : Int} {q : ℚ} {negative : Bool}

/-! ## The numbers of the format -/

/-- A number times a power of ten. -/
def scaled (n : Nat) (x : Int) : ℚ := n * 10 ^ x

/-- Whether the format has a value that is a number. -/
def Representable (q : ℚ) : Prop := ∃ c e, InBounds c e ∧ scaled c e = q

/-- Whether a decimal is finite, with a sign and an absolute value. -/
def Says (d : Decimal128) (negative : Bool) (q : ℚ) : Prop := ∃ c e, d.shape = .finite negative c e ∧ scaled c e = q

theorem Says.representable {d : Decimal128} (h : d.Says negative q) : Representable q := by
  obtain ⟨c, e, hshape, hq⟩ := h
  exact ⟨c, e, inBounds_of_shape hshape, hq⟩

@[simp] theorem scaled_zero (x : Int) : scaled 0 x = 0 := by
  rw [scaled, Nat.cast_zero, zero_mul]

/-- Zeros at the end of a number are powers of ten. -/
theorem scaled_mul_pow (n k : Nat) (x : Int) : scaled (n * 10 ^ k) x = scaled n (x + k) := by
  rw [scaled, scaled, zpow_add₀ (by norm_num), zpow_natCast]
  push_cast
  ring

theorem scaled_inj {m n : Nat} : scaled m x = scaled n x ↔ m = n := by
  have hpow : (10 : ℚ) ^ x ≠ 0 := zpow_ne_zero x (by norm_num)
  rw [scaled, scaled, mul_left_inj' hpow, Nat.cast_inj]

/-- A number of `k + 1` digits at least that the format has a value for: the exponent of that value is not too far below the first
digit, and the digits below it are zeros. -/
theorem Representable.exists_exponent {n k : Nat} (hn : 10 ^ k ≤ n) (h : Representable (scaled n x)) :
    ∃ e, -6176 ≤ e ∧ e ≤ 6111 ∧ x + k ≤ e + 33 ∧ (x ≤ e → 10 ^ (e - x).toNat ∣ n) := by
  obtain ⟨c, e, ⟨hc, hmin, hmax⟩, heq⟩ := h
  rw [Nat.pow_eq] at hc
  refine ⟨e, hmin, hmax, ?_⟩
  rcases le_total x e with hle | hle
  · obtain ⟨j, rfl⟩ := Int.exists_add_of_le hle
    rw [← scaled_mul_pow, scaled_inj] at heq
    have hless : 10 ^ k < 10 ^ (34 + j) := by
      calc 10 ^ k ≤ c * 10 ^ j := heq ▸ hn
        _ < 10 ^ 34 * 10 ^ j := Nat.mul_lt_mul_of_pos_right hc (Nat.pow_pos (by decide))
        _ = 10 ^ (34 + j) := (Nat.pow_add 10 34 j).symm
    have hk := (Nat.pow_lt_pow_iff_right (by decide)).1 hless
    refine ⟨by omega, fun _ => ?_⟩
    have hj : (x + (j : Int) - x).toNat = j := by omega
    rw [hj, ← heq]
    exact Nat.dvd_mul_left _ _
  · obtain ⟨j, rfl⟩ := Int.exists_add_of_le hle
    rw [← scaled_mul_pow, scaled_inj] at heq
    have hless : 10 ^ (k + j) < 10 ^ 34 := by
      calc 10 ^ (k + j) = 10 ^ k * 10 ^ j := Nat.pow_add 10 k j
        _ ≤ n * 10 ^ j := Nat.mul_le_mul_right _ hn
        _ = c := heq.symm
        _ < 10 ^ 34 := hc
    have hk := (Nat.pow_lt_pow_iff_right (by decide)).1 hless
    refine ⟨by omega, fun hx => ?_⟩
    have hj : (e - (e + (j : Int))).toNat = 0 := by omega
    rw [hj, Nat.pow_zero]
    exact Nat.one_dvd n

/-! ## Digits that are cut off -/

/-- Whether a text begins with another digit than a zero. -/
def Leading (cs : List Char) : Prop := ∃ d rest, cs = d :: rest ∧ d ≠ '0'

/-- Whether a text consists of digits without zeros in front, but for zero itself. -/
structure Trimmed (cs : List Char) : Prop where
  digits : AllDigits cs
  leads : cs = ['0'] ∨ Leading cs

theorem Trimmed.leading (h : Trimmed cs) (hne : cs ≠ ['0']) : Leading cs := h.leads.resolve_left hne

theorem Trimmed.ne_nil (h : Trimmed cs) : cs ≠ [] := by
  rintro rfl
  rcases h.leads with hzero | ⟨d, rest, hlead, -⟩
  · cases hzero
  · cases hlead

/-- Digits that begin with another one than a zero say at least a power of ten. -/
theorem Leading.pow_le (h : Leading cs) (hdigits : AllDigits cs) : 10 ^ (cs.length - 1) ≤ valueOf cs := by
  obtain ⟨d, rest, rfl, hne⟩ := h
  exact pow_le_valueOf (hdigits d List.mem_cons_self) hne rest

theorem Leading.length_pos (h : Leading cs) : 0 < cs.length := by
  obtain ⟨d, rest, rfl, -⟩ := h
  exact Nat.succ_pos _

theorem trimmed_dropZeros (h : AllDigits cs) : Trimmed (dropZeros cs) := by
  have hdrop : AllDigits (cs.dropWhile (· == '0')) := fun c hc => h c (List.dropWhile_subset _ hc)
  unfold dropZeros
  cases hrest : cs.dropWhile (· == '0') with
  | nil => exact ⟨List.forall_mem_singleton.2 rfl, .inl rfl⟩
  | cons d rest =>
    rw [hrest] at hdrop
    have hhead : (cs.dropWhile (· == '0')).head (by simp [hrest]) ≠ '0' := by
      simpa using List.head_dropWhile_not (· == '0') (by simp [hrest])
    simp only [hrest, List.head_cons] at hhead
    exact ⟨hdrop, .inr ⟨d, rest, rfl, hhead⟩⟩

theorem valueOf_dropZeros (cs : List Char) : valueOf (dropZeros cs) = valueOf cs := by
  rw [← valueOf_dropWhile cs, dropZeros]
  cases cs.dropWhile (· == '0') <;> rfl

theorem length_dropZeros_le (cs : List Char) : (dropZeros cs).length ≤ max 1 (cs.dropWhile (· == '0')).length := by
  unfold dropZeros
  cases cs.dropWhile (· == '0') with
  | nil => simp
  | cons d rest => exact Nat.le_max_right _ _

/-- A text of digits is cut where it is asked for. -/
theorem cutAt_of_allDigits {n : Nat} (h : AllDigits cs) (hn : n ≤ cs.length) : cutAt n cs = some (cs.take n, cs.drop n) := by
  induction cs generalizing n with
  | nil =>
    obtain rfl := Nat.le_zero.1 hn
    rfl
  | cons c rest ih =>
    cases n with
    | zero => rfl
    | succ n =>
      obtain ⟨hc, hrest⟩ := List.forall_mem_cons.1 h
      have hsize : c.utf8Size = 1 := by
        have hbytes := byteLength_of_allDigits (List.forall_mem_singleton.2 hc)
        simpa [byteLength] using hbytes
      rw [cutAt, hsize, if_neg (by omega), Nat.add_sub_cancel, ih hrest (Nat.le_of_succ_le_succ hn)]
      rfl

/-- The last digits are cut off if they are zeros, which keeps the number; if they are not, no power of ten that is as large divides
it. -/
theorem shorten_keeps {n : Nat} (h : AllDigits cs) (hlead : Leading cs) (hn : n ≤ cs.length) :
    (∃ front, shorten n cs = .ok front ∧ Trimmed front ∧ front.length = n ∧
        ∀ x : Int, scaled (valueOf front) (x + (cs.length - n : Nat)) = scaled (valueOf cs) x) ∨
      (∃ fault, shorten n cs = .error fault ∧ ¬10 ^ (cs.length - n) ∣ valueOf cs) := by
  have hback : AllDigits (cs.drop n) := fun c hc => h c (List.mem_of_mem_drop hc)
  have hdvd : 10 ^ (cs.drop n).length ∣ valueOf (cs.take n ++ cs.drop n) ↔ _ := pow_dvd_valueOf_iff hback
  rw [List.take_append_drop, List.length_drop] at hdvd
  rw [shorten, cutAt_of_allDigits h hn]
  by_cases hzeros : (cs.drop n).all (· == '0') = true
  · left
    refine ⟨cs.take n, if_pos hzeros, ?_, List.length_take_of_le hn, fun x => ?_⟩
    · refine ⟨fun c hc => h c (List.mem_of_mem_take hc), .inr ?_⟩
      obtain ⟨d, rest, rfl, hd⟩ := hlead
      cases n with
      | zero =>
        -- the first digit would be among those that are cut off
        rw [List.drop_zero, List.all_cons, Bool.and_eq_true, beq_iff_eq] at hzeros
        exact absurd hzeros.1 hd
      | succ n => exact ⟨d, rest.take n, rfl, hd⟩
    · have hvalue : valueOf cs = valueOf (cs.take n) * 10 ^ (cs.length - n) := by
        conv => lhs; rw [← List.take_append_drop n cs]
        rw [valueOf_append, (valueOf_eq_zero_iff hback).2 hzeros, List.length_drop, Nat.add_zero]
      rw [← scaled_mul_pow, ← hvalue]
  · exact .inr ⟨_, if_neg hzeros, mt hdvd.1 hzeros⟩

/-! ## The steps -/

/-- Digits without zeros in front, and an exponent, that say a number. -/
structure Spells (q : ℚ) (cs : List Char) (x : Int) : Prop where
  trimmed : Trimmed cs
  value : scaled (valueOf cs) x = q

/-- Whether a step of reading a number leaves something that is right, or gives up and the format has no value that is the number. -/
def Exact {α : Type} (q : ℚ) (right : α → Prop) : Except ReadFault α → Prop
  | .ok a => right a
  | .error _ => ¬Representable q

/-- Steps that are exact are so one after the other. -/
theorem Exact.bind {α β : Type} {right : α → Prop} {right' : β → Prop} {step : Except ReadFault α} {next : α → Except ReadFault β}
    (h : Exact q right step) (h' : ∀ a, right a → Exact q right' (next a)) : Exact q right' (step >>= next) := by
  cases step with
  | error fault => exact h
  | ok a => exact h' a h

theorem fitDigits_exact (h : Spells q cs x) (hlength : cs.length ≤ 32801) :
    Exact q (fun p => Spells q p.1 p.2 ∧ p.1.length ≤ 34) (fitDigits cs x) := by
  obtain ⟨htrimmed, rfl⟩ := h
  have hdigits := htrimmed.digits
  rw [fitDigits, byteLength_of_allDigits hdigits]
  by_cases hlong : maxDigits < cs.length
  · rw [if_pos hlong]
    unfold maxDigits at *
    have hlead : Leading cs := htrimmed.leading (by rintro rfl; simp at hlong)
    rcases shorten_keeps hdigits hlead (Nat.le_of_lt hlong) with ⟨front, hfront, hkept, hlen, hvalue⟩ | ⟨fault, hfault, hdvd⟩
    · rw [hfront]
      dsimp only
      split
      · next hoverflow =>
        -- the first digit is above the greatest value of the format
        intro hrep
        obtain ⟨e, -, hmax, hfirst, -⟩ := hrep.exists_exponent (hlead.pow_le hdigits)
        omega
      · exact ⟨⟨hkept, hvalue x⟩, Nat.le_of_eq hlen⟩
    · rw [hfault]
      intro hrep
      obtain ⟨e, -, -, hfirst, hzeros⟩ := hrep.exists_exponent (hlead.pow_le hdigits)
      exact hdvd (Nat.dvd_trans (Nat.pow_dvd_pow 10 (by omega)) (hzeros (by omega)))
  · rw [if_neg hlong]
    exact ⟨⟨htrimmed, rfl⟩, Nat.not_lt.1 hlong⟩

theorem fitMinimum_exact (h : Spells q cs x) (hlength : cs.length ≤ 34) :
    Exact q (fun p => Spells q p.1 p.2 ∧ p.1.length ≤ 34 ∧ -6176 ≤ p.2) (fitMinimum cs x) := by
  obtain ⟨htrimmed, rfl⟩ := h
  have hdigits := htrimmed.digits
  unfold fitMinimum minExponent
  by_cases hlow : x < -6176
  · rw [if_pos hlow]
    by_cases hzero : cs = ['0']
    · subst hzero
      exact ⟨⟨htrimmed, (scaled_zero _).trans (scaled_zero _).symm⟩, hlength, Int.le_refl _⟩
    rw [if_neg hzero, byteLength_of_allDigits hdigits]
    have hlead := htrimmed.leading hzero
    have hpow := hlead.pow_le hdigits
    dsimp only
    split
    · next hshort =>
      -- all digits are below the least power of ten
      intro hrep
      obtain ⟨e, hmin, -, -, hzeros⟩ := hrep.exists_exponent hpow
      have hpos : 0 < valueOf cs := Nat.lt_of_lt_of_le (Nat.pow_pos (by decide)) hpow
      have hless := Nat.lt_of_le_of_lt (Nat.le_of_dvd hpos (hzeros (by omega))) (valueOf_lt hdigits)
      have hlen := (Nat.pow_lt_pow_iff_right (by decide)).1 hless
      omega
    · next hlong =>
      have hcut : cs.length - (cs.length - (-6176 - x).toNat) = (-6176 - x).toNat := by omega
      have hback : x + ((-6176 - x).toNat : Int) = -6176 := by omega
      have hkeeps := shorten_keeps hdigits hlead (Nat.sub_le cs.length (-6176 - x).toNat)
      rw [hcut] at hkeeps
      rcases hkeeps with ⟨front, hfront, hkept, hlen, hvalue⟩ | ⟨fault, hfault, hdvd⟩
      · have hsame := hvalue x
        rw [hback] at hsame
        rw [hfront]
        exact ⟨⟨hkept, hsame⟩, show front.length ≤ 34 by omega, Int.le_refl _⟩
      · rw [hfault]
        intro hrep
        obtain ⟨e, hmin, -, -, hzeros⟩ := hrep.exists_exponent hpow
        exact hdvd (Nat.dvd_trans (Nat.pow_dvd_pow 10 (by omega)) (hzeros (by omega)))
  · rw [if_neg hlow]
    exact ⟨⟨htrimmed, rfl⟩, hlength, Int.not_lt.1 hlow⟩

theorem fitMaximum_exact (h : Spells q cs x) (hlength : cs.length ≤ 34) (hmin : -6176 ≤ x) :
    Exact q (fun p => Spells q p.1 p.2 ∧ p.1.length ≤ 34 ∧ -6176 ≤ p.2 ∧ p.2 ≤ 6111) (fitMaximum cs x) := by
  obtain ⟨htrimmed, rfl⟩ := h
  have hdigits := htrimmed.digits
  unfold fitMaximum maxExponent
  by_cases hhigh : 6111 < x
  · rw [if_pos hhigh]
    by_cases hzero : cs = ['0']
    · subst hzero
      exact ⟨⟨htrimmed, (scaled_zero _).trans (scaled_zero _).symm⟩, hlength, by omega, Int.le_refl _⟩
    rw [if_neg hzero, byteLength_of_allDigits hdigits]
    have hlead := htrimmed.leading hzero
    unfold maxDigits
    dsimp only
    split
    · next hoverflow =>
      intro hrep
      obtain ⟨e, -, hmax, hfirst, -⟩ := hrep.exists_exponent (hlead.pow_le hdigits)
      have hpos := hlead.length_pos
      omega
    · next hroom =>
      have hback : (6111 : Int) + ((x - 6111).toNat : Nat) = x := by omega
      refine ⟨⟨⟨allDigits_append hdigits (allDigits_zeros _), .inr ?_⟩, ?_⟩, ?_, by omega, Int.le_refl _⟩
      · obtain ⟨d, rest, rfl, hd⟩ := hlead
        exact ⟨d, _, rfl, hd⟩
      · rw [valueOf_append, valueOf_zeros, List.length_replicate, Nat.add_zero, scaled_mul_pow, hback]
      · rw [List.length_append, List.length_replicate]
        omega
  · rw [if_neg hhigh]
    exact ⟨⟨htrimmed, rfl⟩, hlength, hmin, Int.not_lt.1 hhigh⟩

/-! ## Reading -/

/-- Digits and an exponent are a decimal that says their number, or are refused, and then the format has no value for it. -/
theorem settle_exact (negative : Bool) (x : Int) (h : AllDigits cs) (hlength : (cs.dropWhile (· == '0')).length ≤ 32801) :
    Exact (scaled (valueOf cs) x) (fun d => d.Says negative (scaled (valueOf cs) x)) (settle negative cs x) := by
  have hspells : Spells (scaled (valueOf cs) x) (dropZeros cs) x := ⟨trimmed_dropZeros h, by rw [valueOf_dropZeros]⟩
  have hlong : (dropZeros cs).length ≤ 32801 := Nat.le_trans (length_dropZeros_le cs) (by omega)
  refine (fitDigits_exact hspells hlong).bind ?_
  rintro ⟨cs₁, x₁⟩ ⟨hspells₁, hlength₁⟩
  refine (fitMinimum_exact hspells₁ hlength₁).bind ?_
  rintro ⟨cs₂, x₂⟩ ⟨hspells₂, hlength₂, hmin₂⟩
  refine (fitMaximum_exact hspells₂ hlength₂ hmin₂).bind ?_
  rintro ⟨cs₃, x₃⟩ ⟨⟨htrimmed, hvalue⟩, hlength₃, hmin₃, hmax₃⟩
  have hless : valueOf cs₃ < 10 ^ 34 := Nat.lt_of_lt_of_le (valueOf_lt htrimmed.digits) (Nat.pow_le_pow_right (by decide) hlength₃)
  have hread : readNatural (Nat.pow 2 128 - 1) cs₃ = .ok (valueOf cs₃) :=
    readNatural_of_digits htrimmed.ne_nil htrimmed.digits (Nat.le_trans (Nat.le_of_lt hless) (by decide))
  dsimp only
  rw [hread]
  exact ⟨valueOf cs₃, x₃, shape_ofFinite negative ⟨hless, hmin₃, hmax₃⟩, hvalue⟩

end Seedbed.Decimal128
