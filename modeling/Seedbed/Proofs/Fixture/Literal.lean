import Seedbed.Fixture.Literal
import Seedbed.Proofs.Decimal128.Numeral

/-!
# Literals of decimals

A literal is accepted exactly if it is the printed form of a decimal, and then it stands for what that decimal says, in the pattern
that this library makes (`decimal_render`). For the infinities and the finite values of the format that is the decimal itself, bit by
bit; a literal that is refused because it would be rounded comes with one that is accepted. A numeral is read at all exactly if the
format has a value that is its number, and then as a decimal that says just that number, whether it is accepted or another way of
writing it is suggested (`decimal_exact`).
-/

namespace Seedbed.Fixture

open Decimal128

/-- The printed form of a decimal stands for what it says. -/
theorem decimal_render (field : String) (d : Decimal128) : decimal field d.render = .ok (.decimal d.normal) := by
  have htext : d.render.toList = d.print := String.toList_ofList
  unfold decimal
  rw [htext, read_print]
  simp only [print_normal, if_true]

/-- What is accepted is the printed form of the decimal that it stands for. -/
theorem render_of_decimal {field literal : String} {v : Value} (h : decimal field literal = .ok v) :
    ∃ d : Decimal128, v = .decimal d ∧ d.render = literal := by
  unfold decimal at h
  split at h
  · cases h
  · next d hread =>
    split at h
    · next hprint =>
      refine ⟨d, (Except.ok.inj h).symm, ?_⟩
      rw [render, hprint, String.ofList_toList]
    · cases h

/-- The text that is suggested for a literal that would be rounded is the printed form of a decimal. -/
theorem printed_of_rounds {field literal printed : String}
    (h : decimal field literal = .error (.representation field literal (.rounds printed))) : ∃ d : Decimal128, d.render = printed := by
  unfold decimal at h
  split at h
  · cases h
  · next d hread =>
    split at h
    · cases h
    · exact ⟨d, LiteralFault.rounds.inj (FixtureError.representation.inj (Except.error.inj h)).2.2⟩

/-- A literal is accepted exactly if some decimal is printed as it; from the printed form of a canonical decimal that decimal itself
is made; and what is suggested in place of a literal is accepted. -/
theorem decimal_accepts_printed :
    (∀ field literal, (∃ v, decimal field literal = .ok v) ↔ ∃ d : Decimal128, d.render = literal) ∧
    (∀ field (d : Decimal128), d.IsCanonical → decimal field d.render = .ok (.decimal d)) ∧
    (∀ field literal printed, decimal field literal = .error (.representation field literal (.rounds printed)) →
      ∀ other, ∃ v, decimal other printed = .ok v) := by
  refine ⟨fun field literal => ⟨?_, ?_⟩, ?_, ?_⟩
  · rintro ⟨v, hv⟩
    obtain ⟨d, -, hd⟩ := render_of_decimal hv
    exact ⟨d, hd⟩
  · rintro ⟨d, rfl⟩
    exact ⟨.decimal d.normal, decimal_render field d⟩
  · intro field d hd
    rw [decimal_render, normal_of_isCanonical hd]
  · intro field literal printed hrounds other
    obtain ⟨d, rfl⟩ := printed_of_rounds hrounds
    exact ⟨.decimal d.normal, decimal_render other d⟩

/-! ## Numerals -/

/-- Whether a literal is read as a decimal: it stands for it, or it is refused because the decimal is printed as another text. -/
def ReadAs (field literal : String) (d : Decimal128) : Prop :=
  decimal field literal = .ok (.decimal d) ∨ decimal field literal = .error (.representation field literal (.rounds d.render))

theorem readAs_of_read {field literal : String} {d : Decimal128} (h : read literal.toList = .ok d) : ReadAs field literal d := by
  unfold ReadAs decimal
  rw [h]
  by_cases hprint : d.print = literal.toList
  · exact .inl (if_pos hprint)
  · exact .inr (if_neg hprint)

/-- Decimals that are printed alike say the same. -/
theorem shape_eq_of_print {d d' : Decimal128} (h : d.print = d'.print) : d.shape = d'.shape := by
  have hnormal : d.normal = d'.normal := Except.ok.inj (by rw [← read_print, ← read_print, h])
  rw [← shape_normal d, hnormal, shape_normal]

/-- What a literal is read as says what the reader makes of it. -/
theorem exists_read_of_readAs {field literal : String} {d : Decimal128} (h : ReadAs field literal d) :
    ∃ d', read literal.toList = .ok d' ∧ d'.shape = d.shape := by
  unfold ReadAs decimal at h
  cases hread : read literal.toList with
  | error fault =>
    rw [hread] at h
    rcases h with h | h
    · cases h
    · have hfault := (FixtureError.representation.inj (Except.error.inj h)).2.2
      cases hfault
  | ok d' =>
    refine ⟨d', rfl, ?_⟩
    rw [hread] at h
    dsimp only at h
    split at h
    · rcases h with h | h
      · rw [Value.decimal.inj (Except.ok.inj h)]
      · cases h
    · rcases h with h | h
      · cases h
      · have hrender := LiteralFault.rounds.inj (FixtureError.representation.inj (Except.error.inj h)).2.2
        exact shape_eq_of_print (String.ofList_injective hrender)

/-- A numeral is read at all exactly if its absolute value is that of a value of the format, and what it is read as has its sign and
denotes exactly its number. -/
theorem decimal_exact (field : String) (n : Numeral) (h : n.WithinLimits) :
    ((∃ d, ReadAs field n.literal d) ↔
        ∃ (c : Nat) (e : Int), c < 10 ^ 34 ∧ -6176 ≤ e ∧ e ≤ 6111 ∧ (c : ℚ) * 10 ^ e = n.magnitude) ∧
      ∀ d, ReadAs field n.literal d → ∃ (c : Nat) (e : Int), d.shape = .finite n.sign.isMinus c e ∧ (c : ℚ) * 10 ^ e = n.magnitude := by
  have htext : n.literal.toList = n.text := String.toList_ofList
  have hexact := n.read_exact h
  have hsaid : ∀ d, ReadAs field n.literal d → d.Says n.sign.isMinus n.magnitude := by
    intro d hd
    obtain ⟨d', hread, hshape⟩ := exists_read_of_readAs hd
    rw [htext] at hread
    rw [hread] at hexact
    obtain ⟨c, e, hfinite, hvalue⟩ := hexact
    exact ⟨c, e, hshape ▸ hfinite, hvalue⟩
  refine ⟨⟨?_, ?_⟩, hsaid⟩
  · rintro ⟨d, hd⟩
    obtain ⟨c, e, ⟨hc, hmin, hmax⟩, hvalue⟩ := (hsaid d hd).representable
    exact ⟨c, e, hc, hmin, hmax, hvalue⟩
  · rintro ⟨c, e, hc, hmin, hmax, hvalue⟩
    cases hread : read n.text with
    | error fault =>
      rw [hread] at hexact
      exact absurd ⟨c, e, ⟨hc, hmin, hmax⟩, hvalue⟩ hexact
    | ok d => exact ⟨d, readAs_of_read (htext ▸ hread)⟩

/-- A numeral of which zeros are cut off twice, because it has too many digits and because its last ones are too small. -/
def tiny : Numeral where
  sign := .minus
  whole := '1' :: List.replicate 40 '0'
  fraction := some ['0', '0']
  power := some ⟨'E', .minus, ['6', '2', '0', '0'], .inr rfl, by decide, by decide⟩
  whole_digits := by decide
  fraction_digits := by simp only [Option.mem_some_iff, forall_eq']; decide
  some_digit := by decide

theorem magnitude_tiny : tiny.magnitude = ((10 ^ 16 : Nat) : ℚ) * 10 ^ (-6176 : Int) := by
  have hwhole : Text.valueOf tiny.whole = 10 ^ 40 := by decide
  have hdecimals : Text.valueOf tiny.decimals = 0 := by decide
  have hexponent : tiny.exponent = -6200 := by decide
  have hshift : (10 : ℚ) ^ (-6176 : Int) = 10 ^ (24 : Nat) * 10 ^ (-6200 : Int) := by
    rw [← zpow_natCast, ← zpow_add₀ (by norm_num)]
    rfl
  rw [Numeral.magnitude, hwhole, hdecimals, hexponent, hshift]
  generalize (10 : ℚ) ^ (-6200 : Int) = unit
  push_cast
  ring

theorem decimal_exact_tiny :
    tiny.WithinLimits ∧ (∃ d, ReadAs "numeric_test" tiny.literal d) ∧
      ∀ d, ReadAs "numeric_test" tiny.literal d →
        ∃ (c : Nat) (e : Int), d.shape = .finite true c e ∧ (c : ℚ) * 10 ^ e = ((10 ^ 16 : Nat) : ℚ) * 10 ^ (-6176 : Int) := by
  have hlimits : tiny.WithinLimits := ⟨by decide, by decide, by decide, by decide, by decide⟩
  obtain ⟨hiff, hsaid⟩ := decimal_exact "numeric_test" tiny hlimits
  rw [magnitude_tiny] at hiff hsaid
  exact ⟨hlimits, hiff.2 ⟨10 ^ 16, -6176, by decide, by decide, by decide, rfl⟩, hsaid⟩

end Seedbed.Fixture
