import Seedbed.Decimal128.Printer
import Seedbed.Decimal128.Reader
import Seedbed.Proofs.Decimal128.Layout
import Seedbed.Proofs.Text.Numeral

/-!
# A decimal is read from its printed form

Whichever way a finite value is printed, with its point among the digits, behind zeros, or with an exponent, the reader finds the
same two things in the text: the digits of the coefficient, behind zeros, and the exponent less the number of digits after the point
(`takeNumeral_printMagnitude`). It has no reason to cut or to append anything, because the value is one of the format
(`readFinite_printMagnitude`). So what is printed is read as what it says (`read_print`).
-/

namespace Seedbed.Decimal128

open Text

/-! ## Marks -/

/-- A text is split at the first mark. -/
theorem splitAtMark_append {mark : Char} {front : List Char} (h : mark ∉ front) (back : List Char) :
    splitAtMark mark (front ++ mark :: back) = some (front, back) := by
  induction front with
  | nil => simp [splitAtMark]
  | cons c rest ih =>
    obtain ⟨hc, hrest⟩ := not_or.1 (mt List.mem_cons.2 h)
    rw [List.cons_append, splitAtMark, if_neg (fun e => hc e.symm), ih hrest]
    rfl

/-- A text without a mark is not split. -/
theorem splitAtMark_of_not_mem {mark : Char} {cs : List Char} (h : mark ∉ cs) : splitAtMark mark cs = none := by
  induction cs with
  | nil => rfl
  | cons c rest ih =>
    obtain ⟨hc, hrest⟩ := not_or.1 (mt List.mem_cons.2 h)
    rw [splitAtMark, if_neg (fun e => hc e.symm), ih hrest]
    rfl

/-- Whether a text consists of digits and points. -/
def Plain (cs : List Char) : Prop := ∀ c ∈ cs, c.isDigit = true ∨ c = '.'

theorem plain_of_allDigits {cs : List Char} (h : AllDigits cs) : Plain cs := fun c hc => .inl (h c hc)

theorem plain_append {front back : List Char} (hfront : AllDigits front) (hback : AllDigits back) :
    Plain (front ++ '.' :: back) :=
  List.forall_mem_append.2 ⟨plain_of_allDigits hfront, List.forall_mem_cons.2 ⟨.inr rfl, plain_of_allDigits hback⟩⟩

theorem lower_of_isDigit {c : Char} (h : c.isDigit = true) : lower c = c := by
  rw [lower, if_neg]
  rintro ⟨hle, -⟩
  rw [Char.isDigit_iff_toNat] at h
  rw [Char.le_def, UInt32.le_iff_toNat_le] at hle
  exact absurd (Nat.le_trans hle h.2) (by decide)

/-- Digits and points have no other case. -/
theorem map_lower_of_plain {cs : List Char} (h : Plain cs) : cs.map lower = cs := by
  have hlower : ∀ c ∈ cs, lower c = c := by
    intro c hc
    rcases h c hc with hdigit | rfl
    · exact lower_of_isDigit hdigit
    · rfl
  rw [List.map_congr_left hlower, List.map_id']

/-- None of them marks an exponent. -/
theorem not_mem_of_plain {cs : List Char} (h : Plain cs) : 'e' ∉ cs := by
  intro hmem
  rcases h 'e' hmem with hdigit | hpoint
  · cases hdigit
  · cases hpoint

/-! ## The numeral in a text -/

/-- The coefficient of a text and its exponent, without its marks. -/
def takeNumeral (text : List Char) : Except ReadFault (List Char × Int) := do
  let (text, exponent) ← takeExponent text
  takePoint text exponent

/-- The decimal of a coefficient and an exponent. -/
def settle (negative : Bool) (cs : List Char) (x : Int) : Except ReadFault Decimal128 := do
  let (cs, x) ← fitDigits (dropZeros cs) x
  let (cs, x) ← fitMinimum cs x
  let (cs, x) ← fitMaximum cs x
  match readNatural (Nat.pow 2 128 - 1) cs with
  | .error fault => .error (.invalidCoefficient fault)
  | .ok coefficient => .ok (ofFinite negative coefficient x)

/-- A text is read as the decimal of what stands in it. -/
theorem readFinite_eq_settle {text cs : List Char} {x : Int} {negative : Bool} (h : takeNumeral text = .ok (cs, x)) :
    readFinite negative text = settle negative cs x := by
  cases hexponent : takeExponent text with
  | error fault =>
    rw [takeNumeral, hexponent] at h
    cases h
  | ok marked =>
    obtain ⟨front, e⟩ := marked
    have hpoint : takePoint front e = .ok (cs, x) := by
      rw [takeNumeral, hexponent] at h
      exact h
    simp only [readFinite, hexponent, hpoint, bind, Except.bind]
    rfl

/-- Digits after which nothing stands are a coefficient, whatever the exponent. -/
theorem takePoint_of_allDigits {cs : List Char} (h : AllDigits cs) (exponent : Int) : takePoint cs exponent = .ok (cs, exponent) := by
  rw [takePoint, splitAtMark_of_not_mem (not_mem_of_allDigits h rfl)]

/-- The digits after a point count against the exponent. -/
theorem takePoint_append {front back : List Char} {exponent : Int} (hfront : AllDigits front) (hback : AllDigits back)
    (hlength : back.length ≤ 32767) (hmin : -32768 ≤ exponent - back.length) :
    takePoint (front ++ '.' :: back) exponent = .ok (front ++ back, exponent - back.length) := by
  rw [takePoint, splitAtMark_append (not_mem_of_allDigits hfront rfl)]
  simp only [byteLength_of_allDigits hback]
  rw [if_neg (by omega)]

/-- An exponent is read behind its mark. -/
theorem takeExponent_mark {front back : List Char} {exponent : Int} (h : 'e' ∉ front) (hne : back ≠ [])
    (hread : readInteger 32768 32767 back = .ok exponent) :
    takeExponent (front ++ 'e' :: back) = .ok (front, exponent) := by
  obtain ⟨c, rest, rfl⟩ := List.exists_cons_of_ne_nil hne
  rw [takeExponent, splitAtMark_append h]
  simp only [hread]

/-- An exponent is read with its sign as it is printed. -/
theorem takeExponent_append {front : List Char} {exponent : Int} (h : 'e' ∉ front) (hmin : -32768 ≤ exponent)
    (hmax : exponent ≤ 32767) :
    takeExponent (front ++ 'e' :: (sign exponent ++ digits exponent.natAbs)) = .ok (front, exponent) :=
  takeExponent_mark h (List.append_ne_nil_of_right_ne_nil _ (digits_ne_nil _)) (readInteger_signed (by omega) (by omega))

theorem takeExponent_of_not_mem {cs : List Char} (h : 'e' ∉ cs) : takeExponent cs = .ok (cs, 0) := by
  rw [takeExponent, splitAtMark_of_not_mem h]

/-! ## The printed form of a finite value -/

/-- Digits on both sides of a point are a coefficient together, and those behind it its places. -/
theorem takeNumeral_append {front back : List Char} (hfront : AllDigits front) (hback : AllDigits back)
    (hlength : back.length ≤ 32767) : takeNumeral (front ++ '.' :: back) = .ok (front ++ back, -(back.length : Int)) := by
  have hpoint := takePoint_append hfront hback hlength (show -32768 ≤ 0 - (back.length : Int) by omega)
  rw [Int.zero_sub] at hpoint
  rw [takeNumeral, takeExponent_of_not_mem (not_mem_of_plain (plain_append hfront hback))]
  exact hpoint

/-- In digits with a point among them or before them stand the digits themselves behind zeros. -/
theorem takeNumeral_pointed {cs : List Char} (h : AllDigits cs) {places : Nat} (hplaces : places ≤ 32767) :
    ∃ zeros, takeNumeral ((pointed cs places).map lower) = .ok (List.replicate zeros '0' ++ cs, -(places : Int)) := by
  unfold pointed
  split
  · next hzero =>
    subst hzero
    refine ⟨0, ?_⟩
    rw [map_lower_of_plain (plain_of_allDigits h), takeNumeral, takeExponent_of_not_mem (not_mem_of_allDigits h rfl)]
    exact takePoint_of_allDigits h 0
  split
  · next hne hlt =>
    have hfront : AllDigits (cs.take (cs.length - places)) := fun c hc => h c (List.mem_of_mem_take hc)
    have hback : AllDigits (cs.drop (cs.length - places)) := fun c hc => h c (List.mem_of_mem_drop hc)
    have hlength : (cs.drop (cs.length - places)).length = places := by
      rw [List.length_drop]
      omega
    have hnumeral := takeNumeral_append hfront hback (by omega)
    rw [List.take_append_drop, hlength] at hnumeral
    rw [map_lower_of_plain (plain_append hfront hback)]
    exact ⟨0, hnumeral⟩
  · next hne hge =>
    have hback : AllDigits (List.replicate (places - cs.length) '0' ++ cs) := allDigits_append (allDigits_zeros _) h
    have hlength : (List.replicate (places - cs.length) '0' ++ cs).length = places := by
      rw [List.length_append, List.length_replicate]
      omega
    have hnumeral := takeNumeral_append (allDigits_zeros 1) hback (by omega)
    rw [hlength] at hnumeral
    have hplain := map_lower_of_plain (plain_append (allDigits_zeros 1) hback)
    exact ⟨places - cs.length + 1, hplain.symm ▸ hnumeral⟩

/-- Digits with a point behind the first one, if more of them follow. -/
def mantissa : List Char → List Char
  | first :: second :: rest => first :: '.' :: second :: rest
  | short => short

theorem scientific_eq (cs : List Char) (power : Int) :
    scientific cs power = mantissa cs ++ 'E' :: (sign power ++ digits power.natAbs) :=
  List.append_assoc _ _ _

theorem plain_mantissa {cs : List Char} (h : AllDigits cs) : Plain (mantissa cs) := by
  unfold mantissa
  split
  · next first second rest =>
    obtain ⟨hfirst, hrest⟩ := List.forall_mem_cons.1 h
    exact plain_append (List.forall_mem_singleton.2 hfirst) hrest
  · exact plain_of_allDigits h

theorem takePoint_mantissa {d : Char} {rest : List Char} {power : Int} (h : AllDigits (d :: rest))
    (hmin : -32768 ≤ power - rest.length) (hlength : rest.length ≤ 32767) :
    takePoint (mantissa (d :: rest)) power = .ok (d :: rest, power - rest.length) := by
  cases rest with
  | nil =>
    rw [List.length_nil, Int.natCast_zero, Int.sub_zero]
    exact takePoint_of_allDigits h power
  | cons second rest =>
    obtain ⟨hd, hrest⟩ := List.forall_mem_cons.1 h
    have hfront : AllDigits [d] := List.forall_mem_singleton.2 hd
    exact takePoint_append hfront hrest hlength hmin

/-- In scientific notation stand the digits and the exponent of the first one. -/
theorem takeNumeral_scientific {d : Char} {rest : List Char} {power : Int} (h : AllDigits (d :: rest))
    (hmin : -32768 ≤ power - rest.length) (hmax : power ≤ 32767) (hlength : rest.length ≤ 32767) :
    takeNumeral ((scientific (d :: rest) power).map lower) = .ok (d :: rest, power - rest.length) := by
  have hsign : (sign power).map lower = sign power := by
    unfold sign
    split
    · rfl
    · split <;> rfl
  have htext : (scientific (d :: rest) power).map lower =
      mantissa (d :: rest) ++ 'e' :: (sign power ++ digits power.natAbs) := by
    rw [scientific_eq, List.map_append, map_lower_of_plain (plain_mantissa h), List.map_cons, List.map_append, hsign,
      map_lower_of_plain (plain_of_allDigits (allDigits_digits _))]
    rfl
  rw [htext, takeNumeral, takeExponent_append (not_mem_of_plain (plain_mantissa h)) (by omega) hmax]
  exact takePoint_mantissa h hmin hlength

/-- In the printed form of a value stand the digits of its coefficient, behind zeros, and its exponent. -/
theorem takeNumeral_printMagnitude {coefficient : Nat} {exponent : Int} (h : InBounds coefficient exponent) :
    ∃ zeros, takeNumeral ((printMagnitude coefficient exponent).map lower) =
      .ok (List.replicate zeros '0' ++ digits coefficient, exponent) := by
  obtain ⟨hc, hmin, hmax⟩ := h
  obtain ⟨d, rest, hd, -⟩ := exists_cons_digits coefficient
  have hdigits := allDigits_digits coefficient
  have hlength : (digits coefficient).length ≤ 34 := (Nat.length_toDigits_le_iff (by decide) (by decide)).2 hc
  simp only [printMagnitude]
  rw [hd] at hdigits hlength ⊢
  rw [List.length_cons] at hlength ⊢
  split
  · next hplain =>
    have hplaces : (-exponent).toNat ≤ 32767 := by omega
    obtain ⟨zeros, hzeros⟩ := takeNumeral_pointed hdigits hplaces
    have hback : -(((-exponent).toNat : Nat) : Int) = exponent := by omega
    exact ⟨zeros, hzeros.trans (by rw [hback])⟩
  · next hplain =>
    have hback : exponent + ((rest.length + 1 : Nat) : Int) - 1 - rest.length = exponent := by omega
    have hnumeral := takeNumeral_scientific hdigits (hback ▸ (by omega : -32768 ≤ exponent)) (by omega) (by omega)
    rw [hback] at hnumeral
    exact ⟨0, hnumeral⟩

/-! ## Reading what is printed -/

/-- Behind zeros stand the digits of a number, and those of zero are one of them. -/
theorem dropZeros_digits (zeros n : Nat) : dropZeros (List.replicate zeros '0' ++ digits n) = digits n := by
  unfold dropZeros
  rcases Nat.eq_zero_or_pos n with rfl | hpos
  · have hdigits : digits 0 = List.replicate 1 '0' := rfl
    have hempty : (List.replicate zeros '0' ++ digits 0).dropWhile (· == '0') = [] := by
      rw [hdigits, List.replicate_append_replicate, List.dropWhile_replicate_eq_filter_not]
      simp
    rw [hempty]
    rfl
  · obtain ⟨d, rest, hd, -⟩ := exists_cons_digits n
    rw [dropWhile_digits (Nat.ne_of_gt hpos), hd]

/-- The digits of a value of the format are a value as they are. -/
theorem readFinite_of_takeNumeral {text : List Char} {negative : Bool} {coefficient zeros : Nat} {exponent : Int}
    (h : InBounds coefficient exponent) (htext : takeNumeral text = .ok (List.replicate zeros '0' ++ digits coefficient, exponent)) :
    readFinite negative text = .ok (ofFinite negative coefficient exponent) := by
  obtain ⟨hc, hmin, hmax⟩ := h
  have hlength : ¬maxDigits < (digits coefficient).length :=
    Nat.not_lt.2 ((Nat.length_toDigits_le_iff (by decide) (by decide)).2 hc)
  have hminExponent : ¬exponent < minExponent := Int.not_lt.2 hmin
  have hmaxExponent : ¬maxExponent < exponent := Int.not_lt.2 hmax
  have hfit : fitDigits (digits coefficient) exponent = .ok (digits coefficient, exponent) := by
    rw [fitDigits, byteLength_of_allDigits (allDigits_digits _), if_neg hlength]
  have hminimum : fitMinimum (digits coefficient) exponent = .ok (digits coefficient, exponent) := by
    rw [fitMinimum, if_neg hminExponent]
  have hmaximum : fitMaximum (digits coefficient) exponent = .ok (digits coefficient, exponent) := by
    rw [fitMaximum, if_neg hmaxExponent]
  have hnatural : readNatural (Nat.pow 2 128 - 1) (digits coefficient) = .ok coefficient :=
    readNatural_digits (Nat.le_trans (Nat.le_of_lt hc) (by decide))
  rw [readFinite_eq_settle htext, settle]
  simp only [dropZeros_digits, hfit, hminimum, hmaximum, hnatural, bind, Except.bind]

/-- The printed form of a value of the format is read as that value. -/
theorem readFinite_printMagnitude (negative : Bool) {coefficient : Nat} {exponent : Int} (h : InBounds coefficient exponent) :
    readFinite negative ((printMagnitude coefficient exponent).map lower) = .ok (ofFinite negative coefficient exponent) := by
  obtain ⟨zeros, hzeros⟩ := takeNumeral_printMagnitude h
  exact readFinite_of_takeNumeral h hzeros

/-- The printed form of a coefficient begins with a digit. -/
theorem exists_cons_printMagnitude (coefficient : Nat) (exponent : Int) :
    ∃ d rest, printMagnitude coefficient exponent = d :: rest ∧ d.isDigit = true := by
  obtain ⟨d, rest, hd, hdigit⟩ := exists_cons_digits coefficient
  simp only [printMagnitude, pointed, hd]
  split
  · split
    · exact ⟨d, rest, rfl, hdigit⟩
    split
    · next hne hlt =>
      rw [List.length_cons] at hlt ⊢
      obtain ⟨n, hn⟩ : ∃ n, rest.length + 1 - (-exponent).toNat = n + 1 := ⟨rest.length - (-exponent).toNat, by omega⟩
      rw [hn, List.take_succ_cons]
      exact ⟨d, _, rfl, hdigit⟩
    · exact ⟨'0', _, rfl, rfl⟩
  · cases rest <;> exact ⟨d, _, rfl, hdigit⟩

/-- What begins with a digit is no word. -/
theorem read_cons {d : Char} {rest : List Char} (h : d.isDigit = true) :
    read (d :: rest) = readFinite false ((d :: rest).map lower) ∧ read ('-' :: d :: rest) = readFinite true ((d :: rest).map lower) := by
  have hsign : takeSign (d :: rest) = (false, d :: rest) := by
    have hplus := ne_of_isDigit h (show '+'.isDigit = false from rfl)
    have hminus := ne_of_isDigit h (show '-'.isDigit = false from rfl)
    unfold takeSign
    split <;> simp_all
  have hn := ne_of_isDigit h (show 'n'.isDigit = false from rfl)
  have hs := ne_of_isDigit h (show 's'.isDigit = false from rfl)
  have hi := ne_of_isDigit h (show 'i'.isDigit = false from rfl)
  constructor
  · simp [read, hsign, lower_of_isDigit h, hn, hs, hi]
  · simp [read, takeSign, lower_of_isDigit h, hn, hs, hi]

/-- A decimal is read from its printed form as what it says. -/
theorem read_print (d : Decimal128) : read d.print = .ok d.normal := by
  unfold print normal
  cases hshape : d.shape with
  | notANumber => rfl
  | infinity negative => cases negative <;> rfl
  | finite negative coefficient exponent =>
    have hread := readFinite_printMagnitude negative (inBounds_of_shape hshape)
    obtain ⟨first, rest, hprint, hdigit⟩ := exists_cons_printMagnitude coefficient exponent
    simp only [hprint] at hread ⊢
    cases negative with
    | false => exact (read_cons hdigit).1.trans hread
    | true => exact (read_cons hdigit).2.trans hread

/-- A decimal prints as what it says. -/
theorem print_normal (d : Decimal128) : d.normal.print = d.print := by
  rw [print, shape_normal, ← print]

end Seedbed.Decimal128
