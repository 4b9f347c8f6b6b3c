import Mathlib.Data.Nat.Digits.Lemmas
import Mathlib.Tactic.Ring
import Seedbed.Base64

/-!
# Base64 is one text for the same bytes

The format is a rule about numbers: the letters of a text are the digits, to the base of sixty-four, of the number whose digits to the
base of two hundred fifty-six are the bytes, with a few zero bits behind it (`IsBase64`). There is exactly one such text of any bytes, the
one that is written (`isBase64_iff`). The texts of no bytes are those that go wrong in one of five ways (`malformed_iff`).
-/

namespace Seedbed.Base64

/-! ## The rule of the format -/

/-- The letters in the order of their values. -/
def alphabet : List Char :=
  ['A', 'B', 'C', 'D', 'E', 'F', 'G', 'H', 'I', 'J', 'K', 'L', 'M', 'N', 'O', 'P', 'Q', 'R', 'S', 'T', 'U', 'V', 'W', 'X', 'Y', 'Z',
    'a', 'b', 'c', 'd', 'e', 'f', 'g', 'h', 'i', 'j', 'k', 'l', 'm', 'n', 'o', 'p', 'q', 'r', 's', 't', 'u', 'v', 'w', 'x', 'y', 'z',
    '0', '1', '2', '3', '4', '5', '6', '7', '8', '9', '+', '/']

/-- The number that digits stand for in a base, the first digit counting most. -/
def number (base : Nat) (digits : List Nat) : Nat := Nat.ofDigits base digits.reverse

/-- Whether letters and pads write bytes: the letters are the digits of the number of the bytes with `spare` zero bits behind it, which are
too few for a letter of their own, and the pads fill up the last four. -/
structure Writes (bytes : List UInt8) (letters : List Char) (spare pads : Nat) : Prop where
  mem_alphabet : ∀ c ∈ letters, c ∈ alphabet
  length_eq : 6 * letters.length = 8 * bytes.length + spare
  spare_lt : spare < 6
  number_eq : number 64 (letters.map alphabet.idxOf) = number 256 (bytes.map UInt8.toNat) * 2 ^ spare
  pads_lt : pads < 4
  dvd_length : 4 ∣ letters.length + pads

/-- Whether a text is the base64 of bytes: letters and pads that write them. -/
def IsBase64 (bytes : List UInt8) (text : List Char) : Prop :=
  ∃ letters spare pads, Writes bytes letters spare pads ∧ text = letters ++ List.replicate pads '='

/-! ## The letters -/

theorem alphabet_eq : alphabet = (List.range 64).map letter := by decide

theorem mem_alphabet_iff {c : Char} : c ∈ alphabet ↔ ∃ v < 64, letter v = c := by
  simp [alphabet_eq]

theorem idxOf_letter : ∀ v < 64, alphabet.idxOf (letter v) = v := by decide

theorem letter_idxOf {c : Char} (hc : c ∈ alphabet) : letter (alphabet.idxOf c) = c := by
  obtain ⟨v, hv, rfl⟩ := mem_alphabet_iff.1 hc
  rw [idxOf_letter v hv]

theorem pad_not_mem_alphabet : '=' ∉ alphabet := by decide

theorem map_idxOf_lt {letters : List Char} (h : ∀ c ∈ letters, c ∈ alphabet) : ∀ v ∈ letters.map alphabet.idxOf, v < 64 := by
  intro v hv
  obtain ⟨c, hc, rfl⟩ := List.mem_map.1 hv
  exact List.idxOf_lt_length_of_mem (h c hc)

/-- Letters are those of their values. -/
theorem map_letter_map_idxOf {letters : List Char} (h : ∀ c ∈ letters, c ∈ alphabet) :
    (letters.map alphabet.idxOf).map letter = letters := by
  rw [List.map_map]
  exact (List.map_congr_left (fun c hc => letter_idxOf (h c hc))).trans (List.map_id _)

/-- Values are those of their letters. -/
theorem map_idxOf_map_letter {vs : List Nat} (h : ∀ v ∈ vs, v < 64) : (vs.map letter).map alphabet.idxOf = vs := by
  rw [List.map_map]
  exact (List.map_congr_left (fun v hv => idxOf_letter v (h v hv))).trans (List.map_id _)

/-! ## What is written -/

/-- The values of the letters that bytes are written with. -/
def sextets : List UInt8 → List Nat
  | a :: b :: c :: rest =>
    let n := a.toNat * 65536 + b.toNat * 256 + c.toNat
    n / 262144 :: n / 4096 % 64 :: n / 64 % 64 :: n % 64 :: sextets rest
  | [a, b] =>
    let n := a.toNat * 1024 + b.toNat * 4
    [n / 4096, n / 64 % 64, n % 64]
  | [a] => [a.toNat * 16 / 64, a.toNat * 16 % 64]
  | [] => []

/-- The number of pads behind bytes. -/
def padding (bytes : List UInt8) : Nat := (3 - bytes.length % 3) % 3

@[simp] theorem padding_cons (a b c : UInt8) (rest : List UInt8) : padding (a :: b :: c :: rest) = padding rest := by
  simp only [padding, List.length_cons]
  omega

theorem padding_lt (bytes : List UInt8) : padding bytes < 3 := Nat.mod_lt _ (by decide)

theorem padding_of_length_eq_three {bytes : List UInt8} (h : bytes.length = 3) : padding bytes = 0 := by
  rw [padding, h]

/-- What is written are the letters of the values, and pads behind them. -/
theorem encode_eq (bytes : List UInt8) : encode bytes = (sextets bytes).map letter ++ List.replicate (padding bytes) '=' := by
  induction bytes using encode.induct with
  | case1 a b c rest ih =>
    rw [encode, sextets, padding_cons, ih]
    rfl
  | case2 a b => rfl
  | case3 a => rfl
  | case4 => rfl

theorem sextets_lt (bytes : List UInt8) : ∀ v ∈ sextets bytes, v < 64 := by
  induction bytes using encode.induct with
  | case1 a b c rest ih =>
    have ha := a.toNat_lt
    have hb := b.toNat_lt
    have hc := c.toNat_lt
    simp only [sextets, List.forall_mem_cons]
    exact ⟨by omega, by omega, by omega, by omega, ih⟩
  | case2 a b =>
    have ha := a.toNat_lt
    have hb := b.toNat_lt
    simp only [sextets, List.forall_mem_cons]
    exact ⟨by omega, by omega, by omega, by simp⟩
  | case3 a =>
    have ha := a.toNat_lt
    simp only [sextets, List.forall_mem_cons]
    exact ⟨by omega, by omega, by simp⟩
  | case4 => simp [sextets]

/-- Every pad stands for two bits, which are those that are left over. -/
theorem length_sextets (bytes : List UInt8) : 6 * (sextets bytes).length = 8 * bytes.length + 2 * padding bytes := by
  induction bytes using encode.induct with
  | case1 a b c rest ih =>
    simp only [sextets, padding, List.length_cons] at ih ⊢
    omega
  | case2 a b => rfl
  | case3 a => rfl
  | case4 => rfl

theorem number_cons (base d : Nat) (digits : List Nat) : number base (d :: digits) = d * base ^ digits.length + number base digits := by
  rw [number, number, List.reverse_cons, Nat.ofDigits_append, Nat.ofDigits_singleton, List.length_reverse]
  ring

/-- The letters stand for the number of the bytes, with the bits that are left over behind it. -/
theorem number_sextets (bytes : List UInt8) :
    number 64 (sextets bytes) = number 256 (bytes.map UInt8.toNat) * 2 ^ (2 * padding bytes) := by
  induction bytes using encode.induct with
  | case1 a b c rest ih =>
    have hdigits (n : Nat) : n / 262144 * 64 ^ 3 + n / 4096 % 64 * 64 ^ 2 + n / 64 % 64 * 64 + n % 64 = n := by omega
    have hpow : 64 ^ (sextets rest).length = 256 ^ rest.length * 2 ^ (2 * padding rest) := by
      calc 64 ^ (sextets rest).length = 2 ^ (6 * (sextets rest).length) := (pow_mul 2 6 _).symm
        _ = 2 ^ (8 * rest.length) * 2 ^ (2 * padding rest) := by rw [length_sextets, pow_add]
        _ = 256 ^ rest.length * 2 ^ (2 * padding rest) := congrArg (· * _) (pow_mul 2 8 _)
    simp only [sextets, number_cons, List.map_cons, List.length_cons, List.length_map, padding_cons, ih]
    generalize hn : a.toNat * 65536 + b.toNat * 256 + c.toNat = n
    calc _ = (n / 262144 * 64 ^ 3 + n / 4096 % 64 * 64 ^ 2 + n / 64 % 64 * 64 + n % 64) * 64 ^ (sextets rest).length +
          number 256 (rest.map UInt8.toNat) * 2 ^ (2 * padding rest) := by ring
      _ = n * (256 ^ rest.length * 2 ^ (2 * padding rest)) + number 256 (rest.map UInt8.toNat) * 2 ^ (2 * padding rest) := by
          rw [hdigits, hpow]
      _ = _ := by
          rw [← hn]
          ring
  | case2 a b =>
    simp [sextets, number, padding, Nat.ofDigits_cons]
    omega
  | case3 a =>
    simp [sextets, number, padding, Nat.ofDigits_cons]
    omega
  | case4 => rfl

/-! ## One text -/

/-- Digits of a base are determined by their count and the number that they stand for. -/
theorem number_inj {base : Nat} {xs ys : List Nat} (hbase : 1 < base) (hx : ∀ x ∈ xs, x < base) (hy : ∀ y ∈ ys, y < base)
    (hlength : xs.length = ys.length) (h : number base xs = number base ys) : xs = ys := by
  refine List.reverse_injective (Nat.ofDigits_inj_of_len_eq hbase ?_ ?_ ?_ h)
  · simpa using hlength
  · simpa using hx
  · simpa using hy

/-- What is written is the base64 of the bytes. -/
theorem isBase64_encode (bytes : List UInt8) : IsBase64 bytes (encode bytes) := by
  have hlt := sextets_lt bytes
  have hlength := length_sextets bytes
  refine ⟨(sextets bytes).map letter, 2 * padding bytes, padding bytes, ?_, encode_eq bytes⟩
  constructor
  case mem_alphabet =>
    intro c hc
    obtain ⟨v, hv, rfl⟩ := List.mem_map.1 hc
    exact mem_alphabet_iff.2 ⟨v, hlt v hv, rfl⟩
  case length_eq => rwa [List.length_map]
  case number_eq =>
    rw [map_idxOf_map_letter hlt, number_sextets]
  all_goals
    simp only [padding, List.length_map] at hlength ⊢
    omega

/-- A text has as many letters, spare bits and pads as its bytes need. -/
theorem Writes.lengths {bytes : List UInt8} {letters : List Char} {spare pads : Nat} (h : Writes bytes letters spare pads) :
    letters.length = (sextets bytes).length ∧ spare = 2 * padding bytes ∧ pads = padding bytes := by
  obtain ⟨-, hlength, hspare, -, hpads, k, hk⟩ := h
  have hsextets := length_sextets bytes
  have hpadding := padding_lt bytes
  have hletters : letters.length = (sextets bytes).length := by omega
  exact ⟨hletters, by omega, by omega⟩

/-- The base64 of bytes is what they are written as. -/
theorem isBase64_iff {bytes : List UInt8} {text : List Char} : IsBase64 bytes text ↔ text = encode bytes := by
  constructor
  · rintro ⟨letters, spare, pads, h, rfl⟩
    obtain ⟨hlength, hspare, hpads⟩ := h.lengths
    have hnumber := h.number_eq
    rw [hspare, ← number_sextets] at hnumber
    have hvalues : letters.map alphabet.idxOf = sextets bytes :=
      number_inj (by decide) (map_idxOf_lt h.mem_alphabet) (sextets_lt bytes) (by rwa [List.length_map]) hnumber
    rw [encode_eq, ← hvalues, map_letter_map_idxOf h.mem_alphabet, hpads]
  · rintro rfl
    exact isBase64_encode bytes

/-! ## Groups of letters -/

/-- The letters of three bytes and others are those of the three and those of the others. -/
theorem sextets_append {front : List UInt8} (hfront : front.length = 3) (back : List UInt8) :
    sextets (front ++ back) = sextets front ++ sextets back := by
  match front with
  | [x, y, z] => rfl

/-- The bytes of a last group are written with the letters that it was read from, if no bit is left over. -/
theorem sextets_of_tailBytes {vs : List Nat} {bytes : List UInt8} (hvs : ∀ v ∈ vs, v < 64) (hleast : 2 ≤ vs.length)
    (hmost : vs.length ≤ 4) (h : tailBytes vs = (bytes, 0)) : sextets bytes = vs := by
  match vs with
  | [] | [_] => simp at hleast
  | [v, w] =>
    simp only [List.forall_mem_cons] at hvs
    obtain ⟨rfl, hspare⟩ := Prod.mk.inj h
    simp only [sextets, UInt8.toNat_ofNat', List.cons.injEq, and_true]
    omega
  | [v, w, x] =>
    simp only [List.forall_mem_cons] at hvs
    obtain ⟨rfl, hspare⟩ := Prod.mk.inj h
    simp only [sextets, UInt8.toNat_ofNat', List.cons.injEq, and_true]
    omega
  | [v, w, x, y] =>
    simp only [List.forall_mem_cons] at hvs
    obtain ⟨rfl, hspare⟩ := Prod.mk.inj h
    simp only [sextets, UInt8.toNat_ofNat', List.cons.injEq, and_true]
    omega
  | _ :: _ :: _ :: _ :: _ :: _ =>
    simp only [List.length_cons] at hmost
    omega

/-- The letters that a byte or a few are written with are read as these, and no bit is left over. -/
theorem tailBytes_sextets {bytes : List UInt8} (hne : bytes ≠ []) (hmost : bytes.length ≤ 3) : tailBytes (sextets bytes) = (bytes, 0) := by
  match bytes with
  | [] => exact absurd rfl hne
  | [a] =>
    have ha := a.toNat_lt
    simp only [sextets, tailBytes, Prod.mk.injEq, List.cons.injEq, and_true, ← UInt8.toNat_inj, UInt8.toNat_ofNat']
    omega
  | [a, b] =>
    have ha := a.toNat_lt
    have hb := b.toNat_lt
    simp only [sextets, tailBytes, Prod.mk.injEq, List.cons.injEq, and_true, ← UInt8.toNat_inj, UInt8.toNat_ofNat']
    omega
  | [a, b, c] =>
    have ha := a.toNat_lt
    have hb := b.toNat_lt
    have hc := c.toNat_lt
    simp only [sextets, tailBytes, Prod.mk.injEq, List.cons.injEq, and_true, ← UInt8.toNat_inj, UInt8.toNat_ofNat']
    omega
  | _ :: _ :: _ :: _ :: _ =>
    simp only [List.length_cons] at hmost
    omega

/-! ## Texts of no bytes -/

/-- The ways in which a text is the base64 of no bytes. -/
inductive Malformed : List Char → Prop
  /-- The last four characters are not complete. -/
  | length {text : List Char} (h : ¬4 ∣ text.length) : Malformed text
  /-- There are more pads than a single byte needs. -/
  | pads {text : List Char} (h : 2 < text.count '=') : Malformed text
  /-- A character stands for nothing. -/
  | symbol {text : List Char} {c : Char} (hc : c ∈ text) (hpad : c ≠ '=') (h : c ∉ alphabet) : Malformed text
  /-- The text goes on behind a pad. -/
  | trailing {front back : List Char} {c : Char} (hc : c ∈ back) (hpad : c ≠ '=') : Malformed (front ++ '=' :: back)
  /-- A bit is set in the last letter that belongs to no byte. -/
  | bits {front : List Char} {c : Char} {pads : Nat} (hc : c ∈ alphabet) (h : alphabet.idxOf c % 4 ^ pads ≠ 0) :
    Malformed (front ++ c :: List.replicate pads '=')

theorem Writes.pad_not_mem {bytes : List UInt8} {letters : List Char} {spare pads : Nat} (h : Writes bytes letters spare pads) :
    '=' ∉ letters := fun hpad => pad_not_mem_alphabet (h.mem_alphabet _ hpad)

theorem number_concat (base : Nat) (digits : List Nat) (d : Nat) : number base (digits ++ [d]) = number base digits * base + d := by
  rw [number, number, List.reverse_concat, Nat.ofDigits_cons]
  ring

/-- The bits of the last letter that belong to no byte are zero. -/
theorem Writes.last_mod {bytes : List UInt8} {front : List Char} {c : Char} {spare pads : Nat}
    (h : Writes bytes (front ++ [c]) spare pads) : alphabet.idxOf c % 4 ^ pads = 0 := by
  obtain ⟨-, hspare, hpads⟩ := h.lengths
  have hnumber := h.number_eq
  rw [List.map_append, List.map_singleton, number_concat, hspare, ← hpads, pow_mul] at hnumber
  have hdvd : 4 ^ pads ∣ 64 := by
    have hpadding := padding_lt bytes
    exact pow_dvd_pow 4 (by omega : pads ≤ 3)
  rw [← Nat.dvd_iff_mod_eq_zero, ← Nat.dvd_add_right (Dvd.dvd.mul_left hdvd _), hnumber]
  exact Nat.dvd_mul_left _ _

/-- The letters end where the last one of them stands. -/
theorem append_replicate_eq {letters front : List Char} {c : Char} {m n : Nat} (hletters : '=' ∉ letters) (hc : c ≠ '=')
    (h : front ++ c :: List.replicate n '=' = letters ++ List.replicate m '=') : letters = front ++ [c] ∧ m = n := by
  rw [List.append_cons] at h
  rcases List.append_eq_append_iff.1 h with ⟨pads, hpads, hn⟩ | ⟨pads, hpads, hm⟩
  · cases pads with
    | nil => simpa using And.intro hpads hn.symm
    | cons p pads =>
      have hp : p = '=' := List.eq_of_mem_replicate (by rw [hn]; simp)
      refine absurd ?_ hletters
      rw [hpads, hp]
      simp
  · rcases List.eq_nil_or_concat pads with rfl | ⟨pads, p, rfl⟩
    · simpa using And.intro hpads.symm hm
    · have hlast : c = p := by
        have hends := congrArg List.getLast? hpads
        simpa using hends
      exact absurd (hlast.trans (List.eq_of_mem_replicate (by rw [hm]; simp))) hc

/-- A malformed text is the base64 of no bytes. -/
theorem Malformed.not_isBase64 {text : List Char} (h : Malformed text) (bytes : List UInt8) : ¬IsBase64 bytes text := by
  rintro ⟨letters, spare, pads, hwrites, htext⟩
  have hpad := hwrites.pad_not_mem
  cases h with
  | length h =>
    rw [htext, List.length_append, List.length_replicate] at h
    exact h hwrites.dvd_length
  | pads h =>
    rw [htext, List.count_append, List.count_eq_zero_of_not_mem hpad, List.count_replicate_self] at h
    have hpadding := padding_lt bytes
    have hpads := hwrites.lengths.2.2
    omega
  | symbol hc hne h =>
    rw [htext] at hc
    rcases List.mem_append.1 hc with hc | hc
    · exact h (hwrites.mem_alphabet _ hc)
    · exact hne (List.eq_of_mem_replicate hc)
  | trailing hc hne =>
    rcases List.append_eq_append_iff.1 htext with ⟨between, rfl, hback⟩ | ⟨between, -, hreplicate⟩
    · cases between with
      | nil =>
        rw [List.nil_append] at hback
        exact hne (List.eq_of_mem_replicate (hback ▸ List.mem_cons_of_mem _ hc))
      | cons p between =>
        obtain ⟨rfl, -⟩ := List.cons.inj hback
        exact hpad (by simp)
    · have hmem := List.mem_append_right between (List.mem_cons_of_mem '=' hc)
      rw [← hreplicate] at hmem
      exact hne (List.eq_of_mem_replicate hmem)
  | bits hc h =>
    have hne : _ ≠ '=' := fun heq => pad_not_mem_alphabet (heq ▸ hc)
    obtain ⟨rfl, rfl⟩ := append_replicate_eq hpad hne htext
    exact h hwrites.last_mod

/-- Values that are filled up by two pads or less are those that bytes are written with, if the last one has no bit of its own in the
place of the pads. -/
theorem exists_sextets {vs : List Nat} {pads : Nat} (hvs : ∀ v ∈ vs, v < 64) (hpads : pads < 3) (hlength : 4 ∣ vs.length + pads)
    (hbits : ∀ v ∈ vs.getLast?, v % 4 ^ pads = 0) : ∃ bytes, sextets bytes = vs := by
  match vs with
  | [] => exact ⟨[], rfl⟩
  | [_] =>
    simp only [List.length_cons, List.length_nil] at hlength
    omega
  | [v, w] =>
    obtain rfl : pads = 2 := by
      simp only [List.length_cons, List.length_nil] at hlength
      omega
    have hw : w % 16 = 0 := hbits w rfl
    refine ⟨(tailBytes [v, w]).1, sextets_of_tailBytes hvs (by simp) (by simp) (Prod.ext rfl hw)⟩
  | [v, w, x] =>
    obtain rfl : pads = 1 := by
      simp only [List.length_cons, List.length_nil] at hlength
      omega
    have hx : x % 4 = 0 := hbits x rfl
    refine ⟨(tailBytes [v, w, x]).1, sextets_of_tailBytes hvs (by simp) (by simp) (Prod.ext rfl hx)⟩
  | v :: w :: x :: y :: rest =>
    have hrest : ∀ u ∈ rest.getLast?, u % 4 ^ pads = 0 := by
      intro u hu
      refine hbits u ?_
      rw [Option.mem_def] at hu ⊢
      simp [List.getLast?_cons, hu]
    have hfour : ∀ u ∈ [v, w, x, y], u < 64 := by
      intro u hu
      exact hvs u (List.mem_append_left rest hu)
    have hlength' : 4 ∣ rest.length + pads := by
      simp only [List.length_cons] at hlength
      omega
    obtain ⟨back, hback⟩ := exists_sextets (fun u hu => hvs u (List.mem_append_right [v, w, x, y] hu)) hpads hlength' hrest
    refine ⟨(tailBytes [v, w, x, y]).1 ++ back, ?_⟩
    have hfront : sextets (tailBytes [v, w, x, y]).1 = [v, w, x, y] := sextets_of_tailBytes hfour (by simp) (by simp) rfl
    rw [sextets_append rfl, hback, hfront]
    rfl

/-- A text in which nothing goes on behind a pad consists of letters and pads. -/
theorem exists_append_replicate {text : List Char} (h : ∀ front back, text = front ++ '=' :: back → ∀ c ∈ back, c = '=') :
    ∃ letters, '=' ∉ letters ∧ text = letters ++ List.replicate (text.count '=') '=' := by
  induction text with
  | nil => exact ⟨[], by simp, rfl⟩
  | cons c rest ih =>
    by_cases hc : c = '='
    · subst hc
      have hrest := List.eq_replicate_of_mem (h [] rest rfl)
      refine ⟨[], by simp, ?_⟩
      rw [List.nil_append, List.count_cons_self, List.replicate_succ, hrest]
      simp
    · obtain ⟨letters, hletters, hrest⟩ := ih (fun front back hback => h (c :: front) back (by rw [hback]; rfl))
      refine ⟨c :: letters, by simp [hletters, Ne.symm hc], ?_⟩
      rw [List.count_cons_of_ne hc, List.cons_append, ← hrest]

/-- A text that is not malformed is the base64 of bytes. -/
theorem exists_isBase64 {text : List Char} (h : ¬Malformed text) : ∃ bytes, IsBase64 bytes text := by
  have hpads : text.count '=' < 3 := by
    by_contra hmany
    exact h (.pads (by omega))
  have hlength : 4 ∣ text.length := not_not.1 (fun hpart => h (.length hpart))
  obtain ⟨letters, hpad, htext⟩ : ∃ letters, '=' ∉ letters ∧ text = letters ++ List.replicate (text.count '=') '=' := by
    refine exists_append_replicate (fun front back hback c hc => ?_)
    by_contra hne
    exact h (hback ▸ .trailing hc hne)
  generalize text.count '=' = pads at hpads htext
  subst htext
  have hletters : ∀ c ∈ letters, c ∈ alphabet := by
    intro c hc
    by_contra hnone
    exact h (.symbol (List.mem_append_left _ hc) (fun heq => hpad (heq ▸ hc)) hnone)
  have hbits : ∀ v ∈ (letters.map alphabet.idxOf).getLast?, v % 4 ^ pads = 0 := by
    intro v hv
    rw [List.getLast?_map, Option.mem_def, Option.map_eq_some_iff] at hv
    obtain ⟨c, hc, rfl⟩ := hv
    obtain ⟨front, rfl⟩ := List.getLast?_eq_some_iff.1 hc
    by_contra hset
    refine h ?_
    rw [← List.append_cons]
    exact .bits (hletters c (by simp)) hset
  rw [List.length_append, List.length_replicate] at hlength
  obtain ⟨bytes, hbytes⟩ := exists_sextets (map_idxOf_lt hletters) hpads (by rwa [List.length_map]) hbits
  have hpadding : padding bytes = pads := by
    have hsextets := length_sextets bytes
    have hlt := padding_lt bytes
    rw [hbytes, List.length_map] at hsextets
    omega
  refine ⟨bytes, isBase64_iff.2 ?_⟩
  rw [encode_eq, hpadding, hbytes, map_letter_map_idxOf hletters]

/-- The texts of no bytes are the malformed ones. -/
theorem malformed_iff {text : List Char} : Malformed text ↔ ∀ bytes, ¬IsBase64 bytes text := by
  constructor
  · exact Malformed.not_isBase64
  · intro hnone
    by_contra h
    obtain ⟨bytes, hbytes⟩ := exists_isBase64 h
    exact hnone bytes hbytes

end Seedbed.Base64
