import Seedbed.Proofs.Base64.Format

/-!
# Base64 is read as it is written

A text is given to the reader by its bytes. What the reader accepts as bytes is exactly the text of these (`decode_eq_ok_iff`): a group with
something behind it if it is the letters of three bytes (`quad_eq_ok_iff`), and the last one if it is the letters of the bytes that are
left, the pads and nothing else (`decodeTail_eq_ok_iff`).
-/

namespace Seedbed.Base64

/-! ## Letters and texts as bytes -/

/-- The byte of a letter. -/
def code (v : Nat) : UInt8 := UInt8.ofNat (letter v).toNat

theorem utf8EncodeChar_letter : ∀ v < 64, String.utf8EncodeChar (letter v) = [code v] := by decide

theorem letterValue?_code : ∀ v < 64, letterValue? (code v) = some v := by decide

theorem code_ne_pad : ∀ v < 64, code v ≠ pad := by decide

/-- No two bytes have the same value. -/
theorem letterValue?_inj {b c : UInt8} {v : Nat} (hb : letterValue? b = some v) (hc : letterValue? c = some v) : b = c := by
  unfold letterValue? at hb hc
  rw [← UInt8.toNat_inj]
  grind

/-- A byte has the value of the letter it is the byte of. -/
theorem letterValue?_eq_some_iff {b : UInt8} {v : Nat} : letterValue? b = some v ↔ v < 64 ∧ b = code v := by
  constructor
  · intro h
    have hv : v < 64 := by
      unfold letterValue? at h
      grind
    exact ⟨hv, letterValue?_inj h (letterValue?_code v hv)⟩
  · rintro ⟨hv, rfl⟩
    exact letterValue?_code v hv

/-- The bytes of the text of bytes. -/
def written (bytes : List UInt8) : List UInt8 := (sextets bytes).map code ++ List.replicate (padding bytes) pad

theorem flatMap_encode (bytes : List UInt8) : (encode bytes).flatMap String.utf8EncodeChar = written bytes := by
  have hletters {vs : List Nat} (hvs : ∀ v ∈ vs, v < 64) : (vs.map letter).flatMap String.utf8EncodeChar = vs.map code := by
    rw [List.flatMap_map, List.map_eq_flatMap]
    exact List.flatMap_congr (fun v hv => utf8EncodeChar_letter v (hvs v hv))
  have hpads (n : Nat) : (List.replicate n '=').flatMap String.utf8EncodeChar = List.replicate n pad := by
    induction n with
    | zero => rfl
    | succ n ih =>
      rw [List.replicate_succ, List.flatMap_cons, ih]
      rfl
  rw [encode_eq, List.flatMap_append, hletters (sextets_lt bytes), hpads, written]

theorem length_written (bytes : List UInt8) : (written bytes).length = (sextets bytes).length + padding bytes := by
  simp [written]

/-! ## The last group -/

namespace Tail

variable {t : Tail}

/-- Letters are read, if no pad has been, whatever comes behind them. -/
theorem read_letters {vs : List Nat} (hvs : ∀ v ∈ vs, v < 64) (offset place : Nat) (ht : t.pads = 0) :
    ∃ t' : Tail, t'.values = t.values ++ vs ∧ t'.pads = 0 ∧
      ∀ rest, read offset place t (vs.map code ++ rest) = read (offset + vs.length) (place + vs.length) t' rest := by
  induction vs generalizing offset place t with
  | nil => exact ⟨t, by simp, ht, fun rest => rfl⟩
  | cons v vs ih =>
    rw [List.forall_mem_cons] at hvs
    obtain ⟨t', hvalues, hpads, hread⟩ :=
      @ih { t with values := t.values ++ [v], last := code v } hvs.2 (offset + 1) (place + 1) ht
    refine ⟨t', by simpa using hvalues, hpads, fun rest => ?_⟩
    rw [List.map_cons, List.cons_append, read, if_neg (code_ne_pad v hvs.1), if_neg (not_not_intro ht), letterValue?_code v hvs.1]
    dsimp only
    rw [hread rest, List.length_cons, Nat.add_assoc, Nat.add_assoc, Nat.add_comm 1]

/-- Pads are read from the third place on. -/
theorem read_pads (n : Nat) {offset place : Nat} (hplace : 2 ≤ place) :
    ∃ t' : Tail, read offset place t (List.replicate n pad) = .ok t' ∧ t'.values = t.values ∧ t'.pads = t.pads + n := by
  induction n generalizing offset place t with
  | zero => exact ⟨t, rfl, rfl, rfl⟩
  | succ n ih =>
    obtain ⟨t', hread, hvalues, hpads⟩ :=
      @ih { t with firstPad := if t.pads = 0 then offset else t.firstPad, pads := t.pads + 1 } (offset + 1) (place + 1) (by omega)
    refine ⟨t', ?_, hvalues, by rw [hpads]; dsimp only; omega⟩
    rw [List.replicate_succ, read, if_pos rfl, if_neg (by omega), hread]

/-- What can be read are letters with pads behind them, and pads alone where there has been one before. -/
theorem eq_of_read {t' : Tail} {offset place : Nat} {text : List UInt8} (h : read offset place t text = .ok t') :
    ∃ vs n, text = List.map code vs ++ List.replicate n pad ∧ (∀ v ∈ vs, v < 64) ∧ (t.pads ≠ 0 → vs = []) ∧
      t'.values = t.values ++ vs ∧ t'.pads = t.pads + n := by
  induction text generalizing offset place t with
  | nil =>
    cases h
    exact ⟨[], 0, rfl, nofun, fun _ => rfl, by simp, rfl⟩
  | cons b rest ih =>
    rw [read] at h
    split at h
    · rename_i hb
      subst hb
      split at h
      · cases h
      · obtain ⟨vs, n, rfl, -, hnone, hvalues, hpads⟩ := ih h
        obtain rfl := hnone (Nat.succ_ne_zero _)
        refine ⟨[], n + 1, rfl, nofun, fun _ => rfl, hvalues, ?_⟩
        rw [hpads, Nat.add_assoc, Nat.add_comm 1]
    split at h
    · cases h
    rename_i hpad hzero
    cases hvalue : letterValue? b with
    | none =>
      rw [hvalue] at h
      cases h
    | some v =>
      rw [hvalue] at h
      obtain ⟨vs, n, rfl, hvs, -, hvalues, hpads⟩ := ih h
      obtain ⟨hv, rfl⟩ := letterValue?_eq_some_iff.1 hvalue
      exact ⟨v :: vs, n, rfl, List.forall_mem_cons.2 ⟨hv, hvs⟩, fun hne => absurd hne hzero, by simpa using hvalues, hpads⟩

end Tail

/-- A last group that is accepted is the text of the bytes. -/
theorem eq_written_of_decodeTail {offset : Nat} {group bytes : List UInt8} (hgroup : group.length ≤ 4)
    (h : decodeTail offset group = .ok bytes) : group = written bytes := by
  unfold decodeTail at h
  split at h
  · rename_i hnil
    cases h
    exact hnil
  split at h
  · cases h
  rename_i t hread
  obtain ⟨vs, n, rfl, hvs, -, hvalues, hpads⟩ := Tail.eq_of_read hread
  simp only [List.nil_append, Nat.zero_add] at hvalues hpads
  rw [hvalues, hpads] at h
  split_ifs at h with hfew hcount
  have htail : tailBytes vs = (bytes, 0) := by
    split at h
    rename_i front spare htail
    split_ifs at h with hspare
    rw [htail, Except.ok.inj h, not_not.1 hspare]
  simp only [List.length_append, List.length_map, List.length_replicate] at hgroup
  have hsextets := sextets_of_tailBytes hvs (by omega) (by omega) htail
  have hlength := length_sextets bytes
  rw [hsextets] at hlength
  have hpadding := padding_lt bytes
  have hn : n = padding bytes := by omega
  rw [written, hsextets, hn]

/-- The text of three bytes or less is accepted as a last group. -/
theorem decodeTail_written {bytes : List UInt8} (hmost : bytes.length ≤ 3) (offset : Nat) :
    decodeTail offset (written bytes) = .ok bytes := by
  by_cases hne : bytes = []
  · subst hne
    rfl
  have hleast := List.length_pos_iff.2 hne
  have hlength := length_sextets bytes
  have hpadding := padding_lt bytes
  obtain ⟨t, hvalues, hzero, hletters⟩ := @Tail.read_letters ⟨[], 0, 0, 0⟩ _ (sextets_lt bytes) offset 0 rfl
  obtain ⟨t', hread, hvalues', hpads⟩ :=
    @Tail.read_pads t (padding bytes) (offset + (sextets bytes).length) (0 + (sextets bytes).length) (by omega)
  rw [hvalues, List.nil_append] at hvalues'
  rw [hzero, Nat.zero_add] at hpads
  have hwritten : written bytes ≠ [] := by
    rw [← List.length_pos_iff, length_written]
    omega
  unfold decodeTail
  rw [if_neg hwritten, written, hletters, hread]
  dsimp only
  rw [hvalues', hpads, if_neg (by omega), if_neg (by omega), tailBytes_sextets hne hmost]
  rfl

/-- A last group is accepted exactly if it is the text of the bytes. -/
theorem decodeTail_eq_ok_iff {offset : Nat} {group bytes : List UInt8} (hgroup : group.length ≤ 4) :
    decodeTail offset group = .ok bytes ↔ group = written bytes := by
  constructor
  · exact eq_written_of_decodeTail hgroup
  · rintro rfl
    rw [length_written] at hgroup
    have hlength := length_sextets bytes
    exact decodeTail_written (by omega) offset

/-! ## The groups before it -/

/-- Four letters are read. -/
theorem quad_code {v w x y : Nat} (hlt : ∀ u ∈ [v, w, x, y], u < 64) (offset : Nat) :
    quad offset (code v) (code w) (code x) (code y) = .ok (tailBytes [v, w, x, y]).1 := by
  simp only [List.forall_mem_cons] at hlt
  unfold quad
  rw [letterValue?_code v hlt.1, letterValue?_code w hlt.2.1, letterValue?_code x hlt.2.2.1, letterValue?_code y hlt.2.2.2.1]

/-- A group of four is accepted exactly if it is the letters of three bytes. -/
theorem quad_eq_ok_iff {offset : Nat} {a b c d : UInt8} {front : List UInt8} :
    quad offset a b c d = .ok front ↔ front.length = 3 ∧ [a, b, c, d] = written front := by
  constructor
  · intro h
    unfold quad at h
    split at h
    case h_5 v w x y ha hb hc hd =>
      obtain ⟨hv, rfl⟩ := letterValue?_eq_some_iff.1 ha
      obtain ⟨hw, rfl⟩ := letterValue?_eq_some_iff.1 hb
      obtain ⟨hx, rfl⟩ := letterValue?_eq_some_iff.1 hc
      obtain ⟨hy, rfl⟩ := letterValue?_eq_some_iff.1 hd
      have hlength : front.length = 3 := by
        rw [← Except.ok.inj h]
        rfl
      have hsextets : sextets front = [v, w, x, y] := by
        rw [← Except.ok.inj h]
        exact sextets_of_tailBytes (by simp [hv, hw, hx, hy]) (by simp) (by simp) rfl
      refine ⟨hlength, ?_⟩
      rw [written, hsextets, padding_of_length_eq_three hlength]
      rfl
    all_goals cases h
  · rintro ⟨hlength, hwritten⟩
    match front with
    | [x, y, z] =>
      rw [written, padding_of_length_eq_three hlength, List.replicate_zero, List.append_nil] at hwritten
      simp only [sextets, List.map_cons, List.map_nil, List.cons.injEq, and_true] at hwritten
      obtain ⟨rfl, rfl, rfl, rfl⟩ := hwritten
      have hbytes : (tailBytes (sextets [x, y, z])).1 = [x, y, z] := by rw [tailBytes_sextets (by simp) (by simp)]
      rw [quad_code (sextets_lt [x, y, z])]
      exact congrArg Except.ok hbytes

/-- The text of three bytes and others is that of the three and that of the others. -/
theorem written_append {front : List UInt8} (hfront : front.length = 3) (back : List UInt8) :
    written (front ++ back) = written front ++ written back := by
  have hpadding : padding (front ++ back) = padding back := by
    rw [padding, padding, List.length_append, hfront, Nat.add_mod_left]
  rw [written, written, written, sextets_append hfront, hpadding, padding_of_length_eq_three hfront]
  simp

/-- The groups of a text are accepted exactly if it is the text of the bytes. -/
theorem decodeGroups_eq_ok_iff (offset : Nat) (text : List UInt8) {bytes : List UInt8} :
    decodeGroups offset text = .ok bytes ↔ text = written bytes := by
  match text with
  | [] | [_] | [_, _] | [_, _, _] | [_, _, _, _] => exact decodeTail_eq_ok_iff (by simp)
  | a :: b :: c :: d :: e :: rest =>
    have ih {back : List UInt8} : decodeGroups (offset + 4) (e :: rest) = .ok back ↔ e :: rest = written back :=
      decodeGroups_eq_ok_iff (offset + 4) (e :: rest)
    have hsplit : decodeGroups offset (a :: b :: c :: d :: e :: rest) = .ok bytes ↔
        ∃ front back, quad offset a b c d = .ok front ∧ decodeGroups (offset + 4) (e :: rest) = .ok back ∧ front ++ back = bytes := by
      rw [decodeGroups]
      cases quad offset a b c d with
      | error fault => simp
      | ok front =>
        cases decodeGroups (offset + 4) (e :: rest) with
        | error fault => simp
        | ok back => simp
    simp only [hsplit, quad_eq_ok_iff, ih]
    constructor
    · rintro ⟨front, back, ⟨hlength, hfront⟩, hback, rfl⟩
      rw [written_append hlength, ← hfront, ← hback]
      rfl
    · intro h
      have hlong : 3 < bytes.length := by
        have hlength := congrArg List.length h
        have hsextets := length_sextets bytes
        have hpadding := padding_lt bytes
        rw [length_written] at hlength
        simp only [List.length_cons] at hlength
        omega
      have htake : (bytes.take 3).length = 3 := by
        rw [List.length_take]
        omega
      have hparts : [a, b, c, d] ++ e :: rest = written (bytes.take 3) ++ written (bytes.drop 3) := by
        rw [← written_append htake, List.take_append_drop, ← h]
        rfl
      have hfour : (written (bytes.take 3)).length = 4 := by
        have hsextets := length_sextets (bytes.take 3)
        have hpadding := padding_of_length_eq_three htake
        rw [length_written]
        omega
      obtain ⟨hfront, hback⟩ := List.append_inj hparts hfour.symm
      exact ⟨bytes.take 3, bytes.drop 3, ⟨htake, hfront⟩, hback, List.take_append_drop 3 bytes⟩

/-! ## The whole text -/

/-- A text is read as bytes exactly if it is their text. -/
theorem decode_eq_ok_iff {text bytes : List UInt8} : decode text = .ok bytes ↔ text = written bytes := by
  have hgroups : decode text = .ok bytes ↔ strayEnd text = none ∧ decodeGroups 0 text = .ok bytes := by
    unfold decode
    cases strayEnd text with
    | none => simp
    | some fault => simp
  rw [hgroups, decodeGroups_eq_ok_iff]
  constructor
  · exact And.right
  · rintro rfl
    refine ⟨?_, rfl⟩
    -- the text of bytes ends with a full group
    have hlength : ¬(written bytes).length % 4 = 1 := by
      have hsextets := length_sextets bytes
      rw [length_written]
      unfold padding at hsextets ⊢
      omega
    rw [strayEnd, if_neg hlength]

end Seedbed.Base64
