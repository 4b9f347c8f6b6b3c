import Mathlib.Data.List.Perm.Subperm
import Seedbed.Bson.Equality
import Seedbed.Bson.Kind

/-!
# Equality of values is symmetric

What `Value.same` and `Document.same` compare, said without their recursion: plain values are the same when they are equal
(`same_iff_eq_of_isPlain`), documents when they have equally many fields and each field of one has its like in the other
(`Document.same_iff`).

A document in which a name stands twice can be the same as one that is not the same as it. Documents of the program never repeat
a name, at any depth: `WellFormed` says so, and under it equality is symmetric (`Value.same_symm`, `Document.same_symm`).
-/

namespace Seedbed

/-! ## Fields of a document -/

namespace Document

/-- What is found under a name is a field of the document. -/
theorem mem_of_get? {d : Document} {name : String} {v : Value} (h : d.get? name = some v) : (name, v) ∈ d := by
  induction d with
  | nil => cases h
  | cons field rest ih =>
    obtain ⟨n, w⟩ := field
    rw [get?] at h
    split at h
    · next hn =>
      subst hn
      cases h
      exact List.mem_cons_self
    · exact List.mem_cons_of_mem _ (ih h)

/-- In a document that repeats no name every field is found under its name. -/
theorem get?_of_mem {d : Document} (hd : d.names.Nodup) {name : String} {v : Value} (h : (name, v) ∈ d) :
    d.get? name = some v := by
  induction d with
  | nil => cases h
  | cons field rest ih =>
    obtain ⟨n, w⟩ := field
    obtain ⟨hn, hrest⟩ := List.nodup_cons.1 hd
    rcases List.mem_cons.1 h with h | h
    · cases h
      rw [get?, if_pos rfl]
    · have hne : n ≠ name := by
        rintro rfl
        exact hn (List.mem_map.2 ⟨(n, v), h, rfl⟩)
      rw [get?, if_neg hne]
      exact ih hrest h

/-- A document has a value under each of its names. -/
theorem exists_get?_of_mem_names {d : Document} {name : String} (h : name ∈ d.names) : ∃ v, d.get? name = some v :=
  Option.isSome_iff_exists.1 (has_iff.2 h)

/-- What is found under a name has that name among the names of the document. -/
theorem mem_names_of_get? {d : Document} {name : String} {v : Value} (h : d.get? name = some v) : name ∈ d.names :=
  List.mem_map_of_mem (mem_of_get? h)

/-- A document holds a value in a field exactly if the field is there with a value that is the same. -/
theorem holds_iff {d : Document} {name : String} {v : Value} :
    d.holds name v = true ↔ ∃ w, d.get? name = some w ∧ w.same v = true := by
  unfold holds
  cases h : d.get? name with
  | none => simp
  | some w => simp

end Document

/-! ## Well-formed values -/

mutual

/-- Whether no document within a value repeats a name, at any depth. -/
def Value.WellFormed : Value → Prop
  | .array items => wellFormedItems items
  | .document d => (Document.names d).Nodup ∧ wellFormedFields d
  | .scopedCode _ d => (Document.names d).Nodup ∧ wellFormedFields d
  | _ => True

/-- Whether each of the values is well-formed. -/
def wellFormedItems : List Value → Prop
  | [] => True
  | v :: rest => v.WellFormed ∧ wellFormedItems rest

/-- Whether the value of each of the fields is well-formed. -/
def wellFormedFields : List (String × Value) → Prop
  | [] => True
  | (_, v) :: rest => v.WellFormed ∧ wellFormedFields rest

end

/-- Whether a document repeats no name, neither itself nor in any document within it. -/
def Document.WellFormed (d : Document) : Prop := d.names.Nodup ∧ wellFormedFields d

theorem wellFormedItems_iff {items : List Value} : wellFormedItems items ↔ ∀ v ∈ items, v.WellFormed := by
  induction items with
  | nil => simp [wellFormedItems]
  | cons v rest ih => simp [wellFormedItems, ih]

theorem wellFormedFields_iff {fields : List (String × Value)} :
    wellFormedFields fields ↔ ∀ field ∈ fields, field.2.WellFormed := by
  induction fields with
  | nil => simp [wellFormedFields]
  | cons field rest ih => simp [wellFormedFields, ih]

/-- The values of the fields of a well-formed document are well-formed. -/
theorem Document.WellFormed.value {d : Document} (hd : d.WellFormed) {name : String} {v : Value} (h : (name, v) ∈ d) :
    v.WellFormed :=
  wellFormedFields_iff.1 hd.2 (name, v) h

/-! ## Induction on values -/

/-- Whether a value is compared as a whole: it is no double, which is compared as a number, and it is not made of other values. -/
def Value.isPlain : Value → Bool
  | .double _ | .array _ | .document _ | .scopedCode _ _ => false
  | _ => true

/-- The value of a field is smaller than the fields it stands among. -/
theorem sizeOf_value_lt {fields : List (String × Value)} {field : String × Value} (h : field ∈ fields) :
    sizeOf field.2 < sizeOf fields := by
  have hlt := List.sizeOf_lt_of_mem h
  obtain ⟨name, v⟩ := field
  rw [Prod.mk.sizeOf_spec] at hlt
  simp only
  omega

/-- Induction on values: what holds of every plain value and every double, and of an array, a document or a piece of code when it
holds of the values within it, holds of every value. -/
theorem Value.induction {motive : Value → Prop} (plain : ∀ v, v.isPlain = true → motive v) (double : ∀ x, motive (.double x))
    (array : ∀ items, (∀ v ∈ items, motive v) → motive (.array items))
    (document : ∀ d : Document, (∀ field ∈ d, motive field.2) → motive (.document d))
    (scopedCode : ∀ (source : String) (d : Document), (∀ field ∈ d, motive field.2) → motive (.scopedCode source d)) :
    ∀ v : Value, motive v
  | .double x => double x
  | .array items => array items (fun v _ => induction plain double array document scopedCode v)
  | .document d => document d (fun field _ => induction plain double array document scopedCode field.2)
  | .scopedCode source d => scopedCode source d (fun field _ => induction plain double array document scopedCode field.2)
  | .string _ | .boolean _ | .null | .regex _ _ | .code _ | .int32 _ | .int64 _ | .timestamp _ _ | .binary _ _ | .objectId _
  | .pointer _ _ | .instant _ | .symbol _ | .decimal _ | .undefined | .minKey | .maxKey => plain _ rfl
termination_by v => sizeOf v
decreasing_by
  · have hlt := List.sizeOf_lt_of_mem ‹v ∈ items›
    simp only [Value.array.sizeOf_spec]
    omega
  · have hlt := sizeOf_value_lt ‹field ∈ d›
    simp only [Value.document.sizeOf_spec]
    omega
  · have hlt := sizeOf_value_lt ‹field ∈ d›
    simp only [Value.scopedCode.sizeOf_spec]
    omega

/-! ## What equality compares -/

/-- A plain value is the same as itself alone. -/
theorem Value.same_iff_eq_of_isPlain {v w : Value} (h : v.isPlain = true) : v.same w = true ↔ v = w := by
  constructor
  · intro hs
    unfold Value.same at hs
    split at hs <;> simp_all [Value.isPlain]
  · rintro rfl
    cases v <;> simp_all [Value.isPlain, Value.same]

/-- Only a plain value itself is the same as it. -/
theorem Value.same_iff_eq_of_isPlain_right {v w : Value} (h : w.isPlain = true) : v.same w = true ↔ v = w := by
  constructor
  · intro hs
    unfold Value.same at hs
    split at hs <;> simp_all [Value.isPlain]
  · rintro rfl
    exact (same_iff_eq_of_isPlain h).2 rfl

/-- A document holds a plain value in a field exactly if that value is there. -/
theorem Document.holds_iff_of_isPlain {d : Document} {name : String} {v : Value} (h : v.isPlain = true) :
    d.holds name v = true ↔ d.get? name = some v := by
  rw [holds_iff]
  constructor
  · rintro ⟨w, hw, hs⟩
    rw [hw, (Value.same_iff_eq_of_isPlain_right h).1 hs]
  · exact fun hv => ⟨v, hv, (Value.same_iff_eq_of_isPlain h).2 rfl⟩

/-- Values that are the same are of one type. -/
theorem Value.kind_eq_of_same {v w : Value} (h : v.same w = true) : v.kind = w.kind := by
  unfold Value.same at h
  split at h <;> simp_all [Value.kind]

theorem Double.same_comm (x y : Double) : x.same y = y.same x := by
  unfold Double.same
  rw [Bool.and_comm (!x.isNaN), BEq.comm (a := x), Bool.and_comm x.isZero]

theorem Value.same_double {x : Double} {w : Value} : (Value.double x).same w = true ↔ ∃ y, w = .double y ∧ x.same y = true := by
  cases w <;> simp [Value.same]

theorem Value.same_array {items : List Value} {w : Value} :
    (Value.array items).same w = true ↔ ∃ others, w = .array others ∧ sameItems items others = true := by
  cases w <;> simp [Value.same]

theorem Value.same_document {d : Document} {w : Value} :
    (Value.document d).same w = true ↔ ∃ e : Document, w = .document e ∧ d.same e = true := by
  cases w <;> simp [Value.same, Document.same]

theorem Value.same_scopedCode {source : String} {d : Document} {w : Value} :
    (Value.scopedCode source d).same w = true ↔ ∃ e : Document, w = .scopedCode source e ∧ d.same e = true := by
  cases w <;> simp [Value.same, Document.same]
  exact fun _ _ => eq_comm

theorem sameFields_iff {fields : List (String × Value)} {e : Document} :
    sameFields fields e = true ↔ ∀ name v, (name, v) ∈ fields → ∃ w, e.get? name = some w ∧ v.same w = true := by
  induction fields with
  | nil => simp [sameFields]
  | cons field rest ih =>
    obtain ⟨n, v⟩ := field
    rw [sameFields, Bool.and_eq_true, ih]
    constructor
    · rintro ⟨h1, h2⟩ name w hmem
      rcases List.mem_cons.1 hmem with hmem | hmem
      · cases hmem
        cases hg : e.get? n with
        | none => simp [hg] at h1
        | some x => exact ⟨x, rfl, by simpa [hg] using h1⟩
      · exact h2 name w hmem
    · intro h
      refine ⟨?_, fun name w hmem => h name w (List.mem_cons_of_mem _ hmem)⟩
      obtain ⟨x, hx, hs⟩ := h n v List.mem_cons_self
      simpa [hx] using hs

/-- Documents are the same when they have equally many fields and each field of the first one has its like in the second one. -/
theorem Document.same_iff {d e : Document} :
    d.same e = true ↔ d.length = e.length ∧ ∀ name v, (name, v) ∈ d → ∃ w, e.get? name = some w ∧ v.same w = true := by
  rw [Document.same, Bool.and_eq_true, beq_iff_eq, sameFields_iff]

/-- The names of two documents that are the same are the same, if the first one repeats none. -/
theorem Document.names_perm_of_same {d e : Document} (hd : d.names.Nodup) (h : d.same e = true) : d.names.Perm e.names := by
  obtain ⟨hlen, hfields⟩ := same_iff.1 h
  have hsub : d.names ⊆ e.names := by
    intro name hname
    obtain ⟨⟨n, v⟩, hmem, rfl⟩ := List.mem_map.1 hname
    obtain ⟨w, hw, -⟩ := hfields n v hmem
    exact mem_names_of_get? hw
  exact (hd.subperm hsub).perm_of_length_le (by simp [names, hlen])

/-! ## Symmetry -/

theorem sameItems_symm {items others : List Value}
    (ih : ∀ v ∈ items, ∀ w : Value, v.WellFormed → w.WellFormed → v.same w = true → w.same v = true)
    (hi : wellFormedItems items) (ho : wellFormedItems others) (h : sameItems items others = true) :
    sameItems others items = true := by
  induction items generalizing others with
  | nil =>
    cases others with
    | nil => rfl
    | cons w others => simp [sameItems] at h
  | cons v items ihl =>
    cases others with
    | nil => simp [sameItems] at h
    | cons w others =>
      rw [sameItems, Bool.and_eq_true] at h ⊢
      have hv := ih v List.mem_cons_self w hi.1 ho.1 h.1
      exact ⟨hv, ihl (fun x hx => ih x (List.mem_cons_of_mem _ hx)) hi.2 ho.2 h.2⟩

/-- Equality of documents is symmetric if that of the values in the first one is: the two have the same names, so that each field
of the second one is looked for under a name of the first one, where its like was found. -/
theorem Document.same_symm_of_values {d e : Document}
    (ih : ∀ field ∈ d, ∀ w : Value, field.2.WellFormed → w.WellFormed → field.2.same w = true → w.same field.2 = true)
    (hd : d.WellFormed) (he : e.WellFormed) (h : d.same e = true) : e.same d = true := by
  obtain ⟨hlen, hfields⟩ := same_iff.1 h
  refine same_iff.2 ⟨hlen.symm, fun name w hw => ?_⟩
  have hname : name ∈ d.names := (names_perm_of_same hd.1 h).mem_iff.2 (List.mem_map_of_mem hw)
  obtain ⟨v, hv⟩ := exists_get?_of_mem_names hname
  have hmem := mem_of_get? hv
  obtain ⟨x, hx, hs⟩ := hfields name v hmem
  have hxw : x = w := Option.some.inj (hx.symm.trans (get?_of_mem he.1 hw))
  subst hxw
  exact ⟨v, hv, ih (name, v) hmem x (hd.value hmem) (he.value hw) hs⟩

/-- Equality of well-formed values is symmetric. -/
theorem Value.same_symm {v w : Value} (hv : v.WellFormed) (hw : w.WellFormed) (h : v.same w = true) : w.same v = true := by
  induction v using Value.induction generalizing w with
  | plain v hp =>
    have hvw := (same_iff_eq_of_isPlain hp).1 h
    subst hvw
    exact h
  | double x =>
    obtain ⟨y, rfl, hs⟩ := same_double.1 h
    rwa [Value.same, Double.same_comm]
  | array items ih =>
    obtain ⟨others, rfl, hs⟩ := same_array.1 h
    rw [Value.WellFormed] at hv hw
    exact same_array.2 ⟨items, rfl, sameItems_symm (fun x hx y h1 h2 h3 => ih x hx h1 h2 h3) hv hw hs⟩
  | document d ih =>
    obtain ⟨e, rfl, hs⟩ := same_document.1 h
    rw [Value.WellFormed] at hv hw
    exact same_document.2 ⟨d, rfl, Document.same_symm_of_values (fun f hf y h1 h2 h3 => ih f hf h1 h2 h3) hv hw hs⟩
  | scopedCode source d ih =>
    obtain ⟨e, rfl, hs⟩ := same_scopedCode.1 h
    rw [Value.WellFormed] at hv hw
    exact same_scopedCode.2 ⟨d, rfl, Document.same_symm_of_values (fun f hf y h1 h2 h3 => ih f hf h1 h2 h3) hv hw hs⟩

/-- Equality of well-formed documents is symmetric. -/
theorem Document.same_symm {d e : Document} (hd : d.WellFormed) (he : e.WellFormed) (h : d.same e = true) : e.same d = true :=
  same_symm_of_values (fun _ _ _ hv hw hs => Value.same_symm hv hw hs) hd he h

/-- It does not matter which of two well-formed values is compared with the other one. -/
theorem Value.same_comm {v w : Value} (hv : v.WellFormed) (hw : w.WellFormed) : v.same w = w.same v :=
  Bool.eq_iff_iff.2 ⟨same_symm hv hw, same_symm hw hv⟩

/-- It does not matter which of two well-formed documents is compared with the other one. -/
theorem Document.same_comm {d e : Document} (hd : d.WellFormed) (he : e.WellFormed) : d.same e = e.same d :=
  Bool.eq_iff_iff.2 ⟨same_symm hd he, same_symm he hd⟩

end Seedbed
