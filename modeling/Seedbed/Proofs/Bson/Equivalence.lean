import Seedbed.Proofs.Bson.Equality

/-!
# Equality of values is an equivalence but for what is no number

Equality is transitive (`Value.same_trans`), and a value is the same as itself exactly if no double that is no number occurs in it
(`Value.same_self_iff`), so that together with symmetry it is an equivalence among the values without one (`Value.same_equivalence`).
Documents are the same exactly if they have the same names and the values of each name are the same (`Document.same_iff_names`), in
whatever order the fields stand.
-/

namespace Seedbed

/-- Whether a double that is no number occurs in a value: the value is one, or one occurs in an item, in a field or in the scope of a
piece of code. -/
inductive Value.HasNaN : Value → Prop
  | double {x : Double} (h : x.isNaN = true) : HasNaN (.double x)
  | array {items : List Value} {v : Value} (hmem : v ∈ items) (h : HasNaN v) : HasNaN (.array items)
  | document {d : Document} {field : String × Value} (hmem : field ∈ d) (h : HasNaN field.2) : HasNaN (.document d)
  | scopedCode {source : String} {d : Document} {field : String × Value} (hmem : field ∈ d) (h : HasNaN field.2) :
    HasNaN (.scopedCode source d)

namespace Value

theorem hasNaN_double {x : Double} : (Value.double x).HasNaN ↔ x.isNaN = true := by
  constructor
  · rintro ⟨h⟩
    exact h
  · exact .double

theorem hasNaN_array {items : List Value} : (Value.array items).HasNaN ↔ ∃ v ∈ items, v.HasNaN := by
  constructor
  · intro h
    cases h with
    | array hmem hv => exact ⟨_, hmem, hv⟩
  · rintro ⟨v, hmem, hv⟩
    exact .array hmem hv

theorem hasNaN_document {d : Document} : (Value.document d).HasNaN ↔ ∃ field ∈ d, field.2.HasNaN := by
  constructor
  · intro h
    cases h with
    | document hmem hv => exact ⟨_, hmem, hv⟩
  · rintro ⟨field, hmem, hv⟩
    exact .document hmem hv

theorem hasNaN_scopedCode {source : String} {d : Document} : (Value.scopedCode source d).HasNaN ↔ ∃ field ∈ d, field.2.HasNaN := by
  constructor
  · intro h
    cases h with
    | scopedCode hmem hv => exact ⟨_, hmem, hv⟩
  · rintro ⟨field, hmem, hv⟩
    exact .scopedCode hmem hv

/-- Nothing that is no number occurs in a plain value. -/
theorem not_hasNaN_of_isPlain {v : Value} (hp : v.isPlain = true) : ¬v.HasNaN := by
  intro h
  cases h <;> cases hp

end Value

/-! ## Transitivity -/

theorem Double.same_trans {x y z : Double} (h : x.same y = true) (h' : y.same z = true) : x.same z = true := by
  simp only [Double.same, Bool.and_eq_true, Bool.or_eq_true, beq_iff_eq] at h h' ⊢
  obtain ⟨⟨hx, -⟩, hxy⟩ := h
  obtain ⟨⟨-, hz⟩, hyz⟩ := h'
  refine ⟨⟨hx, hz⟩, ?_⟩
  rcases hxy with rfl | ⟨hx, hy⟩
  · exact hyz
  · rcases hyz with rfl | ⟨-, hz⟩
    · exact .inr ⟨hx, hy⟩
    · exact .inr ⟨hx, hz⟩

theorem sameItems_trans {items others more : List Value}
    (ih : ∀ u ∈ items, ∀ v w : Value, u.same v = true → v.same w = true → u.same w = true)
    (h : sameItems items others = true) (h' : sameItems others more = true) : sameItems items more = true := by
  induction items generalizing others more with
  | nil =>
    cases others with
    | nil => exact h'
    | cons v others => simp [sameItems] at h
  | cons u items ihl =>
    cases others with
    | nil => simp [sameItems] at h
    | cons v others =>
      cases more with
      | nil => simp [sameItems] at h'
      | cons w more =>
        rw [sameItems, Bool.and_eq_true] at h h' ⊢
        exact ⟨ih u List.mem_cons_self v w h.1 h'.1, ihl (fun x hx => ih x (List.mem_cons_of_mem _ hx)) h.2 h'.2⟩

/-- Equality of documents is transitive if that of the values in the first one is: the like of a field in the second document is a field
there, which has its like in the third one. -/
theorem Document.same_trans_of_values {d e f : Document}
    (ih : ∀ field ∈ d, ∀ v w : Value, field.2.same v = true → v.same w = true → field.2.same w = true)
    (h : d.same e = true) (h' : e.same f = true) : d.same f = true := by
  obtain ⟨hlength, hfields⟩ := same_iff.1 h
  obtain ⟨hlength', hfields'⟩ := same_iff.1 h'
  refine same_iff.2 ⟨hlength.trans hlength', ?_⟩
  intro name u hu
  obtain ⟨v, hv, huv⟩ := hfields name u hu
  obtain ⟨w, hw, hvw⟩ := hfields' name v (mem_of_get? hv)
  exact ⟨w, hw, ih (name, u) hu v w huv hvw⟩

/-- Equality of values is transitive, whether or not they are well-formed. -/
theorem Value.same_trans {u v w : Value} (h : u.same v = true) (h' : v.same w = true) : u.same w = true := by
  induction u using Value.induction generalizing v w with
  | plain u hp =>
    obtain rfl := (same_iff_eq_of_isPlain hp).1 h
    exact h'
  | double x =>
    obtain ⟨y, rfl, hxy⟩ := same_double.1 h
    obtain ⟨z, rfl, hyz⟩ := same_double.1 h'
    exact same_double.2 ⟨z, rfl, Double.same_trans hxy hyz⟩
  | array items ih =>
    obtain ⟨others, rfl, hitems⟩ := same_array.1 h
    obtain ⟨more, rfl, hothers⟩ := same_array.1 h'
    exact same_array.2 ⟨more, rfl, sameItems_trans (fun u hu v w => ih u hu) hitems hothers⟩
  | document d ih =>
    obtain ⟨e, rfl, hd⟩ := same_document.1 h
    obtain ⟨f, rfl, he⟩ := same_document.1 h'
    exact same_document.2 ⟨f, rfl, Document.same_trans_of_values (fun field hf v w => ih field hf) hd he⟩
  | scopedCode source d ih =>
    obtain ⟨e, rfl, hd⟩ := same_scopedCode.1 h
    obtain ⟨f, rfl, he⟩ := same_scopedCode.1 h'
    exact same_scopedCode.2 ⟨f, rfl, Document.same_trans_of_values (fun field hf v w => ih field hf) hd he⟩

/-! ## Values that are the same as themselves -/

theorem Double.same_self (x : Double) : x.same x = !x.isNaN := by
  simp [Double.same]

theorem sameItems_self_iff {items : List Value} : sameItems items items = true ↔ ∀ v ∈ items, v.same v = true := by
  induction items with
  | nil => simp [sameItems]
  | cons v items ih => simp [sameItems, ih]

/-- A well-formed document is the same as itself exactly if the values of its fields are. -/
theorem Document.same_self_iff {d : Document} (hd : d.WellFormed) : d.same d = true ↔ ∀ field ∈ d, field.2.same field.2 = true := by
  rw [same_iff]
  constructor
  · rintro ⟨-, hfields⟩ ⟨name, v⟩ hmem
    obtain ⟨w, hw, hsame⟩ := hfields name v hmem
    obtain rfl := Option.some.inj (hw.symm.trans (get?_of_mem hd.1 hmem))
    exact hsame
  · intro hfields
    refine ⟨rfl, ?_⟩
    intro name v hmem
    exact ⟨v, get?_of_mem hd.1 hmem, hfields (name, v) hmem⟩

/-- A well-formed document is the same as itself exactly if nothing that is no number occurs in the values of its fields, where that is so
of each of these. -/
theorem Document.same_self_iff_of_values {d : Document}
    (ih : ∀ field ∈ d, field.2.WellFormed → (field.2.same field.2 = true ↔ ¬field.2.HasNaN)) (hd : d.WellFormed) :
    d.same d = true ↔ ¬∃ field ∈ d, field.2.HasNaN := by
  rw [same_self_iff hd]
  constructor
  · rintro hfields ⟨field, hmem, hnan⟩
    exact (ih field hmem (hd.value hmem)).1 (hfields field hmem) hnan
  · intro hnone field hmem
    exact (ih field hmem (hd.value hmem)).2 (fun hnan => hnone ⟨field, hmem, hnan⟩)

/-- A well-formed value is the same as itself exactly if nothing that is no number occurs in it. -/
theorem Value.same_self_iff {v : Value} (hv : v.WellFormed) : v.same v = true ↔ ¬v.HasNaN := by
  induction v using Value.induction with
  | plain v hp => simp [(same_iff_eq_of_isPlain hp).2, not_hasNaN_of_isPlain hp]
  | double x => simp [Value.same, Double.same_self, hasNaN_double]
  | array items ih =>
    rw [Value.WellFormed, wellFormedItems_iff] at hv
    rw [Value.same, sameItems_self_iff, hasNaN_array]
    constructor
    · rintro hitems ⟨x, hx, hnan⟩
      exact (ih x hx (hv x hx)).1 (hitems x hx) hnan
    · intro hnone x hx
      exact (ih x hx (hv x hx)).2 (fun hnan => hnone ⟨x, hx, hnan⟩)
  | document d ih =>
    rw [Value.WellFormed] at hv
    rw [hasNaN_document, ← Document.same_self_iff_of_values ih hv, Value.same, Document.same]
  | scopedCode source d ih =>
    rw [Value.WellFormed] at hv
    rw [hasNaN_scopedCode, ← Document.same_self_iff_of_values ih hv, Value.same, Document.same, beq_self_eq_true, Bool.true_and]

/-- What is no number is found in the scope of a piece of code in an array. -/
example :
    (let v : Value := .array [.scopedCode "f" [("x", .double ⟨0x7FF8000000000000⟩)]]
     v.same v) = false := by decide

/-! ## Documents as maps -/

/-- Documents without repeated names are the same exactly if they have the same names and the values of each name are the same. -/
theorem Document.same_iff_names {d e : Document} (hd : d.names.Nodup) (he : e.names.Nodup) :
    d.same e = true ↔ (∀ name, name ∈ d.names ↔ name ∈ e.names) ∧
      ∀ name v w, (name, v) ∈ d → (name, w) ∈ e → v.same w = true := by
  constructor
  · intro h
    refine ⟨fun name => (names_perm_of_same hd h).mem_iff, ?_⟩
    intro name v w hv hw
    obtain ⟨x, hx, hsame⟩ := (same_iff.1 h).2 name v hv
    obtain rfl := Option.some.inj (hx.symm.trans (get?_of_mem he hw))
    exact hsame
  · rintro ⟨hnames, hvalues⟩
    have hperm : d.names.Perm e.names := (List.perm_ext_iff_of_nodup hd he).2 hnames
    refine same_iff.2 ⟨by simpa [names] using hperm.length_eq, ?_⟩
    intro name v hv
    obtain ⟨w, hw⟩ := exists_get?_of_mem_names ((hnames name).1 (List.mem_map_of_mem hv))
    exact ⟨w, hw, hvalues name v w hv (mem_of_get? hw)⟩

/-- The order of the fields does not matter. -/
theorem Document.same_of_perm {d d' e e' : Document} (hd : d.names.Nodup) (he : e.names.Nodup) (hperm : d.Perm d') (hperm' : e.Perm e') :
    d.same e = d'.same e' := by
  have hnames : d.names.Perm d'.names := hperm.map Prod.fst
  have hnames' : e.names.Perm e'.names := hperm'.map Prod.fst
  rw [Bool.eq_iff_iff, same_iff_names hd he, same_iff_names (hnames.nodup_iff.1 hd) (hnames'.nodup_iff.1 he)]
  simp only [hnames.mem_iff, hnames'.mem_iff, hperm.mem_iff, hperm'.mem_iff]

/-- The two zeros are the same, in fields that stand in another order. -/
example : Document.same [("a", .double ⟨0⟩), ("b", .null)] [("b", .null), ("a", .double ⟨0x8000000000000000⟩)] = true := by decide

/-- Equality of values is symmetric and transitive, values of different types are never the same, and a value is the same as itself
exactly if no double that is no number occurs in it, at any depth. Documents are the same exactly if they have the same names and the
values of each name are the same, and the order of their fields does not matter. -/
theorem Value.same_equivalence :
    (∀ v w : Value, v.WellFormed → w.WellFormed → v.same w = w.same v) ∧
    (∀ u v w : Value, u.same v = true → v.same w = true → u.same w = true) ∧
    (∀ v w : Value, v.kind ≠ w.kind → v.same w = false) ∧
    (∀ v : Value, v.WellFormed → (v.same v = true ↔ ¬v.HasNaN)) ∧
    ∀ d e : Document, d.names.Nodup → e.names.Nodup →
      (d.same e = true ↔ (∀ name, name ∈ d.names ↔ name ∈ e.names) ∧
        ∀ name v w, (name, v) ∈ d → (name, w) ∈ e → v.same w = true) ∧
      ∀ d' e' : Document, d.Perm d' → e.Perm e' → d.same e = d'.same e' := by
  refine ⟨?_, ?_, ?_, ?_, ?_⟩
  · intro v w hv hw
    exact same_comm hv hw
  · intro u v w h h'
    exact same_trans h h'
  · intro v w hkind
    rw [Bool.eq_false_iff]
    intro h
    exact hkind (kind_eq_of_same h)
  · intro v hv
    exact same_self_iff hv
  · intro d e hd he
    exact ⟨Document.same_iff_names hd he, fun d' e' hperm hperm' => Document.same_of_perm hd he hperm hperm'⟩

end Seedbed
