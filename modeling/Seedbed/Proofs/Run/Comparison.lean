import Seedbed.Proofs.Bson.Equality
import Seedbed.Run.Comparison

/-!
# What a comparison lists

A comparison lists the fields in which two documents differ (`differsAt`), every one of them once, in the order of the expected document
and then of the other one (`field_compare`), and what it says of a field is so (`describes_of_mem_compare`). So there are no differences
exactly if the documents are the same (`compare_eq_nil_iff`), and which of the two is the expected one changes what is said but not of
how many fields (`compare_lists_differences`). The documents repeat no name.
-/

namespace Seedbed

namespace Document

variable {expected actual : Document}

/-- A field does not differ exactly if the other document has one of its name whose value is the same. -/
theorem mismatchAt_eq_none_iff {name : String} {v : Value} :
    actual.mismatchAt name v = none ↔ ∃ w, actual.get? name = some w ∧ w.same v = true := by
  unfold mismatchAt
  cases h : actual.get? name with
  | none => simp
  | some w => simp

/-- There are no differences exactly if each expected field has its like, and no field is there beyond those. -/
theorem compare_eq_nil : expected.compare actual = [] ↔
    (∀ name v, (name, v) ∈ expected → ∃ w, actual.get? name = some w ∧ w.same v = true) ∧ actual.names ⊆ expected.names := by
  simp only [compare, List.append_eq_nil_iff, List.filterMap_eq_nil_iff, List.map_eq_nil_iff, List.filter_eq_nil_iff, Prod.forall,
    mismatchAt_eq_none_iff, Bool.not_eq_true', Bool.not_eq_false, has_iff]
  exact Iff.rfl

/-- Between documents that repeat no name there are no differences exactly if they are the same. -/
theorem compare_eq_nil_iff (he : expected.names.Nodup) (ha : actual.names.Nodup) :
    expected.compare actual = [] ↔ actual.same expected = true := by
  rw [compare_eq_nil]
  constructor
  · rintro ⟨hfields, hnames⟩
    have hback : expected.names ⊆ actual.names := by
      intro name hname
      obtain ⟨v, hv⟩ := exists_get?_of_mem_names hname
      obtain ⟨w, hw, -⟩ := hfields name v (mem_of_get? hv)
      exact mem_names_of_get? hw
    have hlen := ((List.perm_ext_iff_of_nodup ha he).2 (fun _ => ⟨fun h => hnames h, fun h => hback h⟩)).length_eq
    refine same_iff.2 ⟨by simpa [names] using hlen, fun name w hw => ?_⟩
    obtain ⟨v, hv⟩ := exists_get?_of_mem_names (hnames (List.mem_map_of_mem hw))
    obtain ⟨x, hx, hs⟩ := hfields name v (mem_of_get? hv)
    rw [get?_of_mem ha hw] at hx
    cases hx
    exact ⟨v, hv, hs⟩
  · intro h
    have hperm := names_perm_of_same ha h
    refine ⟨fun name v hv => ?_, hperm.subset⟩
    obtain ⟨w, hw⟩ := exists_get?_of_mem_names (hperm.symm.subset (List.mem_map_of_mem hv))
    obtain ⟨x, hx, hs⟩ := (same_iff.1 h).2 name w (mem_of_get? hw)
    rw [get?_of_mem he hv] at hx
    cases hx
    exact ⟨w, hw, hs⟩

/-! ## The fields that are listed -/

/-- Whether two documents differ in the field of a name: only one of them has it, or both have it with values that are not the same. -/
def differsAt (d e : Document) (name : String) : Bool :=
  match d.get? name, e.get? name with
  | none, none => false
  | some v, some w => !v.same w
  | _, _ => true

theorem differsAt_comm {d e : Document} (hd : d.WellFormed) (he : e.WellFormed) (name : String) :
    d.differsAt e name = e.differsAt d name := by
  unfold differsAt
  cases hv : d.get? name with
  | none => cases hw : e.get? name <;> rfl
  | some v =>
    cases hw : e.get? name with
    | none => rfl
    | some w =>
      have hcomm : v.same w = w.same v := Value.same_comm (hd.value (mem_of_get? hv)) (he.value (mem_of_get? hw))
      simp only [hcomm]

/-- A field that the first document does not have differs exactly if the second one has it. -/
theorem differsAt_of_not_mem {d e : Document} {name : String} (h : name ∉ d.names) : d.differsAt e name = e.has name := by
  have hnone : d.get? name = none := by
    cases hv : d.get? name with
    | none => rfl
    | some v => exact absurd (mem_names_of_get? hv) h
  unfold differsAt has
  rw [hnone]
  cases e.get? name <;> rfl

/-- A field of the expected document is listed exactly if it differs. -/
theorem isSome_mismatchAt (he : expected.WellFormed) (ha : actual.WellFormed) {name : String} {v : Value} (h : (name, v) ∈ expected) :
    (actual.mismatchAt name v).isSome = expected.differsAt actual name := by
  unfold mismatchAt differsAt
  rw [get?_of_mem he.1 h]
  cases hw : actual.get? name with
  | none => rfl
  | some w =>
    have hcomm : v.same w = w.same v := Value.same_comm (he.value h) (ha.value (mem_of_get? hw))
    simp only [hcomm]
    cases w.same v <;> rfl

/-- What is said of an expected field: that its value is another one, or that it is missing. -/
theorem mismatchAt_eq_some {name : String} {v : Value} {m : Mismatch} (h : actual.mismatchAt name v = some m) :
    (∃ w, actual.get? name = some w ∧ w.same v = false ∧ m = .value name v w) ∨ (actual.get? name = none ∧ m = .missing name) := by
  unfold mismatchAt at h
  split at h
  · next w hw =>
    split at h
    · cases h
    · next hs =>
      cases h
      exact .inl ⟨w, hw, Bool.eq_false_iff.2 hs, rfl⟩
  · next hnone =>
    cases h
    exact .inr ⟨hnone, rfl⟩

theorem field_of_mismatchAt {name : String} {v : Value} {m : Mismatch} (h : actual.mismatchAt name v = some m) : m.field = name := by
  rcases mismatchAt_eq_some h with ⟨w, -, -, rfl⟩ | ⟨-, rfl⟩
  · rfl
  · rfl

theorem field_filterMap_mismatchAt (fields : List (String × Value)) :
    (fields.filterMap (fun (name, v) => actual.mismatchAt name v)).map Mismatch.field =
      (fields.filter (fun (name, v) => (actual.mismatchAt name v).isSome)).map Prod.fst := by
  induction fields with
  | nil => rfl
  | cons field rest ih =>
    obtain ⟨name, v⟩ := field
    cases h : actual.mismatchAt name v with
    | none => simpa [h] using ih
    | some m => simpa [h, field_of_mismatchAt h] using ih

/-- The fields listed are those of the expected document that differ, in its order, and then those that only the other one has. -/
theorem field_compare (he : expected.WellFormed) (ha : actual.WellFormed) :
    (expected.compare actual).map Mismatch.field =
      expected.names.filter (expected.differsAt actual) ++ actual.names.filter (fun name => !expected.has name) := by
  have hlisted : expected.filter (fun (name, v) => (actual.mismatchAt name v).isSome) =
      expected.filter (expected.differsAt actual ∘ Prod.fst) :=
    List.filter_congr (fun _ h => isSome_mismatchAt he ha h)
  have hnames : expected.names.filter (expected.differsAt actual) =
      (expected.filter (expected.differsAt actual ∘ Prod.fst)).map Prod.fst := List.filter_map
  have hextra : Mismatch.field ∘ Mismatch.unexpected = id := rfl
  rw [compare, List.map_append, field_filterMap_mismatchAt, hlisted, List.map_map, hextra, List.map_id, hnames]

theorem mem_field_compare_iff (he : expected.WellFormed) (ha : actual.WellFormed) {name : String} :
    name ∈ (expected.compare actual).map Mismatch.field ↔ expected.differsAt actual name = true := by
  rw [field_compare he ha, List.mem_append, List.mem_filter, List.mem_filter]
  by_cases h : name ∈ expected.names
  · have hhas : expected.has name = true := has_iff.2 h
    simp [h, hhas]
  · have hhas : expected.has name = false := by
      rw [Bool.eq_false_iff]
      exact fun hhas => h (has_iff.1 hhas)
    simp [h, hhas, differsAt_of_not_mem h, has_iff]

/-- No field is listed twice. -/
theorem nodup_field_compare (he : expected.WellFormed) (ha : actual.WellFormed) :
    ((expected.compare actual).map Mismatch.field).Nodup := by
  rw [field_compare he ha, List.nodup_append]
  refine ⟨he.1.filter _, ha.1.filter _, ?_⟩
  intro name hname other hother
  have hin : expected.has name = true := has_iff.2 (List.mem_filter.1 hname).1
  have hout : (!expected.has other) = true := (List.mem_filter.1 hother).2
  rintro rfl
  simp [hin] at hout

/-! ## What is said of a field -/

/-- Whether two documents are as a mismatch says. -/
def Describes (expected actual : Document) : Mismatch → Prop
  | .value name v w => expected.get? name = some v ∧ actual.get? name = some w ∧ w.same v = false
  | .missing name => name ∈ expected.names ∧ actual.get? name = none
  | .unexpected name => expected.get? name = none ∧ name ∈ actual.names

theorem describes_of_mem_compare (he : expected.names.Nodup) {m : Mismatch} (h : m ∈ expected.compare actual) :
    expected.Describes actual m := by
  rcases List.mem_append.1 h with h | h
  · obtain ⟨⟨name, v⟩, hv, hm⟩ := List.mem_filterMap.1 h
    rcases mismatchAt_eq_some hm with ⟨w, hw, hs, rfl⟩ | ⟨hnone, rfl⟩
    · exact ⟨get?_of_mem he hv, hw, hs⟩
    · exact ⟨List.mem_map_of_mem hv, hnone⟩
  · obtain ⟨name, hname, rfl⟩ := List.mem_map.1 h
    obtain ⟨hmem, hhas⟩ := List.mem_filter.1 hname
    refine ⟨?_, hmem⟩
    simpa [has] using hhas

end Document

/-! ## What the texts say -/

/-- Whether a text says that a field is missing. -/
def saysMissing (text : String) : Bool := " is missing".toList.isSuffixOf text.toList

/-- Whether a text says that a field is unexpected. -/
def saysUnexpected (text : String) : Bool := "unexpected field ".toList.isPrefixOf text.toList

/-- A text ends with the last character of what was put at its end. -/
theorem getLast?_append {t : String} {c : Char} (h : t.toList.getLast? = some c) (s : String) :
    (s ++ t).toList.getLast? = some c := by
  rw [String.toList_append, List.getLast?_append, h]
  rfl

/-- The long form of a value ends with a parenthesis, a brace or the last letter of the name of a type. -/
theorem exists_getLast?_inspect (v : Value) : ∃ c, v.inspect.toList.getLast? = some c ∧ c ≠ 'g' := by
  unfold Value.inspect
  cases v with
  | boolean b => cases b <;> exact ⟨')', rfl, by decide⟩
  | null | undefined | minKey | maxKey => exact ⟨_, rfl, by decide⟩
  | _ => exact ⟨_, getLast?_append rfl _, by decide⟩

theorem not_saysMissing_of_getLast? {text : String} {c : Char} (h : text.toList.getLast? = some c) (hc : c ≠ 'g') :
    saysMissing text = false := by
  rw [Bool.eq_false_iff]
  intro hsays
  obtain ⟨front, hfront⟩ := List.isSuffixOf_iff_suffix.1 hsays
  rw [← hfront, List.getLast?_append_of_ne_nil _ (by decide)] at h
  exact hc (Option.some.inj h).symm

namespace Mismatch

def isMissing : Mismatch → Bool
  | .missing _ => true
  | _ => false

def isUnexpected : Mismatch → Bool
  | .unexpected _ => true
  | _ => false

/-- The text says that a field is missing only of one that is, whatever values it shows and whatever the field is called. -/
theorem saysMissing_message (m : Mismatch) : saysMissing m.message = m.isMissing := by
  unfold message
  cases m with
  | value name v w =>
    obtain ⟨c, hlast, hc⟩ := exists_getLast?_inspect w
    exact not_saysMissing_of_getLast? (getLast?_append hlast _) hc
  | missing name =>
    refine List.isSuffixOf_iff_suffix.2 ⟨("field '" ++ name ++ "'").toList, ?_⟩
    simp
  | unexpected name => exact not_saysMissing_of_getLast? (getLast?_append rfl _) (by decide)

theorem saysUnexpected_message (m : Mismatch) : saysUnexpected m.message = m.isUnexpected := by
  unfold message saysUnexpected
  cases m with
  | value name v w => simp [isUnexpected, List.isPrefixOf]
  | missing name => simp [isUnexpected, List.isPrefixOf]
  | unexpected name => simp [isUnexpected, List.isPrefixOf]

end Mismatch

namespace Document

variable {expected actual : Document}

theorem isUnexpected_of_mismatchAt {name : String} {v : Value} {m : Mismatch} (h : actual.mismatchAt name v = some m) :
    m.isUnexpected = false := by
  rcases mismatchAt_eq_some h with ⟨w, -, -, rfl⟩ | ⟨-, rfl⟩
  · rfl
  · rfl

/-- A field of the expected document is said to be missing exactly if the other one does not have it. -/
theorem isMissing_mismatchAt (name : String) (v : Value) :
    ((actual.mismatchAt name v).map Mismatch.isMissing).getD false = !actual.has name := by
  unfold mismatchAt has
  cases actual.get? name with
  | none => rfl
  | some w => cases hs : w.same v <;> simp [hs, Mismatch.isMissing]

theorem countP_isMissing_compare :
    (expected.compare actual).countP Mismatch.isMissing = expected.names.countP (fun name => !actual.has name) := by
  have hextra : ((actual.names.filter (fun name => !expected.has name)).map Mismatch.unexpected).countP Mismatch.isMissing = 0 := by
    rw [List.countP_eq_zero]
    intro m hm
    obtain ⟨name, -, rfl⟩ := List.mem_map.1 hm
    exact Bool.false_ne_true
  rw [compare, List.countP_append, hextra, Nat.add_zero, List.countP_filterMap, names, List.countP_map]
  exact List.countP_congr (fun field _ => by rw [Function.comp_apply, isMissing_mismatchAt])

theorem countP_isUnexpected_compare :
    (expected.compare actual).countP Mismatch.isUnexpected = actual.names.countP (fun name => !expected.has name) := by
  have hfields : (expected.filterMap (fun (name, v) => actual.mismatchAt name v)).countP Mismatch.isUnexpected = 0 := by
    rw [List.countP_eq_zero]
    intro m hm
    obtain ⟨⟨name, v⟩, -, hm⟩ := List.mem_filterMap.1 hm
    rw [isUnexpected_of_mismatchAt hm]
    exact Bool.false_ne_true
  have hextra : Mismatch.isUnexpected ∘ Mismatch.unexpected = fun _ => true := rfl
  rw [compare, List.countP_append, hfields, Nat.zero_add, List.countP_map, hextra, List.countP_true, List.countP_eq_length_filter]

/-- As many fields are said to be missing in one direction as are said to be unexpected in the other one. -/
theorem countP_saysMissing_compare :
    ((expected.compare actual).map Mismatch.message).countP saysMissing =
      ((actual.compare expected).map Mismatch.message).countP saysUnexpected := by
  have hmissing : saysMissing ∘ Mismatch.message = Mismatch.isMissing := funext Mismatch.saysMissing_message
  have hunexpected : saysUnexpected ∘ Mismatch.message = Mismatch.isUnexpected := funext Mismatch.saysUnexpected_message
  rw [List.countP_map, List.countP_map, hmissing, hunexpected, countP_isMissing_compare, countP_isUnexpected_compare]

/-! ## Both directions -/

/-- In both directions the same fields are listed. -/
theorem field_compare_perm (he : expected.WellFormed) (ha : actual.WellFormed) :
    ((expected.compare actual).map Mismatch.field).Perm ((actual.compare expected).map Mismatch.field) := by
  refine (List.perm_ext_iff_of_nodup (nodup_field_compare he ha) (nodup_field_compare ha he)).2 (fun name => ?_)
  rw [mem_field_compare_iff he ha, mem_field_compare_iff ha he, differsAt_comm he ha]

/-- A comparison lists the fields that differ, each once, first those of the expected document in its order and then those that only the
other one has in its order, and says of each what is so. Nothing is listed exactly if the documents are the same. In the other direction
as many fields are listed, and as many are said to be unexpected as are said to be missing in this one. Values of different types are never
the same. -/
theorem compare_lists_differences (he : expected.WellFormed) (ha : actual.WellFormed) :
    (expected.compare actual).map Mismatch.field =
        expected.names.filter (expected.differsAt actual) ++ actual.names.filter (fun name => !expected.has name) ∧
    ((expected.compare actual).map Mismatch.field).Nodup ∧
    (∀ name, name ∈ (expected.compare actual).map Mismatch.field ↔ expected.differsAt actual name = true) ∧
    (∀ m ∈ expected.compare actual, expected.Describes actual m) ∧
    (expected.compare actual = [] ↔ expected.same actual = true) ∧
    (expected.compare actual).length = (actual.compare expected).length ∧
    ((expected.compare actual).map Mismatch.message).countP saysMissing =
        ((actual.compare expected).map Mismatch.message).countP saysUnexpected ∧
    ∀ v w : Value, v.kind ≠ w.kind → v.same w = false := by
  refine ⟨field_compare he ha, nodup_field_compare he ha, fun _ => mem_field_compare_iff he ha,
    fun _ hm => describes_of_mem_compare he.1 hm, ?_, ?_, countP_saysMissing_compare, ?_⟩
  · rw [compare_eq_nil_iff he.1 ha.1, same_comm he ha]
  · simpa only [List.length_map] using (field_compare_perm he ha).length_eq
  · intro v w hkind
    rw [Bool.eq_false_iff]
    exact fun hs => hkind (Value.kind_eq_of_same hs)

/-- A record as it is expected. -/
def expectedSample : Document :=
  [("_id", .int32 2), ("year_type", .int32 2025), ("at", .document [("x", .double ⟨0⟩), ("y", .null)]), ("d", .null)]

/-- The record with an integer of the other width, another field in the place of one, and the rest in another order. -/
def actualSample : Document :=
  [("extra", .boolean true), ("at", .document [("y", .null), ("x", .double ⟨0x8000000000000000⟩)]), ("year_type", .int64 2025),
    ("_id", .int32 2)]

theorem wellFormed_expectedSample : expectedSample.WellFormed := by
  simp [expectedSample, WellFormed, names, wellFormedFields, Value.WellFormed]

theorem wellFormed_actualSample : actualSample.WellFormed := by
  simp [actualSample, WellFormed, names, wellFormedFields, Value.WellFormed]

theorem compare_lists_differences_sample :
    expectedSample.WellFormed ∧ actualSample.WellFormed ∧
      (expectedSample.compare actualSample).map Mismatch.field = ["year_type", "d", "extra"] ∧
      (actualSample.compare expectedSample).length = 3 := by
  obtain ⟨hfields, -, -, -, -, hlength, -⟩ := compare_lists_differences wellFormed_expectedSample wellFormed_actualSample
  have hlisted : (expectedSample.compare actualSample).map Mismatch.field = ["year_type", "d", "extra"] := by
    rw [hfields]
    decide
  refine ⟨wellFormed_expectedSample, wellFormed_actualSample, hlisted, ?_⟩
  rw [← hlength, ← List.length_map (f := Mismatch.field), hlisted]
  rfl

end Document

end Seedbed
