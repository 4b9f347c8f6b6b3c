import Mathlib.Tactic.MkIffOfInductiveProp
import Seedbed.Fixture.Association
import Seedbed.Proofs.Bson.Coding
import Seedbed.Proofs.Bson.Equality

/-!
# Reading association records

A record is read from every document in which its three fields can be found and read, wherever they stand and whatever else is there
(`ofDocument_eq_ok_iff`). So a record comes back from the document that it is written as, and from every `Variant` of that document, in
which fields have changed places, others were put in, and integers are given in the wider type. Where an integer is too large for a record
or a field is not there, no record is read (`ofDocument_variant`). Documents repeat no name.
-/

namespace Seedbed.Association

/-! ## The slots -/

/-- What a field does to the slot that is filled by it: the value is read into it, or there is none and it stays as it is. -/
def Fills {α : Type} (read : Value → Except DecodingFault α) (before after : Option α) : Option Value → Prop
  | none => before = after
  | some v => ∃ a, read v = .ok a ∧ some a = after

/-- What the fields of a document do to the slots: each is filled by the field of its name. -/
@[mk_iff]
structure Slots.FilledBy (d : Document) (before after : Slots) : Prop where
  id : Fills Value.readInt32 before.id after.id (d.get? "_id")
  employeeId : Fills Value.readInt32 before.employeeId after.employeeId (d.get? "employeeId")
  territoryId : Fills Value.readText before.territoryId after.territoryId (d.get? "territoryId")

section Fills

variable {α : Type} {read : Value → Except DecodingFault α} {before after : Option α} {name slot : String} {v : Value} {rest : Document}

/-- What is read of a field and put into a slot has filled it. -/
theorem map_eq_ok_iff {β : Type} {x : Except DecodingFault α} {f : α → β} {b : β} :
    x.map f = .ok b ↔ ∃ a, x = .ok a ∧ f a = b := by
  cases x with
  | error fault => simp [Except.map]
  | ok a => simp [Except.map]

/-- The first field fills its slot and leaves the others to the rest, which has no field of its name. -/
theorem fills_cons (h : name ∉ rest.names) :
    Fills read before after (Document.get? ((name, v) :: rest) slot) ↔
      ∃ middle, Fills read before middle (Document.get? [(name, v)] slot) ∧ Fills read middle after (rest.get? slot) := by
  by_cases hslot : name = slot
  · subst hslot
    have hnone : rest.get? name = none := by
      rw [← Option.not_isSome_iff_eq_none]
      exact fun hsome => h (Document.has_iff.1 hsome)
    simp only [Document.get?, if_true, hnone, Fills]
    constructor
    · rintro ⟨a, ha, rfl⟩
      exact ⟨some a, ⟨a, ha, rfl⟩, rfl⟩
    · rintro ⟨middle, ⟨a, ha, rfl⟩, rfl⟩
      exact ⟨a, ha, rfl⟩
  · simp [Document.get?, hslot, Fills]

end Fills

namespace Slots

variable {before after : Slots} {name : String} {v : Value}

/-- A field is read onto the slots exactly if it fills the one of its name. -/
theorem readField_eq_ok_iff : before.readField name v = .ok after ↔ FilledBy [(name, v)] before after := by
  obtain ⟨id, employeeId, territoryId⟩ := before
  obtain ⟨id', employeeId', territoryId'⟩ := after
  rw [filledBy_iff, readField]
  by_cases hid : name = "_id"
  · subst hid
    rw [if_pos rfl, map_eq_ok_iff]
    simp [Document.get?, Fills, ← and_assoc]
  by_cases hemployeeId : name = "employeeId"
  · subst hemployeeId
    rw [if_neg hid, if_pos rfl, map_eq_ok_iff]
    simp only [Document.get?, Fills, if_neg hid, if_true, mk.injEq]
    grind
  by_cases hterritoryId : name = "territoryId"
  · subst hterritoryId
    rw [if_neg hid, if_neg hemployeeId, if_pos rfl, map_eq_ok_iff]
    simp [Document.get?, Fills, and_left_comm]
  · rw [if_neg hid, if_neg hemployeeId, if_neg hterritoryId]
    simp [Document.get?, Fills, hid, hemployeeId, hterritoryId]

/-- The fields can be read exactly if the one of each slot can be, and then they fill the slots. -/
theorem readFields_eq_ok_iff {d : Document} (hd : d.names.Nodup) : before.readFields d = .ok after ↔ FilledBy d before after := by
  induction d generalizing before with
  | nil =>
    obtain ⟨id, employeeId, territoryId⟩ := before
    obtain ⟨id', employeeId', territoryId'⟩ := after
    simp [readFields, filledBy_iff, Document.get?, Fills]
  | cons field rest ih =>
    obtain ⟨name, v⟩ := field
    obtain ⟨hname, hrest⟩ := List.nodup_cons.1 hd
    have hsplit : before.readFields ((name, v) :: rest) = .ok after ↔
        ∃ middle, before.readField name v = .ok middle ∧ middle.readFields rest = .ok after := by
      rw [readFields]
      cases before.readField name v with
      | error fault => simp
      | ok middle => simp
    rw [hsplit, filledBy_iff, fills_cons hname, fills_cons hname, fills_cons hname]
    simp only [readField_eq_ok_iff, ih hrest, filledBy_iff]
    constructor
    · rintro ⟨middle, ⟨hid, hemployeeId, hterritoryId⟩, hid', hemployeeId', hterritoryId'⟩
      exact ⟨⟨_, hid, hid'⟩, ⟨_, hemployeeId, hemployeeId'⟩, ⟨_, hterritoryId, hterritoryId'⟩⟩
    · rintro ⟨⟨id, hid, hid'⟩, ⟨employeeId, hemployeeId, hemployeeId'⟩, ⟨territoryId, hterritoryId, hterritoryId'⟩⟩
      exact ⟨⟨id, employeeId, territoryId⟩, ⟨hid, hemployeeId, hterritoryId⟩, hid', hemployeeId', hterritoryId'⟩

end Slots

/-! ## Records -/

variable {d : Document} {r : Association}

/-- Whether a document has the three fields of a record, with values that are read as those of the record. -/
structure Conveys (d : Document) (r : Association) : Prop where
  id : ∃ v, ("_id", v) ∈ d ∧ v.readInt32 = .ok r.id
  employeeId : ∃ v, ("employeeId", v) ∈ d ∧ v.readInt32 = .ok r.employeeId
  territoryId : ∃ v, ("territoryId", v) ∈ d ∧ v.readText = .ok r.territoryId

/-- An empty slot is filled exactly if the field is there and can be read. -/
theorem fills_none_iff {α : Type} {read : Value → Except DecodingFault α} (hd : d.names.Nodup) {name : String} {a : α} :
    Fills read none (some a) (d.get? name) ↔ ∃ v, (name, v) ∈ d ∧ read v = .ok a := by
  constructor
  · intro h
    cases hv : d.get? name with
    | none =>
      rw [hv] at h
      cases h
    | some v =>
      rw [hv] at h
      obtain ⟨b, hread, hb⟩ := h
      cases hb
      exact ⟨v, Document.mem_of_get? hv, hread⟩
  · rintro ⟨v, hv, hread⟩
    rw [Document.get?_of_mem hd hv]
    exact ⟨a, hread, rfl⟩

/-- A record is made of the slots exactly if they are those of the record. -/
theorem Slots.record_eq_ok_iff {slots : Slots} : slots.record = .ok r ↔ slots = ⟨some r.id, some r.employeeId, some r.territoryId⟩ := by
  constructor
  · intro h
    unfold record at h
    split at h
    · cases h
    · cases h
    · cases h
    · cases h
      rfl
  · rintro rfl
    rfl

/-- A record is read from a document exactly if its fields are there with its values, in whatever order and among whatever others. -/
theorem ofDocument_eq_ok_iff (hd : d.names.Nodup) : ofDocument d = .ok r ↔ Conveys d r := by
  have hslots : ofDocument d = .ok r ↔ Slots.readFields ⟨none, none, none⟩ d = .ok ⟨some r.id, some r.employeeId, some r.territoryId⟩ := by
    unfold ofDocument
    cases Slots.readFields ⟨none, none, none⟩ d with
    | error fault => simp
    | ok slots => simp [Slots.record_eq_ok_iff]
  rw [hslots, Slots.readFields_eq_ok_iff hd]
  constructor
  · rintro ⟨hid, hemployeeId, hterritoryId⟩
    exact ⟨(fills_none_iff hd).1 hid, (fills_none_iff hd).1 hemployeeId, (fills_none_iff hd).1 hterritoryId⟩
  · rintro ⟨hid, hemployeeId, hterritoryId⟩
    exact ⟨(fills_none_iff hd).2 hid, (fills_none_iff hd).2 hemployeeId, (fills_none_iff hd).2 hterritoryId⟩

/-! ## Integers of either width -/

open Value (readInt32_of_integer? readInt32_int32 readInt32_int64)

/-- Whether an integer of 64 bits is none of 32 bits. -/
def TooWide (n : Int64) : Prop := n.toInt < -2147483648 ∨ 2147483647 < n.toInt

theorem readInt32_of_tooWide {n : Int64} (h : TooWide n) (m : Int32) : (Value.int64 n).readInt32 ≠ .ok m := by
  have hrange : ¬(-2147483648 ≤ n.toInt ∧ n.toInt ≤ 2147483647) := by
    rcases h with h | h
    · omega
    · omega
  have hinteger : (Value.int64 n).integer? = some n.toInt := rfl
  rw [readInt32_of_integer? hinteger, if_neg hrange]
  exact nofun

/-! ## Variants of the written document -/

/-- The documents that come of the one a record is written as, by steps of three kinds: the fields change places, a field that is not
there is put in somewhere, or an integer of the record is given in the wider type. -/
inductive Variant (r : Association) : Document → Prop
  | written : Variant r r.toDocument
  | reordered {d e : Document} (h : Variant r d) (hperm : d.Perm e) : Variant r e
  | extended {front back : Document} {name : String} (v : Value) (h : Variant r (front ++ back))
    (hname : name ∉ (front ++ back : Document).names) : Variant r (front ++ (name, v) :: back)
  | widened {front back : Document} {name : String} {n : Int32} (h : Variant r (front ++ (name, .int32 n) :: back))
    (hname : name = "_id" ∨ name = "employeeId") : Variant r (front ++ (name, .int64 n.toInt64) :: back)

/-- A document conveys what another one does if each field of that one has its like: of the same name, and read as the same. -/
theorem Conveys.of_forall {e : Document} (h : Conveys d r)
    (hlike : ∀ name v, (name, v) ∈ d → ∃ w, (name, w) ∈ e ∧ (∀ n, v.readInt32 = .ok n → w.readInt32 = .ok n) ∧
      ∀ s, v.readText = .ok s → w.readText = .ok s) : Conveys e r := by
  obtain ⟨⟨v₁, hv₁, hid⟩, ⟨v₂, hv₂, hemployeeId⟩, ⟨v₃, hv₃, hterritoryId⟩⟩ := h
  obtain ⟨w₁, hw₁, hint₁, -⟩ := hlike _ _ hv₁
  obtain ⟨w₂, hw₂, hint₂, -⟩ := hlike _ _ hv₂
  obtain ⟨w₃, hw₃, -, htext₃⟩ := hlike _ _ hv₃
  exact ⟨⟨w₁, hw₁, hint₁ _ hid⟩, ⟨w₂, hw₂, hint₂ _ hemployeeId⟩, ⟨w₃, hw₃, htext₃ _ hterritoryId⟩⟩

/-- The written document conveys its record. -/
theorem conveys_toDocument (r : Association) : Conveys r.toDocument r := by
  refine ⟨?_, ?_, ?_⟩
  · exact ⟨.int32 r.id, by simp [toDocument], readInt32_int32 r.id⟩
  · exact ⟨.int32 r.employeeId, by simp [toDocument], readInt32_int32 r.employeeId⟩
  · exact ⟨.string r.territoryId, by simp [toDocument], rfl⟩

theorem nodup_names_toDocument (r : Association) : r.toDocument.names.Nodup := by
  have hnames : r.toDocument.names = ["_id", "employeeId", "territoryId"] := rfl
  rw [hnames]
  decide

/-- No step repeats a name. -/
theorem Variant.nodup_names (h : Variant r d) : d.names.Nodup := by
  induction h with
  | written => exact nodup_names_toDocument r
  | reordered _ hperm ih => exact (hperm.map Prod.fst).nodup_iff.1 ih
  | @extended front back name v _ hname ih =>
    have hperm : (front ++ (name, v) :: back : Document).names.Perm (name :: (front ++ back : Document).names) :=
      List.perm_middle.map Prod.fst
    exact hperm.nodup_iff.2 (List.nodup_cons.2 ⟨hname, ih⟩)
  | @widened front back name n _ _ ih =>
    have hnames : (front ++ (name, .int64 n.toInt64) :: back : Document).names = (front ++ (name, .int32 n) :: back : Document).names := by
      simp [Document.names]
    rw [hnames]
    exact ih

/-- Each step leaves the fields of the record readable as they were. -/
theorem Variant.conveys (h : Variant r d) : Conveys d r := by
  induction h with
  | written => exact conveys_toDocument r
  | reordered _ hperm ih => exact ih.of_forall (fun name v hv => ⟨v, hperm.mem_iff.1 hv, fun _ h => h, fun _ h => h⟩)
  | extended v _ _ ih =>
    refine ih.of_forall (fun name w hw => ⟨w, ?_, fun _ h => h, fun _ h => h⟩)
    rcases List.mem_append.1 hw with hw | hw
    · exact List.mem_append_left _ hw
    · exact List.mem_append_right _ (List.mem_cons_of_mem _ hw)
  | @widened front back name n _ _ ih =>
    refine ih.of_forall (fun other v hv => ?_)
    rcases List.mem_append.1 hv with hv | hv
    · exact ⟨v, List.mem_append_left _ hv, fun _ h => h, fun _ h => h⟩
    rcases List.mem_cons.1 hv with hv | hv
    · cases hv
      refine ⟨.int64 n.toInt64, List.mem_append_right _ List.mem_cons_self, fun m hm => ?_, nofun⟩
      rwa [readInt32_int64, ← readInt32_int32 n]
    · exact ⟨v, List.mem_append_right _ (List.mem_cons_of_mem _ hv), fun _ h => h, fun _ h => h⟩

/-- A record is written with its three fields in their order, and comes back from every variant of the written document. From a document
with an integer that is too large for a record, or without one of the three fields, no record is read. -/
theorem ofDocument_variant :
    (∀ r : Association,
      r.toDocument = [("_id", .int32 r.id), ("employeeId", .int32 r.employeeId), ("territoryId", .string r.territoryId)] ∧
        ∀ d, Variant r d → ofDocument d = .ok r) ∧
    ∀ d : Document, d.names.Nodup →
      (∃ n, TooWide n ∧ (("_id", .int64 n) ∈ d ∨ ("employeeId", .int64 n) ∈ d)) ∨
        (∃ name ∈ ["_id", "employeeId", "territoryId"], name ∉ d.names) →
      ∃ fault, ofDocument d = .error fault := by
  refine ⟨fun r => ⟨rfl, fun d h => (ofDocument_eq_ok_iff h.nodup_names).2 h.conveys⟩, ?_⟩
  intro d hd hbad
  cases hread : ofDocument d with
  | error fault => exact ⟨fault, rfl⟩
  | ok r =>
    exfalso
    obtain ⟨⟨v₁, hv₁, hid⟩, ⟨v₂, hv₂, hemployeeId⟩, ⟨v₃, hv₃, -⟩⟩ := (ofDocument_eq_ok_iff hd).1 hread
    have hunique : ∀ {name : String} {v w : Value}, (name, v) ∈ d → (name, w) ∈ d → v = w := by
      intro name v w hv hw
      exact Option.some.inj ((Document.get?_of_mem hd hv).symm.trans (Document.get?_of_mem hd hw))
    rcases hbad with ⟨n, hwide, hn | hn⟩ | ⟨name, hname, habsent⟩
    · rw [hunique hv₁ hn] at hid
      exact readInt32_of_tooWide hwide _ hid
    · rw [hunique hv₂ hn] at hemployeeId
      exact readInt32_of_tooWide hwide _ hemployeeId
    · refine habsent ?_
      simp only [List.mem_cons, List.not_mem_nil, or_false] at hname
      rcases hname with rfl | rfl | rfl
      · exact List.mem_map_of_mem hv₁
      · exact List.mem_map_of_mem hv₂
      · exact List.mem_map_of_mem hv₃

/-- A record whose employee has the least number of all. -/
def leastEmployee : Association := ⟨2147483647, -2147483648, "06897"⟩

/-- A field of another record, which has the name of an own one further inside. -/
def history : Value := .array [.null, .document [("_id", .string "none")]]

/-- A document with an identifier one above those of records. -/
def tooWide : Document := [("_id", .int64 2147483648), ("employeeId", .int32 1), ("territoryId", .string "06897")]

/-- The fields in the opposite order, another one in front, the least number in the wider type; and an identifier that is too large. -/
theorem ofDocument_variant_sample :
    ofDocument [("history", history), ("territoryId", .string "06897"), ("employeeId", .int64 (-2147483648)), ("_id", .int32 2147483647)] =
        .ok leastEmployee ∧
      ∃ fault, ofDocument tooWide = .error fault := by
  have hreordered : Variant leastEmployee leastEmployee.toDocument.reverse := .reordered .written (List.reverse_perm _).symm
  have hextended : Variant leastEmployee (("history", history) :: leastEmployee.toDocument.reverse) :=
    @Variant.extended _ [] _ "history" history hreordered (by decide)
  have hvariant := @Variant.widened _ [("history", history), ("territoryId", .string "06897")] [("_id", .int32 2147483647)] _ _
    hextended (Or.inr rfl)
  refine ⟨(ofDocument_variant.1 leastEmployee).2 _ hvariant, ofDocument_variant.2 tooWide (by decide) ?_⟩
  exact Or.inl ⟨2147483648, Or.inr (by decide), Or.inl List.mem_cons_self⟩

end Seedbed.Association
