import Seedbed.Proofs.Store.Calls

/-!
# What an update changes

An update has to do with the first document that its filter selects and with no other one. If that document holds the value already,
the store stays as it is; otherwise the document is assigned the value, in the place of the field or in a new last field
(`Document.Assigned`), among the others as they were. `updateOne_changes_first` says which of the cases it is and what is reported.

What counts as the value being held already is equality, which is not identity: a zero of the other sign is left in its place, and so is
a document with its fields in another order (`apply_of_equal_values`). The report of a change is right, and the second update finds
nothing to do (`apply_reports_change`); of the report for a value that is put in its own place without being the same as itself nothing
is said.
-/

namespace Seedbed

/-- Whether a document is another one with a value in a field: in the place of the field, whatever it held, or else in a new last field.
All other fields are as they were, and where they were. -/
inductive Document.Assigned (name : String) (v : Value) : Document → Document → Prop
  | inPlace (front : Document) (w : Value) (back : Document) (h : name ∉ front.names) :
    Assigned name v (front ++ (name, w) :: back) (front ++ (name, v) :: back)
  | atEnd (d : Document) (h : name ∉ d.names) : Assigned name v d (d ++ [(name, v)])

theorem Document.assigned_set (d : Document) (name : String) (v : Value) : Assigned name v d (d.set name v) := by
  cases h : d.get? name with
  | none =>
    have hname : name ∉ d.names := by
      rw [← has_iff, has, h]
      exact Bool.false_ne_true
    rw [set_of_get?_eq_none h]
    exact .atEnd d hname
  | some w =>
    obtain ⟨front, back, hfront, hd, hset⟩ := set_of_get?_eq_some h v
    rw [hset, hd]
    exact .inPlace front w back hfront

/-- Setting a field to the value that it has changes nothing. -/
theorem Document.set_of_get?_self {d : Document} {name : String} {v : Value} (h : d.get? name = some v) : d.set name v = d := by
  obtain ⟨front, back, -, hd, hset⟩ := set_of_get?_eq_some h v
  rw [hset, ← hd]

namespace FieldUpdate

theorem apply_of_isHeld {u : FieldUpdate} {d : Document} (h : u.isHeld d = true) : u.apply d = (false, d) := if_pos h

theorem apply_of_not_isHeld {u : FieldUpdate} {d : Document} (h : u.isHeld d = false) : u.apply d = (true, d.set u.field u.value) :=
  if_neg (Bool.eq_false_iff.1 h)

/-! ## One document -/

/-- A document that does not hold the value has it in the field after the update. -/
theorem get?_apply_of_not_isHeld {u : FieldUpdate} {d : Document} (h : u.isHeld d = false) :
    (u.apply d).2.get? u.field = some u.value := by
  rw [apply_of_not_isHeld h]
  exact Document.get?_set_self d u.field u.value

/-- A document that has just the value in the field comes out of the update as it is, whatever is reported. -/
theorem snd_apply_of_get? {u : FieldUpdate} {d : Document} (h : d.get? u.field = some u.value) : (u.apply d).2 = d := by
  cases hheld : u.isHeld d with
  | true => rw [apply_of_isHeld hheld]
  | false =>
    rw [apply_of_not_isHeld hheld]
    exact Document.set_of_get?_self h

/-- The second time, an update leaves the document as it is. -/
theorem snd_apply_apply (u : FieldUpdate) (d : Document) : (u.apply (u.apply d).2).2 = (u.apply d).2 := by
  cases hheld : u.isHeld d with
  | true => rw [apply_of_isHeld hheld, apply_of_isHeld hheld]
  | false => exact snd_apply_of_get? (get?_apply_of_not_isHeld hheld)

/-- After an update with a value that is the same as itself the document holds the value. -/
theorem isHeld_apply {u : FieldUpdate} (hself : u.value.same u.value = true) (d : Document) : u.isHeld (u.apply d).2 = true := by
  cases hheld : u.isHeld d with
  | true => rwa [apply_of_isHeld hheld]
  | false => exact Document.holds_iff.2 ⟨u.value, get?_apply_of_not_isHeld hheld, hself⟩

/-- A change is reported exactly if the document differs, unless a value is put in its own place that is not the same as itself. -/
theorem fst_apply_iff {u : FieldUpdate} {d : Document} (hown : d.get? u.field = some u.value → u.value.same u.value = true) :
    (u.apply d).1 = true ↔ (u.apply d).2 ≠ d := by
  cases hheld : u.isHeld d with
  | true => simp [apply_of_isHeld hheld]
  | false =>
    refine ⟨fun _ hsame => ?_, fun _ => by rw [apply_of_not_isHeld hheld]⟩
    have hvalue := get?_apply_of_not_isHeld hheld
    rw [hsame] at hvalue
    rw [isHeld, Document.holds_iff.2 ⟨u.value, hvalue, hown hvalue⟩] at hheld
    cases hheld

/-- A document with an equal value in the field stays as it is, and no change is reported; every other document has exactly the value
in the field after the update. A change is reported exactly if the document is not identical to what it was, where it is not a value that
is put in its own place without being the same as itself. A second update leaves the document as it is, and reports no change if the value
is the same as itself. -/
theorem apply_reports_change (u : FieldUpdate) (d : Document) :
    ((∃ w, d.get? u.field = some w ∧ w.same u.value = true ∧ u.apply d = (false, d)) ∨
      ((∀ w, d.get? u.field = some w → w.same u.value = false) ∧ (u.apply d).2.get? u.field = some u.value)) ∧
    ((d.get? u.field = some u.value → u.value.same u.value = true) → ((u.apply d).1 = true ↔ (u.apply d).2 ≠ d)) ∧
    (u.apply (u.apply d).2).2 = (u.apply d).2 ∧
    (u.value.same u.value = true → (u.apply (u.apply d).2).1 = false) := by
  refine ⟨?_, fst_apply_iff, snd_apply_apply u d, fun hself => by rw [apply_of_isHeld (isHeld_apply hself d)]⟩
  cases hheld : u.isHeld d with
  | true =>
    obtain ⟨w, hw, hsame⟩ := Document.holds_iff.1 hheld
    exact .inl ⟨w, hw, hsame, apply_of_isHeld hheld⟩
  | false =>
    refine .inr ⟨fun w hw => ?_, get?_apply_of_not_isHeld hheld⟩
    rw [Bool.eq_false_iff]
    intro hsame
    rw [isHeld, Document.holds_iff.2 ⟨w, hw, hsame⟩] at hheld
    cases hheld

/-- A document within a document, with a zero in it; the second one has the other order of fields and the zero of the other sign. -/
def point : Document := [("_id", .int32 1), ("at", .document [("x", .double ⟨0⟩), ("y", .int64 7)])]

def movePoint : FieldUpdate := ⟨"at", .document [("y", .int64 7), ("x", .double ⟨0x8000000000000000⟩)]⟩

theorem apply_reports_change_point :
    movePoint.value.same movePoint.value = true ∧ movePoint.apply point = (false, point) ∧
      ((movePoint.apply point).1 = true ↔ (movePoint.apply point).2 ≠ point) ∧ (movePoint.apply (movePoint.apply point).2).1 = false := by
  have hself : movePoint.value.same movePoint.value = true := by decide
  obtain ⟨-, hchange, -, hagain⟩ := apply_reports_change movePoint point
  exact ⟨hself, rfl, hchange (fun _ => hself), hagain hself⟩

/-- The zero with the sign bit set. -/
def toNegativeZero : FieldUpdate := ⟨"x", .double ⟨0x8000000000000000⟩⟩

/-- A zero is not given the other sign, nor a document within a document the other order of fields. -/
theorem apply_of_equal_values :
    (toNegativeZero.apply [("x", .double ⟨0⟩)]).2.get? "x" ≠ some (.double ⟨0x8000000000000000⟩) ∧
      (movePoint.apply point).2.get? "at" ≠ some movePoint.value := by
  constructor
  · intro h
    have hbits : (⟨0⟩ : Double) = ⟨0x8000000000000000⟩ := Value.double.inj (Option.some.inj h)
    exact absurd hbits (by decide)
  · intro h
    have hfields := Value.document.inj (Option.some.inj h)
    have hname : "x" = "y" := congrArg Prod.fst (List.cons.inj hfields).1
    exact absurd hname (by decide)

end FieldUpdate

/-! ## The first document selected -/

namespace Memory

variable {m : Memory} {ns : Namespace} {f : Filter} {u : FieldUpdate} {before : List Document} {d : Document} {rest : List Document}

/-- A document that holds the value already is not modified, and nothing else is. -/
theorem leaves_updateOne_of_isHeld (h : FirstSelected f (m.documents ns) before d rest) (hheld : u.isHeld d = true) :
    (updateOne ns f u).Leaves m (.ok ⟨1, 0⟩) m := by
  have hleaves := leaves_updateOne_first h u
  rw [FieldUpdate.apply_of_isHeld hheld, ← h.split, refill_documents] at hleaves
  exact hleaves

theorem leaves_updateOne_of_not_isHeld (h : FirstSelected f (m.documents ns) before d rest) (hheld : u.isHeld d = false) :
    (updateOne ns f u).Leaves m (.ok ⟨1, 1⟩) (m.refill ns (before ++ d.set u.field u.value :: rest)) := by
  have hleaves := leaves_updateOne_first h u
  rw [FieldUpdate.apply_of_not_isHeld hheld] at hleaves
  exact hleaves

/-- An update that selects no document reports none and changes nothing. Otherwise it reports that one is matched, and that it is
modified unless it holds the value already, when nothing changes. If it is modified, it is assigned the value, in the place where it is;
the other documents of the collection, its images and all other collections are as they were. -/
theorem updateOne_changes_first (m : Memory) (ns : Namespace) (f : Filter) (u : FieldUpdate) :
    ((∀ d ∈ m.documents ns, f.selects d = false) ∧ (updateOne ns f u).Leaves m (.ok ⟨0, 0⟩) m) ∨
      ∃ before d rest, FirstSelected f (m.documents ns) before d rest ∧
        ((d.holds u.field u.value = true ∧ (updateOne ns f u).Leaves m (.ok ⟨1, 0⟩) m) ∨
          (d.holds u.field u.value = false ∧
            ∃ e n, Document.Assigned u.field u.value d e ∧ (updateOne ns f u).Leaves m (.ok ⟨1, 1⟩) n ∧
              n.documents ns = before ++ e :: rest ∧ (n.collection? ns).isSome = (m.collection? ns).isSome ∧ Frame ns m n)) := by
  rcases none_or_firstSelected f (m.documents ns) with hnone | ⟨before, d, rest, hfirst⟩
  · exact .inl ⟨hnone, leaves_updateOne_of_none hnone⟩
  refine .inr ⟨before, d, rest, hfirst, ?_⟩
  cases hheld : u.isHeld d with
  | true => exact .inl ⟨hheld, leaves_updateOne_of_isHeld hfirst hheld⟩
  | false =>
    exact .inr ⟨hheld, _, _, Document.assigned_set d u.field u.value, leaves_updateOne_of_not_isHeld hfirst hheld,
      hfirst.documents_refill _, isSome_refill m ns _, frame_refill m ns _⟩

end Memory

end Seedbed
