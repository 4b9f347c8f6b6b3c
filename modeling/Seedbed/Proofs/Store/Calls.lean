import Seedbed.Proofs.Action
import Seedbed.Proofs.Store.Operations

/-!
# What each call leaves

For each call on a store in memory, its result and the store after it, in every case that the call distinguishes: a collection that
does not exist, an identifier that clashes, a filter that selects no document.
-/

namespace Seedbed.Memory

variable {m : Memory} {ns : Namespace} {c : Collection} {documents : List Document} {f : Filter}

/-! ## Stores -/

/-- The store without a collection. -/
def erase (m : Memory) (ns : Namespace) : Memory := { m with catalog := m.catalog.erase ns }

theorem collection?_erase (m : Memory) (ns other : Namespace) :
    (m.erase ns).collection? other = if ns = other then none else m.collection? other :=
  m.catalog.get?_erase ns other

@[simp] theorem collection?_put_self (m : Memory) (ns : Namespace) (c : Collection) : (m.put ns c).collection? ns = some c := by
  rw [collection?_put, if_pos rfl]

/-- Putting a collection where it is changes nothing. -/
theorem put_self (h : m.collection? ns = some c) : m.put ns c = m := by
  refine ext_collection? (fun other => ?_) rfl
  rw [collection?_put]
  split
  · next e => rw [← e, h]
  · rfl

/-- Of two collections put under one address the second one stays. -/
@[simp] theorem put_put (m : Memory) (ns : Namespace) (c d : Collection) : (m.put ns c).put ns d = m.put ns d := by
  refine ext_collection? (fun other => ?_) rfl
  simp only [collection?_put]
  split <;> rfl

theorem documents_present (m : Memory) (ns : Namespace) : (m.present ns).documents = m.documents ns := by
  unfold present
  cases h : m.collection? ns with
  | none => exact (documents_of_none h).symm
  | some c => exact (documents_of_collection? h).symm

theorem present_of_collection? (h : m.collection? ns = some c) : m.present ns = c := by
  rw [present, h]
  rfl

/-- What does not hold of all documents under an address fails in a collection that is there. -/
theorem exists_collection {P : Document → Prop} (h : ¬∀ d ∈ m.documents ns, P d) :
    ∃ c, m.collection? ns = some c ∧ ¬∀ d ∈ c.documents, P d := by
  cases hc : m.collection? ns with
  | none => exact absurd (by simp [documents_of_none hc]) h
  | some c => exact ⟨c, rfl, documents_of_collection? hc ▸ h⟩

/-! ## Other documents in a collection -/

/-- The store with other documents in a collection, if the collection exists. -/
def refill (m : Memory) (ns : Namespace) (documents : List Document) : Memory :=
  match m.collection? ns with
  | none => m
  | some c => m.put ns { c with documents := documents }

theorem refill_of_none (h : m.collection? ns = none) (documents : List Document) : m.refill ns documents = m := by
  rw [refill, h]

theorem refill_of_collection? (h : m.collection? ns = some c) (documents : List Document) :
    m.refill ns documents = m.put ns { c with documents := documents } := by
  rw [refill, h]

theorem isSome_refill (m : Memory) (ns : Namespace) (documents : List Document) :
    ((m.refill ns documents).collection? ns).isSome = (m.collection? ns).isSome := by
  cases h : m.collection? ns with
  | none => rw [refill_of_none h, h]
  | some c => rw [refill_of_collection? h, collection?_put_self, Option.isSome_some, Option.isSome_some]

/-- Of the documents of a collection, which may not exist, those that are kept. -/
theorem documents_refill_filter (m : Memory) (ns : Namespace) (p : Document → Bool) :
    (m.refill ns ((m.documents ns).filter p)).documents ns = (m.documents ns).filter p := by
  cases hc : m.collection? ns with
  | none =>
    rw [refill_of_none hc, documents_of_none hc]
    rfl
  | some c => rw [refill_of_collection? hc, documents_of_collection? (collection?_put_self m ns _)]

/-- The documents that a collection has already. -/
theorem refill_documents (m : Memory) (ns : Namespace) : m.refill ns (m.documents ns) = m := by
  cases h : m.collection? ns with
  | none => exact refill_of_none h _
  | some c => rw [refill_of_collection? h, documents_of_collection? h, put_self h]

/-- Of two lists of documents one after the other the second one stays. -/
@[simp] theorem refill_refill (m : Memory) (ns : Namespace) (documents others : List Document) :
    (m.refill ns documents).refill ns others = m.refill ns others := by
  cases h : m.collection? ns with
  | none => rw [refill_of_none h documents]
  | some c =>
    rw [refill_of_collection? h documents, refill_of_collection? h others, refill_of_collection? (collection?_put_self m ns _),
      put_put]

section FirstSelected

variable {before : List Document} {d : Document} {rest : List Document}

/-- A collection of which a filter selects a document is there. -/
theorem FirstSelected.exists_collection (h : FirstSelected f (m.documents ns) before d rest) :
    ∃ c, m.collection? ns = some c ∧ FirstSelected f c.documents before d rest := by
  cases hc : m.collection? ns with
  | none =>
    rw [documents_of_none hc] at h
    cases h.mem
  | some c => exact ⟨c, rfl, documents_of_collection? hc ▸ h⟩

theorem FirstSelected.documents_refill (h : FirstSelected f (m.documents ns) before d rest) (documents : List Document) :
    (m.refill ns documents).documents ns = documents := by
  obtain ⟨c, hc, -⟩ := h.exists_collection
  rw [refill_of_collection? hc, documents_of_collection? (collection?_put_self m ns _)]

end FirstSelected

/-- Whether two stores differ at most in the documents of one collection and in its existence: images are captured of the same
collections, and every other collection is the same. -/
structure Frame (ns : Namespace) (m n : Memory) : Prop where
  images : (imagesEnabled ns n).result = (imagesEnabled ns m).result
  others : ∀ other, other ≠ ns → n.collection? other = m.collection? other

theorem frame_refill (m : Memory) (ns : Namespace) (documents : List Document) : Frame ns m (m.refill ns documents) := by
  cases h : m.collection? ns with
  | none =>
    rw [refill_of_none h]
    exact ⟨rfl, fun _ _ => rfl⟩
  | some c =>
    rw [refill_of_collection? h]
    constructor
    · rw [imagesEnabled, imagesEnabled, collection?_put_self, h, Option.map_some, Option.map_some]
    · intro other hother
      rw [collection?_put, if_neg hother.symm]

/-- The store with documents in a collection, which is made if there is none, and with another supply of identifiers. -/
def received (m : Memory) (ns : Namespace) (documents : List Document) (ids : IdSource) : Memory :=
  { m.put ns { m.present ns with documents := documents } with ids := ids }

theorem collection?_received (m : Memory) (ns : Namespace) (documents : List Document) (ids : IdSource) :
    (m.received ns documents ids).collection? ns = some { m.present ns with documents := documents } :=
  collection?_put_self m ns _

theorem isSome_received (m : Memory) (ns : Namespace) (documents : List Document) (ids : IdSource) :
    ((m.received ns documents ids).collection? ns).isSome = true := by
  rw [collection?_received, Option.isSome_some]

theorem documents_received (m : Memory) (ns : Namespace) (documents : List Document) (ids : IdSource) :
    (m.received ns documents ids).documents ns = documents :=
  documents_of_collection? (collection?_received m ns documents ids)

theorem received_received (m : Memory) (ns : Namespace) (documents others : List Document) (ids rest : IdSource) :
    (m.received ns documents ids).received ns others rest = m.received ns others rest := by
  have hput := put_put m ns { m.present ns with documents := documents } { m.present ns with documents := others }
  rw [received, present_of_collection? (collection?_received m ns documents ids), received, received, ← hput]
  rfl

theorem frame_received (m : Memory) (ns : Namespace) (documents : List Document) (ids : IdSource) :
    Frame ns m (m.received ns documents ids) := by
  constructor
  · rw [imagesEnabled, imagesEnabled, collection?_received, Option.map_some, Option.getD_some, present]
    cases m.collection? ns <;> rfl
  · intro other hother
    exact (collection?_put m ns other _).trans (if_neg hother.symm)

/-! ## Calls -/

theorem leaves_drop (m : Memory) (ns : Namespace) : (drop ns).Leaves m (.ok ()) (m.erase ns) := ⟨rfl, rfl⟩

/-- An insertion, told by what becomes of its documents one by one. -/
theorem insertMany_eq (m : Memory) (ns : Namespace) {present : List Document} {taken : Option Value} {ids : IdSource}
    (h : insertEach documents (m.documents ns) m.ids = (taken, present, ids)) :
    insertMany ns documents m =
      ⟨taken.elim (.ok documents.length) (fun id => .error (.duplicateKey ns.render id.display)), m.received ns present ids, []⟩ := by
  rw [← documents_present, Memory.present] at h
  simp only [insertMany, h]
  cases taken <;> rfl

/-- Documents that fit are inserted behind the others. -/
theorem leaves_insertMany (h : Fits (m.documents ns) (identified m.ids documents)) :
    (insertMany ns documents).Leaves m (.ok documents.length)
      (m.received ns (m.documents ns ++ (identified m.ids documents).map Prod.snd) (idsAfter m.ids documents)) := by
  have hall := insertMany_eq m ns (insertEach_of_fits h)
  exact ⟨congrArg Outcome.result hall, congrArg Outcome.state hall⟩

/-- An insertion stops at the first document that clashes: those before it are inserted, and its identifier is in the error. -/
theorem leaves_insertMany_of_clashes {before rest : List (Value × Document)} {id : Value} {d : Document}
    (h : identified m.ids documents = before ++ (id, d) :: rest) (hf : Fits (m.documents ns) before)
    (hc : Clashes (m.documents ns) before id) :
    (insertMany ns documents).Leaves m (.error (.duplicateKey ns.render id.display))
      (m.received ns (m.documents ns ++ before.map Prod.snd) (idsAfter m.ids (documents.take (before.length + 1)))) := by
  have hsome := insertMany_eq m ns (insertEach_of_clashes h hf hc)
  exact ⟨congrArg Outcome.result hsome, congrArg Outcome.state hsome⟩

section Items

variable {α : Type} {document : α → Document} {id : α → Value} {items : List α}

/-- Documents that have identifiers and fit are inserted as they are, and the supply stays as it is. -/
theorem leaves_insertMany_map (hid : ∀ a ∈ items, (document a).get? "_id" = some (id a))
    (h : Fits (m.documents ns) (items.map (fun a => (id a, document a)))) :
    (insertMany ns (items.map document)).Leaves m (.ok items.length)
      (m.put ns { m.present ns with documents := m.documents ns ++ items.map document }) := by
  obtain ⟨hidentified, hids⟩ := identified_map hid m.ids
  have hleaves := leaves_insertMany (hidentified ▸ h)
  rw [hidentified, hids, List.map_map, List.length_map] at hleaves
  exact hleaves

/-- Where a document clashes among others that have identifiers, those before it are inserted, and the supply stays as it is. -/
theorem leaves_insertMany_map_of_clashes {before rest : List α} {a : α}
    (hid : ∀ b ∈ before ++ a :: rest, (document b).get? "_id" = some (id b))
    (hf : Fits (m.documents ns) (before.map (fun b => (id b, document b))))
    (hc : Clashes (m.documents ns) (before.map (fun b => (id b, document b))) (id a)) :
    (insertMany ns ((before ++ a :: rest).map document)).Leaves m (.error (.duplicateKey ns.render (id a).display))
      (m.put ns { m.present ns with documents := m.documents ns ++ before.map document }) := by
  have hidentified := (identified_map hid m.ids).1
  rw [List.map_append (f := fun b => (id b, document b)), List.map_cons] at hidentified
  have hleaves := leaves_insertMany_of_clashes hidentified hf hc
  -- those before it and it are the documents that the supply is asked for
  have hserved : ∀ b ∈ before ++ [a], (document b).get? "_id" = some (id b) := by
    intro b hb
    refine hid b ?_
    rw [List.append_cons]
    exact List.mem_append_left rest hb
  have hids := (identified_map hserved m.ids).2
  have htake : ((before ++ a :: rest).map document).take ((before.map (fun b => (id b, document b))).length + 1) =
      (before ++ [a]).map document := by
    rw [List.length_map, ← List.map_take, List.take_length_add_append]
    rfl
  rw [htake, hids, List.map_map] at hleaves
  exact hleaves

end Items

theorem leaves_enableImages (h : m.collection? ns = some c) :
    (enableImages ns).Leaves m (.ok ()) (m.put ns { c with images := true }) := by
  constructor <;> rw [enableImages, h]

/-- Images cannot be turned on for a collection that does not exist. -/
theorem leaves_enableImages_of_none (h : m.collection? ns = none) :
    (enableImages ns).Leaves m (.error (.notFound ns.render "collection")) m := by
  constructor <;> rw [enableImages, h]

theorem leaves_updateOne {u : FieldUpdate} {changed : Bool} {after : List Document} (h : m.collection? ns = some c)
    (hu : updateFirst f u c.documents = some (changed, after)) :
    (updateOne ns f u).Leaves m (.ok ⟨1, if changed then 1 else 0⟩) (m.put ns { c with documents := after }) := by
  constructor <;> simp only [updateOne, h, hu]

/-- An update that selects no document leaves the store as it is. -/
theorem leaves_updateOne_of_none {u : FieldUpdate} (h : ∀ d ∈ m.documents ns, f.selects d = false) :
    (updateOne ns f u).Leaves m (.ok ⟨0, 0⟩) m := by
  cases hc : m.collection? ns with
  | none => constructor <;> rw [updateOne, hc]
  | some c =>
    rw [documents_of_collection? hc] at h
    constructor <;> simp only [updateOne, hc, updateFirst_eq_none_iff.2 h]

theorem leaves_deleteOne {after : List Document} (h : m.collection? ns = some c)
    (hd : deleteFirst f c.documents = some after) :
    (deleteOne ns f).Leaves m (.ok 1) (m.put ns { c with documents := after }) := by
  constructor <;> simp only [deleteOne, h, hd]

/-- A deletion of one document that selects none leaves the store as it is. -/
theorem leaves_deleteOne_of_none (h : ∀ d ∈ m.documents ns, f.selects d = false) : (deleteOne ns f).Leaves m (.ok 0) m := by
  cases hc : m.collection? ns with
  | none => constructor <;> rw [deleteOne, hc]
  | some c =>
    rw [documents_of_collection? hc] at h
    constructor <;> simp only [deleteOne, hc, deleteFirst_eq_none_iff.2 h]

theorem leaves_deleteMany (h : m.collection? ns = some c) :
    (deleteMany ns f).Leaves m
      (.ok (c.documents.length - (c.documents.filter (fun d => !f.selects d)).length))
      (m.put ns { c with documents := c.documents.filter (fun d => !f.selects d) }) := by
  constructor <;> rw [deleteMany, h]

theorem leaves_deleteMany_of_none (h : m.collection? ns = none) : (deleteMany ns f).Leaves m (.ok 0) m := by
  constructor <;> rw [deleteMany, h]

/-! ## Calls on the documents that a filter selects -/

section FirstSelected

variable {before : List Document} {d : Document} {rest : List Document}

/-- The first document that is selected is updated among the others. -/
theorem leaves_updateOne_first (h : FirstSelected f (m.documents ns) before d rest) (u : FieldUpdate) :
    (updateOne ns f u).Leaves m (.ok ⟨1, if (u.apply d).1 then 1 else 0⟩) (m.refill ns (before ++ (u.apply d).2 :: rest)) := by
  obtain ⟨c, hc, hfirst⟩ := h.exists_collection
  rw [refill_of_collection? hc]
  exact leaves_updateOne hc (hfirst.updateFirst u)

/-- The first document that is selected is taken out of the others. -/
theorem leaves_deleteOne_first (h : FirstSelected f (m.documents ns) before d rest) :
    (deleteOne ns f).Leaves m (.ok 1) (m.refill ns (before ++ rest)) := by
  obtain ⟨c, hc, hfirst⟩ := h.exists_collection
  rw [refill_of_collection? hc]
  exact leaves_deleteOne hc hfirst.deleteFirst

end FirstSelected

/-- A document is selected or not. -/
theorem length_filter_add_countP (f : Filter) (documents : List Document) :
    (documents.filter (fun d => !f.selects d)).length + documents.countP f.selects = documents.length := by
  rw [← List.countP_eq_length_filter, Nat.add_comm, List.length_eq_countP_add_countP f.selects]
  simp

/-- Every document that is not selected stays, and the selected ones are counted. -/
theorem leaves_deleteMany_filter (m : Memory) (ns : Namespace) (f : Filter) :
    (deleteMany ns f).Leaves m (.ok ((m.documents ns).countP f.selects))
      (m.refill ns ((m.documents ns).filter (fun d => !f.selects d))) := by
  cases hc : m.collection? ns with
  | none =>
    rw [documents_of_none hc, refill_of_none hc]
    exact leaves_deleteMany_of_none hc
  | some c =>
    have hcount := Nat.eq_sub_of_add_eq' (length_filter_add_countP f c.documents)
    rw [documents_of_collection? hc, refill_of_collection? hc, hcount]
    exact leaves_deleteMany hc

end Seedbed.Memory
