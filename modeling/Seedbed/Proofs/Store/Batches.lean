import Seedbed.Proofs.Store.Calls

/-!
# Documents inserted in order

An insertion goes through its documents one after the other: each is inserted as it is, or with an identifier that is made up in a new
last field (`InsertedAs`), up to the first one whose identifier is taken, in the collection or by a document before it. As nothing is
remembered from one document to the next but what was inserted and the supply of identifiers, an insertion of some documents and then
of others is one insertion of both (`insertMany_append`). `insertMany_in_order` says what an insertion leaves in either case.
-/

namespace Seedbed.Memory

/-! ## Documents with their identifiers -/

/-- What a document is inserted as, its identifier in front: itself if it has an identifier, and otherwise itself with one that is made
up behind its other fields. -/
inductive InsertedAs (d : Document) : Value × Document → Prop
  | own {id : Value} (h : d.get? "_id" = some id) : InsertedAs d (id, d)
  | madeUp (h : d.get? "_id" = none) (id : ObjectId) : InsertedAs d (.objectId id, d ++ [("_id", .objectId id)])

theorem insertedAs_identify (ids : IdSource) (d : Document) : InsertedAs d ((identify ids d).1, (identify ids d).2.1) := by
  cases h : d.get? "_id" with
  | some id =>
    rw [identify_of_get? h]
    exact .own h
  | none =>
    have hidentify : identify ids d = (.objectId ids.draw.1, d ++ [("_id", .objectId ids.draw.1)], ids.draw.2) := by
      rw [identify, h, ← Document.set_of_get?_eq_none h]
    rw [hidentify]
    exact .madeUp h ids.draw.1

/-- Documents are inserted in the order in which they are given. -/
theorem insertedAs_identified (ids : IdSource) (documents : List Document) :
    List.Forall₂ InsertedAs documents (identified ids documents) := by
  induction documents generalizing ids with
  | nil => exact .nil
  | cons d rest ih => exact .cons (insertedAs_identify ids d) (ih _)

/-! ## One batch after the other -/

/-- Documents are inserted behind others as if these had been there before, unless one of these was not inserted. -/
theorem insertEach_append (xs ys present : List Document) (ids : IdSource) :
    insertEach (xs ++ ys) present ids =
      match insertEach xs present ids with
      | (none, present, ids) => insertEach ys present ids
      | stopped => stopped := by
  induction xs generalizing present ids with
  | nil => rfl
  | cons d xs ih =>
    rw [List.cons_append, insertEach, insertEach]
    by_cases htaken : isTaken present (identify ids d).1 = true
    · simp only [htaken, if_true]
    · simp only [htaken, if_false, ih, Bool.false_eq_true]

/-- An insertion of documents and then, if it succeeds, of others is the insertion of both: it succeeds or fails in the same way, and
leaves the same store. -/
theorem insertMany_append (ns : Namespace) (xs ys : List Document) :
    (do
      let first ← insertMany ns xs
      let second ← insertMany ns ys
      pure (first + second)) = insertMany ns (xs ++ ys) := by
  funext m
  obtain ⟨⟨taken, between, ids⟩, hxs⟩ : ∃ r, insertEach xs (m.documents ns) m.ids = r := ⟨_, rfl⟩
  have hboth := insertEach_append xs ys (m.documents ns) m.ids
  rw [hxs] at hboth
  cases taken with
  | some id => rw [insertMany_eq m ns hboth, Action.bind_error (insertMany_eq m ns hxs), Option.elim_some]
  | none =>
    -- the second insertion finds what the first one leaves
    obtain ⟨⟨taken, after, rest⟩, hys⟩ : ∃ r, insertEach ys between ids = r := ⟨_, rfl⟩
    have hfound : insertEach ys ((m.received ns between ids).documents ns) (m.received ns between ids).ids = (taken, after, rest) := by
      rw [documents_received]
      exact hys
    have hsecond := insertMany_eq _ ns hfound
    rw [received_received] at hsecond
    rw [insertMany_eq m ns (hboth.trans hys), Action.bind_ok (insertMany_eq m ns hxs)]
    cases taken with
    | some id =>
      rw [Action.bind_error hsecond]
      rfl
    | none =>
      rw [Action.bind_ok hsecond, List.length_append]
      rfl

/-! ## What an insertion leaves -/

/-- Where no identifier is taken, an insertion reports as many documents as there are and leaves them behind those of the collection;
otherwise it fails with the first identifier that is taken, and leaves the documents before that one. It makes the collection, if there
is none, and keeps its images and every other collection as they were. An insertion of some documents and then, if it succeeds, of
others is the insertion of both. -/
theorem insertMany_in_order (ns : Namespace) :
    (∀ (m : Memory) (documents : List Document), List.Forall₂ InsertedAs documents (identified m.ids documents) ∧
      ∃ n, (n.collection? ns).isSome = true ∧ Frame ns m n ∧
        ((Fits (m.documents ns) (identified m.ids documents) ∧ (insertMany ns documents).Leaves m (.ok documents.length) n ∧
            n.documents ns = m.documents ns ++ (identified m.ids documents).map Prod.snd) ∨
          ∃ before id d rest, identified m.ids documents = before ++ (id, d) :: rest ∧ Fits (m.documents ns) before ∧
            Clashes (m.documents ns) before id ∧
            (insertMany ns documents).Leaves m (.error (.duplicateKey ns.render id.display)) n ∧
            n.documents ns = m.documents ns ++ before.map Prod.snd)) ∧
      ∀ xs ys : List Document,
        (do
          let first ← insertMany ns xs
          let second ← insertMany ns ys
          pure (first + second)) = insertMany ns (xs ++ ys) := by
  refine ⟨?_, insertMany_append ns⟩
  intro m documents
  refine ⟨insertedAs_identified m.ids documents, ?_⟩
  rcases fits_or_clashes (m.documents ns) (identified m.ids documents) with hfits | ⟨before, ⟨id, d⟩, rest, hsplit, hfits, hclashes⟩
  · refine ⟨_, isSome_received m ns _ _, frame_received m ns _ _, .inl ⟨hfits, leaves_insertMany hfits, ?_⟩⟩
    exact documents_received m ns _ _
  · have hstopped := leaves_insertMany_of_clashes hsplit hfits hclashes
    refine ⟨_, isSome_received m ns _ _, frame_received m ns _ _, .inr ⟨before, id, d, rest, hsplit, hfits, hclashes, hstopped, ?_⟩⟩
    exact documents_received m ns _ _

end Seedbed.Memory
