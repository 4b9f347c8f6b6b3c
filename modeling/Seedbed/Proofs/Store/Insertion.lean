import Seedbed.Proofs.Bson.Equality
import Seedbed.Store.Memory

/-!
# What an insertion leaves

Documents are inserted with the identifiers of `identified`: their own, or the next one of the supply. They fit into a collection
(`Fits`) if no identifier clashes with one in the collection or with one of an earlier document. `insertEach` inserts all of them
if they fit (`insertEach_of_fits`), and otherwise those before the first one that clashes (`insertEach_of_clashes`); one of the two
is always the case (`fits_or_clashes`).
-/

namespace Seedbed

namespace Memory

/-- Documents as they are inserted, each with its identifier. -/
def identified : IdSource → List Document → List (Value × Document)
  | _, [] => []
  | ids, d :: rest => ((identify ids d).1, (identify ids d).2.1) :: identified (identify ids d).2.2 rest

/-- The supply after the documents that have no identifier were given one. -/
def idsAfter : IdSource → List Document → IdSource
  | ids, [] => ids
  | ids, d :: rest => idsAfter (identify ids d).2.2 rest

/-- Whether an identifier is that of a document present, or that of one inserted before. -/
def Clashes (present : List Document) (before : List (Value × Document)) (id : Value) : Prop :=
  isTaken present id = true ∨ ∃ earlier ∈ before, earlier.1.same id = true

/-- Whether documents can all be inserted: no identifier is taken, and none is that of an earlier document. -/
def Fits (present : List Document) (new : List (Value × Document)) : Prop :=
  (∀ entry ∈ new, isTaken present entry.1 = false) ∧ new.Pairwise (fun earlier later => earlier.1.same later.1 = false)

/-! ## Identifiers -/

/-- A document as it is inserted has its identifier. -/
theorem get?_identify (ids : IdSource) (d : Document) : (identify ids d).2.1.get? "_id" = some (identify ids d).1 := by
  unfold identify
  cases h : d.get? "_id" with
  | none => exact Document.get?_set_self d "_id" _
  | some id => exact h

/-- A document that has an identifier is inserted as it is, and the supply stays as it is. -/
theorem identify_of_get? {ids : IdSource} {d : Document} {id : Value} (h : d.get? "_id" = some id) :
    identify ids d = (id, d, ids) := by
  rw [identify, h]

theorem get?_of_mem_identified {ids : IdSource} {documents : List Document} {entry : Value × Document}
    (h : entry ∈ identified ids documents) : entry.2.get? "_id" = some entry.1 := by
  induction documents generalizing ids with
  | nil => cases h
  | cons d rest ih =>
    rcases List.mem_cons.1 h with rfl | h
    · exact get?_identify ids d
    · exact ih h

/-- Documents that have identifiers are inserted as they are, and the supply stays as it is. -/
theorem identified_map {α : Type} {document : α → Document} {id : α → Value} {items : List α}
    (h : ∀ a ∈ items, (document a).get? "_id" = some (id a)) (ids : IdSource) :
    identified ids (items.map document) = items.map (fun a => (id a, document a)) ∧ idsAfter ids (items.map document) = ids := by
  induction items with
  | nil => exact ⟨rfl, rfl⟩
  | cons a rest ih =>
    obtain ⟨h1, h2⟩ := ih (fun b hb => h b (List.mem_cons_of_mem _ hb))
    simp only [List.map_cons, identified, idsAfter, identify_of_get? (h a List.mem_cons_self)]
    exact ⟨by rw [h1], h2⟩

theorem length_identified (documents : List Document) (ids : IdSource) : (identified ids documents).length = documents.length := by
  induction documents generalizing ids with
  | nil => rfl
  | cons d rest ih => rw [identified, List.length_cons, List.length_cons, ih]

/-- Whether an identifier is taken after one more document. -/
theorem isTaken_append_singleton {present : List Document} {d : Document} {id : Value} (h : d.get? "_id" = some id) (x : Value) :
    isTaken (present ++ [d]) x = (isTaken present x || id.same x) := by
  simp [isTaken, Document.holds, h]

/-- An identifier is taken exactly if a document has one that is the same. -/
theorem isTaken_iff {present : List Document} {id : Value} :
    isTaken present id = true ↔ ∃ d ∈ present, ∃ v, d.get? "_id" = some v ∧ v.same id = true := by
  rw [isTaken, List.any_eq_true]
  exact exists_congr (fun d => and_congr_right (fun _ => Document.holds_iff))

/-- A plain identifier is taken exactly if a document has it. -/
theorem isTaken_iff_of_isPlain {present : List Document} {id : Value} (h : id.isPlain = true) :
    isTaken present id = true ↔ ∃ d ∈ present, d.get? "_id" = some id := by
  rw [isTaken, List.any_eq_true]
  exact exists_congr (fun d => and_congr_right (fun _ => Document.holds_iff_of_isPlain h))

/-! ## Documents that fit -/

theorem fits_nil (present : List Document) : Fits present [] := ⟨by simp, List.Pairwise.nil⟩

/-- Documents fit exactly if the first one does and the others fit behind it. -/
theorem fits_cons {present : List Document} {id : Value} {d : Document} {new : List (Value × Document)}
    (h : d.get? "_id" = some id) :
    Fits present ((id, d) :: new) ↔ isTaken present id = false ∧ Fits (present ++ [d]) new := by
  simp only [Fits, List.pairwise_cons, List.forall_mem_cons, isTaken_append_singleton h, Bool.or_eq_false_iff]
  constructor
  · rintro ⟨⟨h1, h2⟩, h3, h4⟩
    exact ⟨h1, fun e he => ⟨h2 e he, h3 e he⟩, h4⟩
  · rintro ⟨h1, h2, h3⟩
    exact ⟨⟨h1, fun e he => (h2 e he).1⟩, fun e he => (h2 e he).2, h3⟩

/-- One more document fits exactly if its identifier does not clash. -/
theorem fits_append_singleton {present : List Document} {before : List (Value × Document)} {entry : Value × Document} :
    Fits present (before ++ [entry]) ↔ Fits present before ∧ ¬Clashes present before entry.1 := by
  simp only [Fits, Clashes, List.mem_append, List.mem_singleton, List.pairwise_append, not_or, not_exists, not_and,
    Bool.not_eq_true]
  constructor
  · rintro ⟨h1, h2, -, h3⟩
    exact ⟨⟨fun e he => h1 e (.inl he), h2⟩, h1 entry (.inr rfl), fun e he => h3 e he entry rfl⟩
  · rintro ⟨⟨h1, h2⟩, h3, h4⟩
    refine ⟨?_, h2, List.pairwise_singleton _ _, ?_⟩
    · rintro e (he | rfl)
      · exact h1 e he
      · exact h3
    · rintro e he _ rfl
      exact h4 e he

/-- Documents fit, or there is a first one that clashes. -/
theorem fits_or_clashes (present : List Document) (new : List (Value × Document)) :
    Fits present new ∨
      ∃ before entry rest, new = before ++ entry :: rest ∧ Fits present before ∧ Clashes present before entry.1 := by
  suffices ∀ before, Fits present before → Fits present (before ++ new) ∨
      ∃ front entry rest, before ++ new = front ++ entry :: rest ∧ Fits present front ∧ Clashes present front entry.1 from
    this [] (fits_nil present)
  induction new with
  | nil => exact fun before h => .inl (by rwa [List.append_nil])
  | cons entry new ih =>
    intro before h
    by_cases hc : Clashes present before entry.1
    · exact .inr ⟨before, entry, new, rfl, h, hc⟩
    · have hf := ih (before ++ [entry]) (fits_append_singleton.2 ⟨h, hc⟩)
      rwa [List.append_assoc, List.singleton_append] at hf

/-- Documents with different identifiers of 32 bits fit if none of these is taken. -/
theorem fits_map_int32 {α : Type} {document : α → Document} {id : α → Int32} {items : List α} {present : List Document}
    (hdiffer : (items.map id).Nodup) (hfree : ∀ a ∈ items, ∀ d ∈ present, d.get? "_id" ≠ some (.int32 (id a))) :
    Fits present (items.map (fun a => (.int32 (id a), document a))) := by
  constructor
  · intro entry hentry
    obtain ⟨a, ha, rfl⟩ := List.mem_map.1 hentry
    rw [Bool.eq_false_iff, Ne, isTaken_iff_of_isPlain rfl]
    rintro ⟨d, hd, hid⟩
    exact hfree a ha d hd hid
  · refine List.pairwise_map.2 ((List.pairwise_map.1 hdiffer).imp (fun {a b} hab => ?_))
    rw [Bool.eq_false_iff, Ne, Value.same_iff_eq_of_isPlain rfl]
    exact fun h => hab (Value.int32.inj h)

/-! ## What is inserted -/

/-- Documents that fit are all inserted. -/
theorem insertEach_of_fits {documents present : List Document} {ids : IdSource} (h : Fits present (identified ids documents)) :
    insertEach documents present ids = (none, present ++ (identified ids documents).map Prod.snd, idsAfter ids documents) := by
  induction documents generalizing present ids with
  | nil => simp [insertEach, identified, idsAfter]
  | cons d rest ih =>
    rw [identified, fits_cons (get?_identify ids d)] at h
    simp only [insertEach, h.1, identified, idsAfter, List.map_cons, ih h.2, Bool.false_eq_true, if_false, List.append_assoc,
      List.singleton_append]

/-- Where a document clashes after others that fit, those are inserted, and the supply has served them and it. -/
theorem insertEach_of_clashes {documents present : List Document} {ids : IdSource} {before rest : List (Value × Document)}
    {id : Value} {d : Document} (h : identified ids documents = before ++ (id, d) :: rest) (hf : Fits present before)
    (hc : Clashes present before id) :
    insertEach documents present ids =
      (some id, present ++ before.map Prod.snd, idsAfter ids (documents.take (before.length + 1))) := by
  induction before generalizing documents present ids with
  | nil =>
    cases documents with
    | nil => cases h
    | cons e documents =>
      obtain ⟨he, -⟩ := List.cons.inj h
      have hid : (identify ids e).1 = id := congrArg Prod.fst he
      have ht : isTaken present id = true := by simpa [Clashes] using hc
      simp [insertEach, hid, ht, idsAfter]
  | cons entry before ih =>
    cases documents with
    | nil => cases h
    | cons e documents =>
      obtain ⟨rfl, hrest⟩ := List.cons.inj h
      obtain ⟨hnot, hf'⟩ := (fits_cons (get?_identify ids e)).1 hf
      have hc' : Clashes (present ++ [(identify ids e).2.1]) before id := by
        simpa [Clashes, isTaken_append_singleton (get?_identify ids e), or_assoc] using hc
      simp [insertEach, hnot, ih hrest hf' hc', idsAfter]

/-- What is inserted are the first documents, some or all, and they fit. -/
theorem exists_insertEach_eq (documents present : List Document) (ids : IdSource) :
    ∃ before, before <+: identified ids documents ∧ Fits present before ∧
      (insertEach documents present ids).2.1 = present ++ before.map Prod.snd := by
  rcases fits_or_clashes present (identified ids documents) with h | ⟨before, ⟨id, d⟩, rest, heq, hf, hc⟩
  · exact ⟨_, List.prefix_rfl, h, by rw [insertEach_of_fits h]⟩
  · exact ⟨before, heq ▸ List.prefix_append _ _, hf, by rw [insertEach_of_clashes heq hf hc]⟩

end Memory

end Seedbed
