import Seedbed.Proofs.Store.Operations

/-!
# What holds of every store that is reached from an empty one

An invariant of documents and one of collections. `Regular`: a document has an identifier and repeats no name. Every run keeps it,
if the inserted documents repeat no name (`regular_run`). `Identified`: no two identifiers of a collection are the same. It is kept
by runs in which no update sets the field of identifiers, whatever else they do (`identified_run`); identifiers are compared with
those that are there already, and in either order with the same result because equality of well-formed values is symmetric.
-/

namespace Seedbed

/-- The identifiers of documents. -/
def idsOf (documents : List Document) : List Value := documents.filterMap (fun d => d.get? "_id")

/-- Whether a document has an identifier and repeats no name. -/
structure Document.Regular (d : Document) : Prop where
  hasId : d.has "_id" = true
  names : d.names.Nodup

/-- Every identifier is a well-formed value, and none is the same as that of a document before it. -/
structure Collection.Identified (c : Collection) : Prop where
  wellFormed : ∀ id ∈ idsOf c.documents, id.WellFormed
  distinct : (idsOf c.documents).Pairwise (fun earlier later => earlier.same later = false)

namespace Call

/-- Whether the documents that a call inserts, if it inserts any, repeat no name. -/
def InsertsNames : Call → Prop
  | .insertMany documents => ∀ d ∈ documents, d.names.Nodup
  | _ => True

/-- Whether the documents that a call inserts, if it inserts any, repeat no name, at any depth. -/
def InsertsWellFormed : Call → Prop
  | .insertMany documents => ∀ d ∈ documents, d.WellFormed
  | _ => True

/-- Whether a call is no update of the field of identifiers. -/
def KeepsIds : Call → Prop
  | .updateOne _ change => change.field ≠ "_id"
  | _ => True

end Call

namespace Memory

/-! ## Documents as they are inserted -/

/-- A document as it is inserted is one of the documents to insert, with an identifier. -/
theorem mem_identified {ids : IdSource} {documents : List Document} {entry : Value × Document}
    (h : entry ∈ identified ids documents) :
    ∃ d ∈ documents, ∃ supply, entry = ((identify supply d).1, (identify supply d).2.1) := by
  induction documents generalizing ids with
  | nil => cases h
  | cons d rest ih =>
    rcases List.mem_cons.1 h with h | h
    · exact ⟨d, List.mem_cons_self, ids, h⟩
    · obtain ⟨e, he, supply, heq⟩ := ih h
      exact ⟨e, List.mem_cons_of_mem _ he, supply, heq⟩

/-- A document that repeats no name is regular with its identifier. -/
theorem regular_identify {d : Document} (h : d.names.Nodup) (ids : IdSource) : (identify ids d).2.1.Regular := by
  constructor
  · rw [Document.has, get?_identify]
    rfl
  · unfold identify
    split
    · exact h
    · exact Document.nodup_names_set h _ _

/-- The identifier of a well-formed document is well-formed: its own, or one that is made up. -/
theorem wellFormed_identify {d : Document} (h : d.WellFormed) (ids : IdSource) : (identify ids d).1.WellFormed := by
  unfold identify
  split
  · next id hid => exact h.value (Document.mem_of_get? hid)
  · simp [Value.WellFormed]

/-- The identifiers of documents as they are inserted. -/
theorem idsOf_map_snd {entries : List (Value × Document)} (h : ∀ entry ∈ entries, entry.2.get? "_id" = some entry.1) :
    idsOf (entries.map Prod.snd) = entries.map Prod.fst := by
  induction entries with
  | nil => rfl
  | cons entry rest ih =>
    have hrest := ih (fun e he => h e (List.mem_cons_of_mem _ he))
    simp only [idsOf, List.map_cons, List.filterMap_cons, h entry List.mem_cons_self] at hrest ⊢
    rw [hrest]

/-! ## What a call preserves of a collection -/

/-- What a call leaves of documents that are there: they are inserted after, some are taken out, or one is replaced. -/
theorem documents_after {call : Call} {ids : IdSource} {c : Option Collection} {a : Collection} (h : a ∈ call.after ids c) :
    (∃ documents before, call = .insertMany documents ∧ before <+: identified ids documents ∧
      Fits (c.getD Collection.empty).documents before ∧
      a.documents = (c.getD Collection.empty).documents ++ before.map Prod.snd) ∨
    (∃ b ∈ c, a.documents.Sublist b.documents) ∨
    (∃ b ∈ c, ∃ f u before d rest, call = .updateOne f u ∧ b.documents = before ++ d :: rest ∧
      a.documents = before ++ (u.apply d).2 :: rest) := by
  cases call with
  | drop => cases h
  | insertMany documents =>
    obtain ⟨before, hpre, hfit, heq⟩ := exists_insertEach_eq documents (c.getD Collection.empty).documents ids
    cases h
    exact .inl ⟨documents, before, rfl, hpre, hfit, heq⟩
  | enableImages =>
    obtain ⟨b, hb, rfl⟩ := Option.map_eq_some_iff.1 h
    exact .inr (.inl ⟨b, hb, List.Sublist.refl _⟩)
  | updateOne f u =>
    obtain ⟨b, hb, rfl⟩ := Option.map_eq_some_iff.1 h
    cases hu : updateFirst f u b.documents with
    | none => exact .inr (.inl ⟨b, hb, by simp⟩)
    | some result =>
      obtain ⟨changed, after⟩ := result
      obtain ⟨before, d, rest, hfirst, -, hafter⟩ := updateFirst_eq_some hu
      exact .inr (.inr ⟨b, hb, f, u, before, d, rest, rfl, hfirst.split, by simp [hafter]⟩)
  | deleteOne f =>
    obtain ⟨b, hb, rfl⟩ := Option.map_eq_some_iff.1 h
    refine .inr (.inl ⟨b, hb, ?_⟩)
    cases hd : deleteFirst f b.documents with
    | none => simp
    | some after =>
      obtain ⟨before, d, rest, hfirst, hafter⟩ := deleteFirst_eq_some hd
      simp only [Option.getD_some, hafter, hfirst.split]
      exact List.Sublist.append_left (List.sublist_cons_self d rest) before
  | deleteMany f =>
    obtain ⟨b, hb, rfl⟩ := Option.map_eq_some_iff.1 h
    exact .inr (.inl ⟨b, hb, List.filter_sublist⟩)
  | findAll => exact .inr (.inl ⟨a, h, List.Sublist.refl _⟩)
  | imagesEnabled => exact .inr (.inl ⟨a, h, List.Sublist.refl _⟩)

/-- A document that an update changes has the identifier that it had, unless the update sets it. -/
theorem get?_id_apply {u : FieldUpdate} (hu : u.field ≠ "_id") (d : Document) : (u.apply d).2.get? "_id" = d.get? "_id" := by
  unfold FieldUpdate.apply
  split
  · rfl
  · exact Document.get?_set_of_ne hu d u.value

/-- A regular document is regular after an update, whatever field it sets. -/
theorem regular_apply {d : Document} (h : d.Regular) (u : FieldUpdate) : (u.apply d).2.Regular := by
  unfold FieldUpdate.apply
  split
  · exact h
  · refine ⟨?_, Document.nodup_names_set h.names u.field u.value⟩
    have hid := Document.has_iff.1 h.hasId
    rw [Document.has_iff, Document.names_set]
    split
    · exact hid
    · exact List.mem_append_left _ hid

/-- What holds of every document as it is inserted, and after an update if it held before, is preserved by a call. -/
theorem forall_mem_after {P : Document → Prop} {call : Call} {ids : IdSource} {c : Option Collection}
    (hinsert : ∀ documents, call = .insertMany documents → ∀ d ∈ documents, ∀ supply, P (identify supply d).2.1)
    (hupdate : ∀ f u, call = .updateOne f u → ∀ d, P d → P (u.apply d).2) (h : ∀ b ∈ c, ∀ d ∈ b.documents, P d) :
    ∀ a ∈ call.after ids c, ∀ d ∈ a.documents, P d := by
  intro a ha e he
  rcases documents_after ha with ⟨documents, before, hcall, hpre, -, heq⟩ | ⟨b, hb, hsub⟩ |
    ⟨b, hb, f, u, before, d, rest, hcall, hsplit, heq⟩
  · rw [heq] at he
    rcases List.mem_append.1 he with he | he
    · cases c with
      | none => cases he
      | some b => exact h b rfl e he
    · obtain ⟨entry, hentry, rfl⟩ := List.mem_map.1 he
      obtain ⟨d, hd, supply, rfl⟩ := mem_identified (hpre.subset hentry)
      exact hinsert documents hcall d hd supply
  · exact h b hb e (hsub.subset he)
  · have hold : ∀ o ∈ before ++ d :: rest, P o := hsplit ▸ h b hb
    rw [heq, List.mem_append, List.mem_cons] at he
    rcases he with he | rfl | he
    · exact hold e (List.mem_append_left _ he)
    · exact hupdate f u hcall d (hold d (by simp))
    · exact hold e (by simp [he])

end Memory

namespace Collection

open Memory

/-- The identifiers of a new collection are distinct. -/
theorem identified_getD {c : Option Collection} (h : ∀ a ∈ c, a.Identified) : (c.getD Collection.empty).Identified := by
  cases c with
  | none => exact ⟨by simp [Collection.empty, idsOf], List.Pairwise.nil⟩
  | some a => exact h a rfl

/-- Every call that inserts documents without repeated names, if any, keeps documents regular. -/
theorem regular_after (call : Call) (ids : IdSource) (c : Option Collection) (hcall : call.InsertsNames)
    (h : ∀ a ∈ c, ∀ d ∈ a.documents, d.Regular) : ∀ a ∈ call.after ids c, ∀ d ∈ a.documents, d.Regular := by
  refine forall_mem_after ?_ (fun f u _ d hd => regular_apply hd u) h
  rintro documents rfl d hd supply
  exact regular_identify (hcall d hd) supply

/-- Every call that inserts well-formed documents, if any, and is no update of the field of identifiers keeps the identifiers of a
collection distinct. -/
theorem identified_after (call : Call) (ids : IdSource) (c : Option Collection)
    (hcall : call.InsertsWellFormed ∧ call.KeepsIds) (h : ∀ a ∈ c, a.Identified) : ∀ a ∈ call.after ids c, a.Identified := by
  intro a ha
  rcases documents_after ha with ⟨documents, before, rfl, hpre, hfit, heq⟩ | ⟨b, hb, hsub⟩ |
    ⟨b, hb, f, u, before, d, rest, rfl, hsplit, heq⟩
  · have hold := identified_getD h
    have hids : idsOf a.documents = idsOf (c.getD Collection.empty).documents ++ before.map Prod.fst := by
      rw [heq, idsOf, List.filterMap_append]
      exact congrArg _ (idsOf_map_snd (fun entry hentry => get?_of_mem_identified (hpre.subset hentry)))
    constructor
    · intro id hid
      rcases List.mem_append.1 (hids ▸ hid) with hid | hid
      · exact hold.wellFormed id hid
      · obtain ⟨entry, hentry, rfl⟩ := List.mem_map.1 hid
        obtain ⟨d, hd, supply, rfl⟩ := mem_identified (hpre.subset hentry)
        exact wellFormed_identify (hcall.1 d hd) supply
    · rw [hids, List.pairwise_append]
      refine ⟨hold.distinct, List.pairwise_map.2 hfit.2, fun v hv w hw => ?_⟩
      obtain ⟨entry, hentry, rfl⟩ := List.mem_map.1 hw
      obtain ⟨d, hd, hdv⟩ := List.mem_filterMap.1 hv
      -- had the document been found to have the identifier, it would be taken
      rw [Bool.eq_false_iff]
      exact fun hs => Bool.eq_false_iff.1 (hfit.1 entry hentry) (isTaken_iff.2 ⟨d, hd, v, hdv, hs⟩)
  · have hids := hsub.filterMap (fun d => d.get? "_id")
    exact ⟨fun id hid => (h b hb).wellFormed id (hids.subset hid), (h b hb).distinct.sublist hids⟩
  · have hids : idsOf a.documents = idsOf b.documents := by
      simp only [idsOf, heq, hsplit, List.filterMap_append, List.filterMap_cons, get?_id_apply hcall.2 d]
    exact ⟨hids ▸ (h b hb).wellFormed, hids ▸ (h b hb).distinct⟩

end Collection

namespace Memory


/-- After every run from an empty store that keeps identifiers no two identifiers of a collection are the same. -/
theorem identified_run {ops : List Operation} (h : ∀ op ∈ ops, op.call.InsertsWellFormed ∧ op.call.KeepsIds) (ids : IdSource) :
    ∀ ns, ∀ c ∈ (run ops (empty ids)).collection? ns, c.Identified :=
  forall_collection?_run Collection.identified_after h (fun _ _ ha => nomatch ha)

/-- What holds of every collection holds of its documents. -/
theorem forall_documents {m : Memory} {P : List Document → Prop} (hnil : P [])
    (h : ∀ ns, ∀ c ∈ m.collection? ns, P c.documents) (ns : Namespace) : P (m.documents ns) := by
  cases hc : m.collection? ns with
  | none => exact documents_of_none hc ▸ hnil
  | some c => exact documents_of_collection? hc ▸ h ns c hc

/-- After every run from an empty store every document is regular, if the inserted documents repeat no name. -/
theorem regular_run {ops : List Operation} (h : ∀ op ∈ ops, op.call.InsertsNames) (ids : IdSource) (ns : Namespace) :
    ∀ d ∈ (run ops (empty ids)).documents ns, d.Regular :=
  forall_documents (P := fun documents => ∀ d ∈ documents, d.Regular) (by simp)
    (forall_collection?_run Collection.regular_after h (fun _ _ ha => by cases ha)) ns

/-! ## The snapshot -/

/-- A snapshot lists a collection exactly if it exists, with the documents that are found in it. -/
theorem mem_snapshot_iff {m : Memory} {ns : Namespace} {documents : List Document} :
    (ns, documents) ∈ m.snapshot ↔ (m.collection? ns).isSome = true ∧ (findAll ns m).result = .ok documents := by
  simp only [snapshot, findAll, List.mem_map, Prod.mk.injEq, Except.ok.injEq, Option.isSome_iff_exists]
  constructor
  · rintro ⟨⟨other, c⟩, hmem, rfl, rfl⟩
    have hc : m.collection? other = some c := Catalog.mem_entries_iff.1 hmem
    exact ⟨⟨c, hc⟩, documents_of_collection? hc⟩
  · rintro ⟨⟨c, hc⟩, rfl⟩
    exact ⟨(ns, c), Catalog.mem_entries_iff.2 hc, rfl, (documents_of_collection? hc).symm⟩

/-- The addresses of a snapshot are in ascending order. -/
theorem ascending_snapshot (m : Memory) : (m.snapshot.map Prod.fst).Pairwise (· < ·) := by
  simp only [snapshot, List.map_map, List.pairwise_map]
  exact m.catalog.ascending

/-! ## What holds of every store that is reached -/

/-- Whether no identifier of one document is the same as that of another one. -/
def IdsDiffer (d e : Document) : Prop :=
  ∀ v w, d.get? "_id" = some v → e.get? "_id" = some w → v.same w = false ∧ w.same v = false

/-- Every document has an identifier, which differs from those of all others in its collection, and repeats no name; a snapshot
lists each collection once, with its documents, in the order of the bytes of addresses. -/
structure Sound (m : Memory) : Prop where
  hasId : ∀ ns, ∀ d ∈ m.documents ns, d.has "_id" = true
  distinct : ∀ ns, (m.documents ns).Pairwise IdsDiffer
  names : ∀ ns, ∀ d ∈ m.documents ns, d.names.Nodup
  listed : ∀ ns documents,
    (ns, documents) ∈ m.snapshot ↔ (m.collection? ns).isSome = true ∧ (findAll ns m).result = .ok documents
  once : (m.snapshot.map Prod.fst).Nodup
  ascending : (m.snapshot.map Prod.fst).Pairwise Namespace.BytesBefore

/-- Well-formed identifiers that differ from all later ones differ from all others, because equality is symmetric. -/
theorem idsDiffer_of_identified {c : Collection} (h : c.Identified) : c.documents.Pairwise IdsDiffer := by
  refine (List.pairwise_filterMap.1 h.distinct).imp_of_mem (fun {d e} hd he hde v w hv hw => ?_)
  have hvw := hde v hv w hw
  refine ⟨hvw, ?_⟩
  have hwf : ∀ {d : Document} {x : Value}, d ∈ c.documents → d.get? "_id" = some x → x.WellFormed :=
    fun hmem hx => h.wellFormed _ (List.mem_filterMap.2 ⟨_, hmem, hx⟩)
  rw [Bool.eq_false_iff] at hvw ⊢
  exact fun hwv => hvw (Value.same_symm (hwf he hw) (hwf hd hv) hwv)

/-- Every store that is reached from an empty one by calls in any order is sound, if none of them inserts a document that repeats a
name or updates the field of identifiers. -/
theorem sound_run {ops : List Operation} (h : ∀ op ∈ ops, op.call.InsertsWellFormed ∧ op.call.KeepsIds) (ids : IdSource) :
    (run ops (empty ids)).Sound := by
  have hnames : ∀ op ∈ ops, op.call.InsertsNames := by
    intro op hop
    obtain ⟨ns, call⟩ := op
    cases call with
    | insertMany documents => exact fun d hd => ((h _ hop).1 d hd).1
    | _ => trivial
  have hregular := regular_run hnames ids
  have hascending := ascending_snapshot (run ops (empty ids))
  exact
    { hasId := fun ns d hd => (hregular ns d hd).hasId
      distinct := forall_documents List.Pairwise.nil (fun ns c hc => idsDiffer_of_identified (identified_run h ids ns c hc))
      names := fun ns d hd => (hregular ns d hd).names
      listed := fun _ _ => mem_snapshot_iff
      once := Namespace.nodup_of_ascending hascending
      ascending := hascending.imp Namespace.bytesBefore_of_lt }

/-- A run on two collections whose addresses read alike: an insertion that stops at its third document after the second one was
given an identifier, an insertion into the other collection, an update and a deletion. -/
def alike : List Operation :=
  [⟨⟨"a.b", "c"⟩, .insertMany [[("_id", .int32 1)], [("x", .double ⟨0⟩)], [("_id", .int32 1), ("x", .null)]]⟩,
    ⟨⟨"a", "b.c"⟩, .insertMany [[("_id", .int32 1)], [("_id", .int64 1)]]⟩,
    ⟨⟨"a.b", "c"⟩, .updateOne (.fieldEquals "_id" (.int32 1)) ⟨"x", .string "y"⟩⟩,
    ⟨⟨"a", "b.c"⟩, .deleteOne .all⟩]

theorem sound_run_alike :
    (∀ op ∈ alike, op.call.InsertsWellFormed ∧ op.call.KeepsIds) ∧ (run alike (empty ⟨7⟩)).Sound ∧
      ((run alike (empty ⟨7⟩)).documents ⟨"a.b", "c"⟩).length = 2 := by
  have h : ∀ op ∈ alike, op.call.InsertsWellFormed ∧ op.call.KeepsIds := by
    simp [alike, Call.InsertsWellFormed, Call.KeepsIds, Document.WellFormed, Document.names, wellFormedFields, Value.WellFormed]
  exact ⟨h, sound_run h ⟨7⟩, rfl⟩

end Memory

end Seedbed
