import Seedbed.Proofs.Store.Catalog
import Seedbed.Proofs.Store.Insertion

/-!
# Operations on a store in memory

A call on a store, with its arguments and the address it is made for, is an operation. What it makes of the collection under its
address is `Call.after`, a function of that collection alone (and of the supply of identifiers); under every other address
everything stays as it is (`collection?_perform`). A run performs operations one after the other, whether or not they fail
(`Memory.run`); what every call preserves of a collection, a run preserves of all (`forall_collection?_run`).
-/

namespace Seedbed

/-- A call on a store, without the address it is made for. -/
inductive Call where
  | drop
  | insertMany (documents : List Document)
  | enableImages
  | updateOne (filter : Filter) (change : FieldUpdate)
  | deleteOne (filter : Filter)
  | deleteMany (filter : Filter)
  | findAll
  | imagesEnabled

/-- A call and the address it is made for. -/
structure Operation where
  address : Namespace
  call : Call

namespace Memory

/-! ## The store as a map -/

/-- The collection under an address, a new one if there is none. -/
def present (m : Memory) (ns : Namespace) : Collection := (m.collection? ns).getD Collection.empty

theorem collection?_put (m : Memory) (ns other : Namespace) (c : Collection) :
    (m.put ns c).collection? other = if ns = other then some c else m.collection? other :=
  m.catalog.get?_put ns other c

/-- Two stores with the same collections and the same supply are the same. -/
theorem ext_collection? {m m' : Memory} (h : ∀ ns, m.collection? ns = m'.collection? ns) (hids : m.ids = m'.ids) : m = m' := by
  obtain ⟨catalog, ids⟩ := m
  obtain ⟨catalog', ids'⟩ := m'
  have hcatalog : catalog = catalog' := Catalog.ext_get? h
  cases hcatalog
  cases hids
  rfl

/-- The documents of a collection that is there. -/
theorem documents_of_collection? {m : Memory} {ns : Namespace} {c : Collection} (h : m.collection? ns = some c) :
    m.documents ns = c.documents := by
  rw [documents, h]
  rfl

/-- A collection that does not exist has no documents. -/
theorem documents_of_none {m : Memory} {ns : Namespace} (h : m.collection? ns = none) : m.documents ns = [] := by
  rw [documents, h]
  rfl

/-! ## The first document that a filter selects -/

/-- Whether a document is the first one that a filter selects, with the documents before it and those after it. -/
structure FirstSelected (f : Filter) (documents before : List Document) (d : Document) (rest : List Document) : Prop where
  split : documents = before ++ d :: rest
  before : ∀ e ∈ before, f.selects e = false
  selected : f.selects d = true

section FirstSelected

variable {f : Filter} {u : FieldUpdate} {documents before : List Document} {d : Document} {rest : List Document}

/-- A filter selects no document, or there is a first one. -/
theorem none_or_firstSelected (f : Filter) (documents : List Document) :
    (∀ d ∈ documents, f.selects d = false) ∨ ∃ before d rest, FirstSelected f documents before d rest := by
  cases h : documents.find? f.selects with
  | none => exact .inl (by simpa using h)
  | some d =>
    obtain ⟨hd, before, rest, hsplit, hbefore⟩ := List.find?_eq_some_iff_append.1 h
    exact .inr ⟨before, d, rest, hsplit, by simpa using hbefore, hd⟩

/-- The document that is selected is among the others. -/
theorem FirstSelected.mem (h : FirstSelected f documents before d rest) : d ∈ documents := by
  rw [h.split]
  exact List.mem_append_right before List.mem_cons_self

/-- There is one first document only, at one place. -/
theorem FirstSelected.unique {before' : List Document} {d' : Document} {rest' : List Document}
    (h : FirstSelected f documents before d rest) (h' : FirstSelected f documents before' d' rest') :
    before = before' ∧ d = d' ∧ rest = rest' := by
  have hbefore : ∀ {before : List Document} {d : Document} {rest : List Document}, FirstSelected f documents before d rest →
      documents.takeWhile (fun e => !f.selects e) = before := by
    intro before d rest h
    rw [h.split, List.takeWhile_append_of_pos (by simpa using h.before), List.takeWhile_cons_of_neg (by simp [h.selected]),
      List.append_nil]
  obtain rfl : before = before' := (hbefore h).symm.trans (hbefore h')
  exact ⟨rfl, List.cons.inj (List.append_cancel_left (h.split.symm.trans h'.split))⟩

/-- The first document that is selected is updated among the others. -/
theorem FirstSelected.updateFirst (h : FirstSelected f documents before d rest) (u : FieldUpdate) :
    Memory.updateFirst f u documents = some ((u.apply d).1, before ++ (u.apply d).2 :: rest) := by
  obtain ⟨rfl, hbefore, hd⟩ := h
  induction before with
  | nil => rw [List.nil_append, Memory.updateFirst, if_pos hd, List.nil_append]
  | cons e before ih =>
    obtain ⟨he, hrest⟩ := List.forall_mem_cons.1 hbefore
    rw [List.cons_append, Memory.updateFirst, if_neg (by simp [he]), ih hrest]
    rfl

/-- The first document that is selected is taken out of the others. -/
theorem FirstSelected.deleteFirst (h : FirstSelected f documents before d rest) :
    Memory.deleteFirst f documents = some (before ++ rest) := by
  obtain ⟨rfl, hbefore, hd⟩ := h
  induction before with
  | nil => rw [List.nil_append, Memory.deleteFirst, if_pos hd, List.nil_append]
  | cons e before ih =>
    obtain ⟨he, hrest⟩ := List.forall_mem_cons.1 hbefore
    rw [List.cons_append, Memory.deleteFirst, if_neg (by simp [he]), ih hrest]
    rfl

/-- An update finds nothing to change exactly if no document is selected. -/
theorem updateFirst_eq_none_iff : updateFirst f u documents = none ↔ ∀ d ∈ documents, f.selects d = false := by
  induction documents with
  | nil => simp [updateFirst]
  | cons d rest ih => cases hs : f.selects d <;> simp [updateFirst, hs, ih]

/-- A deletion finds nothing to take out exactly if no document is selected. -/
theorem deleteFirst_eq_none_iff : deleteFirst f documents = none ↔ ∀ d ∈ documents, f.selects d = false := by
  induction documents with
  | nil => simp [deleteFirst]
  | cons d rest ih => cases hs : f.selects d <;> simp [deleteFirst, hs, ih]

/-- An update changes the first document that is selected and no other one. -/
theorem updateFirst_eq_some {after : List Document} {changed : Bool} (h : updateFirst f u documents = some (changed, after)) :
    ∃ before d rest, FirstSelected f documents before d rest ∧ changed = (u.apply d).1 ∧ after = before ++ (u.apply d).2 :: rest := by
  rcases none_or_firstSelected f documents with hnone | ⟨before, d, rest, hfirst⟩
  · rw [updateFirst_eq_none_iff.2 hnone] at h
    cases h
  · rw [hfirst.updateFirst u] at h
    cases h
    exact ⟨before, d, rest, hfirst, rfl, rfl⟩

/-- A deletion takes the first document that is selected out and no other one. -/
theorem deleteFirst_eq_some {after : List Document} (h : deleteFirst f documents = some after) :
    ∃ before d rest, FirstSelected f documents before d rest ∧ after = before ++ rest := by
  rcases none_or_firstSelected f documents with hnone | ⟨before, d, rest, hfirst⟩
  · rw [deleteFirst_eq_none_iff.2 hnone] at h
    cases h
  · rw [hfirst.deleteFirst] at h
    cases h
    exact ⟨before, d, rest, hfirst, rfl⟩

end FirstSelected

end Memory

/-! ## Operations -/

/-- What a call makes of a collection, which may not exist before or after it. -/
def Call.after (ids : IdSource) : Call → Option Collection → Option Collection
  | .drop, _ => none
  | .insertMany documents, c =>
    let present := c.getD Collection.empty
    some { present with documents := (Memory.insertEach documents present.documents ids).2.1 }
  | .enableImages, c => c.map (fun c => { c with images := true })
  | .updateOne f u, c =>
    c.map (fun c => { c with documents := ((Memory.updateFirst f u c.documents).map Prod.snd).getD c.documents })
  | .deleteOne f, c => c.map (fun c => { c with documents := (Memory.deleteFirst f c.documents).getD c.documents })
  | .deleteMany f, c => c.map (fun c => { c with documents := c.documents.filter (fun d => !f.selects d) })
  | .findAll, c => c
  | .imagesEnabled, c => c

/-- The store after a call for an address, whether or not it fails. -/
def Call.perform (ns : Namespace) : Call → Memory → Memory
  | .drop, m => (Memory.drop ns m).state
  | .insertMany documents, m => (Memory.insertMany ns documents m).state
  | .enableImages, m => (Memory.enableImages ns m).state
  | .updateOne f u, m => (Memory.updateOne ns f u m).state
  | .deleteOne f, m => (Memory.deleteOne ns f m).state
  | .deleteMany f, m => (Memory.deleteMany ns f m).state
  | .findAll, m => (Memory.findAll ns m).state
  | .imagesEnabled, m => (Memory.imagesEnabled ns m).state

namespace Memory

/-- The store after operations performed one after the other. -/
def run (ops : List Operation) (m : Memory) : Memory := ops.foldl (fun m op => op.call.perform op.address m) m

theorem state_insertMany (ns : Namespace) (documents : List Document) (m : Memory) :
    (insertMany ns documents m).state =
      { m.put ns { m.present ns with documents := (insertEach documents (m.present ns).documents m.ids).2.1 } with
        ids := (insertEach documents (m.present ns).documents m.ids).2.2 } := by
  unfold insertMany present
  cases h : insertEach documents ((m.collection? ns).getD Collection.empty).documents m.ids with
  | mk taken rest => cases taken <;> simp [h, put]

/-- A call makes of the collection under its address what `Call.after` says, and leaves every other one as it is. -/
theorem collection?_perform (ns : Namespace) (call : Call) (m : Memory) (other : Namespace) :
    (call.perform ns m).collection? other =
      if ns = other then call.after m.ids (m.collection? ns) else m.collection? other := by
  have unchanged : m.collection? other = if ns = other then m.collection? ns else m.collection? other := by
    split
    · next e => rw [e]
    · rfl
  cases call with
  | drop => exact m.catalog.get?_erase ns other
  | insertMany documents =>
    rw [Call.perform, state_insertMany]
    exact collection?_put m ns other _
  | enableImages =>
    simp only [Call.perform, enableImages, Call.after]
    cases h : m.collection? ns with
    | none => simpa [h] using unchanged
    | some c => exact collection?_put m ns other _
  | updateOne f u =>
    simp only [Call.perform, updateOne, Call.after]
    cases h : m.collection? ns with
    | none => simpa [h] using unchanged
    | some c =>
      cases hu : updateFirst f u c.documents with
      | none => simpa [h, hu] using unchanged
      | some changed => simpa [hu] using collection?_put m ns other _
  | deleteOne f =>
    simp only [Call.perform, deleteOne, Call.after]
    cases h : m.collection? ns with
    | none => simpa [h] using unchanged
    | some c =>
      cases hd : deleteFirst f c.documents with
      | none => simpa [h, hd] using unchanged
      | some after => simpa [hd] using collection?_put m ns other _
  | deleteMany f =>
    simp only [Call.perform, deleteMany, Call.after]
    cases h : m.collection? ns with
    | none => simpa [h] using unchanged
    | some c => exact collection?_put m ns other _
  | findAll => exact unchanged
  | imagesEnabled => exact unchanged

/-- What holds of every collection, and is preserved by every call of a kind, holds of every collection after a run of such calls. -/
theorem forall_collection?_run {P : Collection → Prop} {kind : Call → Prop}
    (step : ∀ (call : Call) (ids : IdSource) (c : Option Collection), kind call → (∀ a ∈ c, P a) → ∀ a ∈ call.after ids c, P a)
    {ops : List Operation} (hops : ∀ op ∈ ops, kind op.call) {m : Memory} (hm : ∀ ns, ∀ a ∈ m.collection? ns, P a) :
    ∀ ns, ∀ a ∈ (run ops m).collection? ns, P a := by
  induction ops generalizing m with
  | nil => exact hm
  | cons op ops ih =>
    refine ih (fun o ho => hops o (List.mem_cons_of_mem _ ho)) (fun ns a ha => ?_)
    rw [collection?_perform] at ha
    split at ha
    · exact step op.call m.ids _ (hops op List.mem_cons_self) (hm op.address) a ha
    · exact hm ns a ha

/-! ## Histories -/

theorem run_append_singleton (ops : List Operation) (op : Operation) (m : Memory) :
    run (ops ++ [op]) m = op.call.perform op.address (run ops m) := by
  rw [run, run, List.foldl_append, List.foldl_cons, List.foldl_nil]

/-- Whether a run makes a call of a kind on a collection and does not drop the collection after that. The kind may depend on what was
done before the call. -/
def Since (ns : Namespace) (kind : List Operation → Call → Prop) (ops : List Operation) : Prop :=
  ∃ before call after, ops = before ++ ⟨ns, call⟩ :: after ∧ kind before call ∧ ∀ op ∈ after, op ≠ ⟨ns, .drop⟩

/-- A run that is longer by one operation makes the call with that operation, or has made it before and does not drop the collection. -/
theorem since_append_singleton {ns : Namespace} {kind : List Operation → Call → Prop} {ops : List Operation} {op : Operation} :
    Since ns kind (ops ++ [op]) ↔ (op.address = ns ∧ kind ops op.call) ∨ (Since ns kind ops ∧ op ≠ ⟨ns, .drop⟩) := by
  constructor
  · rintro ⟨before, call, after, hsplit, hkind, hkept⟩
    rcases List.eq_nil_or_concat' after with rfl | ⟨more, last, rfl⟩
    · obtain ⟨rfl, hop⟩ := List.append_inj' hsplit rfl
      obtain rfl := List.singleton_inj.1 hop
      exact .inl ⟨rfl, hkind⟩
    · rw [← List.cons_append, ← List.append_assoc] at hsplit
      obtain ⟨rfl, hop⟩ := List.append_inj' hsplit rfl
      obtain rfl := List.singleton_inj.1 hop
      refine .inr ⟨⟨before, call, more, rfl, hkind, fun o ho => hkept o (List.mem_append_left _ ho)⟩, ?_⟩
      exact hkept op (List.mem_append_right _ (List.mem_singleton_self op))
  · rintro (⟨rfl, hkind⟩ | ⟨⟨before, call, after, rfl, hkind, hkept⟩, hop⟩)
    · exact ⟨ops, op.call, [], rfl, hkind, by simp⟩
    · refine ⟨before, call, after ++ [op], by simp, hkind, fun o ho => ?_⟩
      rcases List.mem_append.1 ho with ho | ho
      · exact hkept o ho
      · rw [List.mem_singleton.1 ho]
        exact hop

theorem not_since_nil {ns : Namespace} {kind : List Operation → Call → Prop} : ¬Since ns kind [] := by
  rintro ⟨before, call, after, hsplit, -, -⟩
  simp at hsplit

end Memory

end Seedbed
