import Seedbed.Proofs.Store.Calls

/-!
# How many documents a store holds

The documents of all collections are counted together. Taking a collection away takes its documents and no other one (`size_erase`),
so putting one in the place of another changes the number by the difference of the two (`size_put`). With that, each call that
succeeds changes the number by what it reports, and a drop by the documents of the dropped collection.
-/

namespace Seedbed.Memory

variable {m n : Memory} {ns : Namespace} {c : Collection} {f : Filter}

/-- How many documents a store holds, in all collections together. -/
def size (m : Memory) : Nat := m.snapshot.foldr (fun entry n => entry.2.length + n) 0

/-! ## Collections that are taken away or put -/

/-- Among entries in ascending order the one under an address is what leaving that address out takes away: no other one has it. -/
theorem foldr_filter_lookup (ns : Namespace) :
    ∀ {entries : List (Namespace × Collection)}, entries.Pairwise (fun a b => a.1 < b.1) →
    (entries.filter (fun entry => entry.1 ≠ ns)).foldr (fun entry n => entry.2.documents.length + n) 0 +
        (((Catalog.lookup ns entries).map Collection.documents).getD []).length =
      entries.foldr (fun entry n => entry.2.documents.length + n) 0
  | [], _ => rfl
  | (address, c) :: rest, h => by
    obtain ⟨hleast, hrest⟩ := List.pairwise_cons.1 h
    by_cases haddress : address = ns
    · subst haddress
      have hothers : rest.filter (fun entry => entry.1 ≠ address) = rest := by
        refine List.filter_eq_self.2 (fun entry hentry => decide_eq_true ?_)
        intro heq
        exact Namespace.lt_irrefl address (heq ▸ hleast entry hentry)
      rw [List.filter_cons_of_neg (by simp), hothers, Catalog.lookup, if_pos rfl, List.foldr_cons]
      exact Nat.add_comm _ _
    · have ih := foldr_filter_lookup ns hrest
      rw [List.filter_cons_of_pos (by simpa using haddress), Catalog.lookup, if_neg haddress, List.foldr_cons, List.foldr_cons,
        Nat.add_assoc, ih]

theorem size_eq (m : Memory) : m.size = m.catalog.entries.foldr (fun entry n => entry.2.documents.length + n) 0 := by
  rw [size, snapshot, List.foldr_map]

/-- Without a collection a store holds fewer documents by those of the collection. -/
theorem size_erase (m : Memory) (ns : Namespace) : (m.erase ns).size + (m.documents ns).length = m.size := by
  rw [size_eq, size_eq]
  exact foldr_filter_lookup ns m.catalog.ascending

theorem erase_put (m : Memory) (ns : Namespace) (c : Collection) : (m.put ns c).erase ns = m.erase ns := by
  refine ext_collection? (fun other => ?_) rfl
  simp only [collection?_erase, collection?_put]
  split <;> rfl

/-- A collection that is put brings its documents, and takes those of the one in whose place it comes. -/
theorem size_put (m : Memory) (ns : Namespace) (c : Collection) :
    (m.put ns c).size + (m.documents ns).length = m.size + c.documents.length := by
  have hput := size_erase (m.put ns c) ns
  rw [erase_put, documents_of_collection? (collection?_put_self m ns c)] at hput
  rw [← hput, ← size_erase m ns]
  omega

/-- Other documents in a collection take the place of those that it had. -/
theorem size_refill {documents : List Document} (h : (m.refill ns documents).documents ns = documents) :
    (m.refill ns documents).size + (m.documents ns).length = m.size + documents.length := by
  cases hc : m.collection? ns with
  | none =>
    rw [refill_of_none hc] at h ⊢
    rw [h]
  | some c =>
    rw [refill_of_collection? hc]
    exact size_put m ns _

/-! ## Calls that succeed -/

theorem size_drop (h : (drop ns).Leaves m (.ok ()) n) : n.size + (m.documents ns).length = m.size := by
  rw [← h.state]
  exact size_erase m ns

/-- An insertion brings as many documents as it reports. -/
theorem size_insertMany {documents : List Document} {count : Nat} (h : (insertMany ns documents).Leaves m (.ok count) n) :
    n.size = m.size + count := by
  rcases fits_or_clashes (m.documents ns) (identified m.ids documents) with hfits | ⟨before, ⟨id, d⟩, rest, hsplit, hf, hc⟩
  · obtain ⟨hcount, hn⟩ := (leaves_insertMany hfits).unique h
    have hput := size_put m ns { m.present ns with documents := m.documents ns ++ (identified m.ids documents).map Prod.snd }
    rw [List.length_append, List.length_map, length_identified, ← Nat.add_assoc, Nat.add_right_comm] at hput
    cases hcount
    rw [← hn]
    exact Nat.add_right_cancel hput
  · -- an identifier that is taken makes the insertion fail
    obtain ⟨hfails, -⟩ := (leaves_insertMany_of_clashes hsplit hf hc).unique h
    cases hfails

theorem size_enableImages (h : (enableImages ns).Leaves m (.ok ()) n) : n.size = m.size := by
  cases hc : m.collection? ns with
  | none => cases ((leaves_enableImages_of_none hc).unique h).1
  | some c =>
    have hput := size_put m ns { c with images := true }
    rw [documents_of_collection? hc] at hput
    rw [← ((leaves_enableImages hc).unique h).2]
    exact Nat.add_right_cancel hput

/-- An update keeps the number of documents and modifies one at most. -/
theorem size_updateOne {u : FieldUpdate} {outcome : UpdateOutcome} (h : (updateOne ns f u).Leaves m (.ok outcome) n) :
    n.size = m.size ∧ outcome.modified ≤ 1 := by
  rcases none_or_firstSelected f (m.documents ns) with hnone | ⟨before, d, rest, hfirst⟩
  · obtain ⟨houtcome, hn⟩ := (leaves_updateOne_of_none hnone).unique h
    cases houtcome
    exact ⟨congrArg size hn.symm, Nat.zero_le 1⟩
  · obtain ⟨houtcome, hn⟩ := (leaves_updateOne_first hfirst u).unique h
    have hsize := size_refill (hfirst.documents_refill (before ++ (u.apply d).2 :: rest))
    have hlength := congrArg List.length hfirst.split
    rw [List.length_append, List.length_cons] at hlength hsize
    cases houtcome
    refine ⟨?_, ?_⟩
    · rw [← hn]
      omega
    · cases (u.apply d).1 <;> decide

/-- A deletion of one document takes as many documents as it reports, which is one or none. -/
theorem size_deleteOne {count : Nat} (h : (deleteOne ns f).Leaves m (.ok count) n) : n.size + count = m.size := by
  rcases none_or_firstSelected f (m.documents ns) with hnone | ⟨before, d, rest, hfirst⟩
  · obtain ⟨hcount, hn⟩ := (leaves_deleteOne_of_none hnone).unique h
    cases hcount
    exact congrArg size hn.symm
  · obtain ⟨hcount, hn⟩ := (leaves_deleteOne_first hfirst).unique h
    have hsize := size_refill (hfirst.documents_refill (before ++ rest))
    have hlength := congrArg List.length hfirst.split
    rw [List.length_append, List.length_cons] at hlength
    rw [List.length_append] at hsize
    cases hcount
    rw [← hn]
    omega

/-- A deletion takes as many documents as it reports. -/
theorem size_deleteMany {count : Nat} (h : (deleteMany ns f).Leaves m (.ok count) n) : n.size + count = m.size := by
  obtain ⟨hcount, hn⟩ := (leaves_deleteMany_filter m ns f).unique h
  have hsize := size_refill (documents_refill_filter m ns (fun d => !f.selects d))
  have hlength := length_filter_add_countP f (m.documents ns)
  cases hcount
  rw [← hn]
  omega

end Seedbed.Memory
