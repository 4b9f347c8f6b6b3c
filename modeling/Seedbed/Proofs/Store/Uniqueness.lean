import Seedbed.Fixture.Names
import Seedbed.Proofs.Store.Reachable
import Seedbed.Proofs.Store.Update

/-!
# Updates of identifiers

An insertion compares each identifier with those that are there, an update does not: it sets the field of identifiers like any other
one. So an update of a store in which no two identifiers of a collection are the same leaves such a store exactly if it does not give
the first document that it selects the identifier of another one (`distinct_updateOne_iff`), and there is one that does
(`not_distinct_updateOne_taken`).
-/

namespace Seedbed.Memory

variable {m : Memory} {ns : Namespace} {f : Filter} {u : FieldUpdate} {before : List Document} {d e : Document} {rest : List Document}

/-- Whether in no collection two documents have identifiers that are the same. -/
def Distinct (m : Memory) : Prop := ∀ ns, (m.documents ns).Pairwise IdsDiffer

/-- Whether an update gives the first document that it selects an identifier, other than it has, that another document of the
collection has. -/
def Duplicates (m : Memory) (ns : Namespace) (f : Filter) (u : FieldUpdate) : Prop :=
  ∃ before d rest, FirstSelected f (m.documents ns) before d rest ∧ u.field = "_id" ∧ u.isHeld d = false ∧
    ∃ e ∈ before ++ rest, ∃ id, e.get? "_id" = some id ∧ (id.same u.value = true ∨ u.value.same id = true)

/-- An update that selects no document gives none an identifier. -/
theorem not_duplicates_of_none (h : ∀ d ∈ m.documents ns, f.selects d = false) : ¬m.Duplicates ns f u := by
  rintro ⟨before, d, rest, hfirst, -⟩
  have hselected := hfirst.selected
  rw [h d hfirst.mem] at hselected
  cases hselected

theorem duplicates_iff (h : FirstSelected f (m.documents ns) before d rest) :
    m.Duplicates ns f u ↔ u.field = "_id" ∧ u.isHeld d = false ∧
      ∃ e ∈ before ++ rest, ∃ id, e.get? "_id" = some id ∧ (id.same u.value = true ∨ u.value.same id = true) := by
  constructor
  · rintro ⟨before', d', rest', h', htaken⟩
    obtain ⟨rfl, rfl, rfl⟩ := h.unique h'
    exact htaken
  · intro htaken
    exact ⟨before, d, rest, h, htaken⟩

theorem IdsDiffer.symm (h : IdsDiffer d e) : IdsDiffer e d := by
  intro v w hv hw
  exact (h w v hw hv).symm

/-- Of documents whose identifiers differ one can be replaced by a document whose identifier differs from those of all others. -/
theorem pairwise_replace_iff (h : (before ++ d :: rest).Pairwise IdsDiffer) :
    (before ++ e :: rest).Pairwise IdsDiffer ↔ ∀ other ∈ before ++ rest, IdsDiffer e other := by
  rw [List.pairwise_middle IdsDiffer.symm, List.pairwise_cons] at h ⊢
  exact and_iff_left h.2

/-- A document whose identifier is set differs in it from another one exactly if that one has no identifier that is the same. -/
theorem idsDiffer_set_iff (d : Document) (id : Value) (other : Document) :
    IdsDiffer (d.set "_id" id) other ↔ ¬∃ w, other.get? "_id" = some w ∧ (w.same id = true ∨ id.same w = true) := by
  rw [IdsDiffer, Document.get?_set_self]
  constructor
  · rintro h ⟨w, hw, hsame⟩
    obtain ⟨hid, hother⟩ := h id w rfl hw
    rcases hsame with hsame | hsame
    · rw [hother] at hsame
      cases hsame
    · rw [hid] at hsame
      cases hsame
  · intro h v w hv hw
    cases hv
    constructor
    · exact Bool.eq_false_iff.2 (fun hsame => h ⟨w, hw, .inr hsame⟩)
    · exact Bool.eq_false_iff.2 (fun hsame => h ⟨w, hw, .inl hsame⟩)

/-- Where the documents of one collection alone are others, identifiers are distinct exactly if those of that collection are. -/
theorem distinct_iff_of_frame {n : Memory} (h : m.Distinct) (hframe : Frame ns m n) :
    n.Distinct ↔ (n.documents ns).Pairwise IdsDiffer := by
  constructor
  · intro hn
    exact hn ns
  · intro hn other
    by_cases hother : other = ns
    · rw [hother]
      exact hn
    · rw [documents, hframe.others other hother]
      exact h other

/-- An update of a store in which no two identifiers of a collection are the same leaves such a store exactly if it does not give the
first document that it selects an identifier that another one has. -/
theorem distinct_updateOne_iff (h : m.Distinct) (ns : Namespace) (f : Filter) (u : FieldUpdate) :
    (updateOne ns f u m).state.Distinct ↔ ¬m.Duplicates ns f u := by
  rcases none_or_firstSelected f (m.documents ns) with hnone | ⟨before, d, rest, hfirst⟩
  · rw [(leaves_updateOne_of_none hnone).state]
    exact iff_of_true h (not_duplicates_of_none hnone)
  rw [duplicates_iff hfirst]
  cases hheld : u.isHeld d with
  | true =>
    rw [(leaves_updateOne_of_isHeld hfirst hheld).state]
    exact iff_of_true h (fun htaken => Bool.false_ne_true htaken.2.1.symm)
  | false =>
    have hold := h ns
    rw [hfirst.split] at hold
    rw [(leaves_updateOne_of_not_isHeld hfirst hheld).state, distinct_iff_of_frame h (frame_refill m ns _),
      hfirst.documents_refill, pairwise_replace_iff hold]
    by_cases hfield : u.field = "_id"
    · rw [hfield]
      simp only [idsDiffer_set_iff, true_and, not_exists, not_and]
    · have hsame : ∀ other ∈ before ++ rest, IdsDiffer (d.set u.field u.value) other := by
        -- the identifier of the document is what it was
        intro other hother v w hv hw
        rw [Document.get?_set_of_ne hfield] at hv
        exact (pairwise_replace_iff hold).1 hold other hother v w hv hw
      exact iff_of_true hsame (fun htaken => hfield htaken.1)

/-! ## Two documents -/

/-- Every store that is reached from an empty one without an update of identifiers has distinct ones. -/
theorem distinct_run {ops : List Operation} (h : ∀ op ∈ ops, op.call.InsertsWellFormed ∧ op.call.KeepsIds) (ids : IdSource) :
    (run ops (empty ids)).Distinct := by
  refine forall_documents List.Pairwise.nil ?_
  intro ns c hc
  exact idsDiffer_of_identified (identified_run h ids ns c hc)

/-- An insertion of two documents. -/
def pairInsertion : Operation := ⟨Fixture.probes, .insertMany [[("_id", .int32 1)], [("_id", .int32 2)]]⟩

/-- The store with the two documents. -/
def pair : Memory := run [pairInsertion] (empty ⟨0⟩)

theorem distinct_pair : pair.Distinct := by
  refine distinct_run ?_ ⟨0⟩
  intro op hop
  rw [List.mem_singleton.1 hop]
  simp [pairInsertion, Call.InsertsWellFormed, Call.KeepsIds, Document.WellFormed, Document.names, wellFormedFields, Value.WellFormed]

/-- An update that gives the first of the two documents an identifier that is free keeps identifiers distinct. -/
theorem distinct_updateOne_free :
    pair.Distinct ∧ (updateOne Fixture.probes (.id 1) ⟨"_id", .int32 3⟩ pair).result = .ok ⟨1, 1⟩ ∧
      (updateOne Fixture.probes (.id 1) ⟨"_id", .int32 3⟩ pair).state.Distinct := by
  refine ⟨distinct_pair, rfl, (distinct_updateOne_iff distinct_pair _ _ _).2 ?_⟩
  rintro ⟨before, d, rest, hfirst, -, -, e, he, id, hid, hsame⟩
  have hmem : e ∈ pair.documents Fixture.probes := by
    rw [hfirst.split]
    exact (List.sublist_cons_self d rest).append_left before |>.subset he
  have hpair : pair.documents Fixture.probes = [[("_id", .int32 1)], [("_id", .int32 2)]] := rfl
  rw [hpair, List.mem_pair] at hmem
  rcases hmem with rfl | rfl
  · cases hid
    simp [Value.same] at hsame
  · cases hid
    simp [Value.same] at hsame

/-- An update that gives the first of the two documents the identifier of the second one succeeds, and both have it. -/
theorem not_distinct_updateOne_taken :
    pair.Distinct ∧ (updateOne Fixture.probes (.id 1) ⟨"_id", .int32 2⟩ pair).result = .ok ⟨1, 1⟩ ∧
      ¬(updateOne Fixture.probes (.id 1) ⟨"_id", .int32 2⟩ pair).state.Distinct := by
  refine ⟨distinct_pair, rfl, ?_⟩
  intro h
  have hboth : [[("_id", .int32 2)], [("_id", .int32 2)]].Pairwise IdsDiffer := h Fixture.probes
  have hdiffer := (List.pairwise_cons.1 hboth).1 _ (List.mem_singleton_self _) _ _ rfl rfl
  simp [Value.same] at hdiffer

end Seedbed.Memory
