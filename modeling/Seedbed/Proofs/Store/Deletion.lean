import Seedbed.Proofs.Store.Calls

/-!
# Deletions, one by one and all at once

A deletion of many documents leaves those that the filter does not select, a deletion of one takes the first one that it selects
out. To repeat the second call until it reports that nothing was deleted (`DeletesInTurn`) is the same as to make the first one once:
each round takes one of the selected documents and none of the others, so that the number of the selected ones counts the rounds that
are left (`deletesInTurn_filter`, `deletesInTurn_iff`). `deletions_agree` says this together with what each of the two calls leaves.
-/

namespace Seedbed.Memory

variable {m n p : Memory} {ns : Namespace} {f : Filter}

/-! ## One call after the other -/

/-- Deletions of one document, repeated until one of them reports that nothing was deleted, with the number of those that deleted
something. -/
inductive DeletesInTurn (ns : Namespace) (f : Filter) : Memory → Nat → Memory → Prop
  | stop {m n : Memory} (last : (deleteOne ns f).Leaves m (.ok 0) n) : DeletesInTurn ns f m 0 n
  | again {m n p : Memory} {count k : Nat} (first : (deleteOne ns f).Leaves m (.ok count) n) (hcount : count ≠ 0)
      (others : DeletesInTurn ns f n k p) : DeletesInTurn ns f m (k + 1) p

/-- Such deletions end in one way only. -/
theorem DeletesInTurn.unique {k l : Nat} (h : DeletesInTurn ns f m k n) (h' : DeletesInTurn ns f m l p) : k = l ∧ n = p := by
  induction h generalizing l with
  | stop last =>
    cases h' with
    | stop last' => exact ⟨rfl, (last.unique last').2⟩
    | again first' hcount' _ =>
      cases (last.unique first').1
      exact absurd rfl hcount'
  | again first hcount _ ih =>
    cases h' with
    | stop last' =>
      cases (first.unique last').1
      exact absurd rfl hcount
    | again first' _ others' =>
      obtain ⟨-, rfl⟩ := first.unique first'
      obtain ⟨rfl, rfl⟩ := ih others'
      exact ⟨rfl, rfl⟩

/-- They end with the documents that are not selected, after as many deletions as there are selected ones. -/
theorem deletesInTurn_filter (m : Memory) (ns : Namespace) (f : Filter) :
    DeletesInTurn ns f m ((m.documents ns).countP f.selects) (m.refill ns ((m.documents ns).filter (fun d => !f.selects d))) := by
  generalize hk : (m.documents ns).countP f.selects = k
  induction k generalizing m with
  | zero =>
    have hnone : ∀ d ∈ m.documents ns, f.selects d = false := by simpa using hk
    have hkept : (m.documents ns).filter (fun d => !f.selects d) = m.documents ns := by simpa using hnone
    rw [hkept, refill_documents]
    exact .stop (leaves_deleteOne_of_none hnone)
  | succ k ih =>
    rcases none_or_firstSelected f (m.documents ns) with hnone | ⟨before, d, rest, hfirst⟩
    · rw [List.countP_eq_zero.2 (by simpa using hnone)] at hk
      cases hk
    · -- what is left after the first deletion is filtered as all of it was
      have hleft := hfirst.documents_refill (before ++ rest)
      have hcount : (before ++ rest).countP f.selects = k := by
        rw [hfirst.split, List.countP_append, List.countP_cons_of_pos hfirst.selected, ← Nat.add_assoc] at hk
        rw [List.countP_append]
        exact Nat.succ.inj hk
      have hfilter : (m.documents ns).filter (fun d => !f.selects d) = (before ++ rest).filter (fun d => !f.selects d) := by
        rw [hfirst.split, List.filter_append, List.filter_cons_of_neg (by simp [hfirst.selected]), List.filter_append]
      have hothers := ih (m.refill ns (before ++ rest)) (by rw [hleft, hcount])
      rw [hleft, refill_refill, ← hfilter] at hothers
      exact .again (leaves_deleteOne_first hfirst) Nat.one_ne_zero hothers

/-- They do what a deletion of many documents does, and report as many. -/
theorem deletesInTurn_iff {k : Nat} : DeletesInTurn ns f m k n ↔ (deleteMany ns f).Leaves m (.ok k) n := by
  have hinturn := deletesInTurn_filter m ns f
  have hmany := leaves_deleteMany_filter m ns f
  constructor
  · intro h
    obtain ⟨rfl, rfl⟩ := h.unique hinturn
    exact hmany
  · intro h
    obtain ⟨hk, rfl⟩ := h.unique hmany
    cases hk
    exact hinturn

/-! ## What deletions leave -/

/-- A deletion of many documents finds nothing more when it is made again. -/
theorem leaves_deleteMany_again {k : Nat} (h : (deleteMany ns f).Leaves m (.ok k) n) : (deleteMany ns f).Leaves n (.ok 0) n := by
  obtain ⟨-, rfl⟩ := h.unique (leaves_deleteMany_filter m ns f)
  have hagain := leaves_deleteMany_filter (m.refill ns ((m.documents ns).filter (fun d => !f.selects d))) ns f
  rw [documents_refill_filter, refill_refill, List.filter_filter] at hagain
  simpa [List.countP_filter] using hagain

/-- A deletion of many documents reports how many were selected, leaves the others in their order, and finds nothing more when it is
made again; a deletion of one takes the first one that is selected, or changes nothing and reports none; both leave the collection, if
it exists, with its images, and all others as they were. Deletions of one document until nothing is deleted are as many as a deletion
of many reports, and leave the same store. -/
theorem deletions_agree (m : Memory) (ns : Namespace) (f : Filter) :
    (∃ n, (deleteMany ns f).Leaves m (.ok ((m.documents ns).countP f.selects)) n ∧
        n.documents ns = (m.documents ns).filter (fun d => !f.selects d) ∧
        (n.collection? ns).isSome = (m.collection? ns).isSome ∧ Frame ns m n ∧ (deleteMany ns f).Leaves n (.ok 0) n) ∧
      (((∀ d ∈ m.documents ns, f.selects d = false) ∧ (deleteOne ns f).Leaves m (.ok 0) m) ∨
        ∃ before d rest n, FirstSelected f (m.documents ns) before d rest ∧ (deleteOne ns f).Leaves m (.ok 1) n ∧
          n.documents ns = before ++ rest ∧ (n.collection? ns).isSome = (m.collection? ns).isSome ∧ Frame ns m n) ∧
      ∀ k n, DeletesInTurn ns f m k n ↔ (deleteMany ns f).Leaves m (.ok k) n := by
  refine ⟨?_, ?_, fun k n => deletesInTurn_iff⟩
  · have hmany := leaves_deleteMany_filter m ns f
    refine ⟨_, hmany, documents_refill_filter m ns _, isSome_refill m ns _, frame_refill m ns _, ?_⟩
    exact leaves_deleteMany_again hmany
  · rcases none_or_firstSelected f (m.documents ns) with hnone | ⟨before, d, rest, hfirst⟩
    · exact .inl ⟨hnone, leaves_deleteOne_of_none hnone⟩
    · refine .inr ⟨before, d, rest, _, hfirst, leaves_deleteOne_first hfirst, ?_, isSome_refill m ns _, frame_refill m ns _⟩
      exact hfirst.documents_refill _

end Seedbed.Memory
