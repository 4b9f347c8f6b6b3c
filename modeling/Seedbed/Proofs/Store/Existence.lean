import Seedbed.Fixture.Names
import Seedbed.Proofs.Server.Calls
import Seedbed.Proofs.Store.Calls
import Seedbed.Proofs.Store.Images

/-!
# When a collection exists

A collection comes into being with an insertion and is there until it is dropped (`isSome_after`). Into a new collection the first
document always fits (`inserts_of_new`), so an insertion that makes a collection inserts a document, unless it was made with none. So
after a run from an empty store images can be turned on exactly if, since the last drop of the collection, a document was inserted or an
insertion of no documents was made (`enableImages_run`). The second case is one in which a client of a server sends nothing: there the
two stores differ (`enableImages_after_empty_insertion`).
-/

namespace Seedbed

/-- What a call makes of the existence of a collection. -/
theorem isSome_after (call : Call) (ids : IdSource) (c : Option Collection) :
    (call.after ids c).isSome =
      match call with
      | .drop => false
      | .insertMany _ => true
      | _ => c.isSome := by
  cases c with
  | none => cases call <;> rfl
  | some c => cases call <;> rfl

namespace Memory

variable {m : Memory} {ns : Namespace} {ids : IdSource} {ops : List Operation}

/-- Whether a call inserts documents into a collection, so that it holds more of them than before. -/
def Inserts (m : Memory) (ns : Namespace) (call : Call) : Prop :=
  ∃ documents, call = .insertMany documents ∧ (m.documents ns).length < ((call.perform ns m).documents ns).length

/-- The documents of a collection after an insertion. -/
theorem documents_perform_insertMany (m : Memory) (ns : Namespace) (documents : List Document) :
    ((Call.insertMany documents).perform ns m).documents ns = (insertEach documents (m.documents ns) m.ids).2.1 := by
  have hafter : ((Call.insertMany documents).perform ns m).collection? ns =
      some { m.present ns with documents := (insertEach documents (m.present ns).documents m.ids).2.1 } := by
    rw [collection?_perform, if_pos rfl]
    rfl
  rw [documents_of_collection? hafter, documents_present]

/-- No identifier is taken in a new collection, so that the first document is inserted whatever follows. -/
theorem inserts_of_new (hnew : m.collection? ns = none) (d : Document) (rest : List Document) :
    m.Inserts ns (.insertMany (d :: rest)) := by
  have hfirst : insertEach (d :: rest) [] m.ids = insertEach rest [(identify m.ids d).2.1] (identify m.ids d).2.2 := rfl
  obtain ⟨before, -, -, heach⟩ := exists_insertEach_eq rest [(identify m.ids d).2.1] (identify m.ids d).2.2
  refine ⟨d :: rest, rfl, ?_⟩
  rw [documents_perform_insertMany, documents_of_none hnew, hfirst, heach]
  simp

/-- A collection exists after a run from an empty store exactly if a document was inserted into it since its last drop, or an insertion
of no documents was made. -/
theorem isSome_run (ops : List Operation) (ids : IdSource) (ns : Namespace) :
    ((run ops (empty ids)).collection? ns).isSome = true ↔
      Since ns (fun before call => (run before (empty ids)).Inserts ns call ∨ call = .insertMany []) ops := by
  induction ops using List.reverseRecOn with
  | nil => simp [not_since_nil, run, empty, collection?, Catalog.empty, Catalog.get?, Catalog.lookup]
  | append_singleton ops op ih =>
    obtain ⟨address, call⟩ := op
    rw [run_append_singleton, since_append_singleton, ← ih, collection?_perform]
    by_cases haddress : address = ns
    · subst haddress
      rw [if_pos rfl, isSome_after]
      cases call with
      | drop => simp [Inserts]
      | insertMany documents =>
        refine ⟨fun _ => ?_, fun _ => rfl⟩
        cases hc : (run ops (empty ids)).collection? address with
        | some c => exact .inr ⟨rfl, by simp⟩
        | none =>
          -- the insertion has made the collection
          cases documents with
          | nil => exact .inl ⟨rfl, .inr rfl⟩
          | cons d rest => exact .inl ⟨rfl, .inl (inserts_of_new hc d rest)⟩
      | _ => simp [Inserts]
    · simp [haddress]

/-- An insertion of no documents makes the collection if there is none, and is without effect otherwise. -/
theorem leaves_insertMany_nil (m : Memory) (ns : Namespace) : (insertMany ns []).Leaves m (.ok 0) (m.put ns (m.present ns)) :=
  ⟨rfl, rfl⟩

theorem put_present_eq_iff : m.put ns (m.present ns) = m ↔ (m.collection? ns).isSome = true := by
  constructor
  · intro h
    rw [← h, collection?_put_self]
    rfl
  · intro h
    obtain ⟨c, hc⟩ := Option.isSome_iff_exists.1 h
    rw [present_of_collection? hc, put_self hc]

/-- After a run from an empty store images of a collection can be turned on exactly if a document was inserted into it since its last
drop, or an insertion of no documents was made. Such an insertion reports none inserted and changes nothing but that it makes the
collection if there is none; a client of a server reports the same, sends nothing and stays as it is. -/
theorem enableImages_run (ops : List Operation) (ids : IdSource) (ns : Namespace) :
    ((enableImages ns (run ops (empty ids))).result = .ok () ↔
        Since ns (fun before call => (run before (empty ids)).Inserts ns call ∨ call = .insertMany []) ops) ∧
      (∀ m : Memory, (insertMany ns []).Leaves m (.ok 0) (m.put ns (m.present ns)) ∧
        (m.put ns (m.present ns) = m ↔ (m.collection? ns).isSome = true)) ∧
      ∀ {κ : Type} [Server κ] (client : Client κ), (Client.insertMany ns []).Leaves client (.ok 0) client := by
  refine ⟨?_, fun m => ⟨leaves_insertMany_nil m ns, put_present_eq_iff⟩, fun client => Client.leaves_insertMany_nil client ns⟩
  rw [result_enableImages_iff, isSome_run]

/-- After an insertion of no documents into the empty store images can be turned on, although no document was inserted; and the store is
not as it was. -/
theorem enableImages_after_empty_insertion :
    (enableImages Fixture.probes (run [⟨Fixture.probes, .insertMany []⟩] (empty ⟨0⟩))).result = .ok () ∧
      ¬Since Fixture.probes (fun before call => (run before (empty ⟨0⟩)).Inserts Fixture.probes call)
        [⟨Fixture.probes, .insertMany []⟩] ∧
      (insertMany Fixture.probes [] (empty ⟨0⟩)).state ≠ empty ⟨0⟩ := by
  refine ⟨rfl, ?_, ?_⟩
  · rw [← List.nil_append [_], since_append_singleton]
    rintro (⟨-, documents, hcall, hlonger⟩ | ⟨hsince, -⟩)
    · exact absurd hlonger (Nat.lt_irrefl 0)
    · exact not_since_nil hsince
  · intro h
    have hnew : (empty ⟨0⟩).collection? Fixture.probes = none := rfl
    rw [(leaves_insertMany_nil _ _).state, put_present_eq_iff, hnew] at h
    cases h

end Memory

end Seedbed
