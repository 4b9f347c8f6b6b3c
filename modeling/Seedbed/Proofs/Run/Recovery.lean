import Seedbed.Proofs.Run.Operations
import Seedbed.Proofs.Run.Seed

/-!
# Seeding again after an interruption

A run of the seed plan that is cut short leaves what its first steps left. Up to the ninth step these have to do with collections
that are dropped when the plan is run again, so that seeding then goes as on the store before (`seeded_congr`); a complete run
leaves nothing to collide with. In between, after the tenth and the eleventh step, the association records stand in a collection that
is never dropped, and seeding again collides with the first of them. `seed_interrupted` says that these are the only two places from
which seeding again does not recover.
-/

namespace Seedbed

namespace Seeder

variable {σ : Type} [DocumentStore σ]

/-- The first of steps that all succeed, succeed. -/
theorem Succeeds.take {plan : Plan} {s t : Seeder σ} {outcomes : List StepOutcome} (h : Succeeds plan s outcomes t) (k : Nat) :
    Succeeds (plan.take k) s (outcomes.take k) (after (plan.take k) s) := by
  induction h generalizing k with
  | nil s =>
    rw [List.take_nil, List.take_nil]
    exact .nil s
  | cons hstep _ ih =>
    cases k with
    | zero => exact .nil _
    | succ k =>
      rw [List.take_succ_cons, List.take_succ_cons, after, List.foldl_cons, hstep.state]
      exact .cons hstep (ih k)

end Seeder

namespace Memory

open Fixture Seeder

/-- A store on which a run of the seed plan was cut short after the given number of steps. -/
def interrupted (m : Memory) (k : Nat) : Memory :=
  match seedPlan with
  | .ok plan => (Seeder.run (plan.take k) ⟨none, m⟩).state.store
  | .error _ => m

variable {m other : Memory} {k : Nat}

/-! ## Stores that differ in the dropped collections alone -/

/-- Whether two stores are the same but for the two collections that the seed plan drops. -/
structure AlikeButDropped (m other : Memory) : Prop where
  collections : ∀ ns, ns ≠ probes → ns ≠ legacy → other.collection? ns = m.collection? ns
  ids : other.ids = m.ids

theorem prepared_congr (h : m.AlikeButDropped other) : other.prepared = m.prepared := by
  refine ext_collection? (fun ns => ?_) h.ids
  rw [collection?_prepared, collection?_prepared]
  split_ifs with hprobes hlegacy
  · rfl
  · rfl
  · exact h.collections ns (fun e => hprobes e.symm) (fun e => hlegacy e.symm)

/-- Seeding makes the same of two such stores. -/
theorem seeded_congr (h : m.AlikeButDropped other) : other.seeded = m.seeded := by
  rw [seeded, seeded, prepared_congr h]

theorem collides_congr (h : m.AlikeButDropped other) (n : Nat) : other.Collides n ↔ m.Collides n := by
  have hdocuments : other.documents associations = m.documents associations := by
    rw [documents, documents, h.collections associations (by decide) (by decide)]
  rw [Collides, Collides, hdocuments]

/-! ## What is left where a run was cut short -/

/-- After steps that all succeed, the store is the one that their operations leave. -/
theorem interrupted_eq (h : ∀ n, ¬m.Collides n) (k : Nat) :
    m.interrupted k = (after ((preparation ++
      .insert associationCollection (associationRecords.map Association.toDocument) :: conclusion).take k) ⟨none, m⟩).store := by
  rw [interrupted, seedPlan_eq]
  exact congrArg Seeder.store (leaves_run ((succeeds_seedPlan h).take k)).state

/-- The steps on the probe records have operations on the two dropped collections alone, and insert no document without an
identifier. -/
theorem operations_preparation :
    ∀ op ∈ operations preparation none, (op.address = probes ∨ op.address = legacy) ∧ op.call.InsertsIds := by
  have hinserted : ∀ d ∈ [1, 2, 3].map probe, d.has "_id" = true := by
    intro d hd
    obtain ⟨n, -, rfl⟩ := List.mem_map.1 hd
    rfl
  have heq : operations preparation none =
      [⟨probes, .drop⟩, ⟨legacy, .drop⟩, ⟨probes, .insertMany ([1, 2, 3].map probe)⟩, ⟨probes, .enableImages⟩,
        ⟨probes, .updateOne (.id updatedId) ⟨numericField, numericAfter⟩⟩, ⟨probes, .deleteOne (.id deletedId)⟩,
        ⟨probes, .deleteMany (.fieldEquals numericField numericBefore)⟩] := rfl
  rw [heq]
  simp only [List.forall_mem_cons, List.not_mem_nil, false_implies, implies_true, and_true, true_or, or_true, true_and,
    Call.InsertsIds]
  exact hinserted

/-- Up to the ninth step, only the two dropped collections have changed. -/
theorem alikeButDropped_interrupted (h : ∀ n, ¬m.Collides n) (hk : k ≤ 9) : m.AlikeButDropped (m.interrupted k) := by
  have hlength : preparation.length = 9 := rfl
  have hops : ∀ op ∈ operations (preparation.take k) none,
      (op.address = probes ∨ op.address = legacy) ∧ op.call.InsertsIds :=
    fun op hop => operations_preparation op ((operations_take preparation none k).subset hop)
  rw [interrupted_eq h, List.take_append_of_le_length (by omega), store_after]
  constructor
  · intro ns hprobes hlegacy
    refine collection?_run_of_ne (fun op hop e => ?_)
    rcases (hops op hop).1 with ha | ha
    · exact hprobes (e ▸ ha)
    · exact hlegacy (e ▸ ha)
  · exact ids_run (fun op hop => (hops op hop).2)

/-- After the tenth and the eleventh step, the association records stand behind the documents that were there. -/
theorem documents_interrupted (h : ∀ n, ¬m.Collides n) (hk : k = 10 ∨ k = 11) :
    (m.interrupted k).documents associations = m.documents associations ++ associationRecords.map Association.toDocument := by
  have hinserted := (succeeds_preparation m).append (.cons (leaves_insert (leaves_insert_associations h)) (.nil _))
  have himages := leaves_enableImages (collection?_put_self m.prepared associations { m.present associations with
    documents := m.documents associations ++ associationRecords.map Association.toDocument })
  have henabled := hinserted.append (.cons (Seeder.leaves_enableImages himages) (.nil _))
  rw [interrupted_eq h]
  rcases hk with rfl | rfl
  · exact (congrArg (fun s => s.store.documents associations) (after_of_succeeds hinserted)).trans
      (documents_of_collection? (collection?_put_self _ _ _))
  · exact (congrArg (fun s => s.store.documents associations) (after_of_succeeds henabled)).trans
      (documents_of_collection? (collection?_put_self _ _ _))

/-- A complete run is not cut short. -/
theorem interrupted_of_le (h : ∀ n, ¬m.Collides n) (hk : 12 ≤ k) : m.interrupted k = m.seeded := by
  rw [interrupted_eq h, List.take_of_length_le hk, after_of_succeeds (succeeds_seedPlan h)]

/-! ## Seeding again -/

/-- After the tenth and the eleventh step there is something to collide with: the first of the association records. -/
theorem collides_interrupted (h : ∀ n, ¬m.Collides n) (hk : k = 10 ∨ k = 11) : (m.interrupted k).Collides 1 := by
  refine ⟨Nat.le_refl 1, by omega, associationRecords[0].toDocument, ?_, rfl⟩
  rw [documents_interrupted h hk]
  exact List.mem_append_right _ (List.mem_map_of_mem (List.getElem_mem _))

/-- Where seeding succeeds, no identifier of the association records is there already. -/
theorem not_collides_of_seed {report : Report} (h : (seed m).result = .ok report) (n : Nat) : ¬m.Collides n := by
  rcases free_or_collides m with hfree | ⟨least, c, hleast, hbefore, -⟩
  · exact hfree n
  · cases (leaves_seed_of_collides hleast hbefore).result.symm.trans h

theorem not_collides_empty (ids : IdSource) (n : Nat) : ¬(empty ids).Collides n := by
  rintro ⟨-, -, d, hd, -⟩
  cases hd

/-- From a store on which seeding succeeds, seeding again after a run that was cut short succeeds and leaves the same store, unless the
run was cut short between the insertion of the association records and their deletion, which are its tenth and its twelfth step. Then
seeding again stops at the first of these records. -/
theorem seed_interrupted (m : Memory) (k : Nat) (h : ∃ report, (seed m).result = .ok report) :
    (k ≠ 10 → k ≠ 11 → ∃ again, seed.Leaves (m.interrupted k) (.ok again) (seed m).state) ∧
      (k = 10 ∨ k = 11 → (seed (m.interrupted k)).result =
        .error ⟨.step 10 "insert 7 documents into employeeTerritory", .store (.duplicateKey "second.employeeTerritory" "1")⟩) := by
  obtain ⟨report, hreport⟩ := h
  have hfree := not_collides_of_seed hreport
  obtain ⟨_, honce, -, -, -⟩ := leaves_seed_of_free hfree
  rw [honce.state]
  constructor
  · intro h10 h11
    rcases Nat.lt_or_ge k 10 with hlt | hge
    · have halike := alikeButDropped_interrupted hfree (Nat.le_of_lt_succ hlt)
      obtain ⟨again, hagain, -, -, -⟩ := leaves_seed_of_free (fun n hn => hfree n ((collides_congr halike n).1 hn))
      exact ⟨again, seeded_congr halike ▸ hagain⟩
    · rw [interrupted_of_le hfree (by omega)]
      obtain ⟨again, hagain, -, -, -⟩ := leaves_seed_of_free (not_collides_seeded m)
      rw [seeded_seeded] at hagain
      exact ⟨again, hagain⟩
  · intro hk
    have hcollides := collides_interrupted hfree hk
    have hleast : ∀ n < 1, ¬(m.interrupted k).Collides n := fun n hn hc => absurd hc.1 (by omega)
    exact (leaves_seed_of_collides hcollides hleast).result

theorem seed_interrupted_empty :
    (∃ report, (seed (empty ⟨0⟩)).result = .ok report) ∧
      ∃ again, seed.Leaves ((empty ⟨0⟩).interrupted 7) (.ok again) (seed (empty ⟨0⟩)).state := by
  obtain ⟨report, honce, -, -, -⟩ := leaves_seed_of_free (not_collides_empty ⟨0⟩)
  have h : ∃ report, (seed (empty ⟨0⟩)).result = .ok report := ⟨report, honce.result⟩
  exact ⟨h, (seed_interrupted (empty ⟨0⟩) 7 h).1 (by decide) (by decide)⟩

/-- Seeding does not recover from every interruption: on the empty store it does not after the tenth step. -/
theorem not_recovers_after_insertion :
    (∃ report, (seed (empty ⟨0⟩)).result = .ok report) ∧
      ¬∃ again, seed.Leaves ((empty ⟨0⟩).interrupted 10) (.ok again) (seed (empty ⟨0⟩)).state := by
  obtain ⟨report, honce, -, -, -⟩ := leaves_seed_of_free (not_collides_empty ⟨0⟩)
  refine ⟨⟨report, honce.result⟩, ?_⟩
  rintro ⟨again, hagain⟩
  exact not_collides_of_seed hagain.result 1 (collides_interrupted (not_collides_empty ⟨0⟩) (.inl rfl))

end Memory

end Seedbed
