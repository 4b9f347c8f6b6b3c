import Mathlib.Tactic.IntervalCases
import Seedbed.Proofs.Fixture.Records
import Seedbed.Proofs.Run.Seeder
import Seedbed.Proofs.Store.Calls

/-!
# The seed plan on a store in memory

The first nine steps of the plan succeed on every store: they drop two collections and leave the one surviving probe record
(`succeeds_preparation`). Whether the run succeeds is decided by the tenth step alone, which inserts the association records into a
collection that is never dropped: it fails exactly if one of their identifiers is there already.
-/

namespace Seedbed

open Fixture

/-! ## The plan -/

/-- The steps of the seed plan on the probe records, up to the selection of the other database. -/
def preparation : Plan :=
  [.use probeDatabase, .drop probeCollection, .drop legacyCollection, .insert probeCollection ([1, 2, 3].map probe),
    .enableImages probeCollection, .update probeCollection (.id updatedId) ⟨numericField, numericAfter⟩,
    .deleteOne probeCollection (.id deletedId), .deleteMany probeCollection (.fieldEquals numericField numericBefore),
    .use associationDatabase]

/-- The steps of the seed plan after the association records were inserted. -/
def conclusion : Plan := [.enableImages associationCollection, .deleteMany associationCollection .all]

theorem seedPlan_eq :
    seedPlan = .ok (preparation ++ .insert associationCollection (associationRecords.map Association.toDocument) :: conclusion) :=
  rfl

/-- What the steps on the probe records did. -/
def preparationOutcomes : List StepOutcome :=
  [.selected, .dropped, .dropped, .inserted 3, .imagesEnabled, .updated ⟨1, 1⟩, .deleted 1, .deleted 1, .selected]

/-- Seeding is running the plan by a seeder that has selected no database. -/
theorem leaves_seed {σ : Type} [DocumentStore σ] {plan : Plan} (hplan : seedPlan = .ok plan) {s : σ} {r : Except Failure Report}
    {t : Seeder σ} (h : (Seeder.run plan).Leaves ⟨none, s⟩ r t) : seed.Leaves s r t.store := by
  have hok : ((Action.ofResult seedPlan).mapError (fun error => (⟨.planning, .fixture error⟩ : Failure))).Leaves s (.ok plan) s :=
    hplan ▸ (Action.Leaves.ofResult (.ok plan) s).mapError _
  exact hok.bind h.within

/-! ## The association records -/

theorem id_associationRecords {k : Nat} (h : k < associationRecords.length) :
    associationRecords[k].id = Int32.ofNat (k + 1) := by
  have h7 : k < 7 := h
  interval_cases k <;> rfl

theorem nodup_id_associationRecords : (associationRecords.map Association.id).Nodup := by decide

namespace Memory

open Seeder

/-! ## The steps on the probe records -/

/-- A store without the two collections that are dropped. -/
def dropped (m : Memory) : Memory := (m.erase probes).erase legacy

/-- A store after the steps on the probe records. -/
def prepared (m : Memory) : Memory := m.dropped.put probes ⟨[survivor], true⟩

theorem collection?_dropped (m : Memory) (ns : Namespace) :
    m.dropped.collection? ns = if legacy = ns then none else if probes = ns then none else m.collection? ns := by
  rw [dropped, collection?_erase, collection?_erase]

theorem collection?_prepared (m : Memory) (ns : Namespace) :
    m.prepared.collection? ns = if probes = ns then some ⟨[survivor], true⟩ else if legacy = ns then none else m.collection? ns := by
  rw [prepared, collection?_put, collection?_dropped]
  split
  · rfl
  · rfl

/-- The probe records are inserted into a new collection. -/
theorem leaves_insert_probes (m : Memory) :
    (insertMany probes ([1, 2, 3].map probe)).Leaves m.dropped (.ok 3) (m.dropped.put probes ⟨[probe 1, probe 2, probe 3], false⟩) := by
  have hnone : m.dropped.collection? probes = none := collection?_dropped m probes
  have hdocuments := documents_of_none hnone
  have hfits : Fits (m.dropped.documents probes) ([1, 2, 3].map (fun n => (.int32 n, probe n))) := by
    rw [hdocuments]
    exact fits_map_int32 (by decide) (by simp)
  have hleaves := leaves_insertMany_map (fun n _ => get?_id_probe n) hfits
  rw [hdocuments, present, hnone] at hleaves
  exact hleaves

/-- The steps on the probe records succeed on every store. -/
theorem succeeds_preparation (m : Memory) :
    Succeeds preparation ⟨none, m⟩ preparationOutcomes ⟨some associationDatabase, m.prepared⟩ := by
  have himages := leaves_enableImages (collection?_put_self m.dropped probes ⟨[probe 1, probe 2, probe 3], false⟩)
  have hupdated : updateFirst (.id updatedId) ⟨numericField, numericAfter⟩ [probe 1, probe 2, probe 3] =
      some (true, [probe 1, survivor, probe 3]) := rfl
  have hupdate := leaves_updateOne (collection?_put_self m.dropped probes ⟨[probe 1, probe 2, probe 3], true⟩) hupdated
  have hdeleted : deleteFirst (.id deletedId) [probe 1, survivor, probe 3] = some [survivor, probe 3] := rfl
  have hdelete := leaves_deleteOne (collection?_put_self m.dropped probes ⟨[probe 1, survivor, probe 3], true⟩) hdeleted
  -- the update came before the deletion by value, and so the updated record is not deleted
  have hrest : [survivor, probe 3].filter (fun d => !(Filter.fieldEquals numericField numericBefore).selects d) = [survivor] := rfl
  have hdeleteMany := leaves_deleteMany (f := .fieldEquals numericField numericBefore)
    (collection?_put_self m.dropped probes ⟨[survivor, probe 3], true⟩)
  rw [put_put] at himages hupdate hdelete hdeleteMany
  rw [hrest] at hdeleteMany
  refine .cons (leaves_use _ _) ?_
  refine .cons (Seeder.leaves_drop (Memory.leaves_drop _ _)) ?_
  refine .cons (Seeder.leaves_drop (Memory.leaves_drop _ _)) ?_
  refine .cons (leaves_insert (leaves_insert_probes m)) ?_
  refine .cons (Seeder.leaves_enableImages himages) ?_
  refine .cons (leaves_update hupdate Nat.one_ne_zero) ?_
  refine .cons (Seeder.leaves_deleteOne hdelete Nat.one_ne_zero) ?_
  refine .cons (Seeder.leaves_deleteMany hdeleteMany) ?_
  refine .cons (leaves_use _ _) ?_
  exact .nil _

/-! ## Collisions -/

/-- Whether a document of the collection of association records has the identifier `n`, one of those of the fixtures. -/
def Collides (m : Memory) (n : Nat) : Prop :=
  1 ≤ n ∧ n ≤ 7 ∧ ∃ d ∈ m.documents associations, d.get? "_id" = some (.int32 (Int32.ofNat n))

theorem collection?_prepared_associations (m : Memory) : m.prepared.collection? associations = m.collection? associations :=
  collection?_prepared m associations

theorem present_prepared (m : Memory) : m.prepared.present associations = m.present associations := by
  rw [present, present, collection?_prepared_associations]

theorem documents_prepared (m : Memory) : m.prepared.documents associations = m.documents associations := by
  rw [documents, documents, collection?_prepared_associations]

/-- No identifier of the association records is there already, or there is a least one that is. -/
theorem free_or_collides (m : Memory) :
    (∀ n, ¬m.Collides n) ∨ ∃ n c, m.Collides n ∧ (∀ k < n, ¬m.Collides k) ∧ m.collection? associations = some c := by
  by_cases h : ∃ n, m.Collides n
  · classical
    obtain ⟨-, -, d, hd, hid⟩ := Nat.find_spec h
    obtain ⟨c, hc, -⟩ := exists_collection (P := fun d => d.get? "_id" ≠ some (.int32 (Int32.ofNat (Nat.find h))))
      (fun hall => hall d hd hid)
    exact .inr ⟨Nat.find h, c, Nat.find_spec h, fun k hk => Nat.find_min h hk, hc⟩
  · exact .inl (fun n hn => h ⟨n, hn⟩)

variable {m : Memory}

/-- The first `k` records fit if none of the first `k` identifiers is there already. -/
theorem fits_take_associationRecords {k : Nat} (h : ∀ n ≤ k, ¬m.Collides n) :
    Fits (m.documents associations) ((associationRecords.take k).map (fun r => (.int32 r.id, r.toDocument))) := by
  refine fits_map_int32 (nodup_id_associationRecords.sublist ((List.take_sublist k _).map _)) ?_
  intro r hr d hd hid
  obtain ⟨i, hi, rfl⟩ := List.mem_take_iff_getElem.1 hr
  rw [id_associationRecords] at hid
  have hlength : associationRecords.length = 7 := rfl
  exact h (i + 1) (by omega) ⟨by omega, by omega, d, hd, hid⟩

/-! ## Success -/

/-- A store after the whole plan. -/
def seeded (m : Memory) : Memory := m.prepared.put associations ⟨[], true⟩

/-- The association records are all inserted if none of their identifiers is there already. -/
theorem leaves_insert_associations (h : ∀ n, ¬m.Collides n) :
    (insertMany associations (associationRecords.map Association.toDocument)).Leaves m.prepared (.ok 7)
      (m.prepared.put associations { m.present associations with
        documents := m.documents associations ++ associationRecords.map Association.toDocument }) := by
  have hfits := fits_take_associationRecords (k := 7) (fun n _ => h n)
  rw [← documents_prepared] at hfits
  have hleaves := leaves_insertMany_map (fun r _ => get?_id_association r) hfits
  rw [documents_prepared, present_prepared] at hleaves
  exact hleaves

/-- The last steps turn on images and delete the old documents together with the new ones. -/
theorem succeeds_conclusion (m : Memory) (c : Collection) :
    Succeeds conclusion ⟨some associationDatabase, m.put associations c⟩ [.imagesEnabled, .deleted c.documents.length]
      ⟨some associationDatabase, m.put associations ⟨[], true⟩⟩ := by
  have himages := leaves_enableImages (collection?_put_self m associations c)
  have hdelete := leaves_deleteMany (f := .all) (collection?_put_self m associations { c with images := true })
  have hall : c.documents.filter (fun d => !Filter.all.selects d) = [] :=
    List.filter_eq_nil_iff.2 (fun d _ => by simp [Filter.selects])
  rw [put_put] at himages hdelete
  rw [hall] at hdelete
  exact .cons (Seeder.leaves_enableImages himages) (.cons (Seeder.leaves_deleteMany hdelete) (.nil _))

/-- What the whole plan did, when the collection of association records held a number of documents before. -/
def seedOutcomes (held : Nat) : List StepOutcome := preparationOutcomes ++ [.inserted 7, .imagesEnabled, .deleted (held + 7)]

theorem totals_seedOutcomes (held : Nat) :
    totalOf StepOutcome.insertedCount (seedOutcomes held) = 10 ∧ totalOf StepOutcome.modifiedCount (seedOutcomes held) = 1 ∧
      totalOf StepOutcome.deletedCount (seedOutcomes held) = 9 + held := by
  refine ⟨rfl, rfl, ?_⟩
  simp only [totalOf, seedOutcomes, preparationOutcomes, List.cons_append, List.nil_append, List.foldr_cons, List.foldr_nil,
    StepOutcome.deletedCount]
  omega

/-- If no identifier of the association records is there already, all steps of the plan succeed. -/
theorem succeeds_seedPlan (h : ∀ n, ¬m.Collides n) :
    Succeeds (preparation ++ .insert associationCollection (associationRecords.map Association.toDocument) :: conclusion) ⟨none, m⟩
      (seedOutcomes (m.documents associations).length) ⟨some associationDatabase, m.seeded⟩ := by
  have hconclusion := succeeds_conclusion m.prepared { m.present associations with
    documents := m.documents associations ++ associationRecords.map Association.toDocument }
  rw [List.length_append] at hconclusion
  exact (succeeds_preparation m).append (.cons (leaves_insert (leaves_insert_associations h)) hconclusion)

/-- If no identifier of the association records is there already, the whole plan succeeds. -/
theorem leaves_seed_of_free (h : ∀ n, ¬m.Collides n) :
    ∃ report, seed.Leaves m (.ok report) m.seeded ∧ report.inserted = 10 ∧ report.modified = 1 ∧
      report.deleted = 9 + (m.documents associations).length := by
  have hplan := succeeds_seedPlan h
  obtain ⟨hinserted, hmodified, hdeleted⟩ := totals_seedOutcomes (m.documents associations).length
  have hrun := leaves_seed seedPlan_eq (leaves_run hplan)
  exact ⟨_, hrun, (total_reports hplan _).trans hinserted, (total_reports hplan _).trans hmodified,
    (total_reports hplan _).trans hdeleted⟩

/-! ## Failure -/

/-- A store after the plan has stopped at the record with the identifier `n`. -/
def stoppedAt (m : Memory) (n : Nat) : Memory :=
  m.prepared.put associations { m.present associations with
    documents := m.documents associations ++ associationDocuments.take (n - 1) }

/-- If identifiers of the association records are there already, the plan stops at the least of them. -/
theorem leaves_seed_of_collides {n : Nat} (h : m.Collides n) (hleast : ∀ k < n, ¬m.Collides k) :
    seed.Leaves m
      (.error ⟨.step 10 "insert 7 documents into employeeTerritory",
        .store (.duplicateKey "second.employeeTerritory" (Value.int32 (Int32.ofNat n)).display)⟩)
      (m.stoppedAt n) := by
  obtain ⟨hpos, hle, d, hd, hid⟩ := h
  have hlength : associationRecords.length = 7 := rfl
  have hlt : n - 1 < associationRecords.length := by omega
  have hsplit : associationRecords = associationRecords.take (n - 1) ++ associationRecords[n - 1] :: associationRecords.drop n := by
    have hdrop := List.drop_eq_getElem_cons hlt
    rw [Nat.sub_add_cancel hpos] at hdrop
    rw [← hdrop, List.take_append_drop]
  have hrecord : associationRecords[n - 1].id = Int32.ofNat n := by rw [id_associationRecords, Nat.sub_add_cancel hpos]
  have hfits := fits_take_associationRecords (k := n - 1) (fun k hk => hleast k (by omega))
  have hclashes : Clashes (m.documents associations)
      ((associationRecords.take (n - 1)).map (fun r => (.int32 r.id, r.toDocument))) (.int32 associationRecords[n - 1].id) :=
    .inl ((isTaken_iff_of_isPlain rfl).2 ⟨d, hd, hrecord ▸ hid⟩)
  rw [← documents_prepared] at hfits hclashes
  have hids : ∀ r ∈ associationRecords.take (n - 1) ++ associationRecords[n - 1] :: associationRecords.drop n,
      r.toDocument.get? "_id" = some (.int32 r.id) := fun r _ => get?_id_association r
  have hleaves := leaves_insertMany_map_of_clashes hids hfits hclashes
  rw [← hsplit, documents_prepared, present_prepared, hrecord, List.map_take] at hleaves
  have hstep : (apply (.insert associationCollection (associationRecords.map Association.toDocument))).Leaves
      ⟨some associationDatabase, m.prepared⟩ (.error (.store (.duplicateKey associations.render (Value.int32 (Int32.ofNat n)).display)))
      ⟨some associationDatabase, m.stoppedAt n⟩ := leaves_call_error hleaves
  exact leaves_seed seedPlan_eq (leaves_run_error (succeeds_preparation m) hstep conclusion)

/-! ## Every run -/

/-- What every run of the seed plan makes of a store, but for the collection of association records: the surviving probe record alone,
nothing in the collection of the earlier layout, and all other collections as they were. -/
structure Prepared (before after : Memory) : Prop where
  probes : ∃ record, survivingProbeRecord = .ok record ∧ after.collection? probes = some ⟨[record], true⟩
  legacy : after.collection? legacy = none
  others : ∀ ns, ns ≠ Fixture.probes → ns ≠ Fixture.legacy → ns ≠ associations → after.collection? ns = before.collection? ns
  ids : after.ids = before.ids

theorem prepared_put (m : Memory) (c : Collection) : Prepared m (m.prepared.put associations c) where
  probes := ⟨survivor, survivingProbeRecord_eq, by
    rw [collection?_put, if_neg (by decide), collection?_prepared, if_pos rfl]⟩
  legacy := by rw [collection?_put, if_neg (by decide), collection?_prepared, if_neg (by decide), if_pos rfl]
  others := fun ns h1 h2 h3 => by
    rw [collection?_put, if_neg h3.symm, collection?_prepared, if_neg h1.symm, if_neg h2.symm]
  ids := rfl

/-- Seeding leaves no identifier behind with which another run could collide. -/
theorem not_collides_seeded (m : Memory) (n : Nat) : ¬m.seeded.Collides n := by
  rintro ⟨-, -, d, hd, -⟩
  have hempty : m.seeded.documents associations = [] := documents_of_collection? (collection?_put_self m.prepared associations _)
  rw [hempty] at hd
  cases hd

/-- Seeding what was seeded changes nothing. -/
theorem seeded_seeded (m : Memory) : m.seeded.seeded = m.seeded := by
  refine ext_collection? (fun ns => ?_) rfl
  simp only [seeded, collection?_put, collection?_prepared]
  split_ifs <;> rfl

/-- Seeding succeeds exactly if no identifier of the association records is there already. Then the store holds the surviving probe
record and no association records, images of both are captured, and seeding again changes nothing. Otherwise it fails at the tenth
step with the least identifier that is there, and the records before that one are inserted behind the documents that were there. -/
theorem seed_from_any_store (m : Memory) :
    ((∃ report, (seed m).result = .ok report) ↔ ∀ n, ¬m.Collides n) ∧
      (∀ report, (seed m).result = .ok report →
        Prepared m (seed m).state ∧ (seed m).state.collection? associations = some ⟨[], true⟩ ∧
          report.inserted = 10 ∧ report.modified = 1 ∧ report.deleted = 9 + (m.documents associations).length ∧
          ∃ again, seed.Leaves (seed m).state (.ok again) (seed m).state) ∧
      ∀ failure, (seed m).result = .error failure →
        ∃ n c, m.Collides n ∧ (∀ k < n, ¬m.Collides k) ∧
          failure = ⟨.step 10 "insert 7 documents into employeeTerritory",
            .store (.duplicateKey "second.employeeTerritory" (Value.int32 (Int32.ofNat n)).display)⟩ ∧
          Prepared m (seed m).state ∧ m.collection? associations = some c ∧
          (seed m).state.collection? associations =
            some { c with documents := c.documents ++ associationDocuments.take (n - 1) } := by
  rcases free_or_collides m with hfree | ⟨n, c, hn, hleast, hc⟩
  · obtain ⟨report, hleaves, hinserted, hmodified, hdeleted⟩ := leaves_seed_of_free hfree
    obtain ⟨again, hagain, -, -, -⟩ := leaves_seed_of_free (not_collides_seeded m)
    rw [seeded_seeded] at hagain
    refine ⟨⟨fun _ => hfree, fun _ => ⟨report, hleaves.result⟩⟩, ?_, ?_⟩
    · intro report' h
      cases hleaves.result.symm.trans h
      rw [hleaves.state]
      exact ⟨prepared_put m _, collection?_put_self _ _ _, hinserted, hmodified, hdeleted, again, hagain⟩
    · intro failure h
      cases hleaves.result.symm.trans h
  · have hleaves := leaves_seed_of_collides hn hleast
    refine ⟨⟨?_, fun hfree => absurd hn (hfree n)⟩, ?_, ?_⟩
    · rintro ⟨report, h⟩
      cases hleaves.result.symm.trans h
    · intro report h
      cases hleaves.result.symm.trans h
    · intro failure h
      cases hleaves.result.symm.trans h
      rw [hleaves.state]
      refine ⟨n, c, hn, hleast, rfl, prepared_put m _, hc, ?_⟩
      rw [stoppedAt, collection?_put_self, present_of_collection? hc, documents_of_collection? hc]

end Memory

end Seedbed
