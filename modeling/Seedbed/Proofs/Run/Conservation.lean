import Seedbed.Proofs.Run.Seeder
import Seedbed.Proofs.Store.Size

/-!
# A run accounts for every document

The documents that a store holds after a run are those from before it and those that the run reports to have inserted, without those
that it reports to have deleted and those in the collections that it dropped (`run_accounts`). What a drop takes is in no report; it
is what the dropped collection held when the step was reached (`dropped`).
-/

namespace Seedbed

/-- Whether a step updates a document. -/
def Step.isUpdate : Step → Bool
  | .update _ _ _ => true
  | _ => false

namespace Seeder

/-- How many documents the collection holds that a step drops, if it drops one. -/
def held (s : Seeder Memory) : Step → Nat
  | .drop c => (s.database.map (fun database => (s.store.documents ⟨database, c⟩).length)).getD 0
  | _ => 0

/-- How many documents the collections that the steps of a plan drop hold, each when its step is reached. -/
def dropped : Plan → Seeder Memory → Nat
  | [], _ => 0
  | step :: rest, s => s.held step + dropped rest (apply step s).state

variable {plan : Plan} {step : Step} {s t : Seeder Memory} {outcome : StepOutcome} {outcomes : List StepOutcome} {report : Report}

/-- A step that succeeds changes the number of documents by what it reports and by what it drops, and reports that it modified a
document only if it is an update, and then one at most. -/
theorem size_apply (h : (apply step).Leaves s (.ok outcome) t) :
    t.store.size + outcome.deletedCount + s.held step = s.store.size + outcome.insertedCount ∧
      outcome.modifiedCount ≤ if step.isUpdate then 1 else 0 := by
  cases step with
  | use database =>
    obtain ⟨houtcome, ht⟩ := (leaves_use database s).unique h
    cases houtcome
    rw [← ht]
    exact ⟨rfl, Nat.le_refl 0⟩
  | drop c =>
    obtain ⟨database, m, _, n, rfl, hcall, rfl, rfl⟩ := exists_of_leaves_call h (fun _ _ => yields_pure _)
    exact ⟨Memory.size_drop hcall, Nat.le_refl 0⟩
  | insert c documents =>
    obtain ⟨database, m, count, n, rfl, hcall, rfl, rfl⟩ := exists_of_leaves_call h (fun _ _ => yields_pure _)
    exact ⟨Memory.size_insertMany hcall, Nat.le_refl 0⟩
  | enableImages c =>
    obtain ⟨database, m, _, n, rfl, hcall, rfl, rfl⟩ := exists_of_leaves_call h (fun _ _ => yields_pure _)
    exact ⟨Memory.size_enableImages hcall, Nat.le_refl 0⟩
  | update c f u =>
    obtain ⟨database, m, updated, n, rfl, hcall, rfl, rfl⟩ := exists_of_leaves_call h (fun ns _ => yields_unless_missing _ ns f _)
    exact Memory.size_updateOne hcall
  | deleteOne c f =>
    obtain ⟨database, m, count, n, rfl, hcall, rfl, rfl⟩ := exists_of_leaves_call h (fun ns _ => yields_unless_missing _ ns f _)
    exact ⟨Memory.size_deleteOne hcall, Nat.le_refl 0⟩
  | deleteMany c f =>
    obtain ⟨database, m, count, n, rfl, hcall, rfl, rfl⟩ := exists_of_leaves_call h (fun _ _ => yields_pure _)
    exact ⟨Memory.size_deleteMany hcall, Nat.le_refl 0⟩

/-- Steps that succeed change the number of documents by what they report and by what they drop, and report no more documents to be
modified than there are updates among them. -/
theorem size_of_succeeds (h : Succeeds plan s outcomes t) :
    t.store.size + totalOf StepOutcome.deletedCount outcomes + dropped plan s =
        s.store.size + totalOf StepOutcome.insertedCount outcomes ∧
      totalOf StepOutcome.modifiedCount outcomes ≤ plan.countP Step.isUpdate := by
  induction h with
  | nil s => exact ⟨rfl, Nat.le_refl 0⟩
  | @cons step rest s t u outcome outcomes hstep _ ih =>
    obtain ⟨hsize, hmodified⟩ := size_apply hstep
    obtain ⟨hsizes, hmodifieds⟩ := ih
    rw [dropped, hstep.state, List.countP_cons]
    simp only [totalOf, List.foldr_cons] at hsizes hmodifieds ⊢
    constructor <;> omega

/-- If a run succeeds, the store holds as many documents after it as before it, with those that the report says were inserted, without
those that it says were deleted, and without those that the dropped collections held when they were dropped; and there are no more
modified documents in the report than updates in the plan. -/
theorem run_accounts (plan : Plan) (s : Seeder Memory) (h : (run plan s).result = .ok report) :
    (run plan s).state.store.size + report.deleted + dropped plan s = s.store.size + report.inserted ∧
      report.modified ≤ plan.countP Step.isUpdate := by
  rcases succeeds_or_fails plan s with ⟨outcomes, t, hplan⟩ | ⟨front, step, rest, outcomes, t, cause, u, rfl, hfront, hstep⟩
  · obtain ⟨hreport, hstate⟩ := (leaves_run hplan).unique ⟨h, rfl⟩
    cases hreport
    rw [← hstate, Report.deleted, Report.inserted, Report.modified, total_reports hplan, total_reports hplan, total_reports hplan]
    exact size_of_succeeds hplan
  · cases ((leaves_run_error hfront hstep rest).unique ⟨h, rfl⟩).1

/-- A plan that inserts documents, updates and deletes one each, drops the collection of the one that is left and makes a new one. -/
def turnover : Plan :=
  [.use "a", .insert "b" [[("_id", .int32 1)], [("_id", .int32 2)]], .update "b" (.id 1) ⟨"available", .boolean true⟩,
    .deleteOne "b" (.id 2), .drop "b", .insert "b" [[("_id", .int32 3)]]]

/-- On an empty store it inserts three documents, deletes one and drops one, so that one is left. -/
theorem run_accounts_turnover :
    ∃ report, (run turnover ⟨none, Memory.empty ⟨0⟩⟩).result = .ok report ∧ report.inserted = 3 ∧ report.deleted = 1 ∧
      dropped turnover ⟨none, Memory.empty ⟨0⟩⟩ = 1 ∧ (run turnover ⟨none, Memory.empty ⟨0⟩⟩).state.store.size = 1 := by
  refine ⟨_, rfl, rfl, rfl, rfl, ?_⟩
  have hsize : (run turnover ⟨none, Memory.empty ⟨0⟩⟩).state.store.size + 1 + 1 = 0 + 3 :=
    (run_accounts turnover ⟨none, Memory.empty ⟨0⟩⟩ rfl).1
  omega

end Seeder

end Seedbed
