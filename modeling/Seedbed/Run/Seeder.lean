import Seedbed.Plan.Seed
import Seedbed.Run.Failure
import Seedbed.Run.Report
import Seedbed.Store.Interface

/-!
# Running a plan

A seeder runs the steps of a plan on a store, strictly in their order. The first step that fails ends the run, and what the
steps before it did stays done. A seeder remembers the selected database from one plan to the next.
-/

namespace Seedbed

/-- A seeder: the database that is selected, and the store that it works on. -/
structure Seeder (σ : Type) where
  database : Option String
  store : σ

namespace Seeder

variable {σ : Type} [DocumentStore σ]

/-- Something done to the store of a seeder. -/
def onStore {α : Type} (action : Action StoreError σ α) : Action Cause (Seeder σ) α :=
  (action.mapError Cause.store).within Seeder.store (fun store seeder => { seeder with store })

/-- Selects a database. -/
def select (database : String) : Action Cause (Seeder σ) Unit := fun seeder =>
  ⟨.ok (), { seeder with database := some database }, []⟩

/-- The address of a collection of the selected database. -/
def address (collection : String) : Action Cause (Seeder σ) Namespace := fun seeder =>
  match seeder.database with
  | none => ⟨.error (.noDatabase collection), seeder, []⟩
  | some database => ⟨.ok ⟨database, collection⟩, seeder, []⟩

/-- Fails because the document that a step is about is not there. -/
def missing {α : Type} (ns : Namespace) (f : Filter) : Action Cause (Seeder σ) α :=
  .fail (.store (.notFound ns.render f.display))

/-- One step. A step that updates or deletes one document fails if there is none that its filter selects. -/
def apply : Step → Action Cause (Seeder σ) StepOutcome
  | .use database => do
    select database
    return .selected
  | .drop collection => do
    let ns ← address collection
    onStore (DocumentStore.drop ns)
    return .dropped
  | .insert collection documents => do
    let ns ← address collection
    let count ← onStore (DocumentStore.insertMany ns documents)
    return .inserted count
  | .enableImages collection => do
    let ns ← address collection
    onStore (DocumentStore.enableImages ns)
    return .imagesEnabled
  | .update collection filter change => do
    let ns ← address collection
    let outcome ← onStore (DocumentStore.updateOne ns filter change)
    if outcome.matched = 0 then missing ns filter else return .updated outcome
  | .deleteOne collection filter => do
    let ns ← address collection
    let count ← onStore (DocumentStore.deleteOne ns filter)
    if count = 0 then missing ns filter else return .deleted count
  | .deleteMany collection filter => do
    let ns ← address collection
    let count ← onStore (DocumentStore.deleteMany ns filter)
    return .deleted count

/-- One step, the one of the given number in its plan, with what it did told to the log. -/
def applyNumbered (number : Nat) (step : Step) : Action Failure (Seeder σ) StepReport := do
  Action.say .info .seeder (s!"Step {number}: " ++ step.display)
  let outcome ← (apply step).mapError (fun cause => ⟨.step number step.display, cause⟩)
  Action.say .debug .seeder (s!"Step {number} outcome: " ++ outcome.inspect)
  return ⟨step.display, outcome⟩

/-- Steps one after the other, the first one having the given number. -/
def applyAll : Nat → Plan → Action Failure (Seeder σ) (List StepReport)
  | _, [] => return []
  | number, step :: rest => do
    let report ← applyNumbered number step
    let reports ← applyAll (number + 1) rest
    return report :: reports

/-- A whole plan. -/
def run (plan : Plan) : Action Failure (Seeder σ) Report := do
  let reports ← applyAll 1 plan
  let report : Report := ⟨reports⟩
  Action.say .info .seeder report.summary
  return report

end Seeder

/-- The seed plan run on a store by a seeder of its own. -/
def seed {σ : Type} [DocumentStore σ] : Action Failure σ Report := do
  let plan ← (Action.ofResult seedPlan).mapError (fun error => (⟨.planning, .fixture error⟩ : Failure))
  (Seeder.run plan).within (fun store => (⟨none, store⟩ : Seeder σ)) (fun seeder _ => seeder.store)

end Seedbed
