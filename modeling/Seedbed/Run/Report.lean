import Seedbed.Store.Filter

/-!
# Reports of a run

What each step of a plan did, and the numbers of documents that a whole plan inserted, modified and deleted.
-/

namespace Seedbed

/-- What a step did. -/
inductive StepOutcome where
  | selected
  | dropped
  | inserted (count : Nat)
  | imagesEnabled
  | updated (outcome : UpdateOutcome)
  | deleted (count : Nat)
  deriving DecidableEq, Repr

namespace StepOutcome

/-- What a step did, for the log. -/
def inspect : StepOutcome → String
  | .selected => "Selected"
  | .dropped => "Dropped"
  | .inserted n => s!"Inserted({n})"
  | .imagesEnabled => "PreAndPostImagesEnabled"
  | .updated ⟨matched, modified⟩ => s!"Updated(UpdateOutcome \x7b matched: {matched}, modified: {modified} \x7d)"
  | .deleted n => s!"Deleted({n})"

/-- The number of documents that a step inserted. -/
def insertedCount : StepOutcome → Nat
  | .inserted n => n
  | _ => 0

/-- The number of documents that a step modified. -/
def modifiedCount : StepOutcome → Nat
  | .updated outcome => outcome.modified
  | _ => 0

/-- The number of documents that a step deleted; a drop is not counted. -/
def deletedCount : StepOutcome → Nat
  | .deleted n => n
  | _ => 0

end StepOutcome

/-- A step as it was described, and what it did. -/
structure StepReport where
  description : String
  outcome : StepOutcome
  deriving DecidableEq, Repr

/-- What the steps of a plan did, in their order. -/
structure Report where
  steps : List StepReport
  deriving DecidableEq, Repr

namespace Report

/-- What is counted in the outcomes of all steps together. -/
def total (count : StepOutcome → Nat) (r : Report) : Nat := r.steps.foldr (fun s n => count s.outcome + n) 0

/-- The number of documents inserted by all steps. -/
def inserted (r : Report) : Nat := r.total StepOutcome.insertedCount

/-- The number of documents modified by all steps. -/
def modified (r : Report) : Nat := r.total StepOutcome.modifiedCount

/-- The number of documents deleted by all steps. -/
def deleted (r : Report) : Nat := r.total StepOutcome.deletedCount

/-- A report for the log. -/
def summary (r : Report) : String :=
  s!"Seeding complete: {r.steps.length} steps, {r.inserted} inserted, {r.modified} modified, {r.deleted} deleted"

end Report

end Seedbed
