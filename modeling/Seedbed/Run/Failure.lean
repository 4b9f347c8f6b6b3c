import Seedbed.Fixture.Literal
import Seedbed.Store.Error
import Seedbed.Store.Namespace

/-!
# Failures of a run

A run of the program fails for a cause and in a context: the cause is what went wrong, the context what the program was at when
it did. In words, the context comes first.
-/

namespace Seedbed

/-- What went wrong. -/
inductive Cause where
  /-- A step names a collection while no database is selected. -/
  | noDatabase (collection : String)
  | store (error : StoreError)
  | fixture (error : FixtureError)

/-- A cause in words. -/
def Cause.message : Cause → String
  | .noDatabase collection => s!"No database selected before using collection '{collection}'"
  | .store error => error.message
  | .fixture error => error.message

/-- What the program was at. -/
inductive Context where
  | connecting
  | planning
  /-- At a step of a plan, the first one having the number 1. -/
  | step (number : Nat) (description : String)
  | expecting
  | reading (ns : Namespace)
  | readingOptions (ns : Namespace)

/-- A context in words. -/
def Context.message : Context → String
  | .connecting => "Failed to connect to MongoDB"
  | .planning => "Failed to build seed plan"
  | .step number description => s!"Seed step {number} failed: " ++ description
  | .expecting => "Failed to build expected probe record"
  | .reading ns => "Failed to read " ++ ns.render
  | .readingOptions ns => "Failed to read collection options of " ++ ns.render

/-- A failure of a run. -/
structure Failure where
  context : Context
  cause : Cause

/-- A failure in words. -/
def Failure.message (failure : Failure) : String := failure.context.message ++ ": " ++ failure.cause.message

end Seedbed
