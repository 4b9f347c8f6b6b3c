import Seedbed.Bson.Display
import Seedbed.Bson.Equality

/-!
# Filters and updates

What a change applies to and what it changes. A filter selects every document, or those that hold a given value in a field; an
update sets one field. Both have a form as a document, in which a server is told about them and in which they are shown.
-/

namespace Seedbed

/-- Selects the documents of a collection that a change applies to. -/
inductive Filter where
  /-- Every document. -/
  | all
  /-- The documents that hold the value in the field. -/
  | fieldEquals (field : String) (value : Value)

namespace Filter

/-- The documents with an identifier of 32 bits. -/
def id (n : Int32) : Filter := .fieldEquals "_id" (.int32 n)

/-- The query document of a filter. -/
def query : Filter → Document
  | .all => []
  | .fieldEquals field value => [(field, value)]

/-- Whether a document is selected. -/
def selects : Filter → Document → Bool
  | .all, _ => true
  | .fieldEquals field value, d => d.holds field value

/-- A filter for a reader. -/
def display (f : Filter) : String := f.query.display

end Filter

/-- Sets one field of a document to a value. -/
structure FieldUpdate where
  field : String
  value : Value

namespace FieldUpdate

/-- The update document of an update. -/
def document (u : FieldUpdate) : Document := [("$set", .document [(u.field, u.value)])]

/-- Whether a document holds the value of the update already. -/
def isHeld (u : FieldUpdate) (d : Document) : Bool := d.holds u.field u.value

/-- The document after the update, and whether it was changed: one that holds the same value already stays as it is. -/
def apply (u : FieldUpdate) (d : Document) : Bool × Document :=
  if u.isHeld d then (false, d) else (true, d.set u.field u.value)

/-- An update for a reader. -/
def display (u : FieldUpdate) : String := u.document.display

end FieldUpdate

/-- How many documents an update selected and how many of them it changed. -/
structure UpdateOutcome where
  matched : Nat
  modified : Nat
  deriving DecidableEq, Repr

end Seedbed
