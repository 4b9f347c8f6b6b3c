import Seedbed.Bson.Equality
import Seedbed.Bson.Inspect

/-!
# Comparing documents

The differences between a document and the one that is expected. A field differs if only one of the two documents has it or if
its values are not the same; differences in the fields of the expected document come first, in its order, and then the fields
that the other one has beyond those.
-/

namespace Seedbed

/-- A difference between two documents. -/
inductive Mismatch where
  | value (field : String) (expected actual : Value)
  | missing (field : String)
  | unexpected (field : String)

namespace Mismatch

/-- The field that differs. -/
def field : Mismatch → String
  | .value name _ _ => name
  | .missing name => name
  | .unexpected name => name

/-- A difference in words. -/
def message : Mismatch → String
  | .value name expected actual =>
    "field '" ++ name ++ "': expected " ++ expected.inspect ++ ", got " ++ actual.inspect
  | .missing name => "field '" ++ name ++ "' is missing"
  | .unexpected name => "unexpected field '" ++ name ++ "'"

end Mismatch

namespace Document

/-- How a field of the expected document differs, if it does. -/
def mismatchAt (actual : Document) (name : String) (expected : Value) : Option Mismatch :=
  match actual.get? name with
  | some v => if v.same expected then none else some (.value name expected v)
  | none => some (.missing name)

/-- The differences between the document that is expected and another one. -/
def compare (expected actual : Document) : List Mismatch :=
  expected.filterMap (fun (name, v) => actual.mismatchAt name v) ++
    (actual.names.filter (fun name => !expected.has name)).map Mismatch.unexpected

end Document

end Seedbed
