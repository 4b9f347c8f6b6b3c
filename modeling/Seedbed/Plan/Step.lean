import Seedbed.Store.Filter

/-!
# Steps of a plan

A plan is a list of steps. A step selects a database, or does something to a collection of the database that was selected last;
it names its collection, and the address of the collection depends on where in the plan the step stands.
-/

namespace Seedbed

/-- One step of a plan. -/
inductive Step where
  /-- Selects the database of the steps after it. -/
  | use (database : String)
  | drop (collection : String)
  | insert (collection : String) (documents : List Document)
  | enableImages (collection : String)
  | update (collection : String) (filter : Filter) (change : FieldUpdate)
  | deleteOne (collection : String) (filter : Filter)
  | deleteMany (collection : String) (filter : Filter)

/-- The steps of a plan in their order. -/
abbrev Plan := List Step

namespace Step

/-- The name of the collection of a step; none if it selects a database. -/
def collection? : Step → Option String
  | .use _ => none
  | .drop c => some c
  | .insert c _ => some c
  | .enableImages c => some c
  | .update c _ _ => some c
  | .deleteOne c _ => some c
  | .deleteMany c _ => some c

/-- A step for a reader. -/
def display : Step → String
  | .use database => "use " ++ database
  | .drop c => "drop " ++ c
  | .insert c documents => "insert " ++ toString documents.length ++ " documents into " ++ c
  | .enableImages c => "enable pre/post images on " ++ c
  | .update c f u => "update one in " ++ c ++ " where " ++ f.display ++ " with " ++ u.display
  | .deleteOne c f => "delete one from " ++ c ++ " where " ++ f.display
  | .deleteMany c f => "delete many from " ++ c ++ " where " ++ f.display

end Step

/-- Whether two filters are the same, their values being compared as values. -/
def Filter.same : Filter → Filter → Bool
  | .all, .all => true
  | .fieldEquals field v, .fieldEquals other w => field == other && v.same w
  | _, _ => false

/-- Whether two updates are the same, their values being compared as values. -/
def FieldUpdate.same (u v : FieldUpdate) : Bool := u.field == v.field && u.value.same v.value

/-- Whether two lists hold the same documents in the same order. -/
def sameDocuments : List Document → List Document → Bool
  | [], [] => true
  | d :: ds, e :: es => d.same e && sameDocuments ds es
  | _, _ => false

/-- Whether two steps are the same, the values in them being compared as values. -/
def Step.same : Step → Step → Bool
  | .use d, .use e => d == e
  | .drop c, .drop d => c == d
  | .insert c ds, .insert d es => c == d && sameDocuments ds es
  | .enableImages c, .enableImages d => c == d
  | .update c f u, .update d g v => c == d && f.same g && u.same v
  | .deleteOne c f, .deleteOne d g => c == d && f.same g
  | .deleteMany c f, .deleteMany d g => c == d && f.same g
  | _, _ => false

end Seedbed
