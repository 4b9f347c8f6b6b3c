import Seedbed.Bson.Value

/-!
# Kinds of values

The type of a value by its name, and the readers of fields that have to be there and have to be of a given type.
-/

namespace Seedbed

/-- The name of the type of a value. -/
def Value.kind : Value → String
  | .double _ => "Double"
  | .string _ => "String"
  | .array _ => "Array"
  | .document _ => "EmbeddedDocument"
  | .boolean _ => "Boolean"
  | .null => "Null"
  | .regex _ _ => "RegularExpression"
  | .code _ => "JavaScriptCode"
  | .scopedCode _ _ => "JavaScriptCodeWithScope"
  | .int32 _ => "Int32"
  | .int64 _ => "Int64"
  | .timestamp _ _ => "Timestamp"
  | .binary _ _ => "Binary"
  | .objectId _ => "ObjectId"
  | .pointer _ _ => "DbPointer"
  | .instant _ => "DateTime"
  | .symbol _ => "Symbol"
  | .decimal _ => "Decimal128"
  | .undefined => "Undefined"
  | .minKey => "MinKey"
  | .maxKey => "MaxKey"

/-- Why a field has not the value that it is asked for. -/
inductive AccessFault where
  | notPresent (name : String)
  | unexpectedKind (name expected actual : String)
  deriving DecidableEq, Repr

/-- A fault of a field in words. -/
def AccessFault.message : AccessFault → String
  | .notPresent name => "error at key: \"" ++ name ++ "\": value not present"
  | .unexpectedKind name expected actual =>
    "error at key: \"" ++ name ++ "\":  unexpected element type: " ++ actual ++ ", expected: " ++ expected

/-- The document that a value is, if it is one. -/
def Value.document? : Value → Option Document
  | .document d => some d
  | _ => none

/-- The items of the array that a value is, if it is one. -/
def Value.array? : Value → Option (List Value)
  | .array xs => some xs
  | _ => none

/-- The text that a value is, if it is one. -/
def Value.string? : Value → Option String
  | .string s => some s
  | _ => none

/-- The integer of 64 bits that a value is, if it is one. -/
def Value.int64? : Value → Option Int64
  | .int64 n => some n
  | _ => none

/-- The truth value that a value is, if it is one. -/
def Value.boolean? : Value → Option Bool
  | .boolean b => some b
  | _ => none

namespace Document

/-- The value of a field as `read` sees it, which is named `expected`. -/
def require {α : Type} (read : Value → Option α) (expected : String) (d : Document) (name : String) : Except AccessFault α :=
  match d.get? name with
  | none => .error (.notPresent name)
  | some v =>
    match read v with
    | none => .error (.unexpectedKind name expected v.kind)
    | some a => .ok a

end Document

end Seedbed
