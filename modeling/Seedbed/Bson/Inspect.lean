import Seedbed.Bson.Value
import Seedbed.Double.Layout
import Seedbed.Text.Quoted

/-!
# Values for a comparison

The long form of a value, in which two values that are not the same can be told apart: every value has its type, strings are
quoted so that every character can be seen, doubles have all their digits and decimals all their bits.
-/

namespace Seedbed

/-- The kind of a binary value by its subtype. -/
def subtypeName (subtype : UInt8) : String :=
  match subtype.toNat with
  | 0 => "Generic"
  | 1 => "Function"
  | 2 => "BinaryOld"
  | 3 => "UuidOld"
  | 4 => "Uuid"
  | 5 => "Md5"
  | 6 => "Encrypted"
  | 7 => "Column"
  | 8 => "Sensitive"
  | 9 => "Vector"
  | n => if n < 128 then s!"Reserved({n})" else s!"UserDefined({n})"

/-- The two hexadecimal digits of a byte. -/
def byteHex (b : UInt8) : List Char := [Nat.digitChar (b.toNat / 16), Nat.digitChar (b.toNat % 16)]

/-- Texts in brackets, with a comma and a space between them. -/
def inBrackets (parts : List String) : String := "[" ++ String.intercalate ", " parts ++ "]"

/-- Texts in braces, with a comma and a space between them. -/
def inBraces (parts : List String) : String := "\x7b" ++ String.intercalate ", " parts ++ "\x7d"

mutual

/-- The long form of a value. -/
def Value.inspect : Value → String
  | .double x => "Double(" ++ x.render Double.Layout.exact ++ ")"
  | .string s => "String(" ++ Text.quote s ++ ")"
  | .array xs => "Array(" ++ inBrackets (inspectItems xs) ++ ")"
  | .document d => "Document(" ++ inBraces (inspectFields d) ++ ")"
  | .boolean b => if b then "Boolean(true)" else "Boolean(false)"
  | .null => "Null"
  | .regex p o => "Regex \x7b pattern: " ++ Text.quote p ++ ", options: " ++ Text.quote o ++ " \x7d"
  | .code s => "JavaScriptCode(" ++ Text.quote s ++ ")"
  | .scopedCode s d =>
    "JavaScriptCodeWithScope \x7b code: " ++ Text.quote s ++ ", scope: Document(" ++ inBraces (inspectFields d) ++ ") \x7d"
  | .int32 n => "Int32(" ++ toString n.toInt ++ ")"
  | .int64 n => "Int64(" ++ toString n.toInt ++ ")"
  | .timestamp t i => s!"Timestamp \x7b time: {t.toNat}, increment: {i.toNat} \x7d"
  | .binary k bs =>
    "Binary \x7b subtype: " ++ subtypeName k ++ ", bytes: " ++ inBrackets (bs.map (fun b => toString b.toNat)) ++ " \x7d"
  | .objectId i => "ObjectId(\"" ++ i.hex ++ "\")"
  | .pointer a i => "DbPointer \x7b namespace: " ++ Text.quote a ++ ", id: ObjectId(\"" ++ i.hex ++ "\") \x7d"
  | .instant t => "DateTime(" ++ t.render ++ ")"
  | .symbol s => "Symbol(" ++ Text.quote s ++ ")"
  | .decimal x => "Decimal128(" ++ String.ofList (x.bytes.flatMap byteHex) ++ ")"
  | .undefined => "Undefined"
  | .minKey => "MinKey"
  | .maxKey => "MaxKey"

/-- The long forms of the items of an array. -/
def inspectItems : List Value → List String
  | [] => []
  | x :: xs => x.inspect :: inspectItems xs

/-- The long forms of the fields of a document, each after its quoted name. -/
def inspectFields : List (String × Value) → List String
  | [] => []
  | (name, v) :: rest => (Text.quote name ++ ": " ++ v.inspect) :: inspectFields rest

end

end Seedbed
