import Seedbed.Base64
import Seedbed.Bson.Value
import Seedbed.Decimal128.Printer
import Seedbed.Double.Layout
import Seedbed.Text.Quoted

/-!
# Values for a reader

The short form of a value, as it stands in descriptions and messages: names and strings between quotes as they are, numbers
without their types, and an integer of either width the same.
-/

namespace Seedbed

/-- Texts with a comma and a space between them. -/
def commaSeparated (parts : List String) : String := String.intercalate ", " parts

/-- A text between quotes, as it is. -/
def betweenQuotes (s : String) : String := "\"" ++ s ++ "\""

mutual

/-- The short form of a value. -/
def Value.display : Value → String
  | .double x => x.render Double.Layout.plain
  | .string s => betweenQuotes s
  | .array xs => "[" ++ commaSeparated (displayItems xs) ++ "]"
  | .document [] => "\x7b\x7d"
  | .document d => "\x7b " ++ commaSeparated (displayFields d) ++ " \x7d"
  | .boolean b => if b then "true" else "false"
  | .null => "null"
  | .regex p o => "/" ++ p ++ "/" ++ o
  | .code s => s
  | .scopedCode s _ => s
  | .int32 n => toString n.toInt
  | .int64 n => toString n.toInt
  | .timestamp t i => s!"Timestamp({t.toNat}, {i.toNat})"
  | .binary k bs => "Binary(0x" ++ String.ofList (Text.hexDigits k.toNat) ++ ", " ++ String.ofList (Base64.encode bs) ++ ")"
  | .objectId i => "ObjectId(\"" ++ i.hex ++ "\")"
  | .pointer a i => "DbPointer(" ++ a ++ ", " ++ i.hex ++ ")"
  | .instant t => "DateTime(\"" ++ t.render ++ "\")"
  | .symbol s => "Symbol(\"" ++ s ++ "\")"
  | .decimal x => x.render
  | .undefined => "undefined"
  | .minKey => "MinKey"
  | .maxKey => "MaxKey"

/-- The short forms of the items of an array. -/
def displayItems : List Value → List String
  | [] => []
  | x :: xs => x.display :: displayItems xs

/-- The short forms of the fields of a document, each after its name. -/
def displayFields : List (String × Value) → List String
  | [] => []
  | (name, v) :: rest => (betweenQuotes name ++ ": " ++ v.display) :: displayFields rest

end

/-- The short form of a document. -/
def Document.display (d : Document) : String := (Value.document d).display

end Seedbed
