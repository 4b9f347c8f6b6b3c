import Seedbed.Base64
import Seedbed.Bson.Inspect
import Seedbed.Bson.Value
import Seedbed.Decimal128.Printer
import Seedbed.Double.Layout
import Seedbed.Json.Basic

/-!
# BSON as extended JSON

The relaxed form of the extended JSON for BSON. Numbers, strings, truth values and null are themselves; a value of any other type
is an object whose one member is named for the type. Instants are written as dates from 1970 to the year 9999, and otherwise as
their milliseconds.
-/

namespace Seedbed

namespace Json

/-- An object with one member. -/
def tagged (tag : String) (x : Json) : Json := .object [(tag, x)]

/-- A finite double, or a word for one that is not. -/
def ofDouble (x : Double) : Json :=
  if x.isNaN then tagged "$numberDouble" (.string "NaN")
  else if x.isInfinite then tagged "$numberDouble" (.string (if x.negative then "-Infinity" else "Infinity"))
  else .number (x.render Double.Layout.json)

/-- The fraction of a second of an instant, nothing for a whole second. -/
def fractionMark (t : Instant) : List Char :=
  if t.millisOfDay % 1000 = 0 then [] else '.' :: Instant.fractionText (t.millisOfDay % 1000)

/-- An instant. -/
def ofInstant (t : Instant) : Json :=
  if 0 ≤ t.millis.toInt ∧ t.date.year ≤ 9999 then
    tagged "$date" (.string (String.ofList (t.dayAndTime 2 'T' ++ fractionMark t ++ ['Z'])))
  else tagged "$date" (tagged "$numberLong" (.string (toString t.millis.toInt)))

/-- The options of a regular expression in alphabetical order. -/
def sortedOptions (options : String) : String := String.ofList (options.toList.mergeSort (fun a b => a ≤ b))

mutual

/-- The relaxed form of a value. -/
def ofValue : Value → Json
  | .double x => ofDouble x
  | .string s => .string s
  | .array xs => .array (ofItems xs)
  | .document d => .object (ofFields d)
  | .boolean b => .boolean b
  | .null => .null
  | .regex pattern options =>
    tagged "$regularExpression" (.object [("pattern", .string pattern), ("options", .string (sortedOptions options))])
  | .code s => tagged "$code" (.string s)
  | .scopedCode s scope => .object [("$code", .string s), ("$scope", .object (ofFields scope))]
  | .int32 n => .number (toString n.toInt)
  | .int64 n => .number (toString n.toInt)
  | .timestamp t i =>
    tagged "$timestamp" (.object [("t", .number (toString t.toNat)), ("i", .number (toString i.toNat))])
  | .binary subtype bytes =>
    tagged "$binary" (.object [("base64", .string (String.ofList (Base64.encode bytes))),
      ("subType", .string (String.ofList (byteHex subtype)))])
  | .objectId id => tagged "$oid" (.string id.hex)
  | .pointer address id =>
    tagged "$dbPointer" (.object [("$ref", .string address), ("$id", tagged "$oid" (.string id.hex))])
  | .instant t => ofInstant t
  | .symbol s => tagged "$symbol" (.string s)
  | .decimal x => tagged "$numberDecimal" (.string x.render)
  | .undefined => tagged "$undefined" (.boolean true)
  | .minKey => tagged "$minKey" (.number "1")
  | .maxKey => tagged "$maxKey" (.number "1")

/-- The relaxed forms of the items of an array. -/
def ofItems : List Value → List Json
  | [] => []
  | x :: xs => ofValue x :: ofItems xs

/-- The relaxed forms of the fields of a document. -/
def ofFields : List (String × Value) → List (String × Json)
  | [] => []
  | (name, v) :: rest => (name, ofValue v) :: ofFields rest

end

end Json

end Seedbed
