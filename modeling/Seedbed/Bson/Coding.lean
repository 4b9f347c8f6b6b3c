import Seedbed.Bson.Display
import Seedbed.Bson.Value
import Seedbed.Double.Layout
import Seedbed.Text.Quoted

/-!
# Writing to documents and reading from them

The faults of writing a record as a document and of reading one from it, and the readers of single fields. An integer is read
from either width of integer and from nothing else, a text from a string and from bytes that are one.
-/

namespace Seedbed

/-- Why something cannot be written as BSON. -/
inductive EncodingFault where
  /-- A text with a null byte where the format ends it with one. -/
  | nullByte (text : String)
  /-- A key of a map that is no string. -/
  | mapKey (key : Value)
  /-- A natural number beyond the integers of 64 bits. -/
  | tooLarge (number : Nat)

/-- A fault of writing in words. -/
def EncodingFault.message : EncodingFault → String
  | .nullByte text => "cstrings cannot contain null bytes: " ++ Text.quote text
  | .mapKey key => "Invalid map key type: " ++ key.display
  | .tooLarge n =>
    "BSON does not support unsigned integers.\n                 An attempt to serialize the value: " ++ toString n ++
      " in a signed type failed due to the value's size."

/-- What a value looks like to a reader that expects another kind of value. -/
inductive Found where
  | float (number : Double)
  | integer (number : Int)
  | boolean (truth : Bool)
  | text (text : String)
  | bytes
  | unit
  | sequence
  | map

/-- What was found, in words. -/
def Found.message : Found → String
  | .float x => "floating point `" ++ x.render Double.Layout.fractional ++ "`"
  | .integer n => "integer `" ++ toString n ++ "`"
  | .boolean b => if b then "boolean `true`" else "boolean `false`"
  | .text s => "string " ++ Text.quote s
  | .bytes => "byte array"
  | .unit => "unit value"
  | .sequence => "sequence"
  | .map => "map"

/-- What a value looks like: values that have no counterpart among plain data look like a map. -/
def Value.found : Value → Found
  | .double x => .float x
  | .string s => .text s
  | .array _ => .sequence
  | .boolean b => .boolean b
  | .null => .unit
  | .int32 n => .integer n.toInt
  | .int64 n => .integer n.toInt
  | .binary 0 _ => .bytes
  | _ => .map

/-- Why a record cannot be read from a document. -/
inductive DecodingFault where
  | missingField (name : String)
  | duplicateField (name : String)
  | invalidType (found : Found) (expected : String)
  | invalidValue (found : Found) (expected : String)
  /-- A sequence stands for a record and is too short for it. -/
  | invalidLength (length : Nat) (expected : String)
  /-- A value is not of the one type that it has to be of. -/
  | otherType (expected : String)

/-- A fault of reading in words. -/
def DecodingFault.message : DecodingFault → String
  | .missingField name => "missing field `" ++ name ++ "`"
  | .duplicateField name => "duplicate field `" ++ name ++ "`"
  | .invalidType found expected => "invalid type: " ++ found.message ++ ", expected " ++ expected
  | .invalidValue found expected => "invalid value: " ++ found.message ++ ", expected " ++ expected
  | .invalidLength length expected => "invalid length " ++ toString length ++ ", expected " ++ expected
  | .otherType expected => "expecting " ++ expected

/-- The integer that a value is, whatever its width. -/
def Value.integer? : Value → Option Int
  | .int32 n => some n.toInt
  | .int64 n => some n.toInt
  | _ => none

/-- An integer between two bounds, read from a value; `expected` names what the bounds stand for. -/
def Value.readInteger (low high : Int) (expected : String) (v : Value) : Except DecodingFault Int :=
  match v.integer? with
  | some n => if low ≤ n ∧ n ≤ high then .ok n else .error (.invalidValue (.integer n) expected)
  | none => .error (.invalidType v.found expected)

/-- An integer of 32 bits. -/
def Value.readInt32 (v : Value) : Except DecodingFault Int32 :=
  match v.readInteger (-2147483648) 2147483647 "i32" with
  | .ok n => .ok (Int32.ofInt n)
  | .error fault => .error fault

/-- A count, of at most 64 bits. -/
def Value.readCount (v : Value) : Except DecodingFault Nat :=
  match v.readInteger 0 18446744073709551615 "u64" with
  | .ok n => .ok n.toNat
  | .error fault => .error fault

/-- A place in a sequence, of at most 64 bits. -/
def Value.readIndex (v : Value) : Except DecodingFault Nat :=
  match v.readInteger 0 18446744073709551615 "usize" with
  | .ok n => .ok n.toNat
  | .error fault => .error fault

/-- A text: a string, or the bytes of one. -/
def Value.readText : Value → Except DecodingFault String
  | .string s => .ok s
  | .binary 0 bytes =>
    match String.fromUTF8? (ByteArray.mk bytes.toArray) with
    | some s => .ok s
    | none => .error (.invalidValue .bytes "a string")
  | v => .error (.invalidType v.found "a string")

end Seedbed
