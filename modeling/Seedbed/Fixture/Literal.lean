import Seedbed.Base64
import Seedbed.Bson.Coding
import Seedbed.Decimal128.Printer
import Seedbed.Decimal128.Reader
import Seedbed.Instant.Rfc3339

/-!
# Literals of fixture records

Values that are given as texts: decimals, instants and bytes. A literal is refused when it cannot be read, and a decimal also
when it is not its own printed form, for then the value would be stored with another precision than it was written with.
-/

namespace Seedbed

/-- Why a literal does not stand for the value of a field. -/
inductive LiteralFault where
  | decimal (fault : Decimal128.ReadFault)
  /-- The decimal can be read, but prints as another text. -/
  | rounds (printed : String)
  | instant (fault : Rfc3339.Fault)
  | base64 (fault : Base64.Fault)
  | stated (reason : String)

/-- A fault of a literal in words. -/
def LiteralFault.message : LiteralFault → String
  | .decimal fault => fault.message
  | .rounds printed => "Decimal128 rounds it to " ++ printed
  | .instant fault => fault.message
  | .base64 fault => fault.message
  | .stated reason => reason

/-- Why a fixture record cannot be made. -/
inductive FixtureError where
  | representation (field literal : String) (fault : LiteralFault)
  | encoding (fault : EncodingFault)

/-- An error of fixture records in words. -/
def FixtureError.message : FixtureError → String
  | .representation field literal fault => s!"Field '{field}' cannot represent '{literal}': " ++ fault.message
  | .encoding fault => "BSON encoding error: " ++ fault.message

namespace Fixture

/-- The bytes of a text in UTF-8. -/
def utf8 (text : List Char) : List UInt8 := text.flatMap String.utf8EncodeChar

/-- The decimal of a literal, which has to be the printed form of that decimal. -/
def decimal (field literal : String) : Except FixtureError Value :=
  match Decimal128.read literal.toList with
  | .error fault => .error (.representation field literal (.decimal fault))
  | .ok d =>
    if d.print = literal.toList then .ok (.decimal d)
    else .error (.representation field literal (.rounds d.render))

/-- The instant of a literal, its digits below a millisecond being cut off. -/
def instant (field literal : String) : Except FixtureError Value :=
  match Rfc3339.read literal.toList with
  | .error fault => .error (.representation field literal (.instant fault))
  | .ok t => .ok (.instant t)

/-- The bytes of a literal in base64, as a binary value of the generic subtype. -/
def binary (field literal : String) : Except FixtureError Value :=
  match Base64.decode (utf8 literal.toList) with
  | .error fault => .error (.representation field literal (.base64 fault))
  | .ok bytes => .ok (.binary 0 bytes)

end Fixture

end Seedbed
