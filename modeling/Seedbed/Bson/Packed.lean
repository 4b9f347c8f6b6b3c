import Seedbed.Bson.Inspect

/-!
# Packed values

The bytes that a document is packed into: its length in four bytes, its fields, and a zero. A field is a byte for the type of its
value, its name with a zero behind it, and the bytes of the value; an array is packed like a document whose names are the numbers
of its items. Numbers have their least significant byte first. A packed value can be shown without unpacking what it holds.
-/

namespace Seedbed

/-- The lowest bytes of a number, the least significant one first. -/
def lowBytes : Nat → Nat → List UInt8
  | 0, _ => []
  | width + 1, n => UInt8.ofNat n :: lowBytes width (n / 256)

/-- The bytes of a text. -/
def textBytes (s : String) : List UInt8 := s.toUTF8.toList

/-- A text that a zero ends. -/
def zeroEnded (s : String) : List UInt8 := textBytes s ++ [0]

/-- A text with its length in front, which counts the zero at its end. -/
def measured (s : String) : List UInt8 := lowBytes 4 ((textBytes s).length + 1) ++ zeroEnded s

/-- The packed form of something whose fields are packed. -/
def enclosed (fields : List UInt8) : List UInt8 := lowBytes 4 (fields.length + 5) ++ fields ++ [0]

/-- The byte for the type of a value. -/
def Value.tag : Value → UInt8
  | .double _ => 0x01
  | .string _ => 0x02
  | .document _ => 0x03
  | .array _ => 0x04
  | .binary _ _ => 0x05
  | .undefined => 0x06
  | .objectId _ => 0x07
  | .boolean _ => 0x08
  | .instant _ => 0x09
  | .null => 0x0a
  | .regex _ _ => 0x0b
  | .pointer _ _ => 0x0c
  | .code _ => 0x0d
  | .symbol _ => 0x0e
  | .scopedCode _ _ => 0x0f
  | .int32 _ => 0x10
  | .timestamp _ _ => 0x11
  | .int64 _ => 0x12
  | .decimal _ => 0x13
  | .maxKey => 0x7f
  | .minKey => 0xff

mutual

/-- The bytes of a value. -/
def Value.packed : Value → List UInt8
  | .double x => lowBytes 8 x.bits.toNat
  | .string s => measured s
  | .array xs => enclosed (packItems 0 xs)
  | .document d => enclosed (packFields d)
  | .boolean b => [if b then 1 else 0]
  | .null => []
  | .regex p o => zeroEnded p ++ zeroEnded o
  | .code s => measured s
  | .scopedCode s d =>
    let content := measured s ++ enclosed (packFields d)
    lowBytes 4 (content.length + 4) ++ content
  | .int32 n => lowBytes 4 n.toUInt32.toNat
  | .int64 n => lowBytes 8 n.toUInt64.toNat
  | .timestamp t i => lowBytes 4 i.toNat ++ lowBytes 4 t.toNat
  | .binary k bs =>
    if k = 2 then lowBytes 4 (bs.length + 4) ++ [k] ++ lowBytes 4 bs.length ++ bs else lowBytes 4 bs.length ++ [k] ++ bs
  | .objectId i => (lowBytes 12 i.bits.toNat).reverse
  | .pointer a i => measured a ++ (lowBytes 12 i.bits.toNat).reverse
  | .instant t => lowBytes 8 t.millis.toUInt64.toNat
  | .symbol s => measured s
  | .decimal x => x.bytes
  | .undefined => []
  | .minKey => []
  | .maxKey => []

/-- The bytes of the items of an array from the given number on. -/
def packItems : Nat → List Value → List UInt8
  | _, [] => []
  | number, x :: xs => x.tag :: zeroEnded (toString number) ++ x.packed ++ packItems (number + 1) xs

/-- The bytes of the fields of a document. -/
def packFields : List (String × Value) → List UInt8
  | [] => []
  | (name, v) :: rest => v.tag :: zeroEnded name ++ v.packed ++ packFields rest

end

/-- The bytes of a value as hexadecimal digits between quotes. -/
def Value.packedHex (v : Value) : String := Text.quote (String.ofList (v.packed.flatMap byteHex))

/-- The form in which a packed value is shown: like the long form, but every value is named by its type, and documents and arrays
are their bytes. -/
def Value.inspectPacked : Value → String
  | .array xs => "Array(RawArray \x7b data: " ++ (Value.array xs).packedHex ++ " \x7d)"
  | .document d => "Document(RawDocument \x7b data: " ++ (Value.document d).packedHex ++ " \x7d)"
  | .regex p o =>
    "RegularExpression(RawRegexRef \x7b pattern: " ++ Text.quote p ++ ", options: " ++ Text.quote o ++ " \x7d)"
  | .scopedCode s d =>
    "JavaScriptCodeWithScope(RawJavaScriptCodeWithScopeRef \x7b code: " ++ Text.quote s ++ ", scope: RawDocument \x7b data: " ++
      (Value.document d).packedHex ++ " \x7d \x7d)"
  | .timestamp t i => "Timestamp(" ++ (Value.timestamp t i).inspect ++ ")"
  | .binary k bs =>
    "Binary(RawBinaryRef \x7b subtype: " ++ subtypeName k ++ ", bytes: " ++ inBrackets (bs.map (fun b => toString b.toNat)) ++
      " \x7d)"
  | .objectId i => "ObjectId(" ++ (Value.objectId i).inspect ++ ")"
  | .pointer a i =>
    "DbPointer(RawDbPointerRef \x7b namespace: " ++ Text.quote a ++ ", id: " ++ (Value.objectId i).inspect ++ " \x7d)"
  | .instant t => "DateTime(" ++ (Value.instant t).inspect ++ ")"
  | .decimal x => "Decimal128(" ++ (Value.decimal x).inspect ++ ")"
  | v => v.inspect

end Seedbed
