import Seedbed.Text.Utf8

/-!
# Texts with codes for bytes

A text in which a byte may be written as a percent sign and two hexadecimal digits. A percent sign that begins no such code stands
for itself.
-/

namespace Seedbed.Text

/-- The value of a hexadecimal digit, in either case. -/
def hexValue? (c : Char) : Option Nat :=
  if '0' ≤ c ∧ c ≤ '9' then some (c.toNat - 48)
  else if 'a' ≤ c ∧ c ≤ 'f' then some (c.toNat - 87)
  else if 'A' ≤ c ∧ c ≤ 'F' then some (c.toNat - 55)
  else none

/-- The byte that a percent sign and the characters behind it stand for, if they stand for one. -/
def codedByte? : List Char → Option UInt8
  | '%' :: a :: b :: _ => do
    let high ← hexValue? a
    let low ← hexValue? b
    some (UInt8.ofNat (high * 16 + low))
  | _ => none

/-- The bytes that a text stands for, the first argument telling how many characters at its beginning belong to a code that has
been read. -/
def percentBytes : Nat → List Char → List UInt8
  | _, [] => []
  | skip + 1, _ :: rest => percentBytes skip rest
  | 0, c :: rest =>
    match codedByte? (c :: rest) with
    | some b => b :: percentBytes 2 rest
    | none => c.toString.toUTF8.toList ++ percentBytes 0 rest

/-- The text that a text with codes stands for, if the bytes are a text. -/
def percentDecode? (text : List Char) : Option String := ofBytes? (percentBytes 0 text)

/-- The text that a text with codes stands for, whatever the bytes are. -/
def percentDecodeLossy (text : List Char) : String := ofBytesLossy (percentBytes 0 text)

/-- Whether every percent sign in a text begins a code. -/
def percentsAreCodes : List Char → Bool
  | [] => true
  | c :: rest => (c ≠ '%' || (codedByte? (c :: rest)).isSome) && percentsAreCodes rest

end Seedbed.Text
