/-!
# Texts from bytes

Reading bytes as a text in UTF-8 where they may be none. Every longest beginning of a character that is not completed, and every
byte that begins no character, is read as the one character that stands for what cannot be read. The bytes that a text takes are
counted by `byteLength`.
-/

namespace Seedbed.Text

/-- The number of bytes of a text in UTF-8. -/
def byteLength : List Char → Nat
  | [] => 0
  | c :: rest => c.utf8Size + byteLength rest

/-- A character of which some bytes have been read: how many are still owed, the least and the greatest byte that the next one may
be, and the bits read so far. -/
structure PartialChar where
  owed : Nat
  least : Nat
  greatest : Nat
  bits : Nat
  deriving DecidableEq, Repr

/-- What stands for bytes that are no character. -/
def replacement : Char := '\ufffd'

/-- What a byte begins: a character that it is on its own, or one that is to be completed, or nothing. -/
def beginChar (b : Nat) : List Char × Option PartialChar :=
  if b < 0x80 then ([Char.ofNat b], none)
  else if 0xc2 ≤ b ∧ b ≤ 0xdf then ([], some ⟨1, 0x80, 0xbf, b - 0xc0⟩)
  else if 0xe0 ≤ b ∧ b ≤ 0xef then
    ([], some ⟨2, if b = 0xe0 then 0xa0 else 0x80, if b = 0xed then 0x9f else 0xbf, b - 0xe0⟩)
  else if 0xf0 ≤ b ∧ b ≤ 0xf4 then
    ([], some ⟨3, if b = 0xf0 then 0x90 else 0x80, if b = 0xf4 then 0x8f else 0xbf, b - 0xf0⟩)
  else ([replacement], none)

/-- What a byte adds to a character that has begun: it is completed, or goes on, or is given up, and the byte begins another
one. -/
def PartialChar.add (p : PartialChar) (b : Nat) : List Char × Option PartialChar :=
  if p.least ≤ b ∧ b ≤ p.greatest then
    let bits := p.bits * 64 + (b - 0x80)
    if p.owed = 1 then ([Char.ofNat bits], none) else ([], some ⟨p.owed - 1, 0x80, 0xbf, bits⟩)
  else
    let (read, next) := beginChar b
    (replacement :: read, next)

/-- The characters of bytes, the first ones of which may complete a character that has begun. -/
def readLossily : Option PartialChar → List UInt8 → List Char
  | none, [] => []
  | some _, [] => [replacement]
  | pending, b :: rest =>
    let (read, next) :=
      match pending with
      | none => beginChar b.toNat
      | some p => p.add b.toNat
    read ++ readLossily next rest

/-- The text of bytes, if they are one. -/
def ofBytes? (bytes : List UInt8) : Option String := String.fromUTF8? (ByteArray.mk bytes.toArray)

/-- The text of bytes, whatever they are. -/
def ofBytesLossy (bytes : List UInt8) : String := String.ofList (readLossily none bytes)

end Seedbed.Text
