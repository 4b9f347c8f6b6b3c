/-!
# Base64 with the standard alphabet

Bytes as a text of letters of six bits each. Three bytes make four letters; one or two bytes at the end make two or three
letters, whose unused bits are zero, and `=` pads them to four. Writing is `encode`. Reading, `decode`, accepts exactly the
texts that writing produces and says of every other text where it goes wrong: texts are read as bytes, four at a time, and the
first byte that cannot stand where it stands is reported with its offset.
-/

namespace Seedbed.Base64

/-- Why a text is not the base64 of any bytes. -/
inductive Fault where
  /-- A byte that is no letter, or a pad where none may stand. -/
  | symbol (byte : UInt8) (offset : Nat)
  /-- A last letter with bits set that belong to no byte. -/
  | lastSymbol (byte : UInt8) (offset : Nat)
  /-- A single letter at the end, which is less than a byte. -/
  | length (count : Nat)
  /-- Pads that do not fill up the last four letters. -/
  | padding
  deriving DecidableEq, Repr

/-- A fault in words. -/
def Fault.message : Fault → String
  | .symbol byte offset => s!"Invalid symbol {byte.toNat}, offset {offset}."
  | .lastSymbol byte offset => s!"Invalid last symbol {byte.toNat}, offset {offset}."
  | .length count => s!"Invalid input length: {count}"
  | .padding => "Invalid padding"

/-- The pad, an equals sign. -/
def pad : UInt8 := 61

/-- The letter of six bits. -/
def letter (n : Nat) : Char :=
  if n < 26 then Char.ofNat (n + 65)
  else if n < 52 then Char.ofNat (n + 71)
  else if n < 62 then Char.ofNat (n - 4)
  else if n == 62 then '+'
  else '/'

/-- The six bits of a letter, and none of any other byte. -/
def letterValue? (b : UInt8) : Option Nat :=
  let n := b.toNat
  if 65 ≤ n ∧ n ≤ 90 then some (n - 65)
  else if 97 ≤ n ∧ n ≤ 122 then some (n - 71)
  else if 48 ≤ n ∧ n ≤ 57 then some (n + 4)
  else if n = 43 then some 62
  else if n = 47 then some 63
  else none

/-- The text of bytes. -/
def encode : List UInt8 → List Char
  | a :: b :: c :: rest =>
    let n := a.toNat * 65536 + b.toNat * 256 + c.toNat
    letter (n / 262144) :: letter (n / 4096 % 64) :: letter (n / 64 % 64) :: letter (n % 64) :: encode rest
  | [a, b] =>
    let n := a.toNat * 1024 + b.toNat * 4
    [letter (n / 4096), letter (n / 64 % 64), letter (n % 64), '=']
  | [a] =>
    let n := a.toNat * 16
    [letter (n / 64), letter (n % 64), '=', '=']
  | [] => []

/-- What the bytes after the last full group have been read as: the values of the letters in their order, the last letter, and
the offset and number of the pads after them. -/
structure Tail where
  values : List Nat
  last : UInt8
  firstPad : Nat
  pads : Nat

/-- The bytes of the last group read one by one, `place` being the position in the group and `offset` that of the byte in the
text. A pad may stand from the third place on, and nothing but pads may follow it. -/
def Tail.read (offset place : Nat) (t : Tail) : List UInt8 → Except Fault Tail
  | [] => .ok t
  | b :: rest =>
    if b = pad then
      if place < 2 then .error (.symbol b offset)
      else
        Tail.read (offset + 1) (place + 1)
          { t with firstPad := if t.pads = 0 then offset else t.firstPad, pads := t.pads + 1 } rest
    else if t.pads ≠ 0 then .error (.symbol pad t.firstPad)
    else
      match letterValue? b with
      | none => .error (.symbol b offset)
      | some v => Tail.read (offset + 1) (place + 1) { t with values := t.values ++ [v], last := b } rest

/-- The bytes that letters of a last group stand for, together with the bits that are left over. -/
def tailBytes : List Nat → List UInt8 × Nat
  | [v, w] => ([UInt8.ofNat (v * 4 + w / 16)], w % 16)
  | [v, w, x] => ([UInt8.ofNat (v * 4 + w / 16), UInt8.ofNat (w % 16 * 16 + x / 4)], x % 4)
  | [v, w, x, y] =>
    ([UInt8.ofNat (v * 4 + w / 16), UInt8.ofNat (w % 16 * 16 + x / 4), UInt8.ofNat (x % 4 * 64 + y)], 0)
  | _ => ([], 0)

/-- The last group of a text, of at most four bytes, the first of them at `offset`. -/
def decodeTail (offset : Nat) (group : List UInt8) : Except Fault (List UInt8) :=
  if group = [] then .ok []
  else
    match Tail.read offset 0 ⟨[], 0, 0, 0⟩ group with
    | .error fault => .error fault
    | .ok t =>
      if t.values.length < 2 then .error (.length (offset + t.values.length))
      else if (t.pads + t.values.length) % 4 ≠ 0 then .error .padding
      else
        let (bytes, spare) := tailBytes t.values
        if spare ≠ 0 then .error (.lastSymbol t.last (offset + t.values.length - 1)) else .ok bytes

/-- The values of four letters, or the first of them that is none. -/
def quad (offset : Nat) (a b c d : UInt8) : Except Fault (List UInt8) :=
  match letterValue? a, letterValue? b, letterValue? c, letterValue? d with
  | none, _, _, _ => .error (.symbol a offset)
  | some _, none, _, _ => .error (.symbol b (offset + 1))
  | some _, some _, none, _ => .error (.symbol c (offset + 2))
  | some _, some _, some _, none => .error (.symbol d (offset + 3))
  | some v, some w, some x, some y => .ok (tailBytes [v, w, x, y]).1

/-- The groups of a text: every group with something after it consists of four letters. -/
def decodeGroups (offset : Nat) : List UInt8 → Except Fault (List UInt8)
  | a :: b :: c :: d :: e :: rest =>
    match quad offset a b c d with
    | .error fault => .error fault
    | .ok front =>
      match decodeGroups (offset + 4) (e :: rest) with
      | .error fault => .error fault
      | .ok back => .ok (front ++ back)
  | group => decodeTail offset group

/-- A byte left over at the end that is neither a letter nor a pad, such as the end of a line; it is reported before anything
else. -/
def strayEnd (text : List UInt8) : Option Fault :=
  if text.length % 4 = 1 then
    match text.getLast? with
    | some b => if b ≠ pad ∧ letterValue? b = none then some (.symbol b (text.length - 1)) else none
    | none => none
  else none

/-- The bytes of a text, which is given by its bytes. -/
def decode (text : List UInt8) : Except Fault (List UInt8) :=
  match strayEnd text with
  | some fault => .error fault
  | none => decodeGroups 0 text

end Seedbed.Base64
