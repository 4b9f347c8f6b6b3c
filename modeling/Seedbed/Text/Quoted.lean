import Seedbed.Text.Hidden

/-!
# Quoted texts

A text between double quotes in which a reader can see every character: quotes and backslashes are written after a backslash,
the common controls by their letters, and every other hidden character by its code point in hexadecimal.
-/

namespace Seedbed.Text

/-- The lower-case hexadecimal digits of a natural number. -/
def hexDigits (n : Nat) : List Char := Nat.toDigits 16 n

/-- One character as it stands between quotes. -/
def quoteChar (c : Char) : List Char :=
  match c with
  | '"' => ['\\', '"']
  | '\\' => ['\\', '\\']
  | '\n' => ['\\', 'n']
  | '\r' => ['\\', 'r']
  | '\t' => ['\\', 't']
  | '\x00' => ['\\', '0']
  | c => if isHidden c then ['\\', 'u', '\x7b'] ++ hexDigits c.toNat ++ ['\x7d'] else [c]

/-- A text between quotes, every character of it visible. -/
def quote (s : String) : String :=
  String.ofList ('"' :: s.toList.flatMap quoteChar ++ ['"'])

end Seedbed.Text
