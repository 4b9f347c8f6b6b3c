import Seedbed.Text.Quoted

/-!
# JSON for a reader

Values of JSON and their indented form: every item of an array and every member of an object stands on a line of its own, two
spaces further in than what it belongs to. Numbers are given by their digits.
-/

namespace Seedbed

/-- A value of JSON; the members of an object are in their order. -/
inductive Json where
  | null
  | boolean (truth : Bool)
  | number (digits : String)
  | string (text : String)
  | array (items : List Json)
  | object (members : List (String × Json))

namespace Json

/-- One character as it stands in a string. -/
def escapeChar (c : Char) : List Char :=
  match c with
  | '"' => ['\\', '"']
  | '\\' => ['\\', '\\']
  | '\x08' => ['\\', 'b']
  | '\x0c' => ['\\', 'f']
  | '\n' => ['\\', 'n']
  | '\r' => ['\\', 'r']
  | '\t' => ['\\', 't']
  | c =>
    if c.toNat < 32 then ['\\', 'u', '0', '0', Nat.digitChar (c.toNat / 16), Nat.digitChar (c.toNat % 16)] else [c]

/-- A string between quotes. -/
def quote (s : String) : String := String.ofList ('"' :: s.toList.flatMap escapeChar ++ ['"'])

/-- The beginning of a line at a depth. -/
def newline (depth : Nat) : String := String.ofList ('\n' :: List.replicate (2 * depth) ' ')

/-- Parts at a depth between two brackets, each on a line of its own. -/
def block (depth : Nat) (opening closing : String) (parts : List String) : String :=
  match parts with
  | [] => opening ++ closing
  | parts =>
    opening ++ newline (depth + 1) ++ String.intercalate ("," ++ newline (depth + 1)) parts ++ newline depth ++ closing

mutual

/-- The indented form of a value at a depth. -/
def renderAt (depth : Nat) : Json → String
  | .null => "null"
  | .boolean b => if b then "true" else "false"
  | .number digits => digits
  | .string s => quote s
  | .array items => block depth "[" "]" (renderItems (depth + 1) items)
  | .object members => block depth "\x7b" "\x7d" (renderMembers (depth + 1) members)

/-- The indented forms of the items of an array. -/
def renderItems (depth : Nat) : List Json → List String
  | [] => []
  | x :: xs => renderAt depth x :: renderItems depth xs

/-- The indented forms of the members of an object, each after its name. -/
def renderMembers (depth : Nat) : List (String × Json) → List String
  | [] => []
  | (name, x) :: rest => (quote name ++ ": " ++ renderAt depth x) :: renderMembers depth rest

end

/-- The indented form of a value. -/
def render (x : Json) : String := renderAt 0 x

end Json

end Seedbed
