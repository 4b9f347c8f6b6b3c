import Seedbed.Server.ConnectionString.Fault
import Seedbed.Text.Numeral
import Seedbed.Text.Percent
import Seedbed.Text.Split

/-!
# Addresses of servers

A server is reached at a host, which may have a number behind a colon, or at a socket in the file system. A host in brackets is an
address of the sixth version of the protocol: eight groups of hexadecimal digits, of which one run may be left out, and the last
two of which may be written as an address of the fourth version.
-/

namespace Seedbed.ConnectionString

/-- Where a server is reached. -/
inductive Address where
  | socket (path : String)
  | host (name : String) (number : Option Nat)
  deriving DecidableEq, Repr

/-- Whether a text is one of the four numbers of an address of the fourth version. -/
def isQuarter (text : List Char) : Bool :=
  text.length ≤ 3 && (text.head? ≠ some '0' || text.length == 1) && text.head? ≠ some '+' &&
    (Text.readNatural 255 text).toOption.isSome

/-- Whether a text is an address of the fourth version. -/
def isQuadruple (text : List Char) : Bool :=
  let parts := Text.splitAll '.' text
  parts.length == 4 && parts.all isQuarter

/-- Whether a text is a group of an address of the sixth version. -/
def isGroup (text : List Char) : Bool :=
  text ≠ [] && text.length ≤ 4 && text.all (fun c => (Text.hexValue? c).isSome)

/-- The number of groups that parts make up, the last one of which may be two groups if `tail`. -/
def groupCount? (tail : Bool) : List (List Char) → Option Nat
  | [] => some 0
  | [last] => if isGroup last then some 1 else if tail && isQuadruple last then some 2 else none
  | part :: rest => if isGroup part then (groupCount? tail rest).map (· + 1) else none

/-- The number of groups of a text, none for the empty one. -/
def groupsOf? (tail : Bool) (text : List Char) : Option Nat :=
  if text = [] then some 0 else groupCount? tail (Text.splitAll ':' text)

/-- The parts of a text before and after the first two colons in a row. -/
def splitGap? : List Char → Option (List Char × List Char)
  | ':' :: ':' :: rest => some ([], rest)
  | c :: rest => (splitGap? rest).map (fun (before, after) => (c :: before, after))
  | [] => none

/-- Whether a text is an address of the sixth version. -/
def isLiteral (text : List Char) : Bool :=
  match splitGap? text with
  | none => text ≠ [] && groupsOf? true text == some 8
  | some (before, after) =>
    match groupsOf? false before, groupsOf? true after with
    | some head, some rest => head + rest ≤ 7
    | _, _ => false

/-- The host of an address and the text of its number, if it has one. -/
def splitHost (text : List Char) : Except AddressFault (List Char × Option (List Char)) :=
  match text with
  | '[' :: rest =>
    match Text.splitFirst? ']' rest with
    | none => .error .openBracket
    | some (host, after) =>
      if !isLiteral host then .error .noLiteral
      else
        match after with
        | [] => .ok (host, none)
        | ':' :: number => .ok (host, some number)
        | stray => .error (.stray (String.ofList stray))
  | text =>
    match Text.splitFirst? ':' text with
    | some (host, number) => .ok (host, some number)
    | none => .ok (text, none)

/-- The number in an address, of sixteen bits and not zero. -/
def readNumber (text : List Char) : Except AddressFault Nat :=
  match Text.readNatural 65535 text with
  | .ok (n + 1) => .ok (n + 1)
  | _ => .error (.invalidNumber (String.ofList text))

/-- The host of a text and its number. -/
def readHost (text : List Char) : Except AddressFault Address := do
  let (host, number) ← splitHost text
  if host = [] then .error .noHost
  else
    match number with
    | none => .ok (.host (String.ofList host) none)
    | some number => .ok (.host (String.ofList host) (some (← readNumber number)))

/-- The address of a text; one that ends like a file of a socket is that of a socket. -/
def readAddress (text : List Char) : Except Fault Address :=
  if ".sock".toList.isSuffixOf text then
    match Text.percentDecode? text with
    | some path => .ok (.socket path)
    | none => .error (.notEncoded "unix domain sockets")
  else
    match readHost text with
    | .ok address => .ok address
    | .error fault => .error (.noAddress (String.ofList text) fault)

end Seedbed.ConnectionString
