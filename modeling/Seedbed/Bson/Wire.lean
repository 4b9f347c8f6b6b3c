import Seedbed.Bson.Coding

/-!
# Documents on their way to a server

What happens to a document that is sent. A name, and the pattern and the options of a regular expression, end at a null byte, so
that none may be in them; the options of a regular expression come out in alphabetical order. All else arrives as it is.
-/

namespace Seedbed

/-- The options of a regular expression in alphabetical order. -/
def sortedOptions (options : String) : String := String.ofList (options.toList.mergeSort (fun a b => a.toNat ≤ b.toNat))

/-- The text itself, if a null byte is in it. -/
def withNull? (text : String) : Option String := if text.toList.contains '\x00' then some text else none

mutual

/-- A value as it arrives. -/
def Value.sent : Value → Value
  | .array xs => .array (sentItems xs)
  | .document d => .document (sentFields d)
  | .regex p o => .regex p (sortedOptions o)
  | .scopedCode s d => .scopedCode s (sentFields d)
  | v => v

/-- The items of an array as they arrive. -/
def sentItems : List Value → List Value
  | [] => []
  | x :: xs => x.sent :: sentItems xs

/-- The fields of a document as they arrive. -/
def sentFields : List (String × Value) → List (String × Value)
  | [] => []
  | (name, v) :: rest => (name, v.sent) :: sentFields rest

end

mutual

/-- The first text in a value that a null byte keeps from being sent. -/
def Value.unsendable? : Value → Option String
  | .array xs => unsendableItem? xs
  | .document d => unsendableField? d
  | .regex p o => (withNull? p).or (withNull? (sortedOptions o))
  | .scopedCode _ d => unsendableField? d
  | _ => none

/-- The first such text in the items of an array. -/
def unsendableItem? : List Value → Option String
  | [] => none
  | x :: xs => x.unsendable?.or (unsendableItem? xs)

/-- The first such text in the fields of a document, names among them. -/
def unsendableField? : List (String × Value) → Option String
  | [] => none
  | (name, v) :: rest => ((withNull? name).or v.unsendable?).or (unsendableField? rest)

end

namespace Document

/-- A document as it arrives. -/
def sent (d : Document) : Document := sentFields d

/-- Whether a document can be sent. -/
def checkSendable (d : Document) : Except EncodingFault Unit :=
  match unsendableField? d with
  | some text => .error (.nullByte text)
  | none => .ok ()

end Document

end Seedbed
