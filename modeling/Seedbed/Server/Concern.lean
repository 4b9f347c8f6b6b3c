import Seedbed.Bson.Value

/-!
# What is asked of writing and reading

How far a write must have got before it is confirmed, and how much of what has been written a reader sees. Where nothing is asked,
the server decides.
-/

namespace Seedbed

/-- Who has to confirm a write: so many members of a cluster, or those that a name stands for. -/
inductive Acknowledgment where
  | members (count : Nat)
  | named (name : String)
  deriving DecidableEq, Repr

/-- What is asked of a write: who confirms it, within how many milliseconds, and whether it has to be in the journal. -/
structure WriteConcern where
  acknowledgment : Option Acknowledgment
  timeout : Option Nat
  journal : Option Bool
  deriving DecidableEq, Repr

/-- What is asked of a reading, by the name of its level. -/
structure ReadConcern where
  level : Option String
  deriving DecidableEq, Repr

/-- What a client asks of all its writes and readings. -/
structure Concerns where
  write : WriteConcern
  read : ReadConcern
  deriving DecidableEq, Repr

/-- A natural number as a value, in the smaller width of integers if it has room there. -/
def Value.ofNat (n : Nat) : Value := if n < 2147483648 then .int32 (Int32.ofNat n) else .int64 (Int64.ofNat n)

/-- A confirmation as a value. -/
def Acknowledgment.toValue : Acknowledgment → Value
  | .members count => Value.ofNat count
  | .named name => .string name

namespace WriteConcern

/-- Nothing is asked of a write. -/
def none : WriteConcern := ⟨.none, .none, .none⟩

/-- Whether anybody confirms a write: no member does, unless it has to be in the journal, when none is asked to. -/
def isAcknowledged (concern : WriteConcern) : Bool :=
  concern.acknowledgment ≠ some (.members 0) || concern.journal == some true

/-- What is asked of a write, as a document. -/
def document (concern : WriteConcern) : Document :=
  (concern.acknowledgment.map (fun w => ("w", w.toValue))).toList ++
    (concern.timeout.map (fun millis => ("wtimeout", Value.ofNat millis))).toList ++
    (concern.journal.map (fun j => ("j", Value.boolean j))).toList

/-- The field that a command asks it in; there is none if nothing is asked. -/
def fields (concern : WriteConcern) : Document :=
  if concern.document.isEmpty then [] else [("writeConcern", .document concern.document)]

end WriteConcern

namespace ReadConcern

/-- Nothing is asked of a reading. -/
def none : ReadConcern := ⟨.none⟩

/-- The field that a command asks it in; there is none if nothing is asked. -/
def fields (concern : ReadConcern) : Document :=
  match concern.level with
  | some level => [("readConcern", .document [("level", .string level)])]
  | .none => []

end ReadConcern

/-- Nothing is asked. -/
def Concerns.none : Concerns := ⟨.none, .none⟩

end Seedbed
