import Seedbed.Bson.Coding

/-!
# Association records

A record links an employee with a territory. Codes of territories keep their leading zeros and therefore are texts. `toDocument`
writes a record as a document, `ofDocument` reads one back: from fields in any order and among any others, and from integers of
either width.
-/

namespace Seedbed

/-- A link between an employee and a territory. -/
structure Association where
  id : Int32
  employeeId : Int32
  territoryId : String
  deriving DecidableEq, Repr

namespace Association

/-- A record as a document. -/
def toDocument (r : Association) : Document :=
  [("_id", .int32 r.id), ("employeeId", .int32 r.employeeId), ("territoryId", .string r.territoryId)]

/-- What has been read of a record. -/
structure Slots where
  id : Option Int32
  employeeId : Option Int32
  territoryId : Option String
  deriving DecidableEq, Repr

/-- One field read: a field of the record goes into its slot, any other one is passed over. -/
def Slots.readField (slots : Slots) (name : String) (v : Value) : Except DecodingFault Slots :=
  if name = "_id" then (v.readInt32).map (fun n => { slots with id := some n })
  else if name = "employeeId" then (v.readInt32).map (fun n => { slots with employeeId := some n })
  else if name = "territoryId" then (v.readText).map (fun s => { slots with territoryId := some s })
  else .ok slots

/-- The fields of a document read in their order, up to the first one that cannot be. -/
def Slots.readFields : Slots → Document → Except DecodingFault Slots
  | slots, [] => .ok slots
  | slots, (name, v) :: rest =>
    match slots.readField name v with
    | .error fault => .error fault
    | .ok slots => slots.readFields rest

/-- The record in the slots, unless one of them is empty; the first one that is decides. -/
def Slots.record : Slots → Except DecodingFault Association
  | ⟨none, _, _⟩ => .error (.missingField "_id")
  | ⟨some _, none, _⟩ => .error (.missingField "employeeId")
  | ⟨some _, some _, none⟩ => .error (.missingField "territoryId")
  | ⟨some id, some employeeId, some territoryId⟩ => .ok ⟨id, employeeId, territoryId⟩

/-- The record of a document. -/
def ofDocument (d : Document) : Except DecodingFault Association :=
  match Slots.readFields ⟨none, none, none⟩ d with
  | .error fault => .error fault
  | .ok slots => slots.record

end Association

namespace Fixture

/-- The association records of the fixtures, in the order of their identifiers. -/
def associationRecords : List Association :=
  [⟨1, 1, "06897"⟩, ⟨2, 1, "19713"⟩, ⟨3, 2, "01581"⟩, ⟨4, 2, "01730"⟩, ⟨5, 2, "01833"⟩, ⟨6, 2, "02116"⟩, ⟨7, 2, "02139"⟩]

/-- The association records as documents. -/
def associationDocuments : List Document := associationRecords.map Association.toDocument

end Fixture

end Seedbed
