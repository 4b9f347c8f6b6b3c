import Seedbed.Bson.Kind
import Seedbed.Server.Reply.Basic
import Seedbed.Store.Namespace

/-!
# Results that come in batches

A reply to a query holds a batch of documents, the number of the cursor that the batches after it are asked for by, which is zero
if there are none, and the address at which to ask.
-/

namespace Seedbed.Reply

/-- The result of an access to fields of a reply, a fault of it being the server's. -/
def accessed {α : Type} : Except AccessFault α → Except ServerFault α
  | .ok a => .ok a
  | .error fault => invalid fault.message

/-- Documents of a result, and where those after them are to be had. -/
structure Batch where
  documents : List Document
  cursor : Int64
  address : Namespace

/-- The address in a written form, up to the first point being the database; there is none without a collection. -/
def readAddress (text : String) : Except ServerFault Namespace :=
  let characters := text.toList
  match (characters.dropWhile (· ≠ '.')).drop 1 with
  | [] => invalid "invalid cursor ns"
  | collection => .ok ⟨String.ofList (characters.takeWhile (· ≠ '.')), String.ofList collection⟩

/-- The documents among the items of a batch, which may be nothing else. -/
def batchDocuments (items : List Value) : Except ServerFault (List Document) :=
  items.mapM (fun v =>
    match v.document? with
    | some d => .ok d
    | none => invalid "invalid cursor batch item")

/-- The cursor of a reply with the batch whose items `read` finds in it. -/
def batch (read : Document → Except ServerFault (List Value)) (reply : Document) : Except ServerFault Batch := do
  let reply ← accept reply
  let cursor ← accessed (reply.require Value.document? "EmbeddedDocument" "cursor")
  let id ← accessed (Document.require Value.int64? "Int64" cursor "id")
  let ns ← accessed (Document.require Value.string? "String" cursor "ns")
  let address ← readAddress ns
  let items ← read cursor
  let documents ← batchDocuments items
  .ok ⟨documents, id, address⟩

/-- The items of the first batch of a result. -/
def firstItems (cursor : Document) : Except ServerFault (List Value) :=
  accessed (cursor.require Value.array? "Array" "firstBatch")

/-- The items of the next batch of a result; it may be given as a first one, too. -/
def nextItems (cursor : Document) : Except ServerFault (List Value) :=
  match (cursor.get? "firstBatch").or (cursor.get? "nextBatch") with
  | none => invalid "missing firstBatch/nextBatch"
  | some v =>
    match v.array? with
    | some items => .ok items
    | none => invalid "invalid firstBatch/nextBatch"

/-- The reply to a query. -/
def found (reply : Document) : Except ServerFault Batch := batch firstItems reply

/-- The reply to the question for the next batch of a result. -/
def foundMore (reply : Document) : Except ServerFault Batch := batch nextItems reply

end Seedbed.Reply
