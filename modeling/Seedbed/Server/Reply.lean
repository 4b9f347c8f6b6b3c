import Seedbed.Bson.Kind
import Seedbed.Server.Reply.Basic
import Seedbed.Store.Filter

/-!
# Replies to writes and to questions

What a client makes of the replies to commands that write and to the question for the options of a collection. Where writes are
refused, the first refusal counts; where none is, what is unconfirmed does; and the counts are looked at only after both.
-/

namespace Seedbed.Reply

/-- A report in which nothing is unconfirmed. -/
def confirmed (report : WriteReport) : Except ServerFault Unit :=
  match report.unconfirmed with
  | some fault => .error (.concern fault)
  | none => .ok ()

/-- A report on a single write that was neither refused nor left unconfirmed. -/
def written (report : WriteReport) : Except ServerFault Unit :=
  match report.refusals with
  | some (first :: _) => .error (.write first)
  | _ => confirmed report

/-- The reply to a command that writes no documents. -/
def confirmation (reply : Document) : Except ServerFault Unit := do
  let reply ← accept reply
  confirmed (← decoded (readConcernReport reply))

/-- What comes of the drop of a collection, it being as good as done if there is no such collection. -/
def tolerateMissing : Except ServerFault Unit → Except ServerFault Unit
  | .ok () => .ok ()
  | .error fault => if fault.saysMissing then .ok () else .error fault

/-- The reply to the drop of a collection. -/
def dropped (reply : Document) : Except ServerFault Unit := tolerateMissing (confirmation reply)

/-- The number of documents that a reply counts. -/
def counted (reply : Document) : Except ServerFault Nat :=
  match reply.get? "n" with
  | none => invalid "expected n field in server response"
  | some v =>
    match v.count? with
    | some n => .ok n
    | none => invalid ("expected numeric value for n, got " ++ v.inspectPacked)

/-- The reply to the insertion of the given number of documents: how many of them were inserted, from the first one on. A reply
that speaks of refusals without naming one is a failure, too. -/
def inserted (count : Nat) (reply : Document) : Except ServerFault Nat := do
  let reply ← accept reply
  let report ← decoded (readWriteReport reply)
  let n ← counted reply
  match report.refusals, report.unconfirmed with
  | none, none => .ok (min n count)
  | some (first :: rest), unconfirmed => .error (.insertion (some (first :: rest)) unconfirmed)
  | _, unconfirmed => .error (.insertion none unconfirmed)

/-- What has been read of the counts of an update, and whether the document was made by it. -/
structure UpdateDraft where
  matched : Option Nat
  modified : Option Nat
  made : Bool

/-- One field of the counts of an update. -/
def fillUpdate (draft : UpdateDraft) (name : String) (v : Value) : Except DecodingFault UpdateDraft :=
  match name with
  | "n" => v.readCount.map (fun n => { draft with matched := some n })
  | "nModified" => v.readCount.map (fun n => { draft with modified := some n })
  | "upserted" =>
    (v.readOptional (Value.readSequence Value.readWhole)).map (fun documents =>
      { draft with made := ((documents.bind List.head?).bind (fun d => Document.get? d "_id")).isSome })
  | _ => .ok draft

/-- The counts of an update. A document that the update has made is not one that was selected. -/
def readUpdate (reply : Document) : Except DecodingFault UpdateOutcome := do
  let draft ← reply.readOnto fillUpdate ⟨none, none, false⟩
  let matched ← required "n" draft.matched
  let modified ← required "nModified" draft.modified
  .ok ⟨if draft.made then 0 else matched, modified⟩

/-- The reply to an update: how many documents were selected and how many of them were changed. -/
def updated (reply : Document) : Except ServerFault UpdateOutcome := do
  let reply ← accept reply
  written (← decoded (readWriteReport reply))
  decoded (readUpdate reply)

/-- The reply to a deletion: how many documents were deleted. -/
def deleted (reply : Document) : Except ServerFault Nat := do
  let reply ← accept reply
  written (← decoded (readWriteReport reply))
  counted reply

/-- Whether the options of a collection, the first one in a reply that lists collections, turn on the capture of images. Where
a field on the way is missing or of another type, images are not captured. -/
def imagesOption (reply : Document) : Bool :=
  let option := do
    let cursor ← (← reply.get? "cursor").document?
    let batch ← (← cursor.get? "firstBatch").array?
    let collection ← (← batch.head?).document?
    let options ← (← collection.get? "options").document?
    let images ← (← options.get? "changeStreamPreAndPostImages").document?
    (← images.get? "enabled").boolean?
  option.getD false

/-- The reply to the question for the options of a collection. -/
def imagesEnabled (reply : Document) : Except ServerFault Bool := (accept reply).map imagesOption

end Seedbed.Reply
