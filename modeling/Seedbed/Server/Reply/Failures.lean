import Seedbed.Bson.Record
import Seedbed.Server.Fault

/-!
# Failures that a reply reports

A reply may say that the whole command failed, or, though the command was done, that single writes were refused or that what was
written is not confirmed. Such a report is read in full before it is looked at, so that one that is out of shape in any of its
parts says nothing at all.
-/

namespace Seedbed.Reply

/-- What has been read of a refusal. -/
structure RefusalDraft where
  code : Option Int32
  message : String

/-- The refusal in a draft, which must have a code. -/
def RefusalDraft.refusal (draft : RefusalDraft) : Except DecodingFault Refusal := do
  let code ← required "code" draft.code
  .ok ⟨code, draft.message⟩

/-- One field of the refusal of a command. -/
def fillCommandRefusal (draft : RefusalDraft) (name : String) (v : Value) : Except DecodingFault RefusalDraft :=
  match name with
  | "code" => v.readInt32.map (fun code => { draft with code := some code })
  | "codeName" => v.readText.map (fun _ => draft)
  | "errmsg" => v.readText.map (fun message => { draft with message })
  | _ => .ok draft

/-- What tells one state of a cluster from another one. -/
def topologyOutline : Outline := ⟨"struct TopologyVersion", [("processId", false), ("counter", false)]⟩

/-- One field of the state of a cluster; what has been read are the names of the fields. -/
def fillTopology (names : List String) (name : String) (v : Value) : Except DecodingFault (List String) :=
  match name, v with
  | "processId", .objectId _ => .ok (name :: names)
  | "processId", v => .error (.invalidType v.found "an ObjectId")
  | "counter", v => (v.readInteger (-9223372036854775808) 9223372036854775807 "i64").map (fun _ => name :: names)
  | _, _ => .ok names

/-- The state of a cluster, of which nothing is kept. -/
def readTopology (v : Value) : Except DecodingFault Unit := do
  let names ← topologyOutline.read fillTopology [] v
  match topologyOutline.fields.find? (fun field => !names.contains field.1) with
  | some field => .error (.missingField field.1)
  | none => .ok ()

/-- One field that goes along with the refusal of a command. -/
def checkCompanion (_ : Unit) (name : String) (v : Value) : Except DecodingFault Unit :=
  match name with
  | "errorLabels" => (v.readOptional Value.readTexts).map (fun _ => ())
  | "topologyVersion" => (v.readOptional readTopology).map (fun _ => ())
  | "baseBackoffMS" => (v.readOptional Value.readCount).map (fun _ => ())
  | _ => .ok ()

/-- The refusal of a whole command; what goes along with it is read before it. -/
def readCommandRefusal (reply : Document) : Except DecodingFault Refusal := do
  reply.readOnto checkCompanion ()
  (← reply.readOnto fillCommandRefusal ⟨none, ""⟩).refusal

/-- What the refusal of a single write looks like. -/
def writeRefusalOutline : Outline :=
  ⟨"struct IndexedWriteError", [("index", true), ("code", false), ("codeName", false), ("errmsg", true), ("errInfo", false)]⟩

/-- One field of the refusal of a single write. -/
def fillWriteRefusal (draft : RefusalDraft) (name : String) (v : Value) : Except DecodingFault RefusalDraft :=
  match name with
  | "index" => v.readIndex.map (fun _ => draft)
  | "code" => v.readInt32.map (fun code => { draft with code := some code })
  | "codeName" => (v.readOptional Value.readText).map (fun _ => draft)
  | "errmsg" => v.readText.map (fun message => { draft with message })
  | "errInfo" => (v.readOptional Value.readWhole).map (fun _ => draft)
  | _ => .ok draft

/-- The refusal of a single write. -/
def readWriteRefusal (v : Value) : Except DecodingFault Refusal := do
  (← writeRefusalOutline.read fillWriteRefusal ⟨none, ""⟩ v).refusal

/-- What has been read of an unconfirmed write. -/
structure ConcernDraft where
  code : Option Int32
  codeName : String
  message : Option String
  details : Option Document
  labels : List String

/-- What an unconfirmed write looks like. -/
def concernOutline : Outline :=
  ⟨"struct WriteConcernError",
    [("code", false), ("codeName", true), ("message", true), ("errInfo", false), ("errorLabels", true)]⟩

/-- The message of an unconfirmed write, which has two names, and may be given once. -/
def ConcernDraft.fillMessage (draft : ConcernDraft) (v : Value) : Except DecodingFault ConcernDraft :=
  match draft.message with
  | some _ => .error (.duplicateField "message")
  | none => v.readText.map (fun message => { draft with message := some message })

/-- One field of an unconfirmed write. -/
def fillConcern (draft : ConcernDraft) (name : String) (v : Value) : Except DecodingFault ConcernDraft :=
  match name with
  | "code" => v.readInt32.map (fun code => { draft with code := some code })
  | "codeName" => v.readText.map (fun codeName => { draft with codeName })
  | "message" => draft.fillMessage v
  | "errmsg" => draft.fillMessage v
  | "errInfo" => (v.readOptional Value.readWhole).map (fun details => { draft with details })
  | "errorLabels" => v.readTexts.map (fun labels => { draft with labels })
  | _ => .ok draft

/-- An unconfirmed write. -/
def readConcern (v : Value) : Except DecodingFault ConcernFault := do
  let draft ← concernOutline.read fillConcern ⟨none, "", none, none, []⟩ v
  let code ← required "code" draft.code
  .ok ⟨code, draft.codeName, draft.message.getD "", draft.details, draft.labels⟩

/-- What a reply reports of writes: those that were refused, which there may be none of though the reply speaks of them, and what
is unconfirmed. -/
structure WriteReport where
  refusals : Option (List Refusal)
  unconfirmed : Option ConcernFault

/-- One field of a report on writes. -/
def fillWriteReport (report : WriteReport) (name : String) (v : Value) : Except DecodingFault WriteReport :=
  match name with
  | "writeErrors" =>
    (v.readOptional (Value.readSequence readWriteRefusal)).map (fun refusals => { report with refusals })
  | "writeConcernError" => (v.readOptional readConcern).map (fun unconfirmed => { report with unconfirmed })
  | "errorLabels" => (v.readOptional Value.readTexts).map (fun _ => report)
  | _ => .ok report

/-- The report on writes in a reply. -/
def readWriteReport (reply : Document) : Except DecodingFault WriteReport := reply.readOnto fillWriteReport ⟨none, none⟩

/-- One field of the report on a command that writes no documents. -/
def fillConcernReport (report : WriteReport) (name : String) (v : Value) : Except DecodingFault WriteReport :=
  if name = "writeErrors" then .ok report else fillWriteReport report name v

/-- The report in a reply to a command that writes no documents. -/
def readConcernReport (reply : Document) : Except DecodingFault WriteReport :=
  reply.readOnto fillConcernReport ⟨none, none⟩

/-- What has been read of the time of a cluster: whether the time, and whether its signature. -/
structure ClusterTimeDraft where
  time : Bool
  signature : Bool

/-- One field of the time of a cluster. -/
def fillClusterTime (draft : ClusterTimeDraft) (name : String) (v : Value) : Except DecodingFault ClusterTimeDraft :=
  match name, v with
  | "clusterTime", .timestamp _ _ => .ok { draft with time := true }
  | "clusterTime", _ => .error (.otherType "Timestamp")
  | "signature", v => v.readWhole.map (fun _ => { draft with signature := true })
  | _, _ => .ok draft

/-- The time of a cluster, which any reply may tell; a value that is no document tells nothing. -/
def checkClusterTime (reply : Document) : Except DecodingFault Unit :=
  match reply.get? "$clusterTime" with
  | some (.document d) => do
    let draft ← Document.readOnto fillClusterTime ⟨false, false⟩ d
    if !draft.time then .error (.missingField "clusterTime")
    else if !draft.signature then .error (.missingField "signature")
    else .ok ()
  | _ => .ok ()

end Seedbed.Reply
