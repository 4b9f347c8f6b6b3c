import Seedbed.Action
import Seedbed.Server.Reply
import Seedbed.Server.Reply.Cursor
import Seedbed.Server.Retry
import Seedbed.Store.Identity

/-!
# Dealings with a server

What a client does with a server. Every dealing is one command and what comes of it, but that documents of which a server has not
inserted all are sent again from the first one left, that a result is asked for batch by batch, and that a command which fails for a
time is sent again. What comes of a command is a reply, or a fault on the way. What cannot be written as BSON is not sent. What has
been sent is remembered in its order.
-/

namespace Seedbed

/-- A server whose states are those of `κ`, and the way to it. -/
class Server (κ : Type) where
  /-- What comes of a command as it is sent, which is a reply or else a fault without one, and the state after it. -/
  answer : Document → κ → Except ServerFault Document × κ
  /-- How many commands the server answers at most before it refuses everything. -/
  patience : κ → Nat

/-- A server that gives its replies one after the other, whatever it is asked, and then refuses everything. -/
structure Script where
  replies : List Document

namespace Script

/-- The reply of a script that has no reply left. -/
def exhausted : Document :=
  [("ok", .double ⟨0⟩), ("code", .int32 8000), ("errmsg", .string "no reply left")]

/-- The next reply of a script as it arrives, and the script after it. -/
def next (script : Script) : Document × Script :=
  match script.replies with
  | [] => (exhausted, script)
  | reply :: rest => (reply.sent, ⟨rest⟩)

instance : Server Script where
  answer _ script := (.ok script.next.1, script.next.2)
  patience script := script.replies.length

end Script

/-- What stands between a client and a server. -/
inductive Access where
  /-- There is no way to the server. -/
  | unreachable
  /-- There is something, but it does not let the client in. -/
  | refused
  /-- A file that certificates or keys are to be read from is not there. -/
  | fileMissing
  | free
  /-- A login that the server gives a reply to. -/
  | login (reply : Document)

/-- A client of a server: the server, the commands sent so far, the identifiers for documents that have none, what is asked of
writing and reading, and what is sent again. -/
structure Client (κ : Type) where
  server : κ
  sent : List Document
  ids : IdSource
  concerns : Concerns
  retries : RetryPolicy

namespace Client

/-- A client that has sent nothing yet and asks nothing special. -/
def new {κ : Type} (server : κ) (ids : IdSource) : Client κ := ⟨server, [], ids, .none, .usual⟩

variable {κ : Type} [Server κ]

/-- What comes of a command, and the client after it. -/
def ask (command : Command) (client : Client κ) : Except ServerFault Document × Client κ :=
  let (answer, server) := Server.answer command.document client.server
  (answer, { client with server, sent := client.sent ++ [command.document] })

/-- The labels in what comes of a command; without a reply there are none. -/
def answerLabels : Except ServerFault Document → List String
  | .ok reply => replyLabels reply
  | .error _ => []

/-- Whether a client sends a command again, `attempts` being how often it has been sent before, after an answer with the given
result. -/
def repeats {α : Type} (client : Client κ) (command : Command) (attempts : Nat) (answer : Except ServerFault Document) :
    Except ServerFault α → Bool
  | .error fault => client.retries.again command attempts fault (answerLabels answer)
  | .ok _ => false

end Client

namespace Dealing

variable {κ : Type} [Server κ] {α : Type}

/-- One command, and what `read` makes of the reply. The command has been sent `attempts` times before, and is sent again as often as
the number after it says at most. -/
def attempt (command : Command) (read : Document → Except ServerFault α) : Nat → Nat → Action ServerFault (Client κ) α
  | _, 0 => fun client =>
    let (answer, client) := client.ask command
    ⟨answer >>= read, client, []⟩
  | attempts, more + 1 => fun client =>
    let (answer, client) := client.ask command
    if client.repeats command attempts answer (answer >>= read) then attempt command read (attempts + 1) more client
    else ⟨answer >>= read, client, []⟩

/-- One command, and what `read` makes of the reply to it in the end. -/
def request (command : Command) (read : Document → Except ServerFault α) : Action ServerFault (Client κ) α := fun client =>
  attempt command read 0 (max 1 client.retries.patience) client

/-- Gets past what stands between the client and the server. -/
def enter (access : Access) : Except ConnectionFault Unit :=
  match access with
  | .unreachable => .error (.noServer "Server selection timeout: No available servers.")
  | .refused => .error (.transport "Connection refused (os error 111)")
  | .fileMissing => .error (.transport "No such file or directory (os error 2)")
  | .free => .ok ()
  | .login reply => Reply.login (Document.sent reply)

/-- Gets to the server and asks for a sign of life. -/
def connect (access : Access) : Action ServerFault (Client κ) Unit := do
  (Action.ofResult (enter access)).mapError ServerFault.connection
  request .ping Reply.acknowledgement

/-- What is asked of writes, which has to be more than that nobody confirms them. -/
def writeConcern : Action ServerFault (Client κ) WriteConcern := fun client =>
  if client.concerns.write.isAcknowledged then ⟨.ok client.concerns.write, client, []⟩
  else ⟨.error (.client (.invalidArgument "Unacknowledged write concerns are not supported")), client, []⟩

/-- Drops a collection. -/
def drop (ns : Namespace) : Action ServerFault (Client κ) Unit := do
  let concern ← writeConcern
  request (.drop ns concern) Reply.dropped

/-- A document with an identifier: one that has none gets the next one as its first field. -/
def identify (ids : IdSource) (d : Document) : Document × IdSource :=
  if d.has "_id" then (d, ids)
  else
    let (id, rest) := ids.draw
    (("_id", .objectId id) :: d, rest)

/-- Documents with identifiers. -/
def identifyAll : IdSource → List Document → List Document × IdSource
  | ids, [] => ([], ids)
  | ids, d :: rest =>
    let (d, ids) := identify ids d
    let (rest, ids) := identifyAll ids rest
    (d :: rest, ids)

/-- Fails if a document cannot be sent, and otherwise does nothing. -/
def checkSendable (fault : EncodingFault → ServerFault) (documents : List Document) : Action ServerFault (Client κ) Unit :=
  (Action.ofResult (documents.forM Document.checkSendable)).mapError fault

/-- Sends documents for insertion, those that are left again and again, but not more often than the number given. -/
def insertRest (ns : Namespace) (concern : WriteConcern) : Nat → List Document → Action ServerFault (Client κ) Unit
  | 0, _ => .done ()
  | fuel + 1, documents => do
    let inserted ← request (.insert ns documents concern) (Reply.inserted documents.length)
    let left := documents.drop inserted
    if left.isEmpty then return () else insertRest ns concern fuel left

/-- Inserts documents, each with an identifier, and tells how many. -/
def insertMany (ns : Namespace) (documents : List Document) : Action ServerFault (Client κ) Nat := fun client =>
  let (identified, ids) := identifyAll client.ids documents
  (do
    let concern ← writeConcern
    checkSendable .encoding identified
    insertRest ns concern (Server.patience client.server + 1) identified
    return documents.length) { client with ids }

/-- Turns on the capture of images of a collection. -/
def enableImages (ns : Namespace) : Action ServerFault (Client κ) Unit := request (.enableImages ns) Reply.acknowledgement

/-- The fault of a query or of a change that cannot be sent. -/
def malformed (fault : EncodingFault) : ServerFault :=
  .client (.invalidReply ("malformed value: " ++ Text.quote fault.message))

/-- Changes the first document that meets a query. -/
def updateOne (ns : Namespace) (query change : Document) : Action ServerFault (Client κ) UpdateOutcome := do
  let concern ← writeConcern
  checkSendable malformed [query, change]
  request (.update ns query change concern) Reply.updated

/-- Deletes the first document that meets a query, or every one. -/
def delete (ns : Namespace) (query : Document) (single : Bool) : Action ServerFault (Client κ) Nat := do
  let concern ← writeConcern
  checkSendable malformed [query]
  request (.delete ns query single concern) Reply.deleted

/-- The documents of a result from those of a batch on, each batch after it being asked for at the address that came with the one
before, but not more of them than the first argument says. -/
def findRest : Nat → Reply.Batch → Action ServerFault (Client κ) (List Document)
  | 0, batch => .done batch.documents
  | fuel + 1, batch =>
    if batch.cursor = 0 then .done batch.documents
    else do
      let next ← request (.getMore batch.address batch.cursor) Reply.foundMore
      let rest ← findRest fuel next
      return batch.documents ++ rest

/-- The documents of a collection. -/
def findAll (ns : Namespace) : Action ServerFault (Client κ) (List Document) := fun client =>
  (do
    let first ← request (.find ns client.concerns.read) Reply.found
    findRest (Server.patience client.server + 1) first) client

/-- Whether images of a collection are captured. -/
def imagesEnabled (ns : Namespace) : Action ServerFault (Client κ) Bool := request (.listCollections ns) Reply.imagesEnabled

end Dealing

end Seedbed
