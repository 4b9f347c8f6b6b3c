import Seedbed.Bson.Coding
import Seedbed.Bson.Inspect
import Seedbed.Store.Error
import Seedbed.Store.Namespace
import Seedbed.Text.Quoted

/-!
# Faults in the dealings with a server

What can go wrong between a client and a server: the server may not be reached, something may not be written as BSON, the server
may refuse what it is asked for, or its answer may be of no use. A refusal has a code, and it means the same whichever way it is
reported: for a whole command, for the one write of a command, or for the first of several writes that failed.
-/

namespace Seedbed

/-- What a server refuses, by its code, and the reason that it gives. -/
structure Refusal where
  code : Int32
  message : String
  deriving DecidableEq, Repr

/-- A write that was done but not confirmed by as many members of a cluster as it should be. -/
structure ConcernFault where
  code : Int32
  codeName : String
  message : String
  details : Option Document
  labels : List String

/-- Why there is no connection to a server, or none any more. -/
inductive ConnectionFault where
  /-- The system fails to read or to write. -/
  | transport (text : String)
  /-- No server of a deployment can be chosen. -/
  | noServer (reason : String)
  /-- The name of a host is not known. -/
  | unresolved (reason : String)
  | login (reason : String)
  deriving DecidableEq, Repr

/-- A fault of the connection in words. -/
def ConnectionFault.message : ConnectionFault → String
  | .transport text => text
  | .noServer reason => reason
  | .unresolved reason => reason
  | .login reason => reason

/-- What goes wrong on the client's side, or with an answer that the client can make nothing of. -/
inductive ClientFault where
  | invalidArgument (reason : String)
  | invalidReply (reason : String)
  /-- Something that goes along with a reply cannot be read. -/
  | unreadable (reason : String)
  | custom (reason : String)
  | sessionsNotSupported
  | missingResumeToken
  | shutdown
  deriving DecidableEq, Repr

/-- A fault on the client's side in words. -/
def ClientFault.message : ClientFault → String
  | .invalidArgument reason => "An invalid argument was provided: " ++ reason
  | .invalidReply reason => "The server returned an invalid reply to a database operation: " ++ reason
  | .unreadable reason => reason
  | .custom reason => "Custom user error: " ++ reason
  | .sessionsNotSupported => "Attempted to start a session on a deployment that does not support sessions"
  | .missingResumeToken => "Cannot provide resume functionality when the resume token is missing"
  | .shutdown => "Client has been shut down"

/-- A fault in the dealings with a server. -/
inductive ServerFault where
  | connection (fault : ConnectionFault)
  | encoding (fault : EncodingFault)
  /-- A whole command is refused. -/
  | command (refusal : Refusal)
  /-- The one write of a command is refused. -/
  | write (refusal : Refusal)
  /-- Writes of an insertion are refused, or not confirmed. -/
  | insertion (refusals : Option (List Refusal)) (concern : Option ConcernFault)
  | concern (fault : ConcernFault)
  | client (fault : ClientFault)

/-- An unconfirmed write in words. -/
def ConcernFault.inspect (fault : ConcernFault) : String :=
  let details :=
    match fault.details with
    | some d => "Some(" ++ (Value.document d).inspect ++ ")"
    | none => "None"
  "WriteConcernError \x7b code: " ++ toString fault.code.toInt ++ ", code_name: " ++ Text.quote fault.codeName ++
    ", message: " ++ Text.quote fault.message ++ ", details: " ++ details ++
    ", labels: " ++ inBrackets (fault.labels.map Text.quote) ++ " \x7d"

/-- An insertion in which no write was refused, but something is amiss, in words. -/
def insertionMessage (refusals : Option (List Refusal)) (concern : Option ConcernFault) : String :=
  let writes := if refusals.isSome then "Some([])" else "None"
  let unconfirmed :=
    match concern with
    | some fault => "Some(" ++ fault.inspect ++ ")"
    | none => "None"
  "An error occurred when trying to execute an insert_many operation: InsertManyError \x7b write_errors: " ++ writes ++
    ", write_concern_error: " ++ unconfirmed ++ ", inserted_ids: \x7b\x7d \x7d"

/-- A fault by its kind, which is what there is to say, and by what might go with it. -/
def ofKind (text : String) : String := "Kind: " ++ text ++ ", labels: \x7b\x7d, source: None, server response: None"

/-- A fault that has no class of its own among the errors of a store, with the address. -/
def unclassified (ns : Namespace) (text : String) : StoreError := .backend (ns.render ++ ": " ++ ofKind text)

namespace Refusal

/-- The code of a collection that does not exist. -/
def namespaceNotFound : Int32 := 26

/-- The code of an identifier that is taken. -/
def duplicateKey : Int32 := 11000

/-- The code of something that the client may not do. -/
def unauthorized : Int32 := 13

/-- The code of a login that fails. -/
def authenticationFailed : Int32 := 18

/-- A refusal of something asked of a collection, as an error of the store. -/
def storeError (ns : Namespace) (r : Refusal) : StoreError :=
  if r.code = namespaceNotFound then .notFound ns.render "collection"
  else if r.code = duplicateKey then .duplicateKey ns.render r.message
  else if r.code = unauthorized ∨ r.code = authenticationFailed then .connection r.message
  else .backend (ns.render ++ ": " ++ r.message ++ " (code " ++ toString r.code.toInt ++ ")")

end Refusal

/-- Whether a fault says that there is no such collection: a whole command is refused with the code for it. -/
def ServerFault.saysMissing : ServerFault → Bool
  | .command refusal => refusal.code == Refusal.namespaceNotFound
  | _ => false

/-- A fault in what was asked of a collection, as an error of the store. -/
def ServerFault.storeError (ns : Namespace) : ServerFault → StoreError
  | .connection fault => .connection fault.message
  | .encoding fault => .typeRepresentation fault.message
  | .command refusal => refusal.storeError ns
  | .write refusal => refusal.storeError ns
  | .insertion (some (first :: _)) _ => first.storeError ns
  | .insertion refusals unconfirmed => unclassified ns (insertionMessage refusals unconfirmed)
  | .concern fault =>
    unclassified ns ("An error occurred when trying to execute a write operation: WriteConcernError(" ++ fault.inspect ++ ")")
  | .client fault => unclassified ns fault.message

end Seedbed
