import Seedbed.Bson.Wire
import Seedbed.Server.Concern
import Seedbed.Store.Namespace

/-!
# Commands to a server

What a client asks of a server, and the documents in which it asks. The first field of a command names it and, for a command on
a collection, the collection; the database stands in a field of its own, with what is asked of writing and reading behind it, and
the order of the fields is fixed.
-/

namespace Seedbed

/-- A command to a server. -/
inductive Command where
  /-- Asks for a sign of life. -/
  | ping
  | drop (ns : Namespace) (concern : WriteConcern)
  | insert (ns : Namespace) (documents : List Document) (concern : WriteConcern)
  /-- Turns on the capture of images for a collection. -/
  | enableImages (ns : Namespace)
  /-- Changes the first document that a query selects. -/
  | update (ns : Namespace) (query change : Document) (concern : WriteConcern)
  /-- Deletes the first document that a query selects, or every one. -/
  | delete (ns : Namespace) (query : Document) (single : Bool) (concern : WriteConcern)
  /-- Asks for the documents of a collection. -/
  | find (ns : Namespace) (concern : ReadConcern)
  /-- Asks for the next batch of a result. -/
  | getMore (ns : Namespace) (cursor : Int64)
  /-- Asks for the options of a collection. -/
  | listCollections (ns : Namespace)

namespace Command

/-- The database that holds what concerns the whole server. -/
def adminDatabase : String := "admin"

/-- The field that names the database of a command. -/
def databaseField (database : String) : String × Value := ("$db", .string database)

/-- The field that asks for documents to be treated in their order, and no further than to the first failure. -/
def orderedField : String × Value := ("ordered", .boolean true)

/-- A command as it is sent. -/
def document : Command → Document
  | .ping => [("ping", .int32 1), databaseField adminDatabase]
  | .drop ns concern => [("drop", .string ns.collection), databaseField ns.database] ++ concern.fields
  | .insert ns documents concern =>
    [("insert", .string ns.collection), orderedField, databaseField ns.database] ++ concern.fields ++
      [("documents", .array (documents.map (fun d => .document (Document.sent d))))]
  | .enableImages ns =>
    [("collMod", .string ns.collection), ("changeStreamPreAndPostImages", .document [("enabled", .boolean true)]),
      databaseField ns.database]
  | .update ns query change concern =>
    [("update", .string ns.collection),
      ("updates", .array [.document [("q", .document query.sent), ("u", .document change.sent)]]), orderedField,
      databaseField ns.database] ++ concern.fields
  | .delete ns query single concern =>
    [("delete", .string ns.collection),
      ("deletes", .array [.document [("q", .document query.sent), ("limit", .int32 (if single then 1 else 0))]]),
      orderedField, databaseField ns.database] ++ concern.fields
  | .find ns concern =>
    [("find", .string ns.collection), ("filter", .document []), databaseField ns.database] ++ concern.fields
  | .getMore ns cursor =>
    [("getMore", .int64 cursor), ("collection", .string ns.collection), databaseField ns.database]
  | .listCollections ns =>
    [("listCollections", .int32 1), ("filter", .document [("name", .string ns.collection)]), databaseField ns.database]

end Command

end Seedbed
