import Seedbed.Server.Dealing
import Seedbed.Store.Interface

/-!
# A store on a server

A document store whose collections are kept by a server. Every call is a dealing of the client with the server, whose fault is told as
an error of the store. That there is no collection to be dropped is no error, and where there are no documents to be inserted nothing
is sent.
-/

namespace Seedbed.Client

variable {κ : Type} [Server κ] {α : Type}

/-- The address that stands for the server as a whole. -/
def admin : Namespace := ⟨Command.adminDatabase, "$cmd"⟩

/-- A dealing that concerns a collection, with its fault told as an error of the store. -/
def telling (ns : Namespace) (dealing : Action ServerFault (Client κ) α) : Action StoreError (Client κ) α :=
  dealing.mapError (ServerFault.storeError ns)

/-- Connects to the server. -/
def connect (access : Access) : Action StoreError (Client κ) Unit := do
  telling admin (Dealing.connect access)
  Action.say .info .server "Connected to MongoDB"

/-- Drops a collection. That there is none is told to the log alone. -/
def drop (ns : Namespace) : Action StoreError (Client κ) Unit :=
  (Dealing.drop ns).recover (fun fault =>
    if fault.saysMissing then Action.say .debug .server (ns.render ++ " did not exist") else .fail (fault.storeError ns))

/-- Inserts documents; nothing is sent if there are none. -/
def insertMany (ns : Namespace) (documents : List Document) : Action StoreError (Client κ) Nat :=
  if documents.isEmpty then .done 0 else telling ns (Dealing.insertMany ns documents)

/-- Turns on the capture of images of a collection. -/
def enableImages (ns : Namespace) : Action StoreError (Client κ) Unit := telling ns (Dealing.enableImages ns)

/-- Updates the first document that a filter selects. -/
def updateOne (ns : Namespace) (f : Filter) (u : FieldUpdate) : Action StoreError (Client κ) UpdateOutcome :=
  telling ns (Dealing.updateOne ns f.query u.document)

/-- Deletes the first document that a filter selects. -/
def deleteOne (ns : Namespace) (f : Filter) : Action StoreError (Client κ) Nat := telling ns (Dealing.delete ns f.query true)

/-- Deletes every document that a filter selects. -/
def deleteMany (ns : Namespace) (f : Filter) : Action StoreError (Client κ) Nat := telling ns (Dealing.delete ns f.query false)

/-- The documents of a collection. -/
def findAll (ns : Namespace) : Action StoreError (Client κ) (List Document) := telling ns (Dealing.findAll ns)

/-- Whether images of a collection are captured. -/
def imagesEnabled (ns : Namespace) : Action StoreError (Client κ) Bool := telling ns (Dealing.imagesEnabled ns)

instance : DocumentStore (Client κ) where
  drop := drop
  insertMany := insertMany
  enableImages := enableImages
  updateOne := updateOne
  deleteOne := deleteOne
  deleteMany := deleteMany
  findAll := findAll
  imagesEnabled := imagesEnabled

end Seedbed.Client
