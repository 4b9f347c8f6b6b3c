import Seedbed.Store.Catalog
import Seedbed.Store.Identity
import Seedbed.Store.Interface

/-!
# A store in memory

A document store whose state is its collections. A collection comes into being with the first insertion, even one of no
documents, and exists until it is dropped, also when it is empty. A document that is inserted without an identifier gets one;
an identifier that is taken stops an insertion, and the documents before it stay inserted. Filters are evaluated on the
documents as they are at the time of the call.
-/

namespace Seedbed

/-- A collection: its documents in their natural order, and whether images are captured. -/
structure Collection where
  documents : List Document
  images : Bool

/-- A collection that was just created. -/
def Collection.empty : Collection := ⟨[], false⟩

/-- The state of a store in memory: the collections under their addresses, and the identifiers for documents that have none. -/
structure Memory where
  catalog : Catalog Collection
  ids : IdSource

namespace Memory

/-- A store without collections. -/
def empty (ids : IdSource) : Memory := ⟨Catalog.empty, ids⟩

/-- The collection under an address. -/
def collection? (m : Memory) (ns : Namespace) : Option Collection := m.catalog.get? ns

/-- The documents of a collection, none if it does not exist. -/
def documents (m : Memory) (ns : Namespace) : List Document := ((m.collection? ns).map Collection.documents).getD []

/-- The store with a collection under an address. -/
def put (m : Memory) (ns : Namespace) (c : Collection) : Memory := { m with catalog := m.catalog.put ns c }

/-- Every collection with its documents, in ascending order of addresses. -/
def snapshot (m : Memory) : List (Namespace × List Document) := m.catalog.entries.map (fun (ns, c) => (ns, c.documents))

/-- The identifier of a document, and the document with it: one that has none gets the next one as its last field. -/
def identify (ids : IdSource) (d : Document) : Value × Document × IdSource :=
  match d.get? "_id" with
  | some id => (id, d, ids)
  | none =>
    let (id, rest) := ids.draw
    (.objectId id, d.set "_id" (.objectId id), rest)

/-- Whether one of the documents has the identifier. -/
def isTaken (documents : List Document) (id : Value) : Bool := documents.any (fun d => d.holds "_id" id)

/-- Documents inserted one after the other behind those of a collection, up to the first one whose identifier is taken, and
that identifier. -/
def insertEach : List Document → List Document → IdSource → Option Value × List Document × IdSource
  | [], present, ids => (none, present, ids)
  | d :: rest, present, ids =>
    let (id, identified, ids) := identify ids d
    if isTaken present id then (some id, present, ids) else insertEach rest (present ++ [identified]) ids

/-- Drops a collection. -/
def drop (ns : Namespace) : Action StoreError Memory Unit := fun m =>
  let existed := if (m.collection? ns).isSome then "true" else "false"
  ⟨.ok (), { m with catalog := m.catalog.erase ns },
    [⟨.debug, .memory, "Dropped " ++ ns.render ++ " (existed: " ++ existed ++ ")"⟩]⟩

/-- Inserts documents, into a new collection if there is none. -/
def insertMany (ns : Namespace) (documents : List Document) : Action StoreError Memory Nat := fun m =>
  let c := (m.collection? ns).getD Collection.empty
  let (taken, present, ids) := insertEach documents c.documents m.ids
  let after : Memory := ⟨m.catalog.put ns { c with documents := present }, ids⟩
  match taken with
  | some id => ⟨.error (.duplicateKey ns.render id.display), after, []⟩
  | none => ⟨.ok documents.length, after, []⟩

/-- Turns on the capture of images of a collection, which has to exist. -/
def enableImages (ns : Namespace) : Action StoreError Memory Unit := fun m =>
  match m.collection? ns with
  | none => ⟨.error (.notFound ns.render "collection"), m, []⟩
  | some c => ⟨.ok (), m.put ns { c with images := true }, []⟩

/-- The first document that a filter selects, updated, among the others as they were; none if none is selected. -/
def updateFirst (f : Filter) (u : FieldUpdate) : List Document → Option (Bool × List Document)
  | [] => none
  | d :: rest =>
    if f.selects d then some ((u.apply d).1, (u.apply d).2 :: rest)
    else (updateFirst f u rest).map (fun (changed, after) => (changed, d :: after))

/-- Updates the first document that a filter selects. -/
def updateOne (ns : Namespace) (f : Filter) (u : FieldUpdate) : Action StoreError Memory UpdateOutcome := fun m =>
  match m.collection? ns with
  | none => ⟨.ok ⟨0, 0⟩, m, []⟩
  | some c =>
    match updateFirst f u c.documents with
    | none => ⟨.ok ⟨0, 0⟩, m, []⟩
    | some (changed, after) => ⟨.ok ⟨1, if changed then 1 else 0⟩, m.put ns { c with documents := after }, []⟩

/-- The documents without the first one that a filter selects; none if none is selected. -/
def deleteFirst (f : Filter) : List Document → Option (List Document)
  | [] => none
  | d :: rest => if f.selects d then some rest else (deleteFirst f rest).map (d :: ·)

/-- Deletes the first document that a filter selects. -/
def deleteOne (ns : Namespace) (f : Filter) : Action StoreError Memory Nat := fun m =>
  match m.collection? ns with
  | none => ⟨.ok 0, m, []⟩
  | some c =>
    match deleteFirst f c.documents with
    | none => ⟨.ok 0, m, []⟩
    | some after => ⟨.ok 1, m.put ns { c with documents := after }, []⟩

/-- Deletes every document that a filter selects. -/
def deleteMany (ns : Namespace) (f : Filter) : Action StoreError Memory Nat := fun m =>
  match m.collection? ns with
  | none => ⟨.ok 0, m, []⟩
  | some c =>
    let after := c.documents.filter (fun d => !f.selects d)
    ⟨.ok (c.documents.length - after.length), m.put ns { c with documents := after }, []⟩

/-- The documents of a collection. -/
def findAll (ns : Namespace) : Action StoreError Memory (List Document) := fun m => ⟨.ok (m.documents ns), m, []⟩

/-- Whether images of a collection are captured. -/
def imagesEnabled (ns : Namespace) : Action StoreError Memory Bool := fun m =>
  ⟨.ok (((m.collection? ns).map Collection.images).getD false), m, []⟩

instance : DocumentStore Memory where
  drop := drop
  insertMany := insertMany
  enableImages := enableImages
  updateOne := updateOne
  deleteOne := deleteOne
  deleteMany := deleteMany
  findAll := findAll
  imagesEnabled := imagesEnabled

end Memory

end Seedbed
