import Seedbed.Proofs.Bson.Coding
import Seedbed.Proofs.Server.Wire
import Seedbed.Server.Client
import Seedbed.Store.Memory

/-!
# A server that keeps collections

What a server is taken to do with the commands that change collections: a drop removes a collection, an insertion appends documents up
to the first one whose identifier is there already, a query is met by a document that holds the same in every field that it names, and
a change sets fields. The server reads what it is asked for in the documents that are sent to it (`read?_insert` and the others), and a
client reads what has been done in the replies.
-/

namespace Seedbed

/-- The least natural number for which an integer of 64 bits has no room. -/
def countLimit : Nat := 9223372036854775808

/-- A server that keeps collections. Some servers refuse to drop a collection that does not exist, and others do not mind. -/
structure Deployment where
  catalog : Catalog Collection
  refusesMissing : Bool

namespace Deployment

/-! ## Documents -/

/-- Whether a document holds the same in every field that a query names. -/
def meets (query d : Document) : Bool := query.all (fun (name, v) => d.holds name v)

/-- The fields that a change sets; a change that does anything else is not understood. -/
def assignment? : Document → Option (List (String × Value))
  | [(operator, .document fields)] => if operator = "$set" then some fields else none
  | _ => none

/-- A document with fields set one after the other, and whether that changed it: a field that holds the same value already is left
as it is. -/
def assign : List (String × Value) → Document → Bool × Document
  | [], d => (false, d)
  | (name, v) :: rest, d => if d.holds name v then assign rest d else (true, (assign rest (d.set name v)).2)

/-- Documents up to the first one that meets a query, that one, and those after it; none if none meets it. -/
def split (query : Document) (documents : List Document) : Option (List Document × Document × List Document) :=
  match documents.dropWhile (fun d => !meets query d) with
  | d :: after => some (documents.takeWhile (fun d => !meets query d), d, after)
  | [] => none

/-- Whether the identifier of a document is that of one of the others. -/
def isTaken (others : List Document) (d : Document) : Bool :=
  match d.get? "_id" with
  | some id => others.any (fun e => e.holds "_id" id)
  | none => false

/-- Documents appended to others, up to the first one whose identifier is taken, and those that are left from that one on. -/
def append : List Document → List Document → List Document × List Document
  | others, [] => (others, [])
  | others, d :: rest => if isTaken others d then (others, d :: rest) else append (others ++ [d]) rest

/-! ## Replies -/

/-- A reply to a command that was done. -/
def confirm (fields : Document) : Document := ("ok", .int32 1) :: fields

/-- A reply to a command that is refused. -/
def refuse (code : Int32) (reason : String) : Document := [("ok", .int32 0), ("errmsg", .string reason), ("code", .int32 code)]

/-- The refusal of a command on a collection that does not exist. -/
def missing : Document := refuse Refusal.namespaceNotFound "ns does not exist"

/-- The reply to a deletion. -/
def deletion (n : Nat) : Document := confirm [("n", Value.ofNat n)]

/-- The refusal of the document at a place of an insertion, because its identifier is taken. -/
def clash (n : Nat) : Value :=
  .document [("index", Value.ofNat n), ("code", .int32 Refusal.duplicateKey), ("errmsg", .string "duplicate key")]

/-- The reply to an insertion of which so many documents were inserted and some may be left. -/
def insertion (n : Nat) (left : List Document) : Document :=
  if left.isEmpty then confirm [("n", Value.ofNat n)] else confirm [("n", Value.ofNat n), ("writeErrors", .array [clash n])]

/-- The reply to an update. -/
def change (matched modified : Bool) : Document :=
  confirm [("n", .int32 (if matched then 1 else 0)), ("nModified", .int32 (if modified then 1 else 0))]

/-! ## Commands -/

/-- The collection under an address. -/
def collection? (server : Deployment) (ns : Namespace) : Option Collection := server.catalog.get? ns

/-- The server with a collection under an address. -/
def put (server : Deployment) (ns : Namespace) (c : Collection) : Deployment := { server with catalog := server.catalog.put ns c }

/-- Drops a collection. -/
def drop (server : Deployment) (ns : Namespace) : Document × Deployment :=
  if (server.collection? ns).isNone && server.refusesMissing then (missing, server)
  else (confirm [], { server with catalog := server.catalog.erase ns })

/-- Inserts documents; a collection comes into being with the first one that is inserted. -/
def insert (server : Deployment) (ns : Namespace) (documents : List Document) : Document × Deployment :=
  let c := (server.collection? ns).getD Collection.empty
  let (after, left) := append c.documents documents
  let n := documents.length - left.length
  (insertion n left, if n = 0 then server else server.put ns { c with documents := after })

/-- Turns the capture of images on or off. -/
def setImages (server : Deployment) (ns : Namespace) (enabled : Bool) : Document × Deployment :=
  match server.collection? ns with
  | none => (missing, server)
  | some c => (confirm [], server.put ns { c with images := enabled })

/-- Changes the first document that meets a query. -/
def update (server : Deployment) (ns : Namespace) (query modifier : Document) : Document × Deployment :=
  match assignment? modifier, server.collection? ns with
  | none, _ => (refuse 9 "unknown modifier", server)
  | some _, none => (change false false, server)
  | some fields, some c =>
    match split query c.documents with
    | none => (change false false, server)
    | some (before, d, after) =>
      let (changed, d) := assign fields d
      (change true changed, server.put ns { c with documents := before ++ d :: after })

/-- Documents without the first one that meets a query, or without all of them. -/
def without (query : Document) (single : Bool) (documents : List Document) : List Document :=
  if single then
    match split query documents with
    | none => documents
    | some (before, _, after) => before ++ after
  else documents.filter (fun d => !meets query d)

/-- Deletes documents that meet a query. -/
def delete (server : Deployment) (ns : Namespace) (query : Document) (single : Bool) : Document × Deployment :=
  match server.collection? ns with
  | none => (deletion 0, server)
  | some c =>
    let left := without query single c.documents
    (deletion (c.documents.length - left.length), server.put ns { c with documents := left })

/-- What is asked of a collection. -/
inductive Order where
  | drop
  | insert (documents : List Document)
  | setImages (enabled : Bool)
  /-- Changes the first document that meets a query. -/
  | update (query modifier : Document)
  /-- Deletes the first document that meets a query, or all of them. -/
  | delete (query : Document) (single : Bool)

/-- Does what is asked of a collection. -/
def perform (server : Deployment) (ns : Namespace) : Order → Document × Deployment
  | .drop => server.drop ns
  | .insert documents => server.insert ns documents
  | .setImages enabled => server.setImages ns enabled
  | .update query modifier => server.update ns query modifier
  | .delete query single => server.delete ns query single

/-- The document in an array of one item. -/
def single? : Value → Option Document
  | .array [.document d] => some d
  | _ => none

/-- The documents in an array of nothing else. -/
def documents? (v : Value) : Option (List Document) := v.array?.bind (List.mapM Value.document?)

/-- A change in a command. One of every document that meets the query is not understood. -/
def update? (item : Document) : Option Order := do
  let query ← (← item.get? "q").document?
  let modifier ← (← item.get? "u").document?
  match item.get? "multi" with
  | some (.boolean true) => none
  | _ => return .update query modifier

/-- A deletion in a command. The limit is one document or, if it is zero, none. -/
def deletion? (item : Document) : Option Order := do
  let query ← (← item.get? "q").document?
  match ← item.get? "limit" with
  | .int32 limit => if limit = 1 then some (.delete query true) else if limit = 0 then some (.delete query false) else none
  | _ => none

/-- What a command asks for, by the name of its first field. One that changes no collection is not understood, nor is an insertion that
is to go on behind a document whose identifier is taken. -/
def order? (command : Document) : String → Option Order
  | "drop" => some .drop
  | "insert" =>
    match command.get? "ordered" with
    | some (.boolean false) => none
    | _ => do return .insert (← documents? (← command.get? "documents"))
  | "collMod" => do
    let images ← (← command.get? "changeStreamPreAndPostImages").document?
    return .setImages (← (← images.get? "enabled").boolean?)
  | "update" => do update? (← single? (← command.get? "updates"))
  | "delete" => do deletion? (← single? (← command.get? "deletes"))
  | _ => none

/-- What a command asks for, and of which collection: the first field names the collection, and another one the database. -/
def read? (command : Document) : Option (Namespace × Order) := do
  let (name, v) ← command.head?
  let collection ← v.string?
  let database ← (← command.get? "$db").string?
  let order ← order? command name
  return (⟨database, collection⟩, order)

/-- The reply to a command. -/
def answer (command : Document) (server : Deployment) : Document × Deployment :=
  match read? command with
  | some (ns, order) => server.perform ns order
  | none => (refuse 59 "no such command", server)

/-- What is inserted at all is inserted at once, so that there is nothing to come back for. -/
instance : Server Deployment where
  answer command server := (.ok (answer command server).1, (answer command server).2)
  patience _ := 0

/-! ## What the server reads in commands -/

section

variable {server : Deployment} {ns : Namespace} {order : Order}

theorem answer_of_read? {command : Document} (h : read? command = some (ns, order)) : answer command server = server.perform ns order := by
  rw [answer, h]

theorem read?_drop (ns : Namespace) (concern : WriteConcern) : read? (Command.drop ns concern).document = some (ns, .drop) := by
  rcases concern.fields_cases with h | h <;> rw [Command.document, h] <;> rfl

theorem documents?_map (documents : List Document) :
    documents? (.array (documents.map (fun d => .document (Document.sent d)))) = some (documents.map Document.sent) := by
  show (documents.map (fun d => Value.document (Document.sent d))).mapM Value.document? = _
  induction documents with
  | nil => rfl
  | cons d rest ih =>
    rw [List.map_cons, List.mapM_cons, ih]
    rfl

theorem read?_insert (ns : Namespace) (documents : List Document) (concern : WriteConcern) :
    read? (Command.insert ns documents concern).document = some (ns, .insert (documents.map Document.sent)) := by
  have hread : read? (Command.insert ns documents concern).document =
      (documents? (.array (documents.map (fun d => .document (Document.sent d)))) >>= fun sent => pure (Order.insert sent)) >>=
        fun order => pure (ns, order) := by
    rcases concern.fields_cases with h | h <;> rw [Command.document, h] <;> rfl
  rw [hread, documents?_map]
  rfl

theorem read?_enableImages (ns : Namespace) : read? (Command.enableImages ns).document = some (ns, .setImages true) := rfl

theorem read?_update (ns : Namespace) (query change : Document) (concern : WriteConcern) :
    read? (Command.update ns query change concern).document = some (ns, .update query.sent change.sent) := by
  rcases concern.fields_cases with h | h <;> rw [Command.document, h] <;> rfl

theorem read?_delete (ns : Namespace) (query : Document) (single : Bool) (concern : WriteConcern) :
    read? (Command.delete ns query single concern).document = some (ns, .delete query.sent single) := by
  cases single <;> rcases concern.fields_cases with h | h <;> rw [Command.document, h] <;> rfl

end

/-! ## What a client reads in the replies -/

/-- No reply has labels. -/
theorem replyLabels_perform (server : Deployment) (ns : Namespace) (order : Order) :
    replyLabels (server.perform ns order).1 = [] := by
  have hget : (server.perform ns order).1.get? "errorLabels" = none := by
    cases order with
    | drop =>
      rw [perform, drop]
      split <;> rfl
    | insert documents =>
      rw [perform, insert]
      simp only [insertion]
      split <;> rfl
    | setImages enabled =>
      rw [perform, setImages]
      split <;> rfl
    | update query modifier =>
      rw [perform, update]
      split
      · rfl
      · rfl
      · split <;> rfl
    | delete query single =>
      rw [perform, delete]
      split <;> rfl
  rw [replyLabels, hget]
  rfl

theorem replyLabels_answer (command : Document) (server : Deployment) : replyLabels (answer command server).1 = [] := by
  unfold answer
  split
  · exact replyLabels_perform server _ _
  · rfl

variable {n : Nat}

theorem dropped_confirm : Reply.dropped (confirm []) = .ok () := rfl

theorem dropped_missing : Reply.dropped missing = .ok () := rfl

theorem acknowledgement_confirm : Reply.acknowledgement (confirm []) = .ok () := rfl

theorem acknowledgement_missing :
    Reply.acknowledgement missing = .error (.command ⟨Refusal.namespaceNotFound, "ns does not exist"⟩) := rfl

theorem updated_change (matched modified : Bool) :
    Reply.updated (change matched modified) = .ok ⟨if matched then 1 else 0, if modified then 1 else 0⟩ := by
  cases matched <;> cases modified <;> rfl

/-- A count that is below the limit is read as it was written. -/
theorem integer?_ofNat (h : n < countLimit) : (Value.ofNat n).integer? = some (n : Int) := by
  unfold Value.ofNat
  split
  · next hsmall => rw [Value.integer?, Int32.toInt_ofNat_of_lt (by simpa using hsmall)]
  · rw [Value.integer?, Int64.toInt_ofNat_of_lt h]

theorem count?_ofNat (h : n < countLimit) : (Value.ofNat n).count? = some n := by
  have hinteger := integer?_ofNat h
  unfold Value.count?
  split
  · next x hdouble =>
    rw [hdouble] at hinteger
    cases hinteger
  · rw [hinteger]

theorem readIndex_ofNat (h : n < countLimit) : (Value.ofNat n).readIndex = .ok n := by
  have hbounds : (0 : Int) ≤ n ∧ (n : Int) ≤ 18446744073709551615 := by
    unfold countLimit at h
    omega
  unfold Value.readIndex Value.readInteger
  rw [integer?_ofNat h]
  simp only [if_pos hbounds]
  rfl

/-- A reply that counts, whatever else it holds behind the count. -/
theorem counted_confirm (h : n < countLimit) (rest : Document) : Reply.counted (confirm (("n", Value.ofNat n) :: rest)) = .ok n := by
  have hget : (confirm (("n", Value.ofNat n) :: rest)).get? "n" = some (Value.ofNat n) := rfl
  simp only [Reply.counted, hget, count?_ofNat h]

theorem deleted_deletion (h : n < countLimit) : Reply.deleted (deletion n) = .ok n :=
  counted_confirm h []

/-- Where all documents are inserted, as many are counted. -/
theorem inserted_insertion (h : n < countLimit) : Reply.inserted n (insertion n []) = .ok n := by
  have hopen : Reply.inserted n (insertion n []) = (Reply.counted (insertion n [])).map (fun count => min count n) := rfl
  have hcounted : Reply.counted (insertion n []) = .ok n := counted_confirm h []
  rw [hopen, hcounted]
  exact congrArg Except.ok (Nat.min_self n)

/-- The refusal of a write is read as it was written, whatever the place that goes with it. -/
theorem readWriteRefusal_document {place : Value} (hplace : place.readIndex = .ok n) (refusal : Refusal) :
    Reply.readWriteRefusal (.document [("index", place), ("code", .int32 refusal.code), ("errmsg", .string refusal.message)]) =
      .ok refusal := by
  have hindex : Reply.fillWriteRefusal ⟨none, ""⟩ "index" place = .ok ⟨none, ""⟩ := by
    simp only [Reply.fillWriteRefusal, hplace]
    rfl
  have hcode : Reply.fillWriteRefusal ⟨none, ""⟩ "code" (.int32 refusal.code) = .ok ⟨some refusal.code, ""⟩ := by
    simp only [Reply.fillWriteRefusal, Value.readInt32_int32]
    rfl
  have hopen : Reply.readWriteRefusal
      (.document [("index", place), ("code", .int32 refusal.code), ("errmsg", .string refusal.message)]) =
      (Reply.fillWriteRefusal ⟨none, ""⟩ "index" place >>= fun draft => Reply.fillWriteRefusal draft "code" (.int32 refusal.code) >>=
        fun draft => .ok { draft with message := refusal.message }) >>= Reply.RefusalDraft.refusal := rfl
  rw [hopen, hindex]
  simp only [bind, Except.bind, hcode]
  rfl

/-- Every refusal in a reply is in the report on writes. -/
theorem readWriteReport_confirm {items : List Value} {refusals : List Refusal}
    (h : items.mapM Reply.readWriteRefusal = .ok refusals) (count : Value) :
    Reply.readWriteReport (confirm [("n", count), ("writeErrors", .array items)]) = .ok ⟨some refusals, none⟩ := by
  -- the fields before the refusals fill nothing in
  have hopen : Reply.readWriteReport (confirm [("n", count), ("writeErrors", .array items)]) =
      (Reply.fillWriteReport ⟨none, none⟩ "writeErrors" (.array items)) >>= pure := rfl
  rw [hopen]
  simp only [Reply.fillWriteReport, Value.readOptional, Value.readSequence, h]
  rfl

/-- The report in a reply to an insertion that leaves documents: the first of them was refused. -/
theorem readWriteReport_insertion_cons (h : n < countLimit) (d : Document) (rest : List Document) :
    Reply.readWriteReport (insertion n (d :: rest)) = .ok ⟨some [⟨Refusal.duplicateKey, "duplicate key"⟩], none⟩ := by
  have hclash : Reply.readWriteRefusal (clash n) = .ok ⟨Refusal.duplicateKey, "duplicate key"⟩ :=
    readWriteRefusal_document (readIndex_ofNat h) ⟨Refusal.duplicateKey, "duplicate key"⟩
  have hread : [clash n].mapM Reply.readWriteRefusal = .ok [⟨Refusal.duplicateKey, "duplicate key"⟩] := by
    rw [List.mapM_cons, hclash]
    rfl
  exact readWriteReport_confirm hread (Value.ofNat n)

/-- Where a document is left, its identifier is taken. -/
theorem inserted_insertion_cons (h : n < countLimit) (count : Nat) (d : Document) (rest : List Document) :
    Reply.inserted count (insertion n (d :: rest)) = .error (.insertion (some [⟨Refusal.duplicateKey, "duplicate key"⟩]) none) := by
  have haccept : Reply.accept (insertion n (d :: rest)) = .ok (insertion n (d :: rest)) := rfl
  have hdecoded : Reply.decoded (Reply.readWriteReport (insertion n (d :: rest))) =
      .ok ⟨some [⟨Refusal.duplicateKey, "duplicate key"⟩], none⟩ := by
    rw [readWriteReport_insertion_cons h]
    rfl
  have hcounted : Reply.counted (insertion n (d :: rest)) = .ok n := counted_confirm h _
  simp only [Reply.inserted, haccept, hdecoded, hcounted, bind, Except.bind]

end Deployment

end Seedbed
