import Mathlib.Data.List.Forall2
import Seedbed.Proofs.Action
import Seedbed.Server.Client

/-!
# What each call of a client leaves

A call that changes a collection is one command, as long as the command is not sent again: its result is what the client reads in
the reply, a fault being told as an error of the store, and the client remembers the document that it has sent (`leaves_request`). This
goes for writes that somebody confirms and for documents that can be sent; an insertion has to be answered in one piece besides, and
without documents it is no command at all. A result that the client reads, and that comes in one batch, is one command in any case.
-/

namespace Seedbed

/-- Whether a document can be sent. -/
def Document.Sendable (d : Document) : Prop := unsendableField? d = none

/-- What can be sent is not refused before it is sent. -/
theorem Document.forM_checkSendable {documents : List Document} (h : ∀ d ∈ documents, d.Sendable) :
    documents.forM Document.checkSendable = .ok () := by
  induction documents with
  | nil => rfl
  | cons d rest ih =>
    obtain ⟨hd, hrest⟩ := List.forall_mem_cons.1 h
    have hcheck : d.checkSendable = .ok () := by rw [checkSendable, hd]
    have hforM : (d :: rest).forM checkSendable = d.checkSendable >>= fun _ => rest.forM checkSendable := rfl
    rw [hforM, hcheck]
    exact ih hrest

/-- A fault says that there is no such collection if it is the refusal of a command with one code. -/
theorem ServerFault.saysMissing_iff {fault : ServerFault} : fault.saysMissing = true ↔ ∃ message, fault = .command ⟨26, message⟩ := by
  constructor
  · intro h
    cases fault with
    | command refusal =>
      obtain ⟨code, message⟩ := refusal
      obtain rfl : code = 26 := eq_of_beq h
      exact ⟨message, rfl⟩
    | _ => cases h
  · rintro ⟨message, rfl⟩
    rfl

namespace Client

variable {κ : Type} [Server κ] {client t : Client κ} {ns : Namespace}

/-- What comes of a command. -/
def answer (client : Client κ) (command : Command) : Except ServerFault Document :=
  (Server.answer command.document client.server).1

/-- A client after commands, with the given supply of identifiers. -/
def told (client : Client κ) (commands : List Command) (ids : IdSource) : Client κ :=
  { client with
    server := commands.foldl (fun server command => (Server.answer command.document server).2) client.server
    sent := client.sent ++ commands.map Command.document
    ids }

theorem told_nil (client : Client κ) : client.told [] client.ids = client := by
  rw [told, List.map_nil, List.append_nil]
  rfl

/-- Whether a command, whatever fault is found in the answer to it, is not sent again. -/
def SendsOnce (client : Client κ) (command : Command) : Prop :=
  ∀ fault, client.retries.again command 0 fault (answerLabels (client.answer command)) = false

/-- Where the answer has no labels, nothing but a query is sent again. -/
theorem sendsOnce_of_labels {command : Command} (hlabels : answerLabels (client.answer command) = [])
    (hquery : command.isQuery = false) : client.SendsOnce command := by
  intro fault
  have hload : fault.fromOverload [] = false := by cases fault <;> rfl
  rw [hlabels, RetryPolicy.again, hload, hquery]
  simp

/-- Whether somebody confirms what a client writes. -/
def IsAcknowledged (client : Client κ) : Prop := client.concerns.write.isAcknowledged = true

end Client

/-! ## Dealings -/

namespace Dealing

/-- What is made of a document that is inserted: one that has no identifier gets one in front of its fields. -/
inductive IdentifiedAs (d : Document) : Document → Prop
  | given (h : d.has "_id" = true) : IdentifiedAs d d
  | madeUp (h : d.has "_id" = false) (id : ObjectId) : IdentifiedAs d (("_id", .objectId id) :: d)

theorem identifiedAs_identify (ids : IdSource) (d : Document) : IdentifiedAs d (identify ids d).1 := by
  unfold identify
  split
  · next h => exact .given h
  · next h => exact .madeUp (Bool.eq_false_iff.2 h) ids.draw.1

/-- The documents of an insertion are identified each for itself, and stay in their order. -/
theorem identifiedAs_identifyAll (ids : IdSource) (documents : List Document) :
    List.Forall₂ IdentifiedAs documents (identifyAll ids documents).1 := by
  induction documents generalizing ids with
  | nil => exact .nil
  | cons d rest ih => exact .cons (identifiedAs_identify ids d) (ih _)

theorem length_identifyAll (ids : IdSource) (documents : List Document) :
    (identifyAll ids documents).1.length = documents.length :=
  (identifiedAs_identifyAll ids documents).length_eq.symm

/-- A document that gets an identifier can still be sent. -/
theorem IdentifiedAs.sendable {d e : Document} (h : IdentifiedAs d e) (hd : d.Sendable) : e.Sendable := by
  cases h <;> exact hd

theorem sendable_identifyAll {documents : List Document} (h : ∀ d ∈ documents, d.Sendable) (ids : IdSource) :
    ∀ d ∈ (identifyAll ids documents).1, d.Sendable := by
  induction documents generalizing ids with
  | nil => exact h
  | cons d rest ih =>
    obtain ⟨hd, hrest⟩ := List.forall_mem_cons.1 h
    exact List.forall_mem_cons.2 ⟨(identifiedAs_identify ids d).sendable hd, ih hrest _⟩

/-- Documents that have identifiers are inserted as they are. -/
theorem identifyAll_of_has {documents : List Document} (h : ∀ d ∈ documents, d.has "_id" = true) (ids : IdSource) :
    identifyAll ids documents = (documents, ids) := by
  induction documents with
  | nil => rfl
  | cons d rest ih =>
    obtain ⟨hd, hrest⟩ := List.forall_mem_cons.1 h
    rw [identifyAll, identify, if_pos hd]
    simp only [ih hrest]

variable {κ : Type} [Server κ] {client t : Client κ} {ns : Namespace}

section

variable {α : Type} {command : Command} {read : Document → Except ServerFault α}

/-- A command that there is a reason to send again is sent again. -/
theorem attempt_of_repeats {attempts : Nat}
    (h : (client.ask command).2.repeats command attempts (client.answer command) (client.answer command >>= read) = true) (more : Nat) :
    attempt command read attempts (more + 1) client = attempt command read (attempts + 1) more (client.ask command).2 :=
  if_pos h

/-- A command that there is no reason to send again has its answer. -/
theorem attempt_of_not_repeats {attempts : Nat}
    (h : (client.ask command).2.repeats command attempts (client.answer command) (client.answer command >>= read) = false) (more : Nat) :
    attempt command read attempts (more + 1) client = ⟨client.answer command >>= read, (client.ask command).2, []⟩ :=
  if_neg (Bool.eq_false_iff.1 h)

/-- A command whose answer, as the client reads it, is no reason to send it again has that one answer. -/
theorem leaves_request_once
    (h : (client.told [command] client.ids).repeats command 0 (client.answer command) (client.answer command >>= read) = false) :
    (request command read).Leaves client (client.answer command >>= read) (client.told [command] client.ids) := by
  obtain ⟨more, hmore⟩ : ∃ more, max 1 client.retries.patience = more + 1 := ⟨max 1 client.retries.patience - 1, by omega⟩
  have hattempt : attempt command read 0 (more + 1) client =
      ⟨client.answer command >>= read, client.told [command] client.ids, []⟩ := attempt_of_not_repeats h more
  constructor <;> rw [request, hmore, hattempt]

/-- A command that is not sent again has one answer, in which the client reads the result. -/
theorem leaves_request (h : client.SendsOnce command) (read : Document → Except ServerFault α) :
    (request command read).Leaves client (client.answer command >>= read) (client.told [command] client.ids) := by
  refine leaves_request_once ?_
  unfold Client.repeats
  split
  · exact h _
  · rfl

/-- A command in whose answer the client reads a result is not sent again. -/
theorem leaves_request_of_ok {a : α} (h : (client.answer command >>= read) = .ok a) :
    (request command read).Leaves client (.ok a) (client.told [command] client.ids) := by
  rw [← h]
  refine leaves_request_once ?_
  rw [h]
  rfl

end

omit [Server κ] in
theorem leaves_writeConcern (h : client.IsAcknowledged) : writeConcern.Leaves client (.ok client.concerns.write) client := by
  rw [Client.IsAcknowledged] at h
  constructor <;> rw [writeConcern, if_pos h]

omit [Server κ] in
theorem leaves_checkSendable {documents : List Document} (h : ∀ d ∈ documents, d.Sendable) (client : Client κ)
    (fault : EncodingFault → ServerFault) : (checkSendable fault documents).Leaves client (.ok ()) client := by
  rw [checkSendable, Document.forM_checkSendable h]
  exact (Action.Leaves.ofResult (.ok ()) client).mapError _

/-- Where all documents are inserted that are sent, nothing is left to be sent again. -/
theorem leaves_insertRest {documents : List Document} {concern : WriteConcern} (honce : client.SendsOnce (.insert ns documents concern))
    (hall : ∀ n, (client.answer (.insert ns documents concern) >>= Reply.inserted documents.length) = .ok n → n = documents.length)
    (fuel : Nat) :
    (insertRest ns concern (fuel + 1) documents).Leaves client
      ((client.answer (.insert ns documents concern) >>= Reply.inserted documents.length).map (fun _ => ()))
      (client.told [.insert ns documents concern] client.ids) := by
  have hrequest := leaves_request honce (Reply.inserted documents.length)
  cases hread : client.answer (.insert ns documents concern) >>= Reply.inserted documents.length with
  | error fault =>
    rw [hread] at hrequest
    exact hrequest.bind_error
  | ok n =>
    rw [hread] at hrequest
    refine hrequest.bind ?_
    have hleft : (documents.drop n).isEmpty = true := by
      rw [hall n hread, List.drop_length]
      rfl
    rw [if_pos hleft]
    exact .pure () _

/-- An insertion draws from the supply before it does anything else. -/
theorem insertMany_eq {documents identified : List Document} {ids : IdSource} (ns : Namespace)
    (hidentified : identifyAll client.ids documents = (identified, ids)) :
    insertMany ns documents client =
      (writeConcern >>= fun concern => checkSendable .encoding identified >>= fun _ =>
        insertRest ns concern (Server.patience client.server + 1) identified >>= fun _ => pure documents.length)
        { client with ids } := by
  rw [insertMany, hidentified]

/-- What an insertion of documents leaves is what the sending of them leaves, once they have identifiers. -/
theorem leaves_insertMany_of_insertRest {documents identified : List Document} {ids : IdSource} {r : Except ServerFault Nat}
    (h : client.IsAcknowledged) (hidentified : identifyAll client.ids documents = (identified, ids))
    (hsendable : ∀ d ∈ documents, d.Sendable)
    (hrest : (insertRest ns client.concerns.write (Server.patience client.server + 1) identified >>= fun _ =>
      (pure documents.length : Action ServerFault (Client κ) Nat)).Leaves { client with ids } r t) :
    (insertMany ns documents).Leaves client r t := by
  have hsendable' : ∀ d ∈ identified, d.Sendable := by
    have hall := sendable_identifyAll hsendable client.ids
    rwa [hidentified] at hall
  have hacknowledged : Client.IsAcknowledged { client with ids } := h
  have hsteps : (writeConcern >>= fun concern => checkSendable .encoding identified >>= fun _ =>
      insertRest ns concern (Server.patience client.server + 1) identified >>= fun _ => pure documents.length).Leaves
        { client with ids } r t :=
    (leaves_writeConcern hacknowledged).bind ((leaves_checkSendable hsendable' { client with ids } .encoding).bind hrest)
  have hopen := insertMany_eq ns hidentified
  exact ⟨hopen ▸ hsteps.result, hopen ▸ hsteps.state⟩

/-- Documents are sent in one command, if all that are inserted at all are inserted at once. -/
theorem leaves_insertMany {documents identified : List Document} {ids : IdSource} (h : client.IsAcknowledged)
    (hidentified : identifyAll client.ids documents = (identified, ids))
    (honce : client.SendsOnce (.insert ns identified client.concerns.write)) (hsendable : ∀ d ∈ documents, d.Sendable)
    (hall : ∀ n, (client.answer (.insert ns identified client.concerns.write) >>= Reply.inserted documents.length) = .ok n →
      n = documents.length) :
    (insertMany ns documents).Leaves client
      (client.answer (.insert ns identified client.concerns.write) >>= Reply.inserted documents.length)
      (client.told [.insert ns identified client.concerns.write] ids) := by
  have hlength : identified.length = documents.length := by
    rw [← length_identifyAll client.ids documents, hidentified]
  refine leaves_insertMany_of_insertRest h hidentified hsendable ?_
  -- the supply of identifiers has no part in the answer
  have honce' : Client.SendsOnce { client with ids } (.insert ns identified client.concerns.write) := honce
  have hrest : (insertRest ns client.concerns.write (Server.patience client.server + 1) identified).Leaves { client with ids }
      ((client.answer (.insert ns identified client.concerns.write) >>= Reply.inserted identified.length).map (fun _ => ()))
      (client.told [.insert ns identified client.concerns.write] ids) :=
    leaves_insertRest honce' (by rw [hlength]; exact hall) (Server.patience client.server)
  rw [hlength] at hrest
  cases hread : client.answer (.insert ns identified client.concerns.write) >>= Reply.inserted documents.length with
  | error fault =>
    rw [hread] at hrest
    exact hrest.bind_error
  | ok n =>
    rw [hread] at hrest
    rw [hall n hread]
    exact hrest.bind (.pure documents.length _)

/-- What a call leaves that writes, once somebody confirms it and what it says can be sent, is what its command leaves. -/
theorem leaves_updateOne_of_request {query change : Document} {r : Except ServerFault UpdateOutcome} (h : client.IsAcknowledged)
    (hquery : query.Sendable) (hchange : change.Sendable)
    (hrequest : (request (.update ns query change client.concerns.write) Reply.updated).Leaves client r t) :
    (updateOne ns query change).Leaves client r t := by
  have hsendable : ∀ d ∈ [query, change], d.Sendable := List.forall_mem_cons.2 ⟨hquery, List.forall_mem_singleton.2 hchange⟩
  exact (leaves_writeConcern h).bind ((leaves_checkSendable hsendable client malformed).bind hrequest)

theorem leaves_delete_of_request {query : Document} {single : Bool} {r : Except ServerFault Nat} (h : client.IsAcknowledged)
    (hquery : query.Sendable)
    (hrequest : (request (.delete ns query single client.concerns.write) Reply.deleted).Leaves client r t) :
    (delete ns query single).Leaves client r t := by
  have hsendable : ∀ d ∈ [query], d.Sendable := List.forall_mem_singleton.2 hquery
  exact (leaves_writeConcern h).bind ((leaves_checkSendable hsendable client malformed).bind hrequest)

theorem leaves_drop_of_request {r : Except ServerFault Unit} (h : client.IsAcknowledged)
    (hrequest : (request (.drop ns client.concerns.write) Reply.dropped).Leaves client r t) : (drop ns).Leaves client r t :=
  (leaves_writeConcern h).bind hrequest

/-- A result that comes in one batch is read with one command. -/
theorem leaves_findAll {documents : List Document} {address : Namespace}
    (h : (client.answer (.find ns client.concerns.read) >>= Reply.found) = .ok ⟨documents, 0, address⟩) :
    (findAll ns).Leaves client (.ok documents) (client.told [.find ns client.concerns.read] client.ids) := by
  have hrest : (findRest (Server.patience client.server + 1) ⟨documents, 0, address⟩).Leaves
      (client.told [.find ns client.concerns.read] client.ids) (.ok documents)
      (client.told [.find ns client.concerns.read] client.ids) := by
    rw [findRest, if_pos rfl]
    exact ⟨rfl, rfl⟩
  have hleaves := (leaves_request_of_ok h).bind hrest
  exact ⟨hleaves.result, hleaves.state⟩

end Dealing

/-! ## Calls -/

namespace Client

variable {κ : Type} {client t : Client κ} {ns : Namespace}

/-- A call has the result of the dealing that it is, with a fault told as an error of the store. -/
theorem leaves_telling {α : Type} {dealing : Action ServerFault (Client κ) α} {r : Except ServerFault α}
    (h : dealing.Leaves client r t) (ns : Namespace) :
    (telling ns dealing).Leaves client (r.mapError (ServerFault.storeError ns)) t := h.mapError _

variable [Server κ]

/-- A drop succeeds if there is no such collection. -/
theorem leaves_drop_of_dealing {r : Except ServerFault Unit} (h : (Dealing.drop ns).Leaves client r t) :
    (drop ns).Leaves client ((Reply.tolerateMissing r).mapError (ServerFault.storeError ns)) t := by
  cases r with
  | ok done => exact h.recover_ok _
  | error fault =>
    refine h.recover_error ?_
    by_cases hmissing : fault.saysMissing = true
    · simp only [Reply.tolerateMissing, if_pos hmissing]
      exact .say _ _ _ t
    · simp only [Reply.tolerateMissing, if_neg hmissing]
      exact .fail _ t

/-- That there is no such collection is tolerated, whether it has been tolerated before or not. -/
theorem tolerateMissing_bind_dropped (answer : Except ServerFault Document) :
    Reply.tolerateMissing (answer >>= Reply.dropped) = Reply.tolerateMissing (answer >>= Reply.confirmation) := by
  cases answer with
  | error fault => rfl
  | ok reply =>
    show Reply.tolerateMissing (Reply.tolerateMissing (Reply.confirmation reply)) = Reply.tolerateMissing (Reply.confirmation reply)
    cases Reply.confirmation reply with
    | ok done => rfl
    | error fault =>
      by_cases hmissing : fault.saysMissing = true
      · simp only [Reply.tolerateMissing, if_pos hmissing]
      · simp only [Reply.tolerateMissing, if_neg hmissing]

theorem leaves_drop (h : client.IsAcknowledged) (honce : client.SendsOnce (.drop ns client.concerns.write)) :
    (drop ns).Leaves client
      ((Reply.tolerateMissing (client.answer (.drop ns client.concerns.write) >>= Reply.confirmation)).mapError
        (ServerFault.storeError ns))
      (client.told [.drop ns client.concerns.write] client.ids) := by
  rw [← tolerateMissing_bind_dropped]
  exact leaves_drop_of_dealing (Dealing.leaves_drop_of_request h (Dealing.leaves_request honce Reply.dropped))

/-- Without documents nothing is sent. -/
theorem leaves_insertMany_nil (client : Client κ) (ns : Namespace) : (insertMany ns []).Leaves client (.ok 0) client := ⟨rfl, rfl⟩

theorem insertMany_of_ne {documents : List Document} (ns : Namespace) (h : documents ≠ []) :
    insertMany ns documents = (telling ns (Dealing.insertMany ns documents) : Action StoreError (Client κ) Nat) :=
  if_neg (by simpa using h)

theorem leaves_insertMany {documents identified : List Document} {ids : IdSource} (h : client.IsAcknowledged) (hne : documents ≠ [])
    (hidentified : Dealing.identifyAll client.ids documents = (identified, ids))
    (honce : client.SendsOnce (.insert ns identified client.concerns.write)) (hsendable : ∀ d ∈ documents, d.Sendable)
    (hall : ∀ n, (client.answer (.insert ns identified client.concerns.write) >>= Reply.inserted documents.length) = .ok n →
      n = documents.length) :
    (insertMany ns documents).Leaves client
      ((client.answer (.insert ns identified client.concerns.write) >>= Reply.inserted documents.length).mapError
        (ServerFault.storeError ns))
      (client.told [.insert ns identified client.concerns.write] ids) := by
  rw [insertMany_of_ne ns hne]
  exact leaves_telling (Dealing.leaves_insertMany h hidentified honce hsendable hall) ns

/-- The capture of images is turned on with or without confirmation. -/
theorem leaves_enableImages (honce : client.SendsOnce (.enableImages ns)) :
    (enableImages ns).Leaves client
      ((client.answer (.enableImages ns) >>= Reply.acknowledgement).mapError (ServerFault.storeError ns))
      (client.told [.enableImages ns] client.ids) :=
  leaves_telling (Dealing.leaves_request honce Reply.acknowledgement) ns

theorem leaves_updateOne {f : Filter} {u : FieldUpdate} (h : client.IsAcknowledged)
    (honce : client.SendsOnce (.update ns f.query u.document client.concerns.write)) (hf : f.query.Sendable)
    (hu : u.document.Sendable) :
    (updateOne ns f u).Leaves client
      ((client.answer (.update ns f.query u.document client.concerns.write) >>= Reply.updated).mapError (ServerFault.storeError ns))
      (client.told [.update ns f.query u.document client.concerns.write] client.ids) :=
  leaves_telling (Dealing.leaves_updateOne_of_request h hf hu (Dealing.leaves_request honce Reply.updated)) ns

/-- The two ways of deletion differ in nothing but how much they ask for. -/
theorem leaves_delete {f : Filter} {single : Bool} (h : client.IsAcknowledged)
    (honce : client.SendsOnce (.delete ns f.query single client.concerns.write)) (hf : f.query.Sendable) :
    (telling ns (Dealing.delete ns f.query single)).Leaves client
      ((client.answer (.delete ns f.query single client.concerns.write) >>= Reply.deleted).mapError (ServerFault.storeError ns))
      (client.told [.delete ns f.query single client.concerns.write] client.ids) :=
  leaves_telling (Dealing.leaves_delete_of_request h hf (Dealing.leaves_request honce Reply.deleted)) ns

theorem leaves_findAll {documents : List Document} {address : Namespace}
    (h : (client.answer (.find ns client.concerns.read) >>= Reply.found) = .ok ⟨documents, 0, address⟩) :
    (findAll ns).Leaves client (.ok documents) (client.told [.find ns client.concerns.read] client.ids) :=
  leaves_telling (Dealing.leaves_findAll h) ns

theorem leaves_imagesEnabled {enabled : Bool} (h : (client.answer (.listCollections ns) >>= Reply.imagesEnabled) = .ok enabled) :
    (imagesEnabled ns).Leaves client (.ok enabled) (client.told [.listCollections ns] client.ids) :=
  leaves_telling (Dealing.leaves_request_of_ok h) ns

end Client

end Seedbed
