import Seedbed.Proofs.Bson.Coding
import Seedbed.Proofs.Server.Dealings
import Seedbed.Proofs.Server.Deployment

/-!
# Refusals

A server may refuse a whole command, the one write of a command or writes of an insertion (`ServerFault.Tells`). In whichever way it
does, the refusal is told by the same error of a store, whose kind is that of the code alone (`Refusal.classified_storeError`). A call on
a server that always answers the same, be it a reply or a fault without one, fails with what is told of the answer, however often it
asks: of a fault (`Call.leaves_unanswered`), of a refusal (`Call.leaves_refused`, `Call.leaves_refusedWrite`) and of a write that is not
confirmed (`Call.leaves_unconfirmed`).
-/

namespace Seedbed

/-! ## Refusals as errors of a store -/

/-- Whether a fault tells of a refusal: of a whole command, of the one write of a command, or of the first write of an insertion that
was refused, whatever was refused after it. -/
inductive ServerFault.Tells (refusal : Refusal) : ServerFault → Prop
  | command : Tells refusal (.command refusal)
  | write : Tells refusal (.write refusal)
  | insertion (others : List Refusal) (concern : Option ConcernFault) : Tells refusal (.insertion (some (refusal :: others)) concern)

/-- A refusal is told in one way, whatever fault tells of it. -/
theorem ServerFault.Tells.storeError_eq {refusal : Refusal} {fault : ServerFault} (h : fault.Tells refusal) (ns : Namespace) :
    fault.storeError ns = refusal.storeError ns := by
  cases h <;> rfl

namespace Refusal

/-- Whether an error is of the kind that the code of a refusal has, and says where, what and by which code if the code has no kind of
its own. -/
structure Classified (ns : Namespace) (refusal : Refusal) (e : StoreError) : Prop where
  notFound_iff : (∃ address target, e = .notFound address target) ↔ refusal.code = 26
  duplicateKey_iff : (∃ address id, e = .duplicateKey address id) ↔ refusal.code = 11000
  connection_iff : (∃ reason, e = .connection reason) ↔ refusal.code = 13 ∨ refusal.code = 18
  backend : refusal.code ≠ 26 → refusal.code ≠ 11000 → refusal.code ≠ 13 → refusal.code ≠ 18 →
    ∃ text, e = .backend text ∧ ns.render.toList <:+: text.toList ∧ refusal.message.toList <:+: text.toList ∧
      (toString refusal.code.toInt).toList <:+: text.toList

/-- The text for a code that has no kind of its own holds the address, the message and the code. -/
theorem isInfix_backend (ns : Namespace) (refusal : Refusal) :
    let text := ns.render ++ ": " ++ refusal.message ++ " (code " ++ toString refusal.code.toInt ++ ")"
    ns.render.toList <:+: text.toList ∧ refusal.message.toList <:+: text.toList ∧
      (toString refusal.code.toInt).toList <:+: text.toList := by
  intro text
  have hparts : text.toList = ns.render.toList ++ (": ".toList ++ (refusal.message.toList ++ (" (code ".toList ++
      ((toString refusal.code.toInt).toList ++ ")".toList)))) := by
    simp only [text, String.toList_append, List.append_assoc]
  rw [hparts]
  refine ⟨(List.prefix_append _ _).isInfix, ?_, ?_⟩
  · rw [← List.append_assoc]
    exact List.infix_append' _ _ _
  · rw [← List.append_assoc, ← List.append_assoc, ← List.append_assoc]
    exact List.infix_append' _ _ _

/-- Every refusal is told by an error of the kind that its code has. -/
theorem classified_storeError (ns : Namespace) (refusal : Refusal) : refusal.Classified ns (refusal.storeError ns) := by
  by_cases hmissing : refusal.code = namespaceNotFound
  · have htold : refusal.storeError ns = .notFound ns.render "collection" := if_pos hmissing
    have hcode : refusal.code = 26 := hmissing
    constructor <;> simp [htold, hcode]
  by_cases htaken : refusal.code = duplicateKey
  · have htold : refusal.storeError ns = .duplicateKey ns.render refusal.message := by
      rw [storeError, if_neg hmissing, if_pos htaken]
    have hcode : refusal.code = 11000 := htaken
    constructor <;> simp [htold, hcode]
  by_cases hbarred : refusal.code = unauthorized ∨ refusal.code = authenticationFailed
  · have htold : refusal.storeError ns = .connection refusal.message := by
      rw [storeError, if_neg hmissing, if_neg htaken, if_pos hbarred]
    have hcode : refusal.code = 13 ∨ refusal.code = 18 := hbarred
    rcases hcode with hcode | hcode <;> constructor <;> simp [htold, hcode]
  · have htold : refusal.storeError ns =
        .backend (ns.render ++ ": " ++ refusal.message ++ " (code " ++ toString refusal.code.toInt ++ ")") := by
      rw [storeError, if_neg hmissing, if_neg htaken, if_neg hbarred]
    rw [htold]
    constructor
    · exact iff_of_false (by simp) hmissing
    · exact iff_of_false (by simp) htaken
    · exact iff_of_false (by simp) hbarred
    · intro _ _ _ _
      exact ⟨_, rfl, isInfix_backend ns refusal⟩

end Refusal

/-! ## Replies that refuse -/

/-- A refusal as a reply reports it of a write. -/
def Refusal.report (refusal : Refusal) : Value :=
  .document [("index", .int32 0), ("code", .int32 refusal.code), ("errmsg", .string refusal.message)]

namespace Reply

/-- A reply to a command of which the whole is refused. -/
def refusing (refusal : Refusal) : Document := Deployment.refuse refusal.code refusal.message

/-- A reply to a command of which writes are refused. -/
def refusingWrites (refusals : List Refusal) : Document :=
  Deployment.confirm [("n", .int32 0), ("writeErrors", .array (refusals.map Refusal.report))]

theorem readCommandRefusal_refusing (refusal : Refusal) : readCommandRefusal (refusing refusal) = .ok refusal := by
  have hcode : fillCommandRefusal ⟨none, refusal.message⟩ "code" (.int32 refusal.code) = .ok ⟨some refusal.code, refusal.message⟩ := by
    simp only [fillCommandRefusal, Value.readInt32_int32]
    rfl
  -- the fields before the code fill in the message alone
  have hopen : readCommandRefusal (refusing refusal) =
      (fillCommandRefusal ⟨none, refusal.message⟩ "code" (.int32 refusal.code) >>= pure) >>= RefusalDraft.refusal := rfl
  rw [hopen, hcode]
  rfl

/-- No reply is accepted that refuses the whole command. -/
theorem accept_refusing (refusal : Refusal) : accept (refusing refusal) = .error (.command refusal) := by
  have hrefused : accept (refusing refusal) = refused (refusing refusal) := rfl
  rw [hrefused, refused, readCommandRefusal_refusing]

/-- The writes that a reply refuses are all in its report. -/
theorem readWriteReport_refusingWrites (refusals : List Refusal) :
    readWriteReport (refusingWrites refusals) = .ok ⟨some refusals, none⟩ := by
  refine Deployment.readWriteReport_confirm ?_ (.int32 0)
  induction refusals with
  | nil => rfl
  | cons refusal rest ih =>
    have hreport : readWriteRefusal refusal.report = .ok refusal := Deployment.readWriteRefusal_document rfl refusal
    rw [List.map_cons, List.mapM_cons, hreport, ih]
    rfl

end Reply

/-! ## Faults of the one write of a command -/

namespace Reply

variable {reply : Document} {report : WriteReport} {fault : ServerFault}

/-- What is wrong with the one write of an update comes before its counts. -/
theorem updated_eq_error (haccept : accept reply = .ok reply) (hreport : readWriteReport reply = .ok report)
    (hwritten : written report = .error fault) : updated reply = .error fault := by
  simp only [updated, haccept, hreport, hwritten, decoded, bind, Except.bind]

/-- What is wrong with the one write of a deletion comes before its count. -/
theorem deleted_eq_error (haccept : accept reply = .ok reply) (hreport : readWriteReport reply = .ok report)
    (hwritten : written report = .error fault) : deleted reply = .error fault := by
  simp only [deleted, haccept, hreport, hwritten, decoded, bind, Except.bind]

end Reply

/-! ## Replies that leave a write unconfirmed -/

namespace Reply

/-- An unconfirmed write as a reply reports it. -/
def concernReport (code : Int32) (codeName message : String) : Value :=
  .document [("code", .int32 code), ("codeName", .string codeName), ("errmsg", .string message)]

/-- A reply to a command that was done, with whatever count, but is not confirmed by as many members of a cluster as it should be. -/
def unconfirmed (count : Value) (code : Int32) (codeName message : String) : Document :=
  Deployment.confirm [("n", count), ("writeConcernError", concernReport code codeName message)]

theorem readConcern_concernReport (code : Int32) (codeName message : String) :
    readConcern (concernReport code codeName message) = .ok ⟨code, codeName, message, none, []⟩ := by
  have hcode : fillConcern ⟨none, "", none, none, []⟩ "code" (.int32 code) = .ok ⟨some code, "", none, none, []⟩ := by
    simp only [fillConcern, Value.readInt32_int32]
    rfl
  have hopen : readConcern (concernReport code codeName message) =
      (fillConcern ⟨none, "", none, none, []⟩ "code" (.int32 code) >>= fun draft =>
        ConcernDraft.fillMessage { draft with codeName := codeName } (.string message) >>= pure) >>= fun draft =>
          required "code" draft.code >>= fun code => .ok ⟨code, draft.codeName, draft.message.getD "", draft.details, draft.labels⟩ := rfl
  rw [hopen, hcode]
  rfl

/-- What is unconfirmed is in the report on writes, and none of the writes is refused. -/
theorem readWriteReport_unconfirmed (count : Value) (code : Int32) (codeName message : String) :
    readWriteReport (unconfirmed count code codeName message) = .ok ⟨none, some ⟨code, codeName, message, none, []⟩⟩ := by
  have hopen : readWriteReport (unconfirmed count code codeName message) =
      fillWriteReport ⟨none, none⟩ "writeConcernError" (concernReport code codeName message) >>= pure := rfl
  have hoptional : (concernReport code codeName message).readOptional readConcern =
      (readConcern (concernReport code codeName message)).map some := rfl
  rw [hopen]
  simp only [fillWriteReport, hoptional, readConcern_concernReport]
  rfl

theorem readConcernReport_unconfirmed (count : Value) (code : Int32) (codeName message : String) :
    readConcernReport (unconfirmed count code codeName message) = .ok ⟨none, some ⟨code, codeName, message, none, []⟩⟩ :=
  readWriteReport_unconfirmed count code codeName message

end Reply

/-! ## Faults in the first answer -/

namespace Call

/-- Whether something is sent for a call, and all of it can be sent. -/
def Sendable : Call → Prop
  | .insertMany documents => documents ≠ [] ∧ ∀ d ∈ documents, d.Sendable
  | .updateOne f u => f.query.Sendable ∧ u.document.Sendable
  | .deleteOne f => f.query.Sendable
  | .deleteMany f => f.query.Sendable
  | .drop => True
  | .enableImages => True
  | .findAll => True
  | .imagesEnabled => True

/-- Whether a call writes documents. -/
def Writes : Call → Prop
  | .insertMany _ => True
  | .updateOne _ _ => True
  | .deleteOne _ => True
  | .deleteMany _ => True
  | .drop => False
  | .enableImages => False
  | .findAll => False
  | .imagesEnabled => False

/-- Whether the client comes to a fault with an answer, if it is the one to the first command of a call. -/
def Faults (answer : Except ServerFault Document) (fault : ServerFault) : Call → Prop
  | .drop => (answer >>= Reply.dropped) = .error fault
  | .insertMany documents => (answer >>= Reply.inserted documents.length) = .error fault
  | .enableImages => (answer >>= Reply.acknowledgement) = .error fault
  | .updateOne _ _ => (answer >>= Reply.updated) = .error fault
  | .deleteOne _ => (answer >>= Reply.deleted) = .error fault
  | .deleteMany _ => (answer >>= Reply.deleted) = .error fault
  | .findAll => (answer >>= Reply.found) = .error fault
  | .imagesEnabled => (answer >>= Reply.imagesEnabled) = .error fault

variable {call : Call}

theorem Sendable.ne_nil (h : call.Sendable) : call ≠ .insertMany [] := by
  rintro rfl
  exact h.1 rfl

/-- Where there is no reply the client comes to the fault that there is instead, whatever it has asked. -/
theorem faults_error (fault : ServerFault) (call : Call) : call.Faults (.error fault) fault := by
  cases call <;> rfl

/-- The refusal of the whole command is found in whatever the reply is to, unless there is no collection to be dropped. -/
theorem faults_refusing {refusal : Refusal} (htold : ¬(call = .drop ∧ refusal.code = 26)) :
    call.Faults (.ok (Reply.refusing refusal)) (.command refusal) := by
  have haccept := Reply.accept_refusing refusal
  cases call with
  | drop =>
    have hconfirmation : Reply.confirmation (Reply.refusing refusal) = .error (.command refusal) := by
      simp only [Reply.confirmation, haccept, bind, Except.bind]
    have hpresent : ¬(ServerFault.command refusal).saysMissing = true := fun hmissing => htold ⟨rfl, eq_of_beq hmissing⟩
    show Reply.tolerateMissing (Reply.confirmation (Reply.refusing refusal)) = _
    rw [hconfirmation, Reply.tolerateMissing, if_neg hpresent]
  | insertMany documents => simp only [Faults, Reply.inserted, haccept, bind, Except.bind]
  | enableImages => simp only [Faults, Reply.acknowledgement, haccept, bind, Except.bind, Except.map]
  | updateOne f u => simp only [Faults, Reply.updated, haccept, bind, Except.bind]
  | deleteOne f => simp only [Faults, Reply.deleted, haccept, bind, Except.bind]
  | deleteMany f => simp only [Faults, Reply.deleted, haccept, bind, Except.bind]
  | findAll => simp only [Faults, Reply.found, Reply.batch, haccept, bind, Except.bind]
  | imagesEnabled => simp only [Faults, Reply.imagesEnabled, haccept, bind, Except.bind, Except.map]

/-- The first refusal of a write is found in a reply to a call that writes, whatever is refused after it. -/
theorem faults_refusingWrites (hwrites : call.Writes) (refusal : Refusal) (others : List Refusal) :
    ∃ fault, call.Faults (.ok (Reply.refusingWrites (refusal :: others))) fault ∧ fault.Tells refusal := by
  have haccept : Reply.accept (Reply.refusingWrites (refusal :: others)) = .ok (Reply.refusingWrites (refusal :: others)) := rfl
  have hreport := Reply.readWriteReport_refusingWrites (refusal :: others)
  have hcounted : Reply.counted (Reply.refusingWrites (refusal :: others)) = .ok 0 := rfl
  cases call with
  | insertMany documents =>
    refine ⟨.insertion (some (refusal :: others)) none, ?_, .insertion others none⟩
    simp only [Faults, Reply.inserted, haccept, hreport, hcounted, Reply.decoded, bind, Except.bind]
  | updateOne f u => exact ⟨.write refusal, Reply.updated_eq_error haccept hreport rfl, .write⟩
  | deleteOne f => exact ⟨.write refusal, Reply.deleted_eq_error haccept hreport rfl, .write⟩
  | deleteMany f => exact ⟨.write refusal, Reply.deleted_eq_error haccept hreport rfl, .write⟩
  | _ => exact hwrites.elim

/-- A count that cannot be read is a fault of the reply. -/
theorem counted_eq_error {reply : Document} {fault : ServerFault} (h : Reply.counted reply = .error fault) :
    ∃ reason, fault = .client (.invalidReply reason) := by
  unfold Reply.counted at h
  split at h
  · cases h
    exact ⟨_, rfl⟩
  · split at h
    · cases h
    · cases h
      exact ⟨_, rfl⟩

/-- That a drop or a write is not confirmed is a fault of no class of its own, whatever the reply counts. -/
theorem faults_unconfirmed (hwrites : call = .drop ∨ call.Writes) (count : Value) (code : Int32) (codeName message : String) :
    ∃ fault, call.Faults (.ok (Reply.unconfirmed count code codeName message)) fault ∧ fault.saysMissing = false ∧
      ∀ ns, ∃ text, fault.storeError ns = unclassified ns text := by
  have haccept : Reply.accept (Reply.unconfirmed count code codeName message) =
      .ok (Reply.unconfirmed count code codeName message) := rfl
  have hreport := Reply.readWriteReport_unconfirmed count code codeName message
  cases call with
  | drop =>
    refine ⟨.concern ⟨code, codeName, message, none, []⟩, ?_, rfl, fun ns => ⟨_, rfl⟩⟩
    simp only [Faults, Reply.dropped, Reply.confirmation, Reply.confirmed, haccept, Reply.readConcernReport_unconfirmed, Reply.decoded,
      bind, Except.bind]
    rfl
  | insertMany documents =>
    cases hcounted : Reply.counted (Reply.unconfirmed count code codeName message) with
    | error fault =>
      obtain ⟨reason, rfl⟩ := counted_eq_error hcounted
      refine ⟨.client (.invalidReply reason), ?_, rfl, fun ns => ⟨_, rfl⟩⟩
      simp only [Faults, Reply.inserted, haccept, hreport, hcounted, Reply.decoded, bind, Except.bind]
    | ok n =>
      refine ⟨.insertion none (some ⟨code, codeName, message, none, []⟩), ?_, rfl, fun ns => ⟨_, rfl⟩⟩
      simp only [Faults, Reply.inserted, haccept, hreport, hcounted, Reply.decoded, bind, Except.bind]
  | updateOne f u =>
    exact ⟨.concern ⟨code, codeName, message, none, []⟩, Reply.updated_eq_error haccept hreport rfl, rfl, fun ns => ⟨_, rfl⟩⟩
  | deleteOne f =>
    exact ⟨.concern ⟨code, codeName, message, none, []⟩, Reply.deleted_eq_error haccept hreport rfl, rfl, fun ns => ⟨_, rfl⟩⟩
  | deleteMany f =>
    exact ⟨.concern ⟨code, codeName, message, none, []⟩, Reply.deleted_eq_error haccept hreport rfl, rfl, fun ns => ⟨_, rfl⟩⟩
  | _ =>
    rcases hwrites with hdrop | hwrites
    · cases hdrop
    · exact hwrites.elim

end Call

/-! ## A server that always answers the same -/

/-- A server that gives the same answer whatever it is asked. -/
structure Steady where
  answer : Except ServerFault Document

instance : Server Steady where
  answer _ server := (server.answer, server)
  patience _ := 1

namespace Dealing

variable {α : Type} {ns : Namespace} {client : Client Steady} {fault : ServerFault} {query change : Document}

/-- However often a command is sent again, the answer is the same in the end. -/
theorem exists_leaves_attempt (client : Client Steady) (command : Command) (read : Document → Except ServerFault α)
    (attempts more : Nat) : ∃ t, (attempt command read attempts more).Leaves client (client.server.answer >>= read) t := by
  induction more generalizing attempts client with
  | zero => exact ⟨_, rfl, rfl⟩
  | succ more ih =>
    cases hrepeats : (client.ask command).2.repeats command attempts (client.answer command) (client.answer command >>= read) with
    | true =>
      obtain ⟨t, ht⟩ := ih (client.ask command).2 (attempts + 1)
      have hopen := attempt_of_repeats hrepeats more
      exact ⟨t, hopen ▸ ht.result, hopen ▸ ht.state⟩
    | false =>
      refine ⟨(client.ask command).2, ?_⟩
      constructor <;> rw [attempt_of_not_repeats hrepeats]
      rfl

theorem exists_leaves_request {read : Document → Except ServerFault α} {r : Except ServerFault α}
    (h : (client.server.answer >>= read) = r) (command : Command) : ∃ t, (request command read).Leaves client r t := by
  obtain ⟨t, ht⟩ := exists_leaves_attempt client command read 0 (max 1 client.retries.patience)
  rw [h] at ht
  exact ⟨t, ht.result, ht.state⟩

theorem exists_leaves_drop {r : Except ServerFault Unit} (ns : Namespace) (hacknowledged : client.IsAcknowledged)
    (h : (client.server.answer >>= Reply.dropped) = r) : ∃ t, (drop ns).Leaves client r t := by
  obtain ⟨t, hrequest⟩ := exists_leaves_request h (.drop ns client.concerns.write)
  exact ⟨t, leaves_drop_of_request hacknowledged hrequest⟩

/-- Nothing more is sent after the first answer with a fault. -/
theorem exists_leaves_insertRest {documents : List Document} (ns : Namespace)
    (hfault : (client.server.answer >>= Reply.inserted documents.length) = .error fault) (concern : WriteConcern) (fuel : Nat) :
    ∃ t, (insertRest ns concern (fuel + 1) documents).Leaves client (.error fault) t := by
  obtain ⟨t, hrequest⟩ := exists_leaves_request hfault (.insert ns documents concern)
  exact ⟨t, hrequest.bind_error⟩

theorem exists_leaves_insertMany {documents : List Document} (hacknowledged : client.IsAcknowledged)
    (hsendable : ∀ d ∈ documents, d.Sendable)
    (hfault : (client.server.answer >>= Reply.inserted documents.length) = .error fault) :
    ∃ t, (insertMany ns documents).Leaves client (.error fault) t := by
  rw [← length_identifyAll client.ids documents] at hfault
  cases hidentified : identifyAll client.ids documents with
  | mk identified ids =>
    rw [hidentified] at hfault
    -- the supply of identifiers has no part in the answer
    have hanswer : (({ client with ids } : Client Steady).server.answer >>= Reply.inserted identified.length) = .error fault := hfault
    obtain ⟨t, hrest⟩ := exists_leaves_insertRest ns hanswer client.concerns.write (Server.patience client.server)
    exact ⟨t, leaves_insertMany_of_insertRest hacknowledged hidentified hsendable hrest.bind_error⟩

theorem exists_leaves_updateOne (hacknowledged : client.IsAcknowledged) (hquery : query.Sendable) (hchange : change.Sendable)
    (hfault : (client.server.answer >>= Reply.updated) = .error fault) :
    ∃ t, (updateOne ns query change).Leaves client (.error fault) t := by
  obtain ⟨t, hrequest⟩ := exists_leaves_request hfault (.update ns query change client.concerns.write)
  exact ⟨t, leaves_updateOne_of_request hacknowledged hquery hchange hrequest⟩

theorem exists_leaves_delete (hacknowledged : client.IsAcknowledged) (hquery : query.Sendable)
    (hfault : (client.server.answer >>= Reply.deleted) = .error fault) (single : Bool) :
    ∃ t, (delete ns query single).Leaves client (.error fault) t := by
  obtain ⟨t, hrequest⟩ := exists_leaves_request hfault (.delete ns query single client.concerns.write)
  exact ⟨t, leaves_delete_of_request hacknowledged hquery hrequest⟩

end Dealing

namespace Call

variable {ns : Namespace} {call : Call} {client : Client Steady} {fault : ServerFault} {refusal : Refusal}

/-- The dealing with a server that always answers the same comes to the fault in the answer. -/
theorem exists_leaves_deal (ns : Namespace) (hacknowledged : client.IsAcknowledged) (hsendable : call.Sendable)
    (hfault : call.Faults client.server.answer fault) : ∃ t, (call.deal ns).Leaves client (.error fault) t := by
  cases call with
  | drop => exact Dealing.exists_leaves_drop ns hacknowledged hfault
  | insertMany documents => exact Dealing.exists_leaves_insertMany hacknowledged hsendable.2 hfault
  | enableImages => exact Dealing.exists_leaves_request hfault _
  | updateOne f u => exact Dealing.exists_leaves_updateOne hacknowledged hsendable.1 hsendable.2 hfault
  | deleteOne f => exact Dealing.exists_leaves_delete hacknowledged hsendable hfault true
  | deleteMany f => exact Dealing.exists_leaves_delete hacknowledged hsendable hfault false
  | findAll =>
    obtain ⟨t, hrequest⟩ := Dealing.exists_leaves_request hfault (.find ns client.concerns.read)
    exact ⟨t, hrequest.bind_error.result, hrequest.bind_error.state⟩
  | imagesEnabled => exact Dealing.exists_leaves_request hfault _

/-- A call fails with what is told of the fault in the answer, unless it is a drop and there is no such collection. -/
theorem leaves_of_faults (ns : Namespace) (hacknowledged : client.IsAcknowledged) (hsendable : call.Sendable)
    (hfault : call.Faults client.server.answer fault) (htold : ¬(call = .drop ∧ fault.saysMissing = true)) :
    ∃ t, (call.on ns).Leaves client (.error (fault.storeError ns)) t := by
  obtain ⟨t, hdeal⟩ := exists_leaves_deal ns hacknowledged hsendable hfault
  exact ⟨t, leaves_of_deal_error hsendable.ne_nil hdeal htold⟩

/-- A call on a server that gives no reply fails with what is told of the fault, unless it is a drop and there is no such collection. -/
theorem leaves_unanswered (ns : Namespace) (hacknowledged : client.IsAcknowledged) (hsendable : call.Sendable)
    (hanswer : client.server.answer = .error fault) (htold : ¬(call = .drop ∧ fault.saysMissing = true)) :
    ∃ t, (call.on ns).Leaves client (.error (fault.storeError ns)) t :=
  leaves_of_faults ns hacknowledged hsendable (hanswer ▸ faults_error fault call) htold

/-- A call on a server that refuses every command fails with the error that the refusal is told by, unless it is a drop and there is no
such collection. -/
theorem leaves_refused (ns : Namespace) (hacknowledged : client.IsAcknowledged) (hsendable : call.Sendable)
    (hanswer : client.server.answer = .ok (Reply.refusing refusal)) (htold : ¬(call = .drop ∧ refusal.code = 26)) :
    ∃ t, (call.on ns).Leaves client (.error (refusal.storeError ns)) t := by
  have hfault : call.Faults client.server.answer (.command refusal) := hanswer ▸ faults_refusing htold
  refine leaves_of_faults ns hacknowledged hsendable hfault ?_
  rintro ⟨hdrop, hmissing⟩
  exact htold ⟨hdrop, eq_of_beq hmissing⟩

/-- The drop of a collection succeeds on a server that refuses every command because there is no such collection. -/
theorem leaves_drop_refused (ns : Namespace) (hacknowledged : client.IsAcknowledged)
    (hanswer : client.server.answer = .ok (Reply.refusing refusal)) (hmissing : refusal.code = 26) :
    ∃ t, (Call.drop.on ns).Leaves client (.ok ()) t := by
  have hconfirmation : Reply.confirmation (Reply.refusing refusal) = .error (.command refusal) := by
    simp only [Reply.confirmation, Reply.accept_refusing refusal, bind, Except.bind]
  have hdropped : (client.server.answer >>= Reply.dropped) = .ok () := by
    rw [hanswer]
    show Reply.tolerateMissing (Reply.confirmation (Reply.refusing refusal)) = _
    have htolerated : (ServerFault.command refusal).saysMissing = true := beq_iff_eq.2 hmissing
    rw [hconfirmation, Reply.tolerateMissing, if_pos htolerated]
  obtain ⟨t, hdeal⟩ := Dealing.exists_leaves_drop ns hacknowledged hdropped
  exact ⟨t, Client.leaves_drop_of_dealing hdeal⟩

/-- A call that writes, on a server that refuses every write, fails with the error that the first refusal is told by. -/
theorem leaves_refusedWrite {others : List Refusal} (ns : Namespace) (hacknowledged : client.IsAcknowledged) (hsendable : call.Sendable)
    (hwrites : call.Writes) (hanswer : client.server.answer = .ok (Reply.refusingWrites (refusal :: others))) :
    ∃ t, (call.on ns).Leaves client (.error (refusal.storeError ns)) t := by
  obtain ⟨fault, hfault, htells⟩ := faults_refusingWrites hwrites refusal others
  rw [← hanswer] at hfault
  rw [← htells.storeError_eq]
  refine leaves_of_faults ns hacknowledged hsendable hfault ?_
  rintro ⟨rfl, -⟩
  exact hwrites

/-- A drop or a call that writes fails on a server that does everything but confirms nothing. -/
theorem leaves_unconfirmed {count : Value} {code : Int32} {codeName message : String} (ns : Namespace)
    (hacknowledged : client.IsAcknowledged) (hsendable : call.Sendable) (hwrites : call = .drop ∨ call.Writes)
    (hanswer : client.server.answer = .ok (Reply.unconfirmed count code codeName message)) :
    ∃ text t, (call.on ns).Leaves client (.error (.backend (ns.render ++ ": " ++ text))) t := by
  obtain ⟨fault, hfault, hpresent, htext⟩ := faults_unconfirmed hwrites count code codeName message
  obtain ⟨text, htold⟩ := htext ns
  rw [← hanswer] at hfault
  obtain ⟨t, hon⟩ := leaves_of_faults ns hacknowledged hsendable hfault (fun h => Bool.eq_false_iff.1 hpresent h.2)
  rw [htold] at hon
  exact ⟨ofKind text, t, hon⟩

end Call

end Seedbed
