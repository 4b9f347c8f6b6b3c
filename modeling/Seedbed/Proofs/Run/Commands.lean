import Seedbed.Proofs.Run.Seeder
import Seedbed.Proofs.Server.Calls
import Seedbed.Proofs.Server.Wire

/-!
# The commands of a run

What a run makes a client send is a matter of the plan: a step has one document to send for the database that is selected, which is
written out field by field (`Step.request?`), or none if it selects a database or inserts no documents. A step ends the run exactly if
no database is selected or the answer to its command says so (`Step.Stops`), so that what a run sends are the documents of the steps up
to the first one that ends it, in their order, and none after it (`run_sends`). This goes for runs in which every call is one command
that is sent once (`Direct`), which is a matter of the answers that the run gets.
-/

namespace Seedbed

/-! ## Answers to a drop -/

/-- A drop is refused by every fault but that there is no such collection. -/
theorem Reply.tolerateMissing_eq_error_iff {r : Except ServerFault Unit} {fault : ServerFault} :
    tolerateMissing r = .error fault ↔ r = .error fault ∧ ¬∃ message, fault = .command ⟨26, message⟩ := by
  cases r with
  | ok done => simp [tolerateMissing]
  | error refused =>
    rw [← ServerFault.saysMissing_iff, Except.error.injEq]
    by_cases hmissing : refused.saysMissing = true
    · rw [tolerateMissing, if_pos hmissing]
      refine iff_of_false (by simp) ?_
      rintro ⟨rfl, hpresent⟩
      exact hpresent hmissing
    · rw [tolerateMissing, if_neg hmissing, Except.error.injEq]
      exact ⟨fun h => ⟨h, h ▸ hmissing⟩, And.left⟩

/-! ## What steps send -/

namespace Step

/-- The query for a filter, written out: every document meets it, or those in which one field holds a value. -/
def queryOf : Filter → Value
  | .all => .document []
  | .fieldEquals name v => .document [(name, v)]

/-- The request to delete one document that meets the query for a filter, or all of them if the limit is zero. -/
def deletion (concern : WriteConcern) (database collection : String) (f : Filter) (limit : Int32) : Document :=
  [("delete", .string collection), ("deletes", .array [.document [("q", queryOf f), ("limit", .int32 limit)]]),
    ("ordered", .boolean true), ("$db", .string database)] ++ concern.fields

/-- The document in which a step asks for what it has to, while the given database is selected. Documents that have no identifiers get
them from the supply. -/
def request? (concern : WriteConcern) (ids : IdSource) : Option String → Step → Option Document
  | none, _ => none
  | some _, .use _ => none
  | some database, .drop c => some ([("drop", .string c), ("$db", .string database)] ++ concern.fields)
  | some database, .insert c documents =>
    if documents.isEmpty then none
    else some ([("insert", .string c), ("ordered", .boolean true), ("$db", .string database)] ++ concern.fields ++
      [("documents", .array ((Dealing.identifyAll ids documents).1.map .document))])
  | some database, .enableImages c =>
    some [("collMod", .string c), ("changeStreamPreAndPostImages", .document [("enabled", .boolean true)]), ("$db", .string database)]
  | some database, .update c f u =>
    some ([("update", .string c),
      ("updates", .array [.document [("q", queryOf f), ("u", .document [("$set", .document [(u.field, u.value)])])]]),
      ("ordered", .boolean true), ("$db", .string database)] ++ concern.fields)
  | some database, .deleteOne c f => some (deletion concern database c f 1)
  | some database, .deleteMany c f => some (deletion concern database c f 0)

/-- The command of a step while the given database is selected. -/
def command? (concern : WriteConcern) (ids : IdSource) : Option String → Step → Option Command
  | none, _ => none
  | some _, .use _ => none
  | some database, .drop c => some (.drop ⟨database, c⟩ concern)
  | some database, .insert c documents =>
    if documents.isEmpty then none else some (.insert ⟨database, c⟩ (Dealing.identifyAll ids documents).1 concern)
  | some database, .enableImages c => some (.enableImages ⟨database, c⟩)
  | some database, .update c f u => some (.update ⟨database, c⟩ f.query u.document concern)
  | some database, .deleteOne c f => some (.delete ⟨database, c⟩ f.query true concern)
  | some database, .deleteMany c f => some (.delete ⟨database, c⟩ f.query false concern)

/-- The supply of identifiers after a step. -/
def idsAfter (ids : IdSource) : Option String → Step → IdSource
  | some _, .insert _ documents => (Dealing.identifyAll ids documents).2
  | _, _ => ids

/-- The documents that a step has to send within its command. -/
def documents : Step → List Document
  | .insert _ documents => documents
  | .update _ f u => [f.query, u.document]
  | .deleteOne _ f | .deleteMany _ f => [f.query]
  | .use _ | .drop _ | .enableImages _ => []

/-- Whether the answer to the command of a step ends the run: it is a fault, with or without a reply, but that there is no collection
to be dropped is none, or the reply says that the document to be updated or deleted is not there. -/
def RefusedBy (answer : Except ServerFault Document) : Step → Prop
  | .use _ => False
  | .drop _ => ∃ fault, (answer >>= Reply.confirmation) = .error fault ∧ ¬∃ message, fault = .command ⟨26, message⟩
  | .insert _ documents => ∃ fault, (answer >>= Reply.inserted documents.length) = .error fault
  | .enableImages _ => ∃ fault, (answer >>= Reply.acknowledgement) = .error fault
  | .update _ _ _ =>
    (∃ fault, (answer >>= Reply.updated) = .error fault) ∨ ∃ outcome, (answer >>= Reply.updated) = .ok outcome ∧ outcome.matched = 0
  | .deleteOne _ _ => (∃ fault, (answer >>= Reply.deleted) = .error fault) ∨ (answer >>= Reply.deleted) = .ok 0
  | .deleteMany _ _ => ∃ fault, (answer >>= Reply.deleted) = .error fault

theorem queryOf_eq (f : Filter) : queryOf f = .document f.query := by
  cases f <;> rfl

theorem sent_deletion (concern : WriteConcern) (database collection : String) (f : Filter) (single : Bool) :
    (Command.delete ⟨database, collection⟩ f.query single concern).document =
      (deletion concern database collection f (if single then 1 else 0)).sent := by
  rw [deletion, Document.sent_append, concern.sent_fields, queryOf_eq]
  rfl

/-- The command of a step is sent as the document in which the step asks. -/
theorem document_command? (concern : WriteConcern) (ids : IdSource) (database : Option String) (step : Step) :
    (step.command? concern ids database).map Command.document = (step.request? concern ids database).map Document.sent := by
  cases database with
  | none => rfl
  | some database =>
    cases step with
    | use other => rfl
    | drop c =>
      rw [request?, Option.map_some, Document.sent_append, concern.sent_fields]
      rfl
    | insert c documents =>
      rw [command?, request?]
      split
      · rfl
      · rw [Option.map_some, Option.map_some, Document.sent_append, Document.sent_append, concern.sent_fields]
        -- the documents are sent one by one
        have hdocuments : Document.sent [("documents", .array ((Dealing.identifyAll ids documents).1.map .document))] =
            [("documents", .array ((Dealing.identifyAll ids documents).1.map (fun d => .document d.sent)))] :=
          congrArg (fun v => [("documents", v)]) (Value.sent_documents _)
        rw [hdocuments]
        rfl
    | enableImages c => rfl
    | update c f u =>
      rw [request?, Option.map_some, Document.sent_append, concern.sent_fields, queryOf_eq]
      rfl
    | deleteOne c f => exact congrArg some (sent_deletion concern database c f true)
    | deleteMany c f => exact congrArg some (sent_deletion concern database c f false)

variable {κ : Type} [Server κ]

/-- Whether a step ends the run: it names a collection while no database is selected, or the answer to what it sends does. -/
def Stops (s : Seeder (Client κ)) (step : Step) : Prop :=
  (step.collection?.isSome = true ∧ s.database = none) ∨
    ∃ request, step.request? s.store.concerns.write s.store.ids s.database = some request ∧
      step.RefusedBy (Server.answer request.sent s.store.server).1

/-- Whether the answer to the command of a step is no reason to send anything again: neither the command, nor documents that are left
of an insertion, because all of them are inserted at once if they are at all. -/
def AnsweredOnce (s : Seeder (Client κ)) (step : Step) : Prop :=
  ∀ command, step.command? s.store.concerns.write s.store.ids s.database = some command →
    s.store.SendsOnce command ∧
      ∀ collection documents, step = .insert collection documents →
        ∀ n, (s.store.answer command >>= Reply.inserted documents.length) = .ok n → n = documents.length

end Step

/-- What steps one after the other send, the given database being selected before them. -/
def requests (concern : WriteConcern) : Plan → Option String → IdSource → List Document
  | [], _, _ => []
  | step :: rest, database, ids =>
    (step.request? concern ids database).toList ++ requests concern rest (step.database?.or database) (step.idsAfter ids database)

namespace Seeder

variable {κ : Type} [Server κ] {s t u : Seeder (Client κ)} {step : Step} {front rest : Plan}

/-- A seeder after a step has sent its command. -/
def told (step : Step) (s : Seeder (Client κ)) : Seeder (Client κ) :=
  ⟨step.database?.or s.database,
    s.store.told (step.command? s.store.concerns.write s.store.ids s.database).toList (step.idsAfter s.store.ids s.database)⟩

/-- Whether the answers that a run gets are no reason to send anything again. -/
def AnsweredOnce : Plan → Seeder (Client κ) → Prop
  | [], _ => True
  | step :: rest, s => step.AnsweredOnce s ∧ ∀ outcome t, (apply step).Leaves s (.ok outcome) t → AnsweredOnce rest t

/-- Whether every call of a run is one command that is sent once: somebody confirms what is written, all can be sent that is said, and
nothing has to be sent again. -/
structure Direct (plan : Plan) (s : Seeder (Client κ)) : Prop where
  acknowledged : s.store.IsAcknowledged
  sendable : ∀ step ∈ plan, ∀ d ∈ step.documents, d.Sendable
  answered : AnsweredOnce plan s

/-- Whether the step at the given place of a plan ends the run, when those before it have been applied. -/
def StopsAt (plan : Plan) (s : Seeder (Client κ)) (k : Nat) : Prop := HoldsAt (fun s step => step.Stops s) plan s k

/-! ## One step -/

/-- A step that has a command ends the run exactly if the answer to it does. -/
theorem stops_iff_refusedBy {command : Command} (s : Seeder (Client κ)) (step : Step)
    (h : step.command? s.store.concerns.write s.store.ids s.database = some command) :
    step.Stops s ↔ step.RefusedBy (s.store.answer command) := by
  have hsent := step.document_command? s.store.concerns.write s.store.ids s.database
  rw [h, Option.map_some] at hsent
  obtain ⟨request, hrequest, hdocument⟩ := Option.map_eq_some_iff.1 hsent.symm
  have hanswer : (Server.answer request.sent s.store.server).1 = s.store.answer command := by rw [hdocument, Client.answer]
  constructor
  · rintro (⟨-, hnone⟩ | ⟨request', hrequest', hrefused⟩)
    · rw [hnone] at h
      cases h
    · cases hrequest.symm.trans hrequest'
      exact hanswer ▸ hrefused
  · intro hrefused
    exact .inr ⟨request, hrequest, hanswer ▸ hrefused⟩

/-- A step that sends nothing ends the run only if it names a collection while no database is selected. -/
theorem not_stops_of_none (h : step.request? s.store.concerns.write s.store.ids s.database = none)
    (hdatabase : step.collection? = none ∨ s.database ≠ none) : ¬step.Stops s := by
  rintro (⟨hsome, hnone⟩ | ⟨request, hrequest, -⟩)
  · rcases hdatabase with hcollection | hne
    · rw [hcollection] at hsome
      cases hsome
    · exact hne hnone
  · cases h.symm.trans hrequest

theorem told_of_none (h : step.command? s.store.concerns.write s.store.ids s.database = none)
    (hids : step.idsAfter s.store.ids s.database = s.store.ids) : told step s = ⟨step.database?.or s.database, s.store⟩ := by
  rw [told, h, hids, Option.toList_none, Client.told_nil]

section Verdict

variable {σ α : Type} {m n : σ} {database collection : String} {call : Namespace → Action StoreError σ α}
  {next : Namespace → α → Action Cause (Seeder σ) StepOutcome} {r : Except ServerFault α} {f : ServerFault → StoreError} {stops : Prop}

/-- A step whose call has the result of a reading fails if that is an error or something is missing in it, and succeeds otherwise. -/
theorem leaves_verdict (missing : α → Prop) (hcall : (call ⟨database, collection⟩).Leaves m (r.mapError f) n)
    (hstops : stops ↔ (∃ fault, r = .error fault) ∨ ∃ a, r = .ok a ∧ missing a)
    (hmissing : ∀ a, missing a → ∃ cause, (next ⟨database, collection⟩ a).Leaves ⟨some database, n⟩ (.error cause) ⟨some database, n⟩)
    (hfound : ∀ a, ¬missing a →
      ∃ outcome, (next ⟨database, collection⟩ a).Leaves ⟨some database, n⟩ (.ok outcome) ⟨some database, n⟩) :
    (stops ∧ ∃ cause, (address collection >>= fun ns => onStore (call ns) >>= next ns).Leaves ⟨some database, m⟩ (.error cause)
        ⟨some database, n⟩) ∨
      (¬stops ∧ ∃ outcome, (address collection >>= fun ns => onStore (call ns) >>= next ns).Leaves ⟨some database, m⟩ (.ok outcome)
        ⟨some database, n⟩) := by
  cases r with
  | error fault => exact .inl ⟨hstops.2 (.inl ⟨fault, rfl⟩), _, leaves_call_error hcall⟩
  | ok a =>
    by_cases ha : missing a
    · obtain ⟨cause, hnext⟩ := hmissing a ha
      exact .inl ⟨hstops.2 (.inr ⟨a, rfl, ha⟩), cause, leaves_call hcall hnext⟩
    · obtain ⟨outcome, hnext⟩ := hfound a ha
      refine .inr ⟨fun h => ?_, outcome, leaves_call hcall hnext⟩
      rcases hstops.1 h with ⟨fault, hfault⟩ | ⟨b, hb, hmissing⟩
      · cases hfault
      · cases hb
        exact ha hmissing

/-- A step that goes on from everything that is no error fails if its call does. -/
theorem leaves_verdict_error (hcall : (call ⟨database, collection⟩).Leaves m (r.mapError f) n) (hstops : stops ↔ ∃ fault, r = .error fault)
    (hnext : ∀ a, ∃ outcome, (next ⟨database, collection⟩ a).Leaves ⟨some database, n⟩ (.ok outcome) ⟨some database, n⟩) :
    (stops ∧ ∃ cause, (address collection >>= fun ns => onStore (call ns) >>= next ns).Leaves ⟨some database, m⟩ (.error cause)
        ⟨some database, n⟩) ∨
      (¬stops ∧ ∃ outcome, (address collection >>= fun ns => onStore (call ns) >>= next ns).Leaves ⟨some database, m⟩ (.ok outcome)
        ⟨some database, n⟩) :=
  leaves_verdict (fun _ => False) hcall (hstops.trans (by simp)) (fun _ h => h.elim) (fun a _ => hnext a)

end Verdict

/-- A step sends its command, and succeeds or fails as the reply says. -/
theorem leaves_told (h : Direct (step :: rest) s) :
    (step.Stops s ∧ ∃ cause, (apply step).Leaves s (.error cause) (told step s)) ∨
      (¬step.Stops s ∧ ∃ outcome, (apply step).Leaves s (.ok outcome) (told step s)) := by
  have hstep := h.sendable step List.mem_cons_self
  have hwrite := h.acknowledged
  have hanswered := h.answered.1
  obtain ⟨database?, client⟩ := s
  cases database? with
  | none =>
    cases step with
    | use database =>
      rw [told_of_none rfl rfl]
      exact .inr ⟨not_stops_of_none rfl (.inl rfl), _, leaves_use database _⟩
    | _ =>
      rw [told_of_none rfl rfl]
      exact .inl ⟨.inl ⟨rfl, rfl⟩, _, leaves_noDatabase rfl client⟩
  | some database =>
    cases step with
    | use other =>
      rw [told_of_none rfl rfl]
      exact .inr ⟨not_stops_of_none rfl (.inl rfl), _, leaves_use other _⟩
    | drop c =>
      have hcall := Client.leaves_drop hwrite (hanswered _ rfl).1
      have hstops := stops_iff_refusedBy ⟨some database, client⟩ (.drop c) rfl
      refine leaves_verdict_error hcall (hstops.trans ?_) (fun _ => ⟨_, .pure _ _⟩)
      exact exists_congr fun fault => Reply.tolerateMissing_eq_error_iff.symm
    | insert c documents =>
      by_cases hempty : documents = []
      · subst hempty
        rw [told_of_none rfl rfl]
        exact .inr ⟨not_stops_of_none rfl (.inr nofun), _, leaves_insert (Client.leaves_insertMany_nil client ⟨database, c⟩)⟩
      · have hcommand : (Step.insert c documents).command? client.concerns.write client.ids (some database) =
            some (.insert ⟨database, c⟩ (Dealing.identifyAll client.ids documents).1 client.concerns.write) :=
          if_neg (by simpa using hempty)
        obtain ⟨honce, hpiece⟩ := hanswered _ hcommand
        have hcall := Client.leaves_insertMany hwrite hempty rfl honce hstep (hpiece c documents rfl)
        have hstops := stops_iff_refusedBy ⟨some database, client⟩ (.insert c documents) hcommand
        rw [told, hcommand]
        exact leaves_verdict_error hcall hstops (fun _ => ⟨_, .pure _ _⟩)
    | enableImages c =>
      have hcall := Client.leaves_enableImages (hanswered _ rfl).1
      have hstops := stops_iff_refusedBy ⟨some database, client⟩ (.enableImages c) rfl
      exact leaves_verdict_error hcall hstops (fun _ => ⟨_, .pure _ _⟩)
    | update c f u =>
      have hcall := Client.leaves_updateOne hwrite (hanswered _ rfl).1 (hstep _ List.mem_cons_self) (hstep _ (by simp [Step.documents]))
      have hstops := stops_iff_refusedBy ⟨some database, client⟩ (.update c f u) rfl
      refine leaves_verdict (·.matched = 0) hcall hstops (fun outcome hzero => ?_) (fun outcome hne => ?_)
      · rw [if_pos hzero]
        exact ⟨_, .fail _ _⟩
      · rw [if_neg hne]
        exact ⟨_, .pure _ _⟩
    | deleteOne c f =>
      have hcall := Client.leaves_delete hwrite (hanswered _ rfl).1 (hstep _ List.mem_cons_self)
      have hstops := stops_iff_refusedBy ⟨some database, client⟩ (.deleteOne c f) rfl
      refine leaves_verdict (· = 0) hcall (hstops.trans ?_) (fun count hzero => ?_) (fun count hne => ?_)
      · exact or_congr_right ⟨fun h => ⟨0, h, rfl⟩, fun ⟨_, h, hzero⟩ => hzero ▸ h⟩
      · rw [if_pos hzero]
        exact ⟨_, .fail _ _⟩
      · rw [if_neg hne]
        exact ⟨_, .pure _ _⟩
    | deleteMany c f =>
      have hcall := Client.leaves_delete hwrite (hanswered _ rfl).1 (hstep _ List.mem_cons_self)
      have hstops := stops_iff_refusedBy ⟨some database, client⟩ (.deleteMany c f) rfl
      exact leaves_verdict_error hcall hstops (fun _ => ⟨_, .pure _ _⟩)

/-- A step that succeeds does not end the run, and has sent its command. -/
theorem eq_told_of_leaves {outcome : StepOutcome} (h : Direct (step :: rest) s) (hstep : (apply step).Leaves s (.ok outcome) t) :
    ¬step.Stops s ∧ t = told step s := by
  rcases leaves_told h with ⟨-, cause, hfails⟩ | ⟨hnot, outcome', hsucceeds⟩
  · cases (hstep.unique hfails).1
  · exact ⟨hnot, (hstep.unique hsucceeds).2⟩

/-- A step that fails ends the run, and has sent its command. -/
theorem eq_told_of_leaves_error {cause : Cause} (h : Direct (step :: rest) s) (hstep : (apply step).Leaves s (.error cause) t) :
    step.Stops s ∧ t = told step s := by
  rcases leaves_told h with ⟨hstops, cause', hfails⟩ | ⟨-, outcome, hsucceeds⟩
  · exact ⟨hstops, (hstep.unique hfails).2⟩
  · cases (hstep.unique hsucceeds).1

/-- What a step leaves is again the start of a run in which every call is one command. -/
theorem Direct.of_leaves {outcome : StepOutcome} (h : Direct (step :: rest) s) (hstep : (apply step).Leaves s (.ok outcome) t) :
    Direct rest t := by
  have hanswered := h.answered.2 outcome t hstep
  obtain ⟨-, rfl⟩ := eq_told_of_leaves h hstep
  exact ⟨h.acknowledged, fun step hstep => h.sendable step (List.mem_cons_of_mem _ hstep), hanswered⟩

/-! ## Runs -/

/-- What a step sends is what it asks in. -/
theorem sent_told (step : Step) (s : Seeder (Client κ)) :
    (told step s).store.sent =
      s.store.sent ++ (step.request? s.store.concerns.write s.store.ids s.database).toList.map Document.sent := by
  have hsent := step.document_command? s.store.concerns.write s.store.ids s.database
  rw [← Option.toList_map, ← hsent, Option.toList_map]
  rfl

/-- Steps that succeed have sent their requests, and those that more steps have after them are the ones that they have after the others
in a longer plan. -/
theorem sent_append_requests {outcomes : List StepOutcome} (h : Succeeds front s outcomes t) (rest : Plan)
    (hs : Direct (front ++ rest) s) (more : Plan) :
    t.store.sent ++ (requests t.store.concerns.write more t.database t.store.ids).map Document.sent =
      s.store.sent ++ (requests s.store.concerns.write (front ++ more) s.database s.store.ids).map Document.sent := by
  induction h with
  | nil s => rfl
  | cons hfirst _ ih =>
    obtain ⟨-, rfl⟩ := eq_told_of_leaves hs hfirst
    rw [ih (hs.of_leaves hfirst), sent_told, List.cons_append, requests, List.map_append, ← List.append_assoc]
    rfl

/-- Steps that succeed have sent their requests and no others. -/
theorem sent_of_succeeds {outcomes : List StepOutcome} (h : Succeeds front s outcomes t) (hs : Direct front s) :
    t.store.sent = s.store.sent ++ (requests s.store.concerns.write front s.database s.store.ids).map Document.sent := by
  have hsent := sent_append_requests h [] (by rwa [List.append_nil]) []
  rwa [requests, List.map_nil, List.append_nil, List.append_nil] at hsent

/-- After a step that fails behind others that succeed the requests of all of them have been sent and no others. -/
theorem sent_of_fails {outcomes : List StepOutcome} {cause : Cause} (h : Succeeds front s outcomes t)
    (hs : Direct (front ++ step :: rest) s) (hstep : (apply step).Leaves t (.error cause) u) :
    u.store.sent = s.store.sent ++ (requests s.store.concerns.write (front ++ [step]) s.database s.store.ids).map Document.sent := by
  have ht : Direct (step :: rest) t := holds_of_succeeds Direct Direct.of_leaves h hs
  obtain ⟨-, rfl⟩ := eq_told_of_leaves_error ht hstep
  rw [← sent_append_requests h _ hs [step], sent_told, requests, requests, List.append_nil]

/-- A run in which every call is one command fails exactly if some step ends it, at the first one that does. What the client has sent
then are the requests of the steps up to that one, in their order; if no step ends the run they are those of all steps. The documents
of an insertion are those of the step, each with an identifier. -/
theorem run_sends (plan : Plan) (s : Seeder (Client κ)) (h : Direct plan s) :
    (∀ (ids : IdSource) (documents : List Document),
      List.Forall₂ Dealing.IdentifiedAs documents (Dealing.identifyAll ids documents).1) ∧
      ((∃ failure, (run plan s).result = .error failure) ↔ ∃ k, StopsAt plan s k) ∧
      ((∀ k, ¬StopsAt plan s k) → (run plan s).state.store.sent =
        s.store.sent ++ (requests s.store.concerns.write plan s.database s.store.ids).map Document.sent) ∧
      ∀ k, StopsAt plan s k → (∀ j < k, ¬StopsAt plan s j) →
        (∃ step cause, plan[k]? = some step ∧ (run plan s).result = .error ⟨.step (k + 1) step.display, cause⟩) ∧
          (run plan s).state.store.sent =
            s.store.sent ++ (requests s.store.concerns.write (plan.take (k + 1)) s.database s.store.ids).map Document.sent := by
  refine ⟨Dealing.identifiedAs_identifyAll, ?_⟩
  have hnot : ∀ {step rest} {s : Seeder (Client κ)} {outcome t}, Direct (step :: rest) s → (apply step).Leaves s (.ok outcome) t →
      ¬step.Stops s ∧ Direct rest t := fun hs hstep => ⟨(eq_told_of_leaves hs hstep).1, hs.of_leaves hstep⟩
  rcases succeeds_or_fails plan s with ⟨outcomes, t, hall⟩ | ⟨front, step, rest, outcomes, t, cause, u, rfl, hfront, hstep⟩
  · have hnone : ∀ k, ¬StopsAt plan s k := not_holdsAt_of_succeeds Direct hnot hall [] (by rwa [List.append_nil])
    have hrun := leaves_run hall
    refine ⟨⟨?_, fun ⟨k, hk⟩ => absurd hk (hnone k)⟩, fun _ => ?_, fun k hk => absurd hk (hnone k)⟩
    · rintro ⟨failure, hfailure⟩
      cases hrun.result.symm.trans hfailure
    · rw [hrun.state, sent_of_succeeds hall h]
  · have hrun := leaves_run_error hfront hstep rest
    have ht : Direct (step :: rest) t := holds_of_succeeds Direct Direct.of_leaves hfront h
    have hbefore : ∀ k, ¬StopsAt front s k := not_holdsAt_of_succeeds Direct hnot hfront (step :: rest) h
    have hfirst := holdsAt_first_iff hfront hbefore (eq_told_of_leaves_error ht hstep).1 rest
    refine ⟨⟨fun _ => ⟨_, ((hfirst _).2 rfl).1⟩, fun _ => ⟨_, hrun.result⟩⟩, fun hnone => ?_, fun k hk hleast => ?_⟩
    · exact absurd ((hfirst _).2 rfl).1 (hnone _)
    · have hlength := (hfirst k).1 ⟨hk, hleast⟩
      subst hlength
      refine ⟨⟨step, cause, by simp, hrun.result⟩, ?_⟩
      rw [hrun.state, sent_of_fails hfront h hstep, List.take_length_add_append]
      rfl

/-- A plan that inserts a document and updates another one. -/
def strayUpdate : Plan :=
  [.use "kestra", .insert "mongo_types" [[("_id", .int32 1)]], .update "mongo_types" (.id 2) ⟨"available", .boolean true⟩,
    .deleteMany "mongo_types" .all]

/-- A seeder whose server inserts one document and then finds none. -/
def strayStart : Seeder (Client Script) :=
  ⟨none, Client.new ⟨[[("ok", .int32 1), ("n", .int32 1)], [("ok", .int32 1), ("n", .int32 0), ("nModified", .int32 0)]]⟩ ⟨0⟩⟩

theorem answeredOnce_cons (hstep : step.AnsweredOnce s) (hrest : AnsweredOnce rest (apply step s).state) :
    AnsweredOnce (step :: rest) s :=
  ⟨hstep, fun _ _ h => h.state ▸ hrest⟩

theorem direct_strayUpdate : Direct strayUpdate strayStart := by
  refine ⟨rfl, ?_, ?_⟩
  · intro step hstep
    simp only [strayUpdate, List.mem_cons, List.not_mem_nil, or_false] at hstep
    rcases hstep with rfl | rfl | rfl | rfl
    · exact List.forall_mem_nil _
    · exact List.forall_mem_singleton.2 rfl
    · exact List.forall_mem_cons.2 ⟨rfl, List.forall_mem_singleton.2 rfl⟩
    · exact List.forall_mem_singleton.2 rfl
  · refine answeredOnce_cons nofun (answeredOnce_cons ?_ (answeredOnce_cons ?_ (answeredOnce_cons ?_ trivial)))
    · intro command hcommand
      cases hcommand
      refine ⟨Client.sendsOnce_of_labels rfl rfl, ?_⟩
      rintro _ _ ⟨⟩ n hn
      exact (Except.ok.inj hn).symm
    · intro command hcommand
      cases hcommand
      exact ⟨Client.sendsOnce_of_labels rfl rfl, nofun⟩
    · intro command hcommand
      cases hcommand
      exact ⟨Client.sendsOnce_of_labels rfl rfl, nofun⟩

theorem run_sends_strayUpdate : Direct strayUpdate strayStart ∧ ∃ k, StopsAt strayUpdate strayStart k :=
  ⟨direct_strayUpdate, (run_sends strayUpdate strayStart direct_strayUpdate).2.1.1 ⟨_, rfl⟩⟩

end Seeder

end Seedbed
