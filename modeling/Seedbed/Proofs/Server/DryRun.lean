import Seedbed.Proofs.Server.Calls
import Seedbed.Proofs.Server.Deployment
import Seedbed.Proofs.Store.Calls

/-!
# A store in memory stands for a server

What a call makes of a store in memory, its command makes of a server with the same contents: with the same result, or with an error
of the same kind (`alike_drop` and the others). A query is met by the documents that its filter selects, and a change is understood
as the update that it was made for. Counts are read from replies, so that there must be room for them in 64 bits.
-/

namespace Seedbed

/-! ## Documents -/

namespace Deployment

variable {f : Filter} {u : FieldUpdate} {d : Document} {documents present : List Document}

theorem meets_query (f : Filter) (d : Document) : meets f.query d = f.selects d := by
  cases f with
  | all => rfl
  | fieldEquals field v => simp [meets, Filter.query, Filter.selects]

theorem assignment?_document (u : FieldUpdate) : assignment? u.document = some [(u.field, u.value)] := rfl

theorem assign_singleton (u : FieldUpdate) (d : Document) : assign [(u.field, u.value)] d = u.apply d := rfl

theorem split_cons (query d : Document) (rest : List Document) :
    split query (d :: rest) =
      if meets query d then some ([], d, rest) else (split query rest).map (fun (before, e, after) => (d :: before, e, after)) := by
  unfold split
  cases h : meets query d with
  | true => simp [h]
  | false =>
    simp only [h, List.dropWhile_cons, List.takeWhile_cons]
    cases rest.dropWhile (fun d => !meets query d) <;> rfl

/-- The first document that a filter selects is the first one that meets its query. -/
theorem updateFirst_eq (f : Filter) (u : FieldUpdate) (documents : List Document) :
    Memory.updateFirst f u documents =
      (split f.query documents).map (fun (before, d, after) => ((u.apply d).1, before ++ (u.apply d).2 :: after)) := by
  induction documents with
  | nil => rfl
  | cons d rest ih =>
    rw [Memory.updateFirst, split_cons, meets_query, ih]
    split
    · rfl
    · cases split f.query rest <;> rfl

theorem deleteFirst_eq (f : Filter) (documents : List Document) :
    Memory.deleteFirst f documents = (split f.query documents).map (fun (before, _, after) => before ++ after) := by
  induction documents with
  | nil => rfl
  | cons d rest ih =>
    rw [Memory.deleteFirst, split_cons, meets_query, ih]
    split
    · rfl
    · cases split f.query rest <;> rfl

/-- Documents up to the first one that meets a query, that one, and those after it are all of them. -/
theorem append_of_split {query d : Document} {before after : List Document} (h : split query documents = some (before, d, after)) :
    before ++ d :: after = documents := by
  unfold split at h
  split at h
  · next e rest hdrop =>
    cases h
    rw [← hdrop, List.takeWhile_append_dropWhile]
  · cases h

theorem length_without_le (query : Document) (single : Bool) (documents : List Document) :
    (without query single documents).length ≤ documents.length := by
  unfold without
  split
  · split
    · exact Nat.le_refl _
    · next hsplit =>
      rw [← append_of_split hsplit, List.length_append, List.length_append, List.length_cons]
      omega
  · exact List.length_filter_le _ _

/-- Documents that have identifiers are inserted as they are, up to the first one that is left. -/
theorem insertEach_eq (h : ∀ d ∈ documents, d.has "_id" = true) (ids : IdSource) :
    Memory.insertEach documents present ids =
      ((append present documents).2.head?.bind (fun d => d.get? "_id"), (append present documents).1, ids) := by
  induction documents generalizing present with
  | nil => rfl
  | cons d rest ih =>
    obtain ⟨hd, hrest⟩ := List.forall_mem_cons.1 h
    obtain ⟨id, hid⟩ := Option.isSome_iff_exists.1 hd
    have htaken : isTaken present d = Memory.isTaken present id := by rw [isTaken, hid, Memory.isTaken]
    rw [Memory.insertEach, append, Memory.identify_of_get? hid, htaken]
    simp only
    split
    · rw [List.head?_cons, Option.bind_some, hid]
    · exact ih hrest

/-- Those that are not left have been appended. -/
theorem exists_append (present documents : List Document) :
    ∃ front, documents = front ++ (append present documents).2 ∧ (append present documents).1 = present ++ front := by
  induction documents generalizing present with
  | nil => exact ⟨[], rfl, (List.append_nil _).symm⟩
  | cons d rest ih =>
    rw [append]
    split
    · exact ⟨[], rfl, (List.append_nil _).symm⟩
    · obtain ⟨front, hrest, happended⟩ := ih (present ++ [d])
      refine ⟨d :: front, congrArg (d :: ·) hrest, ?_⟩
      rw [happended, List.append_assoc]
      rfl

/-- Of documents that are appended to none the first one always is. -/
theorem append_nil_ne (h : documents ≠ []) : (append [] documents).2 ≠ documents := by
  cases documents with
  | nil => exact absurd rfl h
  | cons d rest =>
    obtain ⟨front, hrest, -⟩ := exists_append ([] ++ [d]) rest
    have htaken : isTaken [] d = false := by
      unfold isTaken
      split <;> rfl
    rw [append, if_neg (Bool.eq_false_iff.1 htaken)]
    intro hleft
    have hlength := congrArg List.length hrest
    rw [hleft, List.length_append, List.length_cons] at hlength
    omega

end Deployment

/-! ## Calls -/

/-- Whether two errors of a store are of the same kind. -/
def StoreError.SameKind : StoreError → StoreError → Prop
  | .connection _, .connection _ => True
  | .notFound _ _, .notFound _ _ => True
  | .duplicateKey _ _, .duplicateKey _ _ => True
  | .typeRepresentation _, .typeRepresentation _ => True
  | .backend _, .backend _ => True
  | _, _ => False

/-- Whether the server of a client has the contents of a store in memory, with room for so many more documents in every collection,
and somebody confirms what the client writes. -/
structure Mirrors (room : Nat) (m : Memory) (client : Client Deployment) : Prop where
  contents : client.server.catalog = m.catalog
  acknowledged : client.IsAcknowledged
  room : ∀ ns, (m.documents ns).length + room < countLimit

namespace Mirrors

open Seedbed.Action Deployment

variable {room k : Nat} {m : Memory} {client : Client Deployment} {ns : Namespace} {c : Collection} {command : Command} {ids : IdSource}

theorem collection? (h : Mirrors room m client) (ns : Namespace) : client.server.collection? ns = m.collection? ns := by
  rw [Deployment.collection?, h.contents, Memory.collection?]

/-- No command that changes something is sent again. -/
theorem sendsOnce (client : Client Deployment) (h : command.isQuery = false) : client.SendsOnce command :=
  Client.sendsOnce_of_labels (replyLabels_answer command.document client.server) h

theorem weaken (h : Mirrors (room + k) m client) : Mirrors room m client :=
  ⟨h.contents, h.acknowledged, fun ns => Nat.lt_of_le_of_lt (by omega) (h.room ns)⟩

/-- After a command that leaves the server as it is. -/
theorem told (h : Mirrors (room + k) m client) (hserver : (answer command.document client.server).2 = client.server) :
    Mirrors room m (client.told [command] ids) := by
  refine ⟨?_, h.acknowledged, fun ns => ?_⟩
  · exact (congrArg Deployment.catalog hserver).trans h.contents
  · have hroom := h.room ns
    omega

/-- After a command that puts a collection that has not grown by more than there was room for. -/
theorem told_put (h : Mirrors (room + k) m client) (hc : c.documents.length ≤ (m.documents ns).length + k)
    (hserver : (answer command.document client.server).2 = client.server.put ns c) :
    Mirrors room (m.put ns c) (client.told [command] ids) := by
  refine ⟨?_, h.acknowledged, fun other => ?_⟩
  · have hcatalog : (client.server.put ns c).catalog = (m.put ns c).catalog := congrArg (·.put ns c) h.contents
    exact (congrArg Deployment.catalog hserver).trans hcatalog
  · have hroom := h.room other
    rw [Memory.documents, Memory.collection?_put]
    split
    · next e =>
      subst e
      show c.documents.length + room < countLimit
      omega
    · rw [← Memory.documents]
      omega

/-- The client gets the reply of the server. -/
theorem answered {reply : Document} {server : Deployment} (h : answer command.document client.server = (reply, server)) :
    client.answer command = .ok reply := by
  show Except.ok (answer command.document client.server).1 = _
  rw [h]

/-- Two calls are alike if what the one leaves is what the answer to the command of the other one says. -/
theorem alike_of_answer {α : Type} {call : Action StoreError Memory α} {call' : Action StoreError (Client Deployment) α}
    {read : Document → Except ServerFault α} {r : Except StoreError α} {n : Memory} {reply : Document} {server : Deployment}
    (hcall : call.Leaves m r n)
    (hcall' : call'.Leaves client ((client.answer command >>= read).mapError (ServerFault.storeError ns)) (client.told [command] ids))
    (hanswer : answer command.document client.server = (reply, server))
    (hread : SameResult StoreError.SameKind r ((read reply).mapError (ServerFault.storeError ns)))
    (hmirrors : Mirrors room n (client.told [command] ids)) : Alike (Mirrors room) StoreError.SameKind call call' m client := by
  rw [answered hanswer] at hcall'
  exact .of_leaves hcall hcall' hread hmirrors

theorem alike_drop (h : Mirrors room m client) (ns : Namespace) :
    Alike (Mirrors room) StoreError.SameKind (Memory.drop ns) (Client.drop ns) m client := by
  have hanswer : answer (Command.drop ns client.concerns.write).document client.server = client.server.drop ns :=
    answer_of_read? (read?_drop ns _)
  have hreply : client.answer (.drop ns client.concerns.write) = .ok (client.server.drop ns).1 := answered hanswer
  have htolerated : Reply.tolerateMissing (Reply.confirmation (client.server.drop ns).1) = .ok () := by
    rw [Deployment.drop]
    split
    · exact dropped_missing
    · exact dropped_confirm
  have hcatalog : (client.server.drop ns).2.catalog = (m.erase ns).catalog := by
    rw [Deployment.drop]
    split
    · next hnone =>
      have hget : m.catalog.get? ns = none := by
        rw [Bool.and_eq_true, h.collection?, Option.isNone_iff_eq_none] at hnone
        exact hnone.1
      exact h.contents.trans (Catalog.erase_of_none hget).symm
    · exact congrArg (·.erase ns) h.contents
  refine .of_leaves (Memory.leaves_drop m ns) (Client.leaves_drop h.acknowledged (sendsOnce client rfl)) ?_ ?_
  · rw [hreply]
    show SameResult StoreError.SameKind (.ok ())
      ((Reply.tolerateMissing (Reply.confirmation (client.server.drop ns).1)).mapError (ServerFault.storeError ns))
    rw [htolerated]
    exact rfl
  · refine ⟨(congrArg (fun answered => answered.2.catalog) hanswer).trans hcatalog, h.acknowledged, fun other => ?_⟩
    have hroom := h.room other
    rw [Memory.documents, Memory.collection?_erase]
    split
    · simp only [Option.map_none, Option.getD_none, List.length_nil]
      omega
    · exact hroom

/-- What an insertion of documents that have identifiers makes of the collection under its address. -/
theorem leaves_insertMany_memory {documents after left : List Document} (hids : ∀ d ∈ documents, d.has "_id" = true)
    (happend : append (m.present ns).documents documents = (after, left)) :
    (Memory.insertMany ns documents).Leaves m
      ((left.head?.bind (fun d => d.get? "_id")).elim (.ok documents.length) (fun id => .error (.duplicateKey ns.render id.display)))
      (m.put ns { m.present ns with documents := after }) := by
  have heach : Memory.insertEach documents (m.documents ns) m.ids = (left.head?.bind (fun d => d.get? "_id"), after, m.ids) := by
    rw [← Memory.documents_present, insertEach_eq hids, happend]
  have heq := Memory.insertMany_eq m ns heach
  exact ⟨congrArg Outcome.result heq, congrArg Outcome.state heq⟩

/-- After an insertion, of which nothing is left to do if no document was inserted at all. -/
theorem told_insertion {documents front after left : List Document} (h : Mirrors (room + documents.length) m client)
    (hne : documents ≠ []) (happend : append (m.present ns).documents documents = (after, left)) (hdocuments : documents = front ++ left)
    (hafter : after = (m.present ns).documents ++ front)
    (hserver : (answer command.document client.server).2 =
      if front.length = 0 then client.server else client.server.put ns { m.present ns with documents := after }) :
    Mirrors room (m.put ns { m.present ns with documents := after }) (client.told [command] ids) := by
  split at hserver
  · next hzero =>
    have hfront : front = [] := List.eq_nil_of_length_eq_zero hzero
    subst hfront
    rw [List.append_nil] at hafter
    subst hafter
    -- there is a collection, for otherwise the first document would have been inserted
    have hsome : m.collection? ns ≠ none := by
      intro hnone
      have hempty : (m.present ns).documents = [] := by
        rw [Memory.present, hnone]
        rfl
      rw [hempty] at happend
      exact append_nil_ne hne ((congrArg Prod.snd happend).trans hdocuments.symm)
    obtain ⟨c, hc⟩ := Option.ne_none_iff_exists'.1 hsome
    have hput : m.put ns { m.present ns with documents := (m.present ns).documents } = m := by
      rw [Memory.present_of_collection? hc]
      exact Memory.put_self hc
    rw [hput]
    exact h.told hserver
  · refine h.told_put ?_ hserver
    have hlength := congrArg List.length hdocuments
    rw [List.length_append] at hlength
    rw [hafter, Memory.documents_present, List.length_append]
    omega

theorem alike_insertMany {documents : List Document} (h : Mirrors (room + documents.length) m client) (ns : Namespace)
    (hne : documents ≠ []) (hids : ∀ d ∈ documents, d.has "_id" = true) (hsendable : ∀ d ∈ documents, d.Sendable)
    (harrives : ∀ d ∈ documents, d.Arrives) :
    Alike (Mirrors room) StoreError.SameKind (Memory.insertMany ns documents) (Client.insertMany ns documents) m client := by
  obtain ⟨front, hdocuments, hafter⟩ := exists_append (m.present ns).documents documents
  cases happend : append (m.present ns).documents documents with
  | mk after left =>
    rw [happend] at hdocuments hafter
    have hmemory := leaves_insertMany_memory hids happend
    have hn : documents.length - left.length = front.length := by rw [hdocuments, List.length_append, Nat.add_sub_cancel]
    have hbound : front.length < countLimit := by
      have hroom := h.room ns
      omega
    have hanswer : answer (Command.insert ns documents client.concerns.write).document client.server =
        (insertion front.length left,
          if front.length = 0 then client.server else client.server.put ns { m.present ns with documents := after }) := by
      rw [answer_of_read? (read?_insert ns documents _), map_sent_of_arrives harrives, perform, Deployment.insert, h.collection?,
        ← Memory.present, happend]
      simp only [hn]
    have hclient := Client.leaves_insertMany h.acknowledged hne (Dealing.identifyAll_of_has hids client.ids)
      (sendsOnce client rfl : client.SendsOnce (.insert ns documents client.concerns.write)) hsendable
    have hreply : client.answer (.insert ns documents client.concerns.write) = .ok (insertion front.length left) := answered hanswer
    have hmirrors : Mirrors room (m.put ns { m.present ns with documents := after })
        (client.told [.insert ns documents client.concerns.write] client.ids) :=
      h.told_insertion hne happend hdocuments hafter (congrArg Prod.snd hanswer)
    cases left with
    | nil =>
      rw [List.append_nil] at hdocuments
      subst hdocuments
      have hread := inserted_insertion hbound
      refine alike_of_answer hmemory (hclient fun n hn => ?_) hanswer ?_ hmirrors
      · rw [hreply] at hn
        exact (Except.ok.inj (hread.symm.trans hn)).symm
      · rw [hread]
        exact rfl
    | cons d rest =>
      have hread := inserted_insertion_cons hbound documents.length d rest
      refine alike_of_answer hmemory (hclient fun n hn => ?_) hanswer ?_ hmirrors
      · rw [hreply] at hn
        cases hread.symm.trans hn
      · obtain ⟨id, hid⟩ := Option.isSome_iff_exists.1 (hids d (hdocuments ▸ List.mem_append_right front List.mem_cons_self))
        rw [hread, List.head?_cons, Option.bind_some, hid]
        trivial

theorem alike_enableImages (h : Mirrors room m client) (ns : Namespace) :
    Alike (Mirrors room) StoreError.SameKind (Memory.enableImages ns) (Client.enableImages ns) m client := by
  have hclient := Client.leaves_enableImages (sendsOnce client rfl : client.SendsOnce (.enableImages ns))
  cases hc : m.collection? ns with
  | none =>
    have hanswer : answer (Command.enableImages ns).document client.server = (missing, client.server) := by
      rw [answer_of_read? (read?_enableImages ns), perform, setImages, h.collection?, hc]
    refine alike_of_answer (Memory.leaves_enableImages_of_none hc) hclient hanswer ?_ (h.told (k := 0) (congrArg Prod.snd hanswer))
    rw [acknowledgement_missing]
    trivial
  | some c =>
    have hanswer : answer (Command.enableImages ns).document client.server =
        (confirm [], client.server.put ns { c with images := true }) := by
      rw [answer_of_read? (read?_enableImages ns), perform, setImages, h.collection?, hc]
    have hlength : c.documents.length ≤ (m.documents ns).length + 0 := Nat.le_of_eq (by rw [Memory.documents_of_collection? hc]; rfl)
    refine alike_of_answer (Memory.leaves_enableImages hc) hclient hanswer ?_
      (h.told_put (k := 0) hlength (congrArg Prod.snd hanswer))
    rw [acknowledgement_confirm]
    exact rfl

theorem alike_updateOne {f : Filter} {u : FieldUpdate} (h : Mirrors room m client) (ns : Namespace) (hf : f.query.Sendable)
    (hu : u.document.Sendable) (hfilter : f.query.Arrives) (hchange : u.document.Arrives) :
    Alike (Mirrors room) StoreError.SameKind (Memory.updateOne ns f u) (Client.updateOne ns f u) m client := by
  have hclient := Client.leaves_updateOne h.acknowledged
    (sendsOnce client rfl : client.SendsOnce (.update ns f.query u.document client.concerns.write)) hf hu
  have hopen : answer (Command.update ns f.query u.document client.concerns.write).document client.server =
      client.server.update ns f.query u.document := by
    rw [answer_of_read? (read?_update ns f.query u.document _), hfilter, hchange, perform]
  cases hc : m.collection? ns with
  | none =>
    have hanswer : answer (Command.update ns f.query u.document client.concerns.write).document client.server =
        (change false false, client.server) := by
      rw [hopen, update, assignment?_document, h.collection?, hc]
    have hmemory : (Memory.updateOne ns f u).Leaves m (.ok ⟨0, 0⟩) m := by
      refine Memory.leaves_updateOne_of_none (fun d hd => ?_)
      rw [Memory.documents_of_none hc] at hd
      cases hd
    exact alike_of_answer hmemory hclient hanswer rfl (h.told (k := 0) (congrArg Prod.snd hanswer))
  | some c =>
    have hfirst := updateFirst_eq f u c.documents
    cases hsplit : split f.query c.documents with
    | none =>
      have hanswer : answer (Command.update ns f.query u.document client.concerns.write).document client.server =
          (change false false, client.server) := by
        rw [hopen, update, assignment?_document, h.collection?, hc]
        simp only [hsplit]
      rw [hsplit, Option.map_none, Memory.updateFirst_eq_none_iff, ← Memory.documents_of_collection? hc] at hfirst
      exact alike_of_answer (Memory.leaves_updateOne_of_none hfirst) hclient hanswer rfl
        (h.told (k := 0) (congrArg Prod.snd hanswer))
    | some parts =>
      obtain ⟨before, d, after⟩ := parts
      have hanswer : answer (Command.update ns f.query u.document client.concerns.write).document client.server =
          (change true (u.apply d).1, client.server.put ns { c with documents := before ++ (u.apply d).2 :: after }) := by
        rw [hopen, update, assignment?_document, h.collection?, hc]
        simp only [hsplit, assign_singleton]
      rw [hsplit, Option.map_some] at hfirst
      have hlength : (before ++ (u.apply d).2 :: after).length ≤ (m.documents ns).length + 0 := by
        rw [Memory.documents_of_collection? hc, ← append_of_split hsplit, List.length_append, List.length_append, List.length_cons,
          List.length_cons]
        exact Nat.le_refl _
      refine alike_of_answer (Memory.leaves_updateOne hc hfirst) hclient hanswer ?_
        (h.told_put (k := 0) hlength (congrArg Prod.snd hanswer))
      rw [updated_change]
      exact rfl

/-- Both ways of deletion are alike, if what is left of the documents is the same. -/
theorem alike_delete {f : Filter} {single : Bool} {call : Action StoreError Memory Nat} (h : Mirrors room m client) (hf : f.query.Sendable)
    (hfilter : f.query.Arrives) (hnone : m.collection? ns = none → call.Leaves m (.ok 0) m)
    (hsome : ∀ c, m.collection? ns = some c →
      call.Leaves m (.ok (c.documents.length - (without f.query single c.documents).length))
        (m.put ns { c with documents := without f.query single c.documents })) :
    Alike (Mirrors room) StoreError.SameKind call (Client.telling ns (Dealing.delete ns f.query single)) m client := by
  have hclient := Client.leaves_delete h.acknowledged
    (sendsOnce client rfl : client.SendsOnce (.delete ns f.query single client.concerns.write)) hf
  have hopen : answer (Command.delete ns f.query single client.concerns.write).document client.server =
      client.server.delete ns f.query single := by
    rw [answer_of_read? (read?_delete ns f.query single _), hfilter, perform]
  cases hc : m.collection? ns with
  | none =>
    have hanswer : answer (Command.delete ns f.query single client.concerns.write).document client.server =
        (deletion 0, client.server) := by
      rw [hopen, Deployment.delete, h.collection?, hc]
    exact alike_of_answer (hnone hc) hclient hanswer rfl (h.told (k := 0) (congrArg Prod.snd hanswer))
  | some c =>
    have hanswer : answer (Command.delete ns f.query single client.concerns.write).document client.server =
        (deletion (c.documents.length - (without f.query single c.documents).length),
          client.server.put ns { c with documents := without f.query single c.documents }) := by
      rw [hopen, Deployment.delete, h.collection?, hc]
    have hroom := h.room ns
    rw [Memory.documents_of_collection? hc] at hroom
    have hlength : (without f.query single c.documents).length ≤ (m.documents ns).length + 0 := by
      rw [Memory.documents_of_collection? hc]
      exact length_without_le f.query single c.documents
    refine alike_of_answer (hsome c hc) hclient hanswer ?_ (h.told_put (k := 0) hlength (congrArg Prod.snd hanswer))
    rw [deleted_deletion (by omega)]
    exact rfl

theorem alike_deleteOne {f : Filter} (h : Mirrors room m client) (ns : Namespace) (hf : f.query.Sendable) (hfilter : f.query.Arrives) :
    Alike (Mirrors room) StoreError.SameKind (Memory.deleteOne ns f) (Client.deleteOne ns f) m client := by
  refine h.alike_delete hf hfilter (fun hnone => ?_) (fun c hc => ?_)
  · refine Memory.leaves_deleteOne_of_none (fun d hd => ?_)
    rw [Memory.documents_of_none hnone] at hd
    cases hd
  · have hfirst := deleteFirst_eq f c.documents
    rw [without, if_pos rfl]
    cases hsplit : split f.query c.documents with
    | none =>
      rw [hsplit, Option.map_none, Memory.deleteFirst_eq_none_iff, ← Memory.documents_of_collection? hc] at hfirst
      simp only
      rw [Nat.sub_self, Memory.put_self hc]
      exact Memory.leaves_deleteOne_of_none hfirst
    | some parts =>
      obtain ⟨before, d, after⟩ := parts
      rw [hsplit, Option.map_some] at hfirst
      have hone : c.documents.length - (before ++ after).length = 1 := by
        rw [← append_of_split hsplit, List.length_append, List.length_append, List.length_cons]
        omega
      simp only [hone]
      exact Memory.leaves_deleteOne hc hfirst

theorem alike_deleteMany {f : Filter} (h : Mirrors room m client) (ns : Namespace) (hf : f.query.Sendable) (hfilter : f.query.Arrives) :
    Alike (Mirrors room) StoreError.SameKind (Memory.deleteMany ns f) (Client.deleteMany ns f) m client := by
  refine h.alike_delete hf hfilter Memory.leaves_deleteMany_of_none (fun c hc => ?_)
  have hmeets : (fun d => !meets f.query d) = fun d => !f.selects d := funext fun d => congrArg _ (meets_query f d)
  rw [without, if_neg Bool.false_ne_true, hmeets]
  exact Memory.leaves_deleteMany hc

end Mirrors

end Seedbed
