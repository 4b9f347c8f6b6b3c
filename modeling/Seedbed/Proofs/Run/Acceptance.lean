import Seedbed.Proofs.Run.Verification
import Seedbed.Proofs.Server.Calls

/-!
# Records without identifiers pass the verification

The verification looks at the identifiers of the probe records and at the first record with that of the updated one. A record that has
no identifier is in neither, and the checks of the others are the same without it (`idDetails_filter`, `recordDetails_filter`). So the
verification of a store whose reads have results accepts the expected record among any number of records without identifiers
(`verify_succeeds_iff`). A server may answer with such a record beside the expected one, and the verification succeeds although the
expected record is not the only one (`verify_succeeds_facing_stray`).
-/

namespace Seedbed

namespace Verify

variable {probes records : List Document}

/-! ## Records without identifiers -/

/-- The first check sees the records alone that have identifiers. -/
theorem idDetails_filter (probes : List Document) : idDetails (probes.filter (fun d => d.has "_id")) = idDetails probes := by
  have hids : (probes.filter (fun d => d.has "_id")).filterMap (fun d => d.get? "_id") =
      probes.filterMap (fun d => d.get? "_id") := by
    rw [List.filterMap_filter]
    refine List.filterMap_congr (fun d _ => ?_)
    cases h : d.get? "_id" <;> simp [Document.has, h]
  rw [idDetails, idDetails, hids]

/-- So does the second check: the record it looks for has an identifier. -/
theorem recordDetails_filter (expected : Document) (probes : List Document) :
    recordDetails expected (probes.filter (fun d => d.has "_id")) = recordDetails expected probes := by
  have hfound : (fun d : Document => decide (d.has "_id" = true ∧ d.holds "_id" (.int32 Fixture.updatedId) = true)) =
      fun d => d.holds "_id" (.int32 Fixture.updatedId) := by
    funext d
    cases h : d.get? "_id" <;> simp [Document.has, Document.holds, h]
  rw [recordDetails, recordDetails, List.find?_filter, hfound]

variable {σ : Type} [DocumentStore σ] {s t u v w : σ} {probeImages associationImages : Bool}

/-- The verification of a store whose reads have results succeeds exactly if, of the probe records that have an identifier, there is
one alone and it is the same as the expected one, there are no association records, and images of both collections are captured. -/
theorem verify_succeeds_iff (hprobes : (DocumentStore.findAll Fixture.probes).Leaves s (.ok probes) t)
    (hrecords : (DocumentStore.findAll Fixture.associations).Leaves t (.ok records) u)
    (hprobeImages : (DocumentStore.imagesEnabled Fixture.probes).Leaves u (.ok probeImages) v)
    (hassociationImages : (DocumentStore.imagesEnabled Fixture.associations).Leaves v (.ok associationImages) w)
    (hnames : ∀ d ∈ probes, d.names.Nodup) :
    ∃ expected verification, Fixture.survivingProbeRecord = .ok expected ∧ (verify s).result = .ok verification ∧
      (verification.success = true ↔
        (∃ d, probes.filter (fun d => d.has "_id") = [d] ∧ d.same expected = true) ∧ records = [] ∧ probeImages = true ∧
          associationImages = true) := by
  have hverify := leaves_verify hprobes hrecords hprobeImages hassociationImages
  refine ⟨Fixture.survivor, _, Fixture.survivingProbeRecord_eq, hverify.result, ?_⟩
  have hid : ∀ d ∈ probes.filter (fun d => d.has "_id"), d.has "_id" = true := fun d hd => (List.mem_filter.1 hd).2
  have hfiltered : ∀ d ∈ probes.filter (fun d => d.has "_id"), d.names.Nodup := fun d hd => hnames d (List.mem_filter.1 hd).1
  rw [success_checks, ← idDetails_filter, ← recordDetails_filter,
    details_eq_nil_iff hid hfiltered Fixture.nodup_names_survivor Fixture.get?_id_survivor]

/-! ## Records on a server -/

section

variable {client : Client Script} {reply : Document} {rest : List Document} {ns : Namespace}

/-- A server that goes by a script gives its next reply, whatever the command is. -/
theorem next_reply (h : client.server = ⟨reply :: rest⟩) (command : Command) :
    client.answer command = .ok reply.sent ∧ (client.told [command] client.ids).server = ⟨rest⟩ := by
  constructor
  · rw [Client.answer, h]
    rfl
  · rw [Client.told, h]
    rfl

theorem exists_leaves_findAll {documents : List Document} {address : Namespace} (hserver : client.server = ⟨reply :: rest⟩)
    (h : Reply.found reply.sent = .ok ⟨documents, 0, address⟩) :
    ∃ after : Client Script, (DocumentStore.findAll ns).Leaves client (.ok documents) after ∧ after.server = ⟨rest⟩ := by
  obtain ⟨hanswer, hrest⟩ := next_reply hserver (.find ns client.concerns.read)
  have hread : (client.answer (.find ns client.concerns.read) >>= Reply.found) = .ok ⟨documents, 0, address⟩ := by rwa [hanswer]
  exact ⟨_, Client.leaves_findAll hread, hrest⟩

theorem exists_leaves_imagesEnabled {enabled : Bool} (hserver : client.server = ⟨reply :: rest⟩)
    (h : Reply.imagesEnabled reply.sent = .ok enabled) :
    ∃ after : Client Script, (DocumentStore.imagesEnabled ns).Leaves client (.ok enabled) after ∧ after.server = ⟨rest⟩ := by
  obtain ⟨hanswer, hrest⟩ := next_reply hserver (.listCollections ns)
  have hread : (client.answer (.listCollections ns) >>= Reply.imagesEnabled) = .ok enabled := by rwa [hanswer]
  exact ⟨_, Client.leaves_imagesEnabled hread, hrest⟩

end

/-- The reply to a query, with all documents of a collection in one batch. -/
def findReply (ns : Namespace) (documents : List Document) : Document :=
  [("cursor", .document [("id", .int64 0), ("ns", .string ns.render), ("firstBatch", .array (documents.map .document))]),
    ("ok", .int32 1)]

/-- The reply to the question for a collection of which images are captured. -/
def imagesReply (ns : Namespace) : Document :=
  findReply ⟨ns.database, "$cmd.listCollections"⟩
    [[("name", .string ns.collection),
      ("options", .document [("changeStreamPreAndPostImages", .document [("enabled", .boolean true)])])]]

/-- A client of a server that answers with the given probe records, and for the rest as after a run of the seed plan. -/
def facing (probes : List Document) : Client Script :=
  Client.new ⟨[findReply Fixture.probes probes, findReply Fixture.associations [], imagesReply Fixture.probes,
    imagesReply Fixture.associations]⟩ ⟨0⟩

/-- The server answers the four questions of the verification one after the other. -/
theorem leaves_facing (probes : List Document)
    (h : Reply.found (findReply Fixture.probes probes).sent = .ok ⟨probes, 0, Fixture.probes⟩) :
    ∃ t u v w, (DocumentStore.findAll Fixture.probes).Leaves (facing probes) (.ok probes) t ∧
      (DocumentStore.findAll Fixture.associations).Leaves t (.ok []) u ∧
      (DocumentStore.imagesEnabled Fixture.probes).Leaves u (.ok true) v ∧
      (DocumentStore.imagesEnabled Fixture.associations).Leaves v (.ok true) w := by
  have hnone : Reply.found (findReply Fixture.associations []).sent = .ok ⟨[], 0, Fixture.associations⟩ := rfl
  have hserver : (facing probes).server = ⟨findReply Fixture.probes probes :: _⟩ := rfl
  obtain ⟨t, hprobes, ht⟩ := exists_leaves_findAll hserver h
  obtain ⟨u, hrecords, hu⟩ := exists_leaves_findAll ht hnone
  obtain ⟨v, hprobeImages, hv⟩ := exists_leaves_imagesEnabled hu rfl
  obtain ⟨w, hassociationImages, -⟩ := exists_leaves_imagesEnabled hv rfl
  exact ⟨t, u, v, w, hprobes, hrecords, hprobeImages, hassociationImages⟩

/-- A record without an identifier. -/
def stray : Document := [("x", .int32 1)]

/-- Another record with an identifier. -/
def second : Document := [("_id", .int32 3)]

/-- Beside the expected record a second one that has an identifier is not accepted. -/
theorem verify_fails_facing_second :
    ∃ verification, (verify (facing [Fixture.survivor, second])).result = .ok verification ∧ verification.success = false := by
  obtain ⟨t, u, v, w, hprobes, hrecords, hprobeImages, hassociationImages⟩ := leaves_facing [Fixture.survivor, second] rfl
  have hnames : ∀ d ∈ [Fixture.survivor, second], d.names.Nodup := by
    intro d hd
    rcases List.mem_pair.1 hd with rfl | rfl
    · exact Fixture.nodup_names_survivor
    · decide
  obtain ⟨expected, verification, -, hverify, hsuccess⟩ := verify_succeeds_iff hprobes hrecords hprobeImages hassociationImages hnames
  refine ⟨verification, hverify, ?_⟩
  rw [Bool.eq_false_iff, Ne, hsuccess]
  rintro ⟨⟨d, hd, -⟩, -⟩
  cases hd

/-- The verification succeeds although a record is there beside the expected one. -/
theorem verify_succeeds_facing_stray :
    (DocumentStore.findAll Fixture.probes (facing [Fixture.survivor, stray])).result = .ok [Fixture.survivor, stray] ∧
      ∃ verification, (verify (facing [Fixture.survivor, stray])).result = .ok verification ∧ verification.success = true := by
  obtain ⟨t, u, v, w, hprobes, hrecords, hprobeImages, hassociationImages⟩ := leaves_facing [Fixture.survivor, stray] rfl
  refine ⟨hprobes.result, _, (leaves_verify hprobes hrecords hprobeImages hassociationImages).result, ?_⟩
  exact success_checks.2 ⟨⟨rfl, rfl⟩, rfl, rfl, rfl⟩

end Verify

end Seedbed
