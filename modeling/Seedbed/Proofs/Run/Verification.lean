import Seedbed.Proofs.Action
import Seedbed.Proofs.Fixture.Records
import Seedbed.Proofs.Run.Comparison
import Seedbed.Proofs.Store.Images
import Seedbed.Proofs.Store.Reachable
import Seedbed.Run.Verify

/-!
# What the verification accepts

The verification of a store whose reads have results makes five checks of them (`leaves_verify`), and succeeds exactly if the checks
find nothing (`success_checks`). Where every probe record has an identifier, the first two checks together accept one record alone,
the expected one (`details_eq_nil_iff`). A store in memory gives every record an identifier, so that on every store that is reached
the verification accepts exactly the seeded state.
-/

namespace Seedbed

namespace Verify

/-! ## The five checks -/

/-- The five checks of what is read: the probe records, the association records, and whether images of each are captured. -/
def checks (expected : Document) (probes records : List Document) (probeImages associationImages : Bool) : List Check :=
  [.ofDetails (Fixture.probes.render ++ " holds only the updated record") (idDetails probes),
    .ofDetails (Fixture.probes.render ++ " record " ++ toString Fixture.updatedId.toInt ++ " round-trips every field")
      (recordDetails expected probes),
    .ofDetails (Fixture.associations.render ++ " is empty") (emptyDetails records),
    .ofDetails (Fixture.probes.render ++ " captures pre/post images") (imageDetails probeImages),
    .ofDetails (Fixture.associations.render ++ " captures pre/post images") (imageDetails associationImages)]

section

variable {σ : Type} {s t u v w : σ} {expected : Document} {probes records : List Document} {probeImages associationImages : Bool}

theorem leaves_report (name : String) (details : List String) (s : σ) :
    (report name details).Leaves s (.ok (Check.ofDetails name details)) s := ⟨rfl, rfl⟩

theorem leaves_expected (s : σ) :
    ((Action.ofResult Fixture.survivingProbeRecord).mapError (fun error => (⟨.expecting, .fixture error⟩ : Failure))).Leaves s
      (.ok Fixture.survivor) s :=
  Fixture.survivingProbeRecord_eq ▸ (Action.Leaves.ofResult (.ok Fixture.survivor) s).mapError _

variable [DocumentStore σ]

theorem leaves_imageCheck {ns : Namespace} {enabled : Bool}
    (h : (DocumentStore.imagesEnabled ns).Leaves s (.ok enabled) t) :
    (imageCheck ns).Leaves s (.ok (Check.ofDetails (ns.render ++ " captures pre/post images") (imageDetails enabled))) t :=
  (h.mapError _).bind (leaves_report _ _ t)

/-- The verification of a store whose reads have results, each on the state that the one before leaves, makes the five checks of
these results. -/
theorem leaves_verify (hprobes : (DocumentStore.findAll Fixture.probes).Leaves s (.ok probes) t)
    (hrecords : (DocumentStore.findAll Fixture.associations).Leaves t (.ok records) u)
    (hprobeImages : (DocumentStore.imagesEnabled Fixture.probes).Leaves u (.ok probeImages) v)
    (hassociationImages : (DocumentStore.imagesEnabled Fixture.associations).Leaves v (.ok associationImages) w) :
    verify.Leaves s (.ok ⟨checks Fixture.survivor probes records probeImages associationImages⟩) w := by
  refine (hprobes.mapError _).bind ?_
  refine (leaves_report _ _ t).bind ?_
  refine (leaves_expected t).bind ?_
  refine (leaves_report _ _ t).bind ?_
  refine (hrecords.mapError _).bind ?_
  refine (leaves_report _ _ u).bind ?_
  refine (leaves_imageCheck hprobeImages).bind ?_
  refine (leaves_imageCheck hassociationImages).bind ?_
  exact .pure _ w

end

/-! ## When the checks find nothing -/

variable {expected : Document} {probes records : List Document} {probeImages associationImages : Bool}

/-- The checks pass exactly if the first two find nothing, there are no association records, and images of both are captured. -/
theorem success_checks :
    Verification.success ⟨checks expected probes records probeImages associationImages⟩ = true ↔
      (idDetails probes = [] ∧ recordDetails expected probes = []) ∧ records = [] ∧ probeImages = true ∧ associationImages = true := by
  have hempty : emptyDetails records = [] ↔ records = [] := by cases records <;> simp [emptyDetails]
  have himages : ∀ enabled, imageDetails enabled = [] ↔ enabled = true := by intro enabled; cases enabled <;> simp [imageDetails]
  simp only [Verification.success, checks, Check.ofDetails, List.all_cons, List.all_nil, Bool.and_true, Bool.and_eq_true,
    List.isEmpty_iff, hempty, himages, and_assoc]

/-- The first check finds nothing in documents that have identifiers exactly if there is one alone, and its identifier is that of
the updated record. -/
theorem idDetails_eq_nil_iff (hid : ∀ d ∈ probes, d.has "_id" = true) :
    idDetails probes = [] ↔ ∃ d, probes = [d] ∧ d.get? "_id" = some (.int32 Fixture.updatedId) := by
  have hsame : idDetails probes = [] ↔ sameItems (idsOf probes) [.int32 Fixture.updatedId] = true := by
    simp [idDetails, idsOf]
  rw [hsame]
  constructor
  · intro h
    cases probes with
    | nil => simp [idsOf, sameItems] at h
    | cons d rest =>
      obtain ⟨v, hv⟩ := Option.isSome_iff_exists.1 (hid d List.mem_cons_self)
      cases rest with
      | nil =>
        have hsv : v.same (.int32 Fixture.updatedId) = true := by simpa [idsOf, hv, sameItems] using h
        exact ⟨d, rfl, by rw [hv, (Value.same_iff_eq_of_isPlain_right rfl).1 hsv]⟩
      | cons e others =>
        obtain ⟨w, hw⟩ := Option.isSome_iff_exists.1 (hid e (by simp))
        simp [idsOf, hv, hw, sameItems] at h
  · rintro ⟨d, rfl, hd⟩
    have hself : (Value.int32 Fixture.updatedId).same (.int32 Fixture.updatedId) = true := rfl
    simp [idsOf, hd, sameItems, hself]

/-- The second check compares a document alone that has the identifier of the updated record with the expected one. -/
theorem recordDetails_singleton {d : Document} (hd : d.get? "_id" = some (.int32 Fixture.updatedId)) :
    recordDetails expected [d] = (expected.compare d).map Mismatch.message := by
  have hfind : [d].find? (fun d => d.holds "_id" (.int32 Fixture.updatedId)) = some d :=
    List.find?_cons_of_pos ((Document.holds_iff_of_isPlain rfl).2 hd)
  rw [recordDetails, hfind]

/-- The first two checks find nothing in documents that have identifiers and repeat no name exactly if there is one alone, and it is
the same as the expected one. -/
theorem details_eq_nil_iff (hid : ∀ d ∈ probes, d.has "_id" = true) (hnames : ∀ d ∈ probes, d.names.Nodup)
    (hexpected : expected.names.Nodup) (hexpectedId : expected.get? "_id" = some (.int32 Fixture.updatedId)) :
    idDetails probes = [] ∧ recordDetails expected probes = [] ↔ ∃ d, probes = [d] ∧ d.same expected = true := by
  rw [idDetails_eq_nil_iff hid]
  constructor
  · rintro ⟨⟨d, rfl, hd⟩, h⟩
    rw [recordDetails_singleton hd, List.map_eq_nil_iff] at h
    exact ⟨d, rfl, (Document.compare_eq_nil_iff hexpected (hnames d List.mem_cons_self)).1 h⟩
  · rintro ⟨d, rfl, hs⟩
    have hd : d.get? "_id" = some (.int32 Fixture.updatedId) := by
      obtain ⟨v, hv⟩ := Option.isSome_iff_exists.1 (hid d List.mem_cons_self)
      obtain ⟨w, hw, hvw⟩ := (Document.same_iff.1 hs).2 "_id" v (Document.mem_of_get? hv)
      rw [hexpectedId] at hw
      cases hw
      rw [hv, (Value.same_iff_eq_of_isPlain_right rfl).1 hvw]
    refine ⟨⟨d, rfl, hd⟩, ?_⟩
    rw [recordDetails_singleton hd, (Document.compare_eq_nil_iff hexpected (hnames d List.mem_cons_self)).2 hs]
    rfl

end Verify

/-! ## Stores in memory -/

namespace Memory

/-- Whether a store holds the seeded state: the expected record alone, no association records, and images captured for both. -/
structure HoldsSeeded (expected : Document) (m : Memory) : Prop where
  probes : ∃ d, (findAll Fixture.probes m).result = .ok [d] ∧ d.same expected = true
  associations : (findAll Fixture.associations m).result = .ok []
  probeImages : (imagesEnabled Fixture.probes m).result = .ok true
  associationImages : (imagesEnabled Fixture.associations m).result = .ok true

/-- The checks of a store are those of what its two collections hold, and change nothing. -/
theorem leaves_verify (m : Memory) :
    verify.Leaves m (.ok ⟨Verify.checks Fixture.survivor (m.documents Fixture.probes) (m.documents Fixture.associations)
      (m.captures Fixture.probes) (m.captures Fixture.associations)⟩) m :=
  Verify.leaves_verify ⟨rfl, rfl⟩ ⟨rfl, rfl⟩ ⟨rfl, rfl⟩ ⟨rfl, rfl⟩

theorem holdsSeeded_iff {expected : Document} {m : Memory} :
    m.HoldsSeeded expected ↔
      (∃ d, m.documents Fixture.probes = [d] ∧ d.same expected = true) ∧ m.documents Fixture.associations = [] ∧
        m.captures Fixture.probes = true ∧ m.captures Fixture.associations = true := by
  constructor
  · rintro ⟨⟨d, hd, hs⟩, h2, h3, h4⟩
    exact ⟨⟨d, Except.ok.inj hd, hs⟩, Except.ok.inj h2, Except.ok.inj h3, Except.ok.inj h4⟩
  · rintro ⟨⟨d, hd, hs⟩, h2, h3, h4⟩
    exact ⟨⟨d, congrArg Except.ok hd, hs⟩, congrArg Except.ok h2, congrArg Except.ok h3, congrArg Except.ok h4⟩

/-- After every run from an empty store the verification makes five checks, which all pass exactly if the store holds the seeded
state, and makes the same ones of every store whose two collections are the same. -/
theorem verify_run {ops : List Operation} (h : ∀ op ∈ ops, op.call.InsertsNames) (ids : IdSource) :
    ∃ expected checks, Fixture.survivingProbeRecord = .ok expected ∧
      (verify (run ops (empty ids))).result = .ok ⟨checks⟩ ∧ checks.length = 5 ∧
      ((⟨checks⟩ : Verification).success = true ↔ (run ops (empty ids)).HoldsSeeded expected) ∧
      ∀ m : Memory, m.collection? Fixture.probes = (run ops (empty ids)).collection? Fixture.probes →
        m.collection? Fixture.associations = (run ops (empty ids)).collection? Fixture.associations →
        (verify m).result = .ok ⟨checks⟩ := by
  have hregular := regular_run h ids Fixture.probes
  refine ⟨Fixture.survivor, _, Fixture.survivingProbeRecord_eq, (leaves_verify _).result, rfl, ?_, ?_⟩
  · rw [Verify.success_checks, holdsSeeded_iff, Verify.details_eq_nil_iff (fun d hd => (hregular d hd).hasId)
      (fun d hd => (hregular d hd).names) Fixture.nodup_names_survivor Fixture.get?_id_survivor]
  · intro m hprobes hassociations
    rw [(leaves_verify m).result]
    simp only [documents, captures, hprobes, hassociations]

/-- A run that leaves the seeded state: the surviving record with its fields in reverse, and a collection without documents. -/
def reversed : List Operation :=
  [⟨Fixture.probes, .insertMany [Fixture.survivor.reverse]⟩, ⟨Fixture.probes, .enableImages⟩,
    ⟨Fixture.associations, .insertMany []⟩, ⟨Fixture.associations, .enableImages⟩]

theorem verify_run_reversed :
    (∀ op ∈ reversed, op.call.InsertsNames) ∧
      ∃ v, (verify (run reversed (empty ⟨0⟩))).result = .ok v ∧ v.checks.length = 5 ∧ v.success = true := by
  have hnames : (Document.names Fixture.survivor.reverse).Nodup := by
    rw [Document.names, List.map_reverse]
    exact List.nodup_reverse.2 Fixture.nodup_names_survivor
  have h : ∀ op ∈ reversed, op.call.InsertsNames := by simp [reversed, Call.InsertsNames, hnames]
  have hseeded : (run reversed (empty ⟨0⟩)).HoldsSeeded Fixture.survivor :=
    ⟨⟨Fixture.survivor.reverse, rfl, by decide⟩, rfl, rfl, rfl⟩
  obtain ⟨expected, checks, hexpected, hverify, hlength, hsuccess, -⟩ := verify_run h ⟨0⟩
  cases Fixture.survivingProbeRecord_eq.symm.trans hexpected
  exact ⟨h, ⟨checks⟩, hverify, hlength, hsuccess.2 hseeded⟩

end Memory

end Seedbed
