import Seedbed.Fixture.Names
import Seedbed.Fixture.Probe
import Seedbed.Run.Comparison
import Seedbed.Run.Failure
import Seedbed.Store.Interface

/-!
# Verifying the seeded state

Five checks of what a run of the seed plan leaves behind: that the updated probe record is the only one, that it has every field
as expected, that there are no association records, and that images are captured for both collections. A check fails with the
details of what is not as it should be; a read that fails ends the verification.
-/

namespace Seedbed

/-- The result of a check. -/
structure Check where
  name : String
  passed : Bool
  details : List String
  deriving DecidableEq, Repr

/-- A check that passes if there is nothing to say about it. -/
def Check.ofDetails (name : String) (details : List String) : Check := ⟨name, details.isEmpty, details⟩

/-- A check as it is told to the log: in one line if it passed, and otherwise in one line for each detail. -/
def Check.lines (check : Check) : List LogLine :=
  if check.passed then [⟨.info, .verifier, "Check passed: " ++ check.name⟩]
  else check.details.map (fun detail => ⟨.warn, .verifier, "Check failed: " ++ check.name ++ ": " ++ detail⟩)

/-- The results of the checks in their order. -/
structure Verification where
  checks : List Check
  deriving DecidableEq, Repr

namespace Verification

/-- Whether every check passed. -/
def success (v : Verification) : Bool := v.checks.all Check.passed

/-- The names of the checks that failed. -/
def failures (v : Verification) : List String := (v.checks.filter (fun check => !check.passed)).map Check.name

end Verification

namespace Verify

/-- What is wrong with the identifiers of the probe records: the updated record has to be the only one that has one. -/
def idDetails (probes : List Document) : List String :=
  let ids := probes.filterMap (fun d => d.get? "_id")
  if sameItems ids [.int32 Fixture.updatedId] then []
  else ["expected only _id " ++ toString Fixture.updatedId.toInt ++ ", found " ++ inBrackets (ids.map Value.inspect)]

/-- What is wrong with the fields of the first record that has the identifier of the updated one. -/
def recordDetails (expected : Document) (probes : List Document) : List String :=
  match probes.find? (fun d => d.holds "_id" (.int32 Fixture.updatedId)) with
  | some actual => (Document.compare expected actual).map Mismatch.message
  | none => ["record " ++ toString Fixture.updatedId.toInt ++ " is missing"]

/-- What is wrong with the association records: there should be none. -/
def emptyDetails (records : List Document) : List String :=
  if records.isEmpty then [] else [s!"expected no records, found {records.length}"]

/-- What is wrong with the capture of images. -/
def imageDetails (enabled : Bool) : List String :=
  if enabled then [] else ["changeStreamPreAndPostImages is not enabled"]

variable {σ : Type} [DocumentStore σ]

/-- A check with its result told to the log. -/
def report (name : String) (details : List String) : Action Failure σ Check := fun s =>
  ⟨.ok (Check.ofDetails name details), s, (Check.ofDetails name details).lines⟩

/-- The documents of a collection. -/
def read (ns : Namespace) : Action Failure σ (List Document) :=
  (DocumentStore.findAll ns).mapError (fun error => ⟨.reading ns, .store error⟩)

/-- Whether images of a collection are captured. -/
def readImages (ns : Namespace) : Action Failure σ Bool :=
  (DocumentStore.imagesEnabled ns).mapError (fun error => ⟨.readingOptions ns, .store error⟩)

/-- The check that images of a collection are captured. -/
def imageCheck (ns : Namespace) : Action Failure σ Check := do
  let enabled ← readImages ns
  report (ns.render ++ " captures pre/post images") (imageDetails enabled)

end Verify

/-- The five checks of the seeded state on a store. -/
def verify {σ : Type} [DocumentStore σ] : Action Failure σ Verification := do
  let probes ← Verify.read Fixture.probes
  let only ← Verify.report (Fixture.probes.render ++ " holds only the updated record") (Verify.idDetails probes)
  let expected ← (Action.ofResult Fixture.survivingProbeRecord).mapError (fun error => (⟨.expecting, .fixture error⟩ : Failure))
  let record ← Verify.report
    (Fixture.probes.render ++ " record " ++ toString Fixture.updatedId.toInt ++ " round-trips every field")
    (Verify.recordDetails expected probes)
  let records ← Verify.read Fixture.associations
  let none ← Verify.report (Fixture.associations.render ++ " is empty") (Verify.emptyDetails records)
  let probeImages ← Verify.imageCheck Fixture.probes
  let associationImages ← Verify.imageCheck Fixture.associations
  return ⟨[only, record, none, probeImages, associationImages]⟩

end Seedbed
