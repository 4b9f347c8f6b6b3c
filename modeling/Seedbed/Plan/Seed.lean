import Seedbed.Fixture.Association
import Seedbed.Fixture.Names
import Seedbed.Fixture.Probe
import Seedbed.Plan.Step

/-!
# The seed plan

The plan that brings the fixtures about. Its steps make a change stream show each kind of event: collections are dropped,
records inserted, one record is updated and the others deleted, by identifier, by value and all at once. Images are turned on
after the insertions and before the changes.
-/

namespace Seedbed

/-- The twelve steps of the seed plan. -/
def seedPlan : Except FixtureError Plan := do
  let probes ← Fixture.probeRecords
  let initial ← Fixture.decimal Fixture.numericField Fixture.numericInitial
  let updated ← Fixture.decimal Fixture.numericField Fixture.numericUpdated
  .ok [
    .use Fixture.probeDatabase,
    .drop Fixture.probeCollection,
    .drop Fixture.legacyCollection,
    .insert Fixture.probeCollection probes,
    .enableImages Fixture.probeCollection,
    .update Fixture.probeCollection (.id Fixture.updatedId) ⟨Fixture.numericField, updated⟩,
    .deleteOne Fixture.probeCollection (.id Fixture.deletedId),
    .deleteMany Fixture.probeCollection (.fieldEquals Fixture.numericField initial),
    .use Fixture.associationDatabase,
    .insert Fixture.associationCollection Fixture.associationDocuments,
    .enableImages Fixture.associationCollection,
    .deleteMany Fixture.associationCollection .all]

end Seedbed
