import Seedbed.Store.Namespace

/-!
# The collections of the fixtures

Two collections in two databases receive records. A third one, from an earlier layout of the fixtures, is dropped and never
written to.
-/

namespace Seedbed.Fixture

/-- The database of the probe records. -/
def probeDatabase : String := "kestra"

/-- The collection of the probe records. -/
def probeCollection : String := "mongo_types"

/-- The collection of territories in an earlier layout, which is dropped and never written to. -/
def legacyCollection : String := "second_employee_territory"

/-- The database of the association records. -/
def associationDatabase : String := "second"

/-- The collection of the association records. -/
def associationCollection : String := "employeeTerritory"

/-- The address of the probe records. -/
def probes : Namespace := ⟨probeDatabase, probeCollection⟩

/-- The address of the territories in an earlier layout. -/
def legacy : Namespace := ⟨probeDatabase, legacyCollection⟩

/-- The address of the association records. -/
def associations : Namespace := ⟨associationDatabase, associationCollection⟩

end Seedbed.Fixture
