import Seedbed.Fixture.Literal

/-!
# Probe records

Records with one field for each category of values, among them the values at which a reader of the change stream goes wrong
most easily: the least integer of 64 bits, doubles beyond the exact integers, decimals whose trailing zeros count, instants with
more digits than are stored, and bytes. All probe records are alike but for their identifiers.
-/

namespace Seedbed.Fixture

/-- The identifiers of the probe records that are inserted. -/
def probeIds : List Int32 := [1, 2, 3]

/-- The field with the decimal by which records are updated and deleted. -/
def numericField : String := "numeric_test"

/-- The decimal that every probe record has at first. -/
def numericInitial : String := "5.36"

/-- The decimal that the updated record has in the end. -/
def numericUpdated : String := "6.36"

/-- The identifier of the record that is updated. -/
def updatedId : Int32 := 2

/-- The identifier of the record that is deleted by its identifier. -/
def deletedId : Int32 := 1

/-- The double nearest to 9.223372036854776e18, which is two to the power of sixty-three. -/
def largeDouble : Double := ⟨0x43E0000000000000⟩

/-- The probe record with an identifier. -/
def probeRecord (id : Int32) : Except FixtureError Document := do
  let bits ← binary "bitn_test" "AAU="
  let balance ← decimal "doublen_test" "2147483645.1234"
  let number ← decimal numericField numericInitial
  let salary ← decimal "salary_decimal" "999.99"
  let day ← instant "date_type" "2030-12-25T00:00:00Z"
  let moment ← instant "datetime_type" "2050-12-31T22:59:57.150150Z"
  let stamp ← instant "timestamp_type" "2004-10-19T10:23:54.999999Z"
  let blob ← binary "blob_type" "3q2+7w=="
  .ok [
    ("_id", .int32 id),
    ("available", .boolean true),
    ("a", .string "four"),
    ("b", .string "This is a varchar"),
    ("c", .string "This is a text column data"),
    ("d", .null),
    ("play_time", .int64 Int64.minValue),
    ("library_record", .int64 1844674407370955161),
    ("bitn_test", bits),
    ("floatn_test", .double largeDouble),
    ("double_test", .double largeDouble),
    ("doublen_test", balance),
    (numericField, number),
    ("salary_decimal", salary),
    ("date_type", day),
    ("datetime_type", moment),
    ("time_type", .string "04:05:30"),
    ("timestamp_type", stamp),
    ("year_type", .int32 2025),
    ("json_type", .document [("color", .string "red"), ("value", .string "#f00")]),
    ("blob_type", blob)]

/-- The probe records that are inserted, in the order of their identifiers. -/
def probeRecords : Except FixtureError (List Document) := probeIds.mapM probeRecord

/-- The one probe record that is left in the end: the updated one with its new decimal. -/
def survivingProbeRecord : Except FixtureError Document := do
  let record ← probeRecord updatedId
  let number ← decimal numericField numericUpdated
  .ok (record.set numericField number)

end Seedbed.Fixture
