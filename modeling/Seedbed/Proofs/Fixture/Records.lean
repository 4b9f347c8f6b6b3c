import Seedbed.Fixture.Association
import Seedbed.Fixture.Probe
import Seedbed.Proofs.Bson.Equality

/-!
# The records of the fixtures

The literals of the probe records can all be read: `probe` is the record that comes of them, and `survivor` the one that is left in
the end (`survivingProbeRecord_eq`). What the seed plan and the verification rely on is said here once: the identifiers of records, and
that no record repeats a name.
-/

namespace Seedbed.Fixture

/-- The decimal of a probe record as it is inserted. -/
def numericBefore : Value := .decimal (Decimal128.ofFinite false 536 (-2))

/-- The decimal of the updated record. -/
def numericAfter : Value := .decimal (Decimal128.ofFinite false 636 (-2))

/-- The probe record with an identifier, all literals read. -/
def probe (id : Int32) : Document :=
  [("_id", .int32 id),
    ("available", .boolean true),
    ("a", .string "four"),
    ("b", .string "This is a varchar"),
    ("c", .string "This is a text column data"),
    ("d", .null),
    ("play_time", .int64 Int64.minValue),
    ("library_record", .int64 1844674407370955161),
    ("bitn_test", .binary 0 [0x00, 0x05]),
    ("floatn_test", .double largeDouble),
    ("double_test", .double largeDouble),
    ("doublen_test", .decimal (Decimal128.ofFinite false 21474836451234 (-4))),
    (numericField, numericBefore),
    ("salary_decimal", .decimal (Decimal128.ofFinite false 99999 (-2))),
    ("date_type", .instant ⟨1924387200000⟩),
    ("datetime_type", .instant ⟨2556140397150⟩),
    ("time_type", .string "04:05:30"),
    ("timestamp_type", .instant ⟨1098181434999⟩),
    ("year_type", .int32 2025),
    ("json_type", .document [("color", .string "red"), ("value", .string "#f00")]),
    ("blob_type", .binary 0 [0xDE, 0xAD, 0xBE, 0xEF])]

/-- The updated record: only its decimal differs from what was inserted. -/
def survivor : Document := (probe updatedId).set numericField numericAfter

/-! ## The literals -/

/-- Every literal of the updated record can be read. -/
theorem survivingProbeRecord_eq : survivingProbeRecord = .ok survivor := rfl

/-! ## Fields -/

theorem get?_id_probe (id : Int32) : (probe id).get? "_id" = some (.int32 id) := rfl

theorem get?_id_survivor : survivor.get? "_id" = some (.int32 updatedId) := rfl

/-- No probe record repeats a name. -/
theorem nodup_names_probe (id : Int32) : (probe id).names.Nodup := by
  have h : (probe id).names = (probe 0).names := rfl
  rw [h]
  decide

theorem nodup_names_survivor : survivor.names.Nodup := Document.nodup_names_set (nodup_names_probe updatedId) _ _

theorem get?_id_association (r : Association) : r.toDocument.get? "_id" = some (.int32 r.id) := rfl

end Seedbed.Fixture
