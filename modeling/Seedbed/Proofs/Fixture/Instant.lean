import Seedbed.Fixture.Literal
import Seedbed.Proofs.Instant.RoundTrip
import Seedbed.Store.Filter

/-!
# Literals of instants

A literal that is a stamp is accepted exactly if the stamp is valid, and stands for the last millisecond that is not after it, so that
the digits behind a millisecond are cut off and never rounded, whether the instant is before the beginning of 1970 or not
(`instant_exact`). What a filter or an update shows of an instant becomes such a literal by a change of style, and it stands for that
instant (`instant_display`).
-/

namespace Seedbed.Fixture

open Rfc3339

/-- What is read as an instant is its literal. -/
theorem instant_eq_ok_iff {field literal : String} {v : Value} :
    instant field literal = .ok v ↔ ∃ t, read literal.toList = .ok t ∧ v = .instant t := by
  unfold instant
  cases read literal.toList with
  | error fault => simp
  | ok t => simp [eq_comm]

/-- A stamp that is valid stands for the milliseconds that have gone by at its exact instant. -/
theorem instant_stamp_iff {field : String} {s : Stamp} {v : Value} :
    instant field s.literal = .ok v ↔ s.Valid ∧ v = .instant ⟨Int64.ofInt ⌊s.seconds * 1000⌋⟩ := by
  have htext : s.literal.toList = s.text := String.toList_ofList
  rw [instant_eq_ok_iff, htext, Stamp.read_text]
  constructor
  · rintro ⟨t, hread, rfl⟩
    by_cases h : s.Valid
    · rw [if_pos h] at hread
      exact ⟨h, by rw [Except.ok.inj hread]⟩
    · rw [if_neg h] at hread
      cases hread
  · rintro ⟨h, rfl⟩
    exact ⟨_, if_pos h, rfl⟩

/-- A stamp is accepted exactly if it is valid, as the milliseconds that have gone by at its exact instant, and what is behind the third
digit of its fraction changes nothing. -/
theorem instant_exact (field : String) (s : Stamp) :
    ((∃ v, instant field s.literal = .ok v) ↔ s.Valid) ∧
    (∀ v, instant field s.literal = .ok v → ∃ t : Instant, v = .instant t ∧ t.millis.toInt = ⌊s.seconds * 1000⌋) ∧
    ∀ v, instant field s.cut.literal = .ok v ↔ instant field s.literal = .ok v := by
  refine ⟨⟨?_, ?_⟩, ?_, ?_⟩
  · rintro ⟨v, hv⟩
    exact (instant_stamp_iff.1 hv).1
  · intro h
    exact ⟨_, instant_stamp_iff.2 ⟨h, rfl⟩⟩
  · intro v hv
    obtain ⟨h, rfl⟩ := instant_stamp_iff.1 hv
    exact ⟨_, rfl, Stamp.toInt_floor h⟩
  · intro v
    have htext (s : Stamp) : s.literal.toList = s.text := String.toList_ofList
    rw [instant_eq_ok_iff, instant_eq_ok_iff, htext, htext, Stamp.read_cut]

/-- A tenth of a millisecond before 1970 the last millisecond has not gone by. -/
example : instant "datetime_type" "1969-12-31T23:59:59.9999Z" = .ok (.instant ⟨-1⟩) := by rfl

/-- What is shown of a document with one field. -/
theorem display_field (name : String) (v : Value) : Document.display [(name, v)] = "\x7b \"" ++ name ++ "\": " ++ v.display ++ " \x7d" := by
  apply String.toList_injective
  simp [Document.display, Value.display, displayFields, commaSeparated, betweenQuotes]

/-- What a filter shows of an instant. -/
theorem display_fieldEquals (name : String) (t : Instant) :
    (Filter.fieldEquals name (.instant t)).display = "\x7b \"" ++ name ++ "\": DateTime(\"" ++ t.render ++ "\") \x7d" := by
  show Document.display [(name, .instant t)] = _
  rw [display_field, Value.display]
  apply String.toList_injective
  simp

/-- What an update shows of an instant. -/
theorem display_fieldUpdate (name : String) (t : Instant) :
    (FieldUpdate.mk name (.instant t)).display = "\x7b \"$set\": \x7b \"" ++ name ++ "\": DateTime(\"" ++ t.render ++ "\") \x7d \x7d" := by
  have hfield : Document.display [(name, .instant t)] = _ := display_fieldEquals name t
  show Document.display [("$set", .document [(name, .instant t)])] = _
  rw [display_field, ← Document.display, hfield]
  apply String.toList_injective
  simp

/-- What a filter or an update shows of an instant in the years 0 to 9999 ends with the offset, and with two digits for the hour and the
letter Z in the place of the offset it is a literal of that instant. -/
theorem instant_display (field name : String) (t : Instant) (hmin : -62167219200000 ≤ t.millis.toInt)
    (hmax : t.millis.toInt ≤ 253402300799999) :
    (Filter.fieldEquals name (.instant t)).display = "\x7b \"" ++ name ++ "\": DateTime(\"" ++ t.render ++ "\") \x7d" ∧
    (FieldUpdate.mk name (.instant t)).display = "\x7b \"$set\": \x7b \"" ++ name ++ "\": DateTime(\"" ++ t.render ++ "\") \x7d \x7d" ∧
    " +00:00:00".toList <:+ t.render.toList ∧
    instant field (String.ofList (Instant.restyle t.render.toList)) = .ok (.instant t) := by
  have hstamp : t.HasStamp := Instant.hasStamp_iff.2 ⟨hmin, hmax⟩
  have htext : t.render.toList = t.text := String.toList_ofList
  refine ⟨display_fieldEquals name t, display_fieldUpdate name t, ?_, ?_⟩
  · rw [htext, Instant.text_eq hstamp]
    exact ⟨t.dayText ++ ' ' :: (Text.padded 1 (t.millisOfDay / 3600000) ++ ':' :: t.restText), by simp⟩
  · rw [instant_eq_ok_iff, htext, String.toList_ofList]
    exact ⟨t, Instant.read_restyle hstamp, rfl⟩

/-- A quarter of a second in an early hour of a leap day before 1970. -/
def leapDay : Instant := ⟨-11670980032750⟩

theorem instant_display_leapDay :
    -62167219200000 ≤ leapDay.millis.toInt ∧ leapDay.millis.toInt ≤ 253402300799999 ∧ leapDay.render = "1600-02-29 5:06:07.25 +00:00:00" ∧
      instant "datetime_type" "1600-02-29 05:06:07.25Z" = .ok (.instant leapDay) := by
  have hmin : -62167219200000 ≤ leapDay.millis.toInt := by decide
  have hmax : leapDay.millis.toInt ≤ 253402300799999 := by decide
  have hshown : leapDay.render = "1600-02-29 5:06:07.25 +00:00:00" := by decide
  have hstyle : String.ofList (Instant.restyle leapDay.render.toList) = "1600-02-29 05:06:07.25Z" := by
    rw [hshown]
    decide
  have hread := (instant_display "datetime_type" "datetime_type" leapDay hmin hmax).2.2.2
  rw [hstyle] at hread
  exact ⟨hmin, hmax, hshown, hread⟩

end Seedbed.Fixture
