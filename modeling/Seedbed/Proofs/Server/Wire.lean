import Mathlib.Data.List.Basic
import Seedbed.Server.Command

/-!
# Commands on their way to a server

A document is sent field by field, and an array item by item. Nothing becomes another thing on the way but the options of regular
expressions, which are put in order (`Document.Arrives`). What is asked of writes stands in a field of its own or in none
(`WriteConcern.fields_cases`), and arrives as it is (`WriteConcern.sent_fields`).
-/

namespace Seedbed

/-- Whether a document arrives as it is: the options of the regular expressions in it are in alphabetical order. -/
def Document.Arrives (d : Document) : Prop := d.sent = d

theorem Document.sent_append (d e : Document) : Document.sent (d ++ e) = d.sent ++ e.sent := by
  induction d with
  | nil => rfl
  | cons field rest ih => exact congrArg ((field.1, field.2.sent) :: ·) ih

/-- Documents that arrive as they are do so in a list. -/
theorem map_sent_of_arrives {documents : List Document} (h : ∀ d ∈ documents, d.Arrives) : documents.map Document.sent = documents :=
  (List.map_congr_left h).trans (List.map_id documents)

theorem sentItems_eq_map (items : List Value) : sentItems items = items.map Value.sent := by
  induction items with
  | nil => rfl
  | cons v rest ih => exact congrArg (v.sent :: ·) ih

/-- Documents in an array arrive as each of them does. -/
theorem Value.sent_documents (documents : List Document) :
    (Value.array (documents.map .document)).sent = .array (documents.map (fun d => .document (Document.sent d))) := by
  rw [Value.sent, sentItems_eq_map, List.map_map]
  rfl

theorem Value.sent_ofNat (n : Nat) : (Value.ofNat n).sent = Value.ofNat n := by
  unfold Value.ofNat
  split <;> rfl

theorem Acknowledgment.sent_toValue (w : Acknowledgment) : w.toValue.sent = w.toValue := by
  cases w with
  | members count => exact Value.sent_ofNat count
  | named name => rfl

namespace WriteConcern

theorem sent_document (concern : WriteConcern) : concern.document.sent = concern.document := by
  rw [document, Document.sent_append, Document.sent_append]
  congr 1
  · congr 1
    · cases concern.acknowledgment with
      | none => rfl
      | some w => exact congrArg (fun v => [("w", v)]) w.sent_toValue
    · cases concern.timeout with
      | none => rfl
      | some millis => exact congrArg (fun v => [("wtimeout", v)]) (Value.sent_ofNat millis)
  · cases concern.journal <;> rfl

/-- What is asked of writes stands in one field, if anything is asked. -/
theorem fields_cases (concern : WriteConcern) :
    concern.fields = [] ∨ concern.fields = [("writeConcern", .document concern.document)] := by
  unfold fields
  split
  · exact .inl rfl
  · exact .inr rfl

theorem sent_fields (concern : WriteConcern) : Document.sent concern.fields = concern.fields := by
  rcases concern.fields_cases with h | h
  · rw [h]
    rfl
  · rw [h]
    exact congrArg (fun d => [("writeConcern", Value.document d)]) concern.sent_document

end WriteConcern

end Seedbed
