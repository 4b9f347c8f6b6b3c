import Seedbed.Bson.Coding

/-!
# Records within values

Readers of the parts that records are made of: values that may be missing, sequences, documents as they are, and records within
records. The fields of a record are read in the order in which they stand, the first one that cannot be read decides, and a field
that the record does not have is passed over. Where a sequence stands for a record, its items are the fields in the order of the
record.
-/

namespace Seedbed

/-- What a record looks like: the name of its kind, and its fields in their order, each with whether a sequence may end before
it. -/
structure Outline where
  kind : String
  fields : List (String × Bool)

/-- A value that may be null. -/
def Value.readOptional {α : Type} (read : Value → Except DecodingFault α) : Value → Except DecodingFault (Option α)
  | .null => .ok none
  | v => (read v).map some

/-- The items of a sequence. -/
def Value.readSequence {α : Type} (read : Value → Except DecodingFault α) : Value → Except DecodingFault (List α)
  | .array items => items.mapM read
  | v => .error (.invalidType v.found "a sequence")

/-- Texts in a sequence. -/
def Value.readTexts : Value → Except DecodingFault (List String) := Value.readSequence Value.readText

/-- A document as it is. -/
def Value.readWhole : Value → Except DecodingFault Document
  | .document d => .ok d
  | v => .error (.invalidType .map ("expected document, found extended JSON data type: " ++ v.display))

/-- The fields of a document read onto a draft of a record. -/
def Document.readOnto {ρ : Type} (fill : ρ → String → Value → Except DecodingFault ρ) (draft : ρ) (d : Document) :
    Except DecodingFault ρ :=
  d.foldlM (fun draft (name, v) => fill draft name v) draft

namespace Outline

/-- The fault of a sequence that ends before the given field, if it must not end there. -/
def checkEnd (outline : Outline) (length : Nat) (rest : List (String × Bool)) : Except DecodingFault Unit :=
  match rest.findIdx? (fun field => !field.2) with
  | some index =>
    .error (.invalidLength (length + index)
      (outline.kind ++ " with " ++ toString outline.fields.length ++ " elements"))
  | none => .ok ()

/-- A draft of a record, read from a value. What has no counterpart among plain data looks like a document without the fields of
the record. -/
def read {ρ : Type} (outline : Outline) (fill : ρ → String → Value → Except DecodingFault ρ) (blank : ρ) (v : Value) :
    Except DecodingFault ρ :=
  match v with
  | .document d => Document.readOnto fill blank d
  | .array items => do
    let draft ← Document.readOnto fill blank (List.zipWith (fun field item => (field.1, item)) outline.fields items)
    outline.checkEnd items.length (outline.fields.drop items.length)
    .ok draft
  | v =>
    match v.found with
    | .map => .ok blank
    | found => .error (.invalidType found outline.kind)

end Outline

/-- A field that must have been read. -/
def required {α : Type} (name : String) : Option α → Except DecodingFault α
  | some a => .ok a
  | none => .error (.missingField name)

end Seedbed
