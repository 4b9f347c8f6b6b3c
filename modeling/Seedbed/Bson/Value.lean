import Seedbed.Decimal128.Basic
import Seedbed.Double.Shortest
import Seedbed.Instant.Basic

/-!
# BSON values

The values that documents of the store are made of, each of its own type: an integer of 32 bits is another value than the same
integer of 64 bits, and a double another one than a decimal. A document is its fields in their order.
-/

namespace Seedbed

/-- An identifier of twelve bytes that is made up where a document has none. -/
structure ObjectId where
  bits : BitVec 96
  deriving DecidableEq, Repr

/-- The twenty-four hexadecimal digits of an identifier. -/
def ObjectId.hex (id : ObjectId) : String := id.bits.toHex

/-- A value of BSON. Fields of a document have names that differ from each other, unless the document was made otherwise. -/
inductive Value where
  | double (number : Double)
  | string (text : String)
  | array (items : List Value)
  | document (fields : List (String × Value))
  | boolean (truth : Bool)
  | null
  | regex (pattern options : String)
  | code (source : String)
  | scopedCode (source : String) (scope : List (String × Value))
  | int32 (number : Int32)
  | int64 (number : Int64)
  | timestamp (time increment : UInt32)
  | binary (subtype : UInt8) (bytes : List UInt8)
  | objectId (id : ObjectId)
  /-- A reference to a document by the address of its collection and its identifier. -/
  | pointer (address : String) (id : ObjectId)
  | instant (time : Instant)
  | symbol (text : String)
  | decimal (number : Decimal128)
  | undefined
  | minKey
  | maxKey

/-- A document: names with their values, in order. -/
abbrev Document := List (String × Value)

namespace Document

/-- The value of the field of a name, if the document has such a field. -/
def get? : Document → String → Option Value
  | [], _ => none
  | (n, v) :: rest, name => if n = name then some v else get? rest name

/-- Whether the document has a field of the name. -/
def has (d : Document) (name : String) : Bool := (d.get? name).isSome

/-- The document with the value in the field of the name: in the place of the field if there is one, and otherwise in a new
field at the end. -/
def set : Document → String → Value → Document
  | [], name, v => [(name, v)]
  | (n, w) :: rest, name, v => if n = name then (n, v) :: rest else (n, w) :: set rest name v

/-- The names of the fields in their order. -/
def names (d : Document) : List String := d.map Prod.fst

/-- The document of a list of names and values; where a name is repeated, the field keeps its first place and has the last
value. -/
def ofList (fields : List (String × Value)) : Document :=
  fields.foldl (fun d field => d.set field.1 field.2) []

/-- A field that is set has the value it is set to. -/
@[simp] theorem get?_set_self (d : Document) (name : String) (v : Value) : (set d name v).get? name = some v := by
  induction d with
  | nil => simp [set, get?]
  | cons field rest ih =>
    obtain ⟨n, w⟩ := field
    by_cases h : n = name <;> simp [set, get?, h, ih]

/-- Setting a field leaves the values of all other fields as they are. -/
theorem get?_set_of_ne {name other : String} (h : name ≠ other) (d : Document) (v : Value) :
    (set d name v).get? other = get? d other := by
  induction d with
  | nil => simp [set, get?, h]
  | cons field rest ih =>
    obtain ⟨n, w⟩ := field
    by_cases hn : n = name
    · subst hn
      simp [set, get?, h]
    · rw [set, if_neg hn, get?, get?, ih]

/-- A document has a field of a name exactly if the name is among the names of its fields. -/
theorem has_iff {d : Document} {name : String} : has d name = true ↔ name ∈ names d := by
  induction d with
  | nil => simp [has, get?, names]
  | cons field rest ih =>
    obtain ⟨n, w⟩ := field
    by_cases h : n = name
    · simp [has, get?, names, h]
    · have hn : ¬name = n := fun e => h e.symm
      simpa [has, get?, names, h, hn] using ih

/-- A field that is there is set in its place, and another one becomes the last. -/
theorem names_set (d : Document) (name : String) (v : Value) :
    names (set d name v) = if has d name then names d else names d ++ [name] := by
  induction d with
  | nil => simp [set, has, get?, names]
  | cons field rest ih =>
    obtain ⟨n, w⟩ := field
    by_cases h : n = name
    · simp [set, has, get?, names, h]
    · by_cases hr : has rest name = true
      · have hs : (get? rest name).isSome = true := hr
        rw [if_pos hr] at ih
        simpa [set, has, get?, names, h, hs] using ih
      · have hs : (get? rest name).isSome = false := by simpa [has] using hr
        rw [if_neg hr] at ih
        simpa [set, has, get?, names, h, hs] using ih

/-- A field that is there is set in its place, and all other fields stay where they are. -/
theorem set_of_get?_eq_some {d : Document} {name : String} {w : Value} (h : d.get? name = some w) (v : Value) :
    ∃ front back : Document, name ∉ names front ∧ d = front ++ (name, w) :: back ∧ set d name v = front ++ (name, v) :: back := by
  induction d with
  | nil => cases h
  | cons field rest ih =>
    obtain ⟨n, x⟩ := field
    by_cases hn : n = name
    · subst hn
      rw [get?, if_pos rfl] at h
      cases h
      exact ⟨[], rest, by simp [names], rfl, by rw [set, if_pos rfl, List.nil_append]⟩
    · rw [get?, if_neg hn] at h
      obtain ⟨front, back, hfront, rfl, hset⟩ := ih h
      refine ⟨(n, x) :: front, back, ?_, rfl, ?_⟩
      · simpa [names, Ne.symm hn] using hfront
      · rw [set, if_neg hn, hset, List.cons_append]

/-- A field that is not there becomes the last one. -/
theorem set_of_get?_eq_none {d : Document} {name : String} (h : d.get? name = none) (v : Value) :
    set d name v = d ++ [(name, v)] := by
  induction d with
  | nil => rfl
  | cons field rest ih =>
    obtain ⟨n, x⟩ := field
    by_cases hn : n = name
    · rw [get?, if_pos hn] at h
      cases h
    · rw [get?, if_neg hn] at h
      rw [set, if_neg hn, ih h, List.cons_append]

/-- Setting a field repeats no name. -/
theorem nodup_names_set {d : Document} (h : (names d).Nodup) (name : String) (v : Value) : (names (set d name v)).Nodup := by
  rw [names_set]
  split
  · exact h
  · next hn =>
    have hm : name ∉ names d := fun hm => hn (has_iff.2 hm)
    rw [List.nodup_append]
    refine ⟨h, by simp, ?_⟩
    intro a ha b hb
    rw [List.mem_singleton] at hb
    subst hb
    exact fun e => hm (e ▸ ha)

/-- The document of a list repeats no name. -/
theorem nodup_names_ofList (fields : List (String × Value)) : (names (ofList fields)).Nodup := by
  unfold ofList
  suffices ∀ d : Document, (names d).Nodup → (names (fields.foldl (fun d field => set d field.1 field.2) d)).Nodup from
    this [] (by simp [names])
  induction fields with
  | nil => exact fun _ h => h
  | cons field rest ih => exact fun d h => ih _ (nodup_names_set h field.1 field.2)

end Document

end Seedbed
