import Seedbed.Bson.Value

/-!
# Equality of values

Two values are the same when they have the same type and hold the same. Doubles are compared as numbers, so that the two zeros
are the same and what is no number is not even the same as itself; decimals are compared by their bits. Arrays are compared in
order, documents as maps from names to values, so that the order of fields does not count, at any depth.
-/

namespace Seedbed

mutual

/-- Whether two values are the same. -/
def Value.same : Value → Value → Bool
  | .double x, .double y => x.same y
  | .string s, .string t => s == t
  | .array xs, .array ys => sameItems xs ys
  | .document d, .document e => d.length == e.length && sameFields d e
  | .boolean a, .boolean b => a == b
  | .null, .null => true
  | .regex p o, .regex q r => p == q && o == r
  | .code s, .code t => s == t
  | .scopedCode s d, .scopedCode t e => s == t && (d.length == e.length && sameFields d e)
  | .int32 m, .int32 n => m == n
  | .int64 m, .int64 n => m == n
  | .timestamp t i, .timestamp u j => t == u && i == j
  | .binary k bs, .binary l cs => k == l && bs == cs
  | .objectId i, .objectId j => i == j
  | .pointer a i, .pointer b j => a == b && i == j
  | .instant t, .instant u => t == u
  | .symbol s, .symbol t => s == t
  | .decimal x, .decimal y => x == y
  | .undefined, .undefined => true
  | .minKey, .minKey => true
  | .maxKey, .maxKey => true
  | _, _ => false

/-- Whether two lists hold the same values in the same order. -/
def sameItems : List Value → List Value → Bool
  | [], [] => true
  | x :: xs, y :: ys => x.same y && sameItems xs ys
  | _, _ => false

/-- Whether every field of the first document has a field of its name in the second one with the same value. -/
def sameFields : List (String × Value) → Document → Bool
  | [], _ => true
  | (name, v) :: rest, other =>
    (match other.get? name with
      | some w => v.same w
      | none => false) && sameFields rest other

end

/-- Whether two documents are the same: as many fields, and every field of the first one in the second one too. -/
def Document.same (d e : Document) : Bool := d.length == e.length && sameFields d e

/-- Whether a field is there and holds the given value; a missing field holds nothing, not even null. -/
def Document.holds (d : Document) (name : String) (v : Value) : Bool :=
  match d.get? name with
  | some w => w.same v
  | none => false

end Seedbed
