import Seedbed.Bson.Value

/-!
# Identifiers that are made up

A document that is inserted without an identifier gets one from a supply. Identifiers of one supply are numbered consecutively.
A store in memory puts the new identifier behind the other fields, a client of a server in front of them.
-/

namespace Seedbed

/-- A supply of identifiers, by the number of the next one. -/
structure IdSource where
  next : Nat
  deriving DecidableEq, Repr

namespace IdSource

/-- The next identifier of a supply, and the supply after it. -/
def draw (ids : IdSource) : ObjectId × IdSource := (⟨BitVec.ofNat 96 ids.next⟩, ⟨ids.next + 1⟩)

end IdSource

end Seedbed
