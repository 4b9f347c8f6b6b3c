/-!
# Namespaces

A collection is addressed by its database and its name. Addresses are in ascending order of databases, and within a database of
names; names are compared by their bytes in UTF-8, which is the order of their code points. Two different addresses can read
alike, because a name may hold a point.
-/

namespace Seedbed

/-- The address of a collection. -/
structure Namespace where
  database : String
  collection : String
  deriving DecidableEq, Repr

namespace Namespace

/-- An address as it is written: the database, a point and the name. -/
def render (ns : Namespace) : String := ns.database ++ "." ++ ns.collection

/-- The order of addresses. -/
def lt (a b : Namespace) : Prop := a.database < b.database ∨ (a.database = b.database ∧ a.collection < b.collection)

instance : LT Namespace := ⟨lt⟩

instance (a b : Namespace) : Decidable (a < b) :=
  inferInstanceAs (Decidable (a.database < b.database ∨ (a.database = b.database ∧ a.collection < b.collection)))

theorem lt_def {a b : Namespace} :
    a < b ↔ a.database < b.database ∨ (a.database = b.database ∧ a.collection < b.collection) := Iff.rfl

theorem lt_irrefl (a : Namespace) : ¬a < a := by
  rw [lt_def]
  rintro (h | ⟨-, h⟩)
  · exact String.lt_irrefl _ h
  · exact String.lt_irrefl _ h

theorem lt_trans {a b c : Namespace} (hab : a < b) (hbc : b < c) : a < c := by
  rw [lt_def] at hab hbc ⊢
  rcases hab with hab | ⟨eab, hab⟩ <;> rcases hbc with hbc | ⟨ebc, hbc⟩
  · exact .inl (String.lt_trans hab hbc)
  · exact .inl (ebc ▸ hab)
  · exact .inl (eab ▸ hbc)
  · exact .inr ⟨eab.trans ebc, String.lt_trans hab hbc⟩

/-- Of two strings that are not ordered either way, both are the same. -/
theorem eq_of_not_lt {s t : String} (h1 : ¬s < t) (h2 : ¬t < s) : s = t :=
  String.le_antisymm (String.not_lt.1 h2) (String.not_lt.1 h1)

/-- Two different addresses are ordered one way or the other. -/
theorem lt_or_lt_of_ne {a b : Namespace} (h : a ≠ b) : a < b ∨ b < a := by
  rw [lt_def, lt_def]
  by_cases h1 : a.database < b.database
  · exact .inl (.inl h1)
  by_cases h2 : b.database < a.database
  · exact .inr (.inl h2)
  have hd := eq_of_not_lt h1 h2
  by_cases h3 : a.collection < b.collection
  · exact .inl (.inr ⟨hd, h3⟩)
  by_cases h4 : b.collection < a.collection
  · exact .inr (.inr ⟨hd.symm, h4⟩)
  have hc := eq_of_not_lt h3 h4
  cases a
  cases b
  simp_all

end Namespace

end Seedbed
