import Mathlib.Data.List.Nodup
import Seedbed.Proofs.Text.ByteOrder
import Seedbed.Store.Catalog

/-!
# Catalogs as maps

A catalog is the map from addresses to entries that its lookup is: an entry stands in it exactly if it is found
(`mem_entries_iff`), two catalogs in which the same is found are the same (`Catalog.ext_get?`), and its addresses are listed in
the order of their bytes.
-/

namespace Seedbed

namespace Namespace

/-- Whether an address comes before another one in the order of the bytes of databases and, within a database, of names. -/
def BytesBefore (a b : Namespace) : Prop :=
  Text.bytes a.database < Text.bytes b.database ∨
    (Text.bytes a.database = Text.bytes b.database ∧ Text.bytes a.collection < Text.bytes b.collection)

/-- The order of addresses is that of their bytes. -/
theorem bytesBefore_of_lt {a b : Namespace} (h : a < b) : a.BytesBefore b := by
  rcases lt_def.1 h with h | ⟨e, h⟩
  · exact .inl (Text.lt_iff_bytes_lt.1 h)
  · exact .inr ⟨congrArg Text.bytes e, Text.lt_iff_bytes_lt.1 h⟩

/-- Addresses in ascending order are not repeated. -/
theorem nodup_of_ascending {addresses : List Namespace} (h : addresses.Pairwise (· < ·)) : addresses.Nodup := by
  refine h.imp (fun {a b} hab e => ?_)
  subst e
  exact lt_irrefl a hab

end Namespace

namespace Catalog

variable {α : Type}

/-- What is found under an address is an entry. -/
theorem mem_of_lookup {ns : Namespace} {c : α} :
    ∀ {entries : List (Namespace × α)}, lookup ns entries = some c → (ns, c) ∈ entries
  | [], h => nomatch h
  | (m, d) :: rest, h => by
    rw [lookup] at h
    split at h
    · next e =>
      subst e
      cases h
      exact List.mem_cons_self
    · exact List.mem_cons_of_mem _ (mem_of_lookup h)

/-- An entry of a list in ascending order is found under its address: all addresses before it are less. -/
theorem lookup_of_mem {ns : Namespace} {c : α} :
    ∀ {entries : List (Namespace × α)}, entries.Pairwise (fun a b => a.1 < b.1) → (ns, c) ∈ entries →
      lookup ns entries = some c
  | (m, d) :: rest, h, hmem => by
    obtain ⟨hm, hrest⟩ := List.pairwise_cons.1 h
    rcases List.mem_cons.1 hmem with hmem | hmem
    · cases hmem
      rw [lookup, if_pos rfl]
    · have hne : m ≠ ns := by
        rintro rfl
        exact Namespace.lt_irrefl m (hm (m, c) hmem)
      rw [lookup, if_neg hne]
      exact lookup_of_mem hrest hmem

/-- An entry stands in a catalog exactly if it is found under its address. -/
theorem mem_entries_iff {catalog : Catalog α} {ns : Namespace} {c : α} :
    (ns, c) ∈ catalog.entries ↔ catalog.get? ns = some c :=
  ⟨lookup_of_mem catalog.ascending, mem_of_lookup⟩

/-- No entry stands in a catalog twice. -/
theorem nodup_entries (catalog : Catalog α) : catalog.entries.Nodup :=
  List.Nodup.of_map Prod.fst (Namespace.nodup_of_ascending (List.pairwise_map.2 catalog.ascending))

/-- Two catalogs in which the same is found under every address are the same: they have the same entries, in the one order that is
ascending. -/
theorem ext_get? {a b : Catalog α} (h : ∀ ns, a.get? ns = b.get? ns) : a = b := by
  have hmem : ∀ entry, entry ∈ a.entries ↔ entry ∈ b.entries := by
    rintro ⟨ns, c⟩
    rw [mem_entries_iff, mem_entries_iff, h ns]
  have hperm : a.entries.Perm b.entries :=
    (List.perm_ext_iff_of_nodup a.nodup_entries b.nodup_entries).2 hmem
  have heq : a.entries = b.entries :=
    hperm.eq_of_pairwise (fun x y _ _ hxy hyx => absurd (Namespace.lt_trans hxy hyx) (Namespace.lt_irrefl x.1)) a.ascending
      b.ascending
  cases a
  cases b
  simp only at heq
  subst heq
  rfl

/-- What is found under an address after an entry was put into a catalog. -/
theorem get?_put (catalog : Catalog α) (ns other : Namespace) (c : α) :
    (catalog.put ns c).get? other = if ns = other then some c else catalog.get? other := by
  split
  · next e => rw [← e, get?_put_self]
  · next hne => exact get?_put_of_ne hne catalog c

/-- What is found under an address after an entry was erased. -/
theorem get?_erase (catalog : Catalog α) (ns other : Namespace) :
    (catalog.erase ns).get? other = if ns = other then none else catalog.get? other := by
  split
  · next e => rw [← e, get?_erase_self]
  · next hne => exact get?_erase_of_ne (fun e => hne e.symm) catalog

/-- Erasing what is not there changes nothing. -/
theorem erase_of_none {catalog : Catalog α} {ns : Namespace} (h : catalog.get? ns = none) : catalog.erase ns = catalog := by
  refine ext_get? (fun other => ?_)
  rw [get?_erase]
  split
  · next e => rw [← e, h]
  · rfl

end Catalog

end Seedbed
