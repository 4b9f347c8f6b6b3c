import Seedbed.Store.Namespace

/-!
# Catalogs

A catalog holds entries, each under the address of a collection, in ascending order of addresses. The order is part of the type,
so that no address occurs twice and two catalogs that hold the same are the same.
-/

namespace Seedbed

namespace Catalog

variable {α : Type}

/-- The entry under an address. -/
def lookup (ns : Namespace) : List (Namespace × α) → Option α
  | [] => none
  | (m, c) :: rest => if m = ns then some c else lookup ns rest

/-- An entry put under an address: in the place of the one there, or else before the first greater address. -/
def insert (ns : Namespace) (c : α) : List (Namespace × α) → List (Namespace × α)
  | [] => [(ns, c)]
  | (m, d) :: rest =>
    if ns = m then (ns, c) :: rest
    else if ns < m then (ns, c) :: (m, d) :: rest
    else (m, d) :: insert ns c rest

/-- What is in a list after an entry was put into it is that entry or was there before. -/
theorem mem_insert {ns : Namespace} {c : α} {entry : Namespace × α} :
    ∀ {entries : List (Namespace × α)}, entry ∈ insert ns c entries → entry = (ns, c) ∨ entry ∈ entries
  | [], h => by simpa [insert] using h
  | (m, d) :: rest, h => by
    unfold insert at h
    split at h
    · rcases List.mem_cons.1 h with h | h
      · exact .inl h
      · exact .inr (List.mem_cons_of_mem _ h)
    · split at h
      · rcases List.mem_cons.1 h with h | h
        · exact .inl h
        · exact .inr h
      · rcases List.mem_cons.1 h with h | h
        · exact .inr (h ▸ List.mem_cons_self)
        · exact (mem_insert h).imp_right (List.mem_cons_of_mem _)

/-- Putting an entry into a list in ascending order keeps the order. -/
theorem ascending_insert {ns : Namespace} {c : α} :
    ∀ {entries : List (Namespace × α)}, entries.Pairwise (fun a b => a.1 < b.1) →
      (insert ns c entries).Pairwise (fun a b => a.1 < b.1)
  | [], _ => by simp [insert]
  | (m, d) :: rest, h => by
    have ⟨hm, hrest⟩ := List.pairwise_cons.1 h
    unfold insert
    split
    · next e =>
      subst e
      exact List.pairwise_cons.2 ⟨hm, hrest⟩
    · next ne =>
      split
      · next hlt =>
        refine List.pairwise_cons.2 ⟨fun x hx => ?_, h⟩
        rcases List.mem_cons.1 hx with rfl | hx
        · exact hlt
        · exact Namespace.lt_trans hlt (hm x hx)
      · next hlt =>
        refine List.pairwise_cons.2 ⟨fun x hx => ?_, ascending_insert hrest⟩
        rcases mem_insert hx with rfl | hx
        · exact (Namespace.lt_or_lt_of_ne ne).resolve_left hlt
        · exact hm x hx

end Catalog

/-- Entries under the addresses of collections. -/
structure Catalog (α : Type) where
  entries : List (Namespace × α)
  ascending : entries.Pairwise (fun a b => a.1 < b.1)

namespace Catalog

variable {α : Type}

/-- The catalog without entries. -/
def empty : Catalog α := ⟨[], List.Pairwise.nil⟩

/-- The entry under an address. -/
def get? (catalog : Catalog α) (ns : Namespace) : Option α := lookup ns catalog.entries

/-- The catalog with an entry under an address. -/
def put (catalog : Catalog α) (ns : Namespace) (c : α) : Catalog α :=
  ⟨insert ns c catalog.entries, ascending_insert catalog.ascending⟩

/-- The catalog without the entry under an address. -/
def erase (catalog : Catalog α) (ns : Namespace) : Catalog α :=
  ⟨catalog.entries.filter (fun entry => entry.1 ≠ ns), catalog.ascending.filter _⟩

/-- The catalog of a list of entries, of which the last one under an address counts. -/
def ofList (entries : List (Namespace × α)) : Catalog α :=
  entries.foldl (fun catalog entry => catalog.put entry.1 entry.2) empty

/-- What is found under an address after something was put into a list. -/
theorem lookup_insert (ns other : Namespace) (c : α) :
    ∀ entries : List (Namespace × α), lookup other (insert ns c entries) = if ns = other then some c else lookup other entries
  | [] => by simp [insert, lookup]
  | (m, d) :: rest => by
    unfold insert
    split
    · next h =>
      subst h
      by_cases ho : ns = other <;> simp [lookup, ho]
    · next h =>
      split
      · by_cases ho : ns = other <;> simp [lookup, ho]
      · by_cases ho : ns = other
        · subst ho
          have hm : ¬m = ns := fun e => h e.symm
          simp [lookup, hm, lookup_insert ns ns c rest]
        · by_cases hm : m = other
          · simp [lookup, hm, ho]
          · simp [lookup, hm, ho, lookup_insert ns other c rest]

/-- Nothing is found under an address that occurs in no entry. -/
theorem lookup_eq_none {ns : Namespace} : ∀ {entries : List (Namespace × α)}, (∀ e ∈ entries, e.1 ≠ ns) → lookup ns entries = none
  | [], _ => rfl
  | (m, d) :: rest, h => by
    have hm : m ≠ ns := h (m, d) List.mem_cons_self
    rw [lookup, if_neg hm]
    exact lookup_eq_none (fun e he => h e (List.mem_cons_of_mem _ he))

/-- Leaving out the entries under one address changes nothing under another one. -/
theorem lookup_filter_of_ne {ns other : Namespace} (h : other ≠ ns) :
    ∀ entries : List (Namespace × α), lookup other (entries.filter (fun entry => entry.1 ≠ ns)) = lookup other entries
  | [] => rfl
  | (m, d) :: rest => by
    by_cases hm : m = ns
    · have ho : ¬m = other := fun e => h (e.symm.trans hm)
      rw [List.filter_cons_of_neg (by simp [hm]), lookup, if_neg ho]
      exact lookup_filter_of_ne h rest
    · rw [List.filter_cons_of_pos (by simp [hm]), lookup, lookup, lookup_filter_of_ne h rest]

/-- What is put under an address is found there. -/
@[simp] theorem get?_put_self (catalog : Catalog α) (ns : Namespace) (c : α) : (catalog.put ns c).get? ns = some c := by
  simp [get?, put, lookup_insert]

/-- What is put under an address changes nothing under another one. -/
theorem get?_put_of_ne {ns other : Namespace} (h : ns ≠ other) (catalog : Catalog α) (c : α) :
    (catalog.put ns c).get? other = catalog.get? other := by
  simp [get?, put, lookup_insert, h]

/-- Nothing is found under an address whose entry was erased. -/
@[simp] theorem get?_erase_self (catalog : Catalog α) (ns : Namespace) : (catalog.erase ns).get? ns = none := by
  refine lookup_eq_none (fun e he => ?_)
  simpa using (List.mem_filter.1 he).2

/-- Erasing the entry under an address changes nothing under another one. -/
theorem get?_erase_of_ne {ns other : Namespace} (h : other ≠ ns) (catalog : Catalog α) :
    (catalog.erase ns).get? other = catalog.get? other :=
  lookup_filter_of_ne h catalog.entries

end Catalog

end Seedbed
