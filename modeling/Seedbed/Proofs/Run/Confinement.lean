import Seedbed.Proofs.Run.Operations
import Seedbed.Proofs.Run.Simulation

/-!
# A run keeps to the collections of its plan

A step names a collection, and the database selected last before it makes an address of the name: this is what a plan targets
(`Targets`). A call sees the collection under its address and the supply of identifiers and nothing else of a store
(`Memory.Local`), and it changes no other collection. So a run neither depends on a collection that its plan does not target nor
changes it, also where the two addresses read alike (`run_confined`).
-/

namespace Seedbed

/-- Whether a plan has a step on a collection, under the database that is selected at that step. -/
def Targets (plan : Plan) (initial : Option String) (ns : Namespace) : Prop :=
  ∃ k step, plan[k]? = some step ∧ step.collection? = some ns.collection ∧ lastSelected (plan.take k) initial = some ns.database

theorem not_targets_nil (initial : Option String) (ns : Namespace) : ¬Targets [] initial ns := by
  rintro ⟨k, step, hget, -⟩
  simp at hget

/-- The first step targets its collection in the database that is selected from the start, the others target theirs after it. -/
theorem targets_cons {step : Step} {rest : Plan} {initial : Option String} {ns : Namespace} :
    Targets (step :: rest) initial ns ↔
      (step.collection? = some ns.collection ∧ initial = some ns.database) ∨ Targets rest (step.database?.or initial) ns := by
  constructor
  · rintro ⟨k, other, hget, hcollection, hselected⟩
    cases k with
    | zero =>
      cases hget
      exact .inl ⟨hcollection, hselected⟩
    | succ k =>
      rw [List.take_succ_cons, lastSelected_cons] at hselected
      exact .inr ⟨k, other, hget, hcollection, hselected⟩
  · rintro (⟨hcollection, hselected⟩ | ⟨k, other, hget, hcollection, hselected⟩)
    · exact ⟨0, step, rfl, hcollection, hselected⟩
    · refine ⟨k + 1, other, hget, hcollection, ?_⟩
      rwa [List.take_succ_cons, lastSelected_cons]

/-- An operation of a step is for the address that the step targets. -/
theorem Step.of_operation? {step : Step} {database : Option String} {op : Operation} (h : step.operation? database = some op) :
    step.collection? = some op.address.collection ∧ database = some op.address.database := by
  cases database with
  | none => cases h
  | some database => cases step <;> cases h <;> exact ⟨rfl, rfl⟩

/-- The operations of a plan are for addresses that it targets. -/
theorem targets_of_mem_operations {plan : Plan} {initial : Option String} {op : Operation} (h : op ∈ operations plan initial) :
    Targets plan initial op.address := by
  induction plan generalizing initial with
  | nil => cases h
  | cons step rest ih =>
    rw [operations, List.mem_append] at h
    rw [targets_cons]
    rcases h with h | h
    · exact .inl (Step.of_operation? (Option.mem_toList.1 h))
    · exact .inr (ih h)

/-! ## What a call sees of a store -/

namespace Memory

open Seedbed.Action

variable {α : Type} {m n : Memory} {ns : Namespace}

/-- Whether an action sees nothing of a store but the collection under an address and the supply of identifiers. -/
def Local (ns : Namespace) (action : Action StoreError Memory α) : Prop :=
  ∀ m n : Memory, m.ids = n.ids → m.collection? ns = n.collection? ns →
    (action m).result = (action n).result ∧ (action m).state.ids = (action n).state.ids

theorem local_drop (ns : Namespace) : Local ns (drop ns) := fun _ _ hids _ => ⟨rfl, hids⟩

theorem local_insertMany (ns : Namespace) (documents : List Document) : Local ns (insertMany ns documents) := by
  intro m n hids hns
  simp only [insertMany, hids, hns]
  cases insertEach documents ((n.collection? ns).getD Collection.empty).documents n.ids with
  | mk taken rest => cases taken <;> exact ⟨rfl, rfl⟩

theorem local_enableImages (ns : Namespace) : Local ns (enableImages ns) := by
  intro m n hids hns
  unfold enableImages
  rw [hns]
  cases n.collection? ns <;> exact ⟨rfl, hids⟩

theorem local_updateOne (ns : Namespace) (f : Filter) (u : FieldUpdate) : Local ns (updateOne ns f u) := by
  intro m n hids hns
  unfold updateOne
  rw [hns]
  cases n.collection? ns with
  | none => exact ⟨rfl, hids⟩
  | some c =>
    cases hu : updateFirst f u c.documents with
    | none => simp only [hu, hids, and_self]
    | some changed =>
      simp only [hu]
      exact ⟨trivial, hids⟩

theorem local_deleteOne (ns : Namespace) (f : Filter) : Local ns (deleteOne ns f) := by
  intro m n hids hns
  unfold deleteOne
  rw [hns]
  cases n.collection? ns with
  | none => exact ⟨rfl, hids⟩
  | some c =>
    cases hd : deleteFirst f c.documents with
    | none => simp only [hd, hids, and_self]
    | some rest =>
      simp only [hd]
      exact ⟨trivial, hids⟩

theorem local_deleteMany (ns : Namespace) (f : Filter) : Local ns (deleteMany ns f) := by
  intro m n hids hns
  unfold deleteMany
  rw [hns]
  cases n.collection? ns <;> exact ⟨rfl, hids⟩

/-- Whether two stores have the same collections under some addresses, and the same supply of identifiers. -/
structure Agree (addresses : Namespace → Prop) (m n : Memory) : Prop where
  ids : m.ids = n.ids
  collections : ∀ ns, addresses ns → m.collection? ns = n.collection? ns

variable {addresses : Namespace → Prop}

/-- A call for one of the addresses under which two stores agree is alike on both. -/
theorem Agree.alike (h : Agree addresses m n) (hns : addresses ns) (call : Call)
    {action : Action StoreError Memory α} (hlocal : Local ns action) (hstate : ∀ m, (action m).state = call.perform ns m) :
    Alike (Agree addresses) Eq action action m n := by
  obtain ⟨hresult, hids⟩ := hlocal m n h.ids (h.collections ns hns)
  refine ⟨.of_eq hresult, hids, fun other hother => ?_⟩
  rw [hstate, hstate, collection?_perform, collection?_perform, h.ids, h.collections ns hns, h.collections other hother]

end Memory

/-! ## Runs -/

namespace Seeder

open Seedbed.Action

variable {plan : Plan} {s t : Seeder Memory} {ns : Namespace} {addresses : Namespace → Prop}

/-- The call of a step is alike on two stores that agree under its address. -/
theorem callsAlike_agree {step : Step} {m n : Memory} {database : String} (h : Memory.Agree addresses m n)
    (hstep : ∀ c, step.collection? = some c → addresses ⟨database, c⟩) :
    step.CallsAlike (Memory.Agree addresses) Eq database m n := by
  cases step with
  | use _ => trivial
  | drop c => exact h.alike (hstep c rfl) .drop (Memory.local_drop _) (fun _ => rfl)
  | insert c documents =>
    exact h.alike (hstep c rfl) (.insertMany documents) (Memory.local_insertMany _ _) (fun _ => rfl)
  | enableImages c => exact h.alike (hstep c rfl) .enableImages (Memory.local_enableImages _) (fun _ => rfl)
  | update c f u => exact h.alike (hstep c rfl) (.updateOne f u) (Memory.local_updateOne _ _ _) (fun _ => rfl)
  | deleteOne c f => exact h.alike (hstep c rfl) (.deleteOne f) (Memory.local_deleteOne _ _) (fun _ => rfl)
  | deleteMany c f => exact h.alike (hstep c rfl) (.deleteMany f) (Memory.local_deleteMany _ _) (fun _ => rfl)

/-- Whether two seeders agree under addresses among which are all that the steps to come target. -/
def Covers (addresses : Namespace → Prop) (plan : Plan) (s t : Seeder Memory) : Prop :=
  (∀ ns, Targets plan s.database ns → addresses ns) ∧ Paired (Memory.Agree addresses) s t

/-- A step is alike on two stores that agree under what it targets. -/
theorem alike_covers (step : Step) (rest : Plan) (s t : Seeder Memory) (h : Covers addresses (step :: rest) s t) :
    Alike (Covers addresses rest) Eq (apply step) (apply step) s t := by
  obtain ⟨htargets, hpaired⟩ := h
  have hstep : Alike (Paired (Memory.Agree addresses)) Eq (apply step) (apply step) s t := by
    refine alike_apply hpaired (fun _ => rfl) (fun _ _ he => congrArg Cause.store he) (fun database hdatabase => ?_)
    exact callsAlike_agree hpaired.2 (fun c hc => htargets _ (targets_cons.2 (.inl ⟨hc, hdatabase⟩)))
  refine hstep.imp (fun hafter => ⟨fun ns hns => htargets ns ?_, hafter⟩)
  rw [database_apply] at hns
  exact targets_cons.2 (.inr hns)

/-- A run leaves a collection as it is that its plan does not target. -/
theorem collection?_run (h : ¬Targets plan s.database ns) : (run plan s).state.store.collection? ns = s.store.collection? ns := by
  obtain ⟨k, hk⟩ := store_run plan s
  rw [hk]
  refine Memory.collection?_run_of_ne (fun op hop haddress => h ?_)
  rw [← haddress]
  exact targets_of_mem_operations ((operations_take plan s.database k).subset hop)

/-- Two seeders that have selected the same database, and whose stores agree under all that a plan targets and have the same supply of
identifiers, report the same or fail in the same way, and agree under all that it targets afterwards; and whether or not they fail,
every collection is left as it was that the plan does not target. -/
theorem run_confined (plan : Plan) (s t : Seeder Memory) (hdatabase : s.database = t.database) (hids : s.store.ids = t.store.ids)
    (hagree : ∀ ns, Targets plan s.database ns → s.store.collection? ns = t.store.collection? ns) :
    (run plan s).result = (run plan t).result ∧
      (∀ ns, Targets plan s.database ns → (run plan s).state.store.collection? ns = (run plan t).state.store.collection? ns) ∧
      ∀ ns, ¬Targets plan s.database ns →
        (run plan s).state.store.collection? ns = s.store.collection? ns ∧
          (run plan t).state.store.collection? ns = t.store.collection? ns := by
  have hcovers : Covers (Targets plan s.database) plan s t := ⟨fun _ h => h, hdatabase, hids, hagree⟩
  have hrun : Alike (Covers (Targets plan s.database) []) (Failure.Related Eq) (run plan) (run plan) s t := by
    refine alike_run alike_covers (fun rest s t h => ⟨fun ns hns => ?_, h.2⟩) hcovers
    exact absurd hns (not_targets_nil _ _)
  refine ⟨hrun.result.eq ?_, hrun.state.2.2.collections, fun ns hns => ⟨collection?_run hns, ?_⟩⟩
  · rintro ⟨context, cause⟩ ⟨context', cause'⟩ ⟨hcontext, hcause⟩
    exact congrArg₂ Failure.mk hcontext hcause
  · exact collection?_run (hdatabase ▸ hns)

/-- A plan on the collection `c` of the database `a.b`, whose last step fails. -/
def visit : Plan := [.use "a.b", .insert "c" [[("_id", .int32 1)]], .deleteOne "c" (.id 2)]

/-- A store with the collection `b.c` of the database `a`, whose address reads alike. -/
def neighbour : Memory := (Memory.empty ⟨0⟩).put ⟨"a", "b.c"⟩ ⟨[[("_id", .int32 1)]], true⟩

theorem targets_visit_iff (ns : Namespace) : Targets visit none ns ↔ ns = ⟨"a.b", "c"⟩ := by
  obtain ⟨database, collection⟩ := ns
  simp [visit, targets_cons, not_targets_nil, Step.collection?, Step.database?, eq_comm, and_comm]

/-- A plan goes the same way in an empty store and beside a collection whose address reads alike, and leaves that collection. -/
theorem run_confined_visit :
    (Namespace.render ⟨"a", "b.c"⟩ = Namespace.render ⟨"a.b", "c"⟩ ∧
        ∀ ns, Targets visit none ns → (Memory.empty ⟨0⟩).collection? ns = neighbour.collection? ns) ∧
      (run visit ⟨none, Memory.empty ⟨0⟩⟩).result = (run visit ⟨none, neighbour⟩).result ∧
      (run visit ⟨none, neighbour⟩).state.store.collection? ⟨"a", "b.c"⟩ = some ⟨[[("_id", .int32 1)]], true⟩ := by
  have hagree : ∀ ns, Targets visit none ns → (Memory.empty ⟨0⟩).collection? ns = neighbour.collection? ns := by
    intro ns hns
    obtain rfl := (targets_visit_iff ns).1 hns
    rfl
  have hother : ¬Targets visit none ⟨"a", "b.c"⟩ := by
    rw [targets_visit_iff]
    decide
  obtain ⟨hresult, -, hleft⟩ := run_confined visit ⟨none, Memory.empty ⟨0⟩⟩ ⟨none, neighbour⟩ rfl rfl hagree
  exact ⟨⟨rfl, hagree⟩, hresult, (hleft _ hother).2⟩

end Seeder

end Seedbed
