import Seedbed.Proofs.Run.Seeder
import Seedbed.Proofs.Store.Operations

/-!
# Plans as operations on a store in memory

On a store in memory, a step is the operation that its call makes for the address of its collection, or nothing at all if it selects
a database or names a collection while none is selected (`store_apply`). Steps one after the other are therefore a run of operations
(`store_after`), and so is a run of a plan, up to the step that fails if one does (`store_run`). What holds of every run of
operations holds of them: collections for whose address there is no operation stay as they are (`collection?_run_of_ne`), and the
supply of identifiers stays as it is if every inserted document has one (`ids_run`).
-/

namespace Seedbed

namespace Step

/-- The call of a step, and the name of the collection that it is for. -/
def call? : Step → Option (String × Call)
  | .use _ => none
  | .drop c => some (c, .drop)
  | .insert c documents => some (c, .insertMany documents)
  | .enableImages c => some (c, .enableImages)
  | .update c f u => some (c, .updateOne f u)
  | .deleteOne c f => some (c, .deleteOne f)
  | .deleteMany c f => some (c, .deleteMany f)

/-- The operation of a step while the given database is selected. -/
def operation? (database : Option String) (step : Step) : Option Operation := do
  let database ← database
  let (collection, call) ← step.call?
  some ⟨⟨database, collection⟩, call⟩

end Step

/-- The operations of steps one after the other, the given database being selected before them. -/
def operations : Plan → Option String → List Operation
  | [], _ => []
  | step :: rest, database => (step.operation? database).toList ++ operations rest (step.database?.or database)

/-- The first steps have the first operations. -/
theorem operations_take (plan : Plan) (database : Option String) (k : Nat) :
    operations (plan.take k) database <+: operations plan database := by
  induction plan generalizing database k with
  | nil =>
    have htake : operations (([] : Plan).take k) database = [] := congrArg (operations · database) List.take_nil
    exact htake ▸ List.nil_prefix
  | cons step rest ih =>
    cases k with
    | zero => exact List.nil_prefix
    | succ k => exact (List.prefix_append_right_inj _).2 (ih _ k)

/-- Whether the documents that a call inserts, if it inserts any, have identifiers. -/
def Call.InsertsIds : Call → Prop
  | .insertMany documents => ∀ d ∈ documents, d.has "_id" = true
  | _ => True

/-! ## Runs of operations -/

namespace Memory

variable {m : Memory} {ops : List Operation}

/-- A run leaves a collection as it is for whose address it has no operation. -/
theorem collection?_run_of_ne {ns : Namespace} (h : ∀ op ∈ ops, op.address ≠ ns) :
    (run ops m).collection? ns = m.collection? ns := by
  induction ops generalizing m with
  | nil => rfl
  | cons op ops ih =>
    have hrest := ih (m := op.call.perform op.address m) (fun o ho => h o (List.mem_cons_of_mem _ ho))
    rw [collection?_perform, if_neg (h op List.mem_cons_self)] at hrest
    exact hrest

/-- An insertion of documents that have identifiers makes none up. -/
theorem ids_insertEach {documents : List Document} (h : ∀ d ∈ documents, d.has "_id" = true) (present : List Document)
    (ids : IdSource) : (insertEach documents present ids).2.2 = ids := by
  induction documents generalizing present with
  | nil => rfl
  | cons d rest ih =>
    obtain ⟨id, hid⟩ := Option.isSome_iff_exists.1 (h d List.mem_cons_self)
    simp only [insertEach, identify_of_get? hid]
    split
    · rfl
    · exact ih (fun e he => h e (List.mem_cons_of_mem _ he)) _

theorem ids_perform {call : Call} (h : call.InsertsIds) (ns : Namespace) (m : Memory) : (call.perform ns m).ids = m.ids := by
  cases call with
  | insertMany documents =>
    rw [Call.perform, state_insertMany]
    exact ids_insertEach h _ _
  | drop => rfl
  | enableImages =>
    rw [Call.perform, enableImages]
    split <;> rfl
  | updateOne f u =>
    rw [Call.perform, updateOne]
    split
    · rfl
    · split <;> rfl
  | deleteOne f =>
    rw [Call.perform, deleteOne]
    split
    · rfl
    · split <;> rfl
  | deleteMany f =>
    rw [Call.perform, deleteMany]
    split <;> rfl
  | findAll => rfl
  | imagesEnabled => rfl

/-- A run that inserts no document without an identifier makes no identifier up. -/
theorem ids_run (h : ∀ op ∈ ops, op.call.InsertsIds) : (run ops m).ids = m.ids := by
  induction ops generalizing m with
  | nil => rfl
  | cons op ops ih =>
    have hrest := ih (m := op.call.perform op.address m) (fun o ho => h o (List.mem_cons_of_mem _ ho))
    rw [ids_perform (h op List.mem_cons_self)] at hrest
    exact hrest

end Memory

/-! ## Steps of plans -/

namespace Seeder

variable {σ α : Type} {database collection : String} {call : Namespace → Action StoreError σ α}
  {next : Namespace → α → Action Cause (Seeder σ) StepOutcome}

/-- The store after a step on a collection is the one that its call leaves, whether or not the step fails. -/
theorem store_call (hnext : ∀ ns a (s : Seeder σ), (next ns a s).state.store = s.store) (m : σ) :
    ((address collection >>= fun ns => onStore (call ns) >>= next ns) ⟨some database, m⟩).state.store =
      (call ⟨database, collection⟩ m).state := by
  rcases Action.Leaves.error_or_ok (call ⟨database, collection⟩) m with ⟨e, n, h⟩ | ⟨a, n, h⟩
  · rw [(leaves_call_error h).state, h.state]
  · rw [(leaves_call h (.self (next ⟨database, collection⟩ a) _)).state, h.state]
    exact hnext _ a _

/-- The store after a step is the one after its operation, whether or not the step fails. -/
theorem store_apply (step : Step) (s : Seeder Memory) :
    (apply step s).state.store = Memory.run (step.operation? s.database).toList s.store := by
  obtain ⟨database?, m⟩ := s
  cases database? with
  | none => cases step <;> rfl
  | some database =>
    cases step with
    | use database => rfl
    | drop c => exact store_call (fun _ _ _ => rfl) m
    | insert c documents => exact store_call (fun _ _ _ => rfl) m
    | enableImages c => exact store_call (fun _ _ _ => rfl) m
    | update c f u => exact store_call (fun _ _ _ => by split <;> rfl) m
    | deleteOne c f => exact store_call (fun _ _ _ => by split <;> rfl) m
    | deleteMany c f => exact store_call (fun _ _ _ => rfl) m

/-- The store after steps is the one after their operations. -/
theorem store_after (plan : Plan) (s : Seeder Memory) : (after plan s).store = Memory.run (operations plan s.database) s.store := by
  induction plan generalizing s with
  | nil => rfl
  | cons step rest ih =>
    rw [after, List.foldl_cons, ← after, ih, database_apply, store_apply, operations, Memory.run, Memory.run, Memory.run,
      List.foldl_append]

/-- The store after a run is the one after the operations of its first steps. -/
theorem store_run (plan : Plan) (s : Seeder Memory) :
    ∃ k, (run plan s).state.store = Memory.run (operations (plan.take k) s.database) s.store := by
  rcases succeeds_or_fails plan s with ⟨outcomes, t, h⟩ | ⟨front, step, rest, outcomes, t, cause, u, rfl, h, hstep⟩
  · refine ⟨plan.length, ?_⟩
    rw [(leaves_run h).state, List.take_length, ← store_after, after_of_succeeds h]
  · refine ⟨front.length + 1, ?_⟩
    have htake : (front ++ step :: rest).take (front.length + 1) = front ++ [step] := List.take_length_add_append 1
    have hlast : after [step] t = u := hstep.state
    rw [(leaves_run_error h hstep rest).state, htake, ← store_after, after_append, after_of_succeeds h, hlast]

end Seeder

end Seedbed
