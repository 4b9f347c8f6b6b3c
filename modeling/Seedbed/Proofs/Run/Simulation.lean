import Seedbed.Proofs.Run.Seeder

/-!
# The same plan on two stores

A plan is run on two stores, which may be of different kinds. A step of it is alike on both if its call on the store is
(`alike_apply`); and if every step is alike on what those before it leave, so is the whole run (`alike_run`). How the two seeders are
related may depend on the steps that are still to come.
-/

namespace Seedbed

open Seedbed.Action

variable {σ τ α : Type}

/-- Whether the call of a step on the store, if it makes one, is alike on two stores while the given database is selected. -/
def Step.CallsAlike [DocumentStore σ] [DocumentStore τ] (after : σ → τ → Prop) (related : StoreError → StoreError → Prop)
    (database : String) (m : σ) (n : τ) : Step → Prop
  | .use _ => True
  | .drop c => Alike after related (DocumentStore.drop ⟨database, c⟩) (DocumentStore.drop ⟨database, c⟩) m n
  | .insert c documents =>
    Alike after related (DocumentStore.insertMany ⟨database, c⟩ documents) (DocumentStore.insertMany ⟨database, c⟩ documents) m n
  | .enableImages c =>
    Alike after related (DocumentStore.enableImages ⟨database, c⟩) (DocumentStore.enableImages ⟨database, c⟩) m n
  | .update c f u =>
    Alike after related (DocumentStore.updateOne ⟨database, c⟩ f u) (DocumentStore.updateOne ⟨database, c⟩ f u) m n
  | .deleteOne c f =>
    Alike after related (DocumentStore.deleteOne ⟨database, c⟩ f) (DocumentStore.deleteOne ⟨database, c⟩ f) m n
  | .deleteMany c f =>
    Alike after related (DocumentStore.deleteMany ⟨database, c⟩ f) (DocumentStore.deleteMany ⟨database, c⟩ f) m n

/-- Whether two failures are in the same context, which is the step that failed, and have related causes. -/
def Failure.Related (related : Cause → Cause → Prop) (f g : Failure) : Prop := f.context = g.context ∧ related f.cause g.cause

namespace Seeder

/-- Whether two seeders have selected the same database and have related stores. -/
def Paired (after : σ → τ → Prop) (s : Seeder σ) (t : Seeder τ) : Prop := s.database = t.database ∧ after s.store t.store

variable {after : σ → τ → Prop} {kind : StoreError → StoreError → Prop} {related : Cause → Cause → Prop}
  {s : Seeder σ} {t : Seeder τ}

/-! ## One step -/

/-- Steps on a collection are alike if their calls are and they go on alike. -/
theorem alike_call {call : Namespace → Action StoreError σ α} {call' : Namespace → Action StoreError τ α}
    {next : Namespace → α → Action Cause (Seeder σ) StepOutcome} {next' : Namespace → α → Action Cause (Seeder τ) StepOutcome}
    {collection : String} (h : Paired after s t) (hsame : ∀ cause, related cause cause)
    (hstore : ∀ e f, kind e f → related (.store e) (.store f))
    (hcall : ∀ database, s.database = some database →
      Alike after kind (call ⟨database, collection⟩) (call' ⟨database, collection⟩) s.store t.store)
    (hnext : ∀ ns a s t, Paired after s t → Alike (Paired after) related (next ns a) (next' ns a) s t) :
    Alike (Paired after) related (address collection >>= fun ns => onStore (call ns) >>= next ns)
      (address collection >>= fun ns => onStore (call' ns) >>= next' ns) s t := by
  obtain ⟨database, m⟩ := s
  obtain ⟨database', n⟩ := t
  obtain ⟨hdatabase, hafter⟩ := h
  cases hdatabase
  cases database with
  | none => exact ⟨hsame (.noDatabase collection), rfl, hafter⟩
  | some database =>
    have hcause := (hcall database rfl).mapError hstore
    have honStore : Alike (Paired after) related (onStore (call ⟨database, collection⟩)) (onStore (call' ⟨database, collection⟩))
        ⟨some database, m⟩ ⟨some database, n⟩ := hcause.within (fun _ _ hleft => ⟨rfl, hleft⟩)
    have hrest := honStore.bind (fun _ _ h => h) (hnext ⟨database, collection⟩)
    exact .of_leaves ((leaves_address m database collection).bind (.self _ _)) ((leaves_address n database collection).bind (.self _ _))
      hrest.result hrest.state

variable [DocumentStore σ] [DocumentStore τ]

/-- A step is alike on two stores if its call is. -/
theorem alike_apply {step : Step} (h : Paired after s t) (hsame : ∀ cause, related cause cause)
    (hstore : ∀ e f, kind e f → related (.store e) (.store f))
    (hcall : ∀ database, s.database = some database → step.CallsAlike after kind database s.store t.store) :
    Alike (Paired after) related (apply step) (apply step) s t := by
  have hpure : ∀ (outcome : StepOutcome) (s : Seeder σ) (t : Seeder τ), Paired after s t →
      Alike (Paired after) related (pure outcome) (pure outcome) s t := fun outcome s t h => .pure outcome h
  have hmissing : ∀ (ns : Namespace) (f : Filter) (s : Seeder σ) (t : Seeder τ), Paired after s t →
      Alike (Paired after) related (missing ns f : Action Cause (Seeder σ) StepOutcome) (missing ns f) s t :=
    fun ns f s t h => .fail (hsame _) h
  cases step with
  | use database => exact ⟨rfl, rfl, h.2⟩
  | drop c => exact alike_call h hsame hstore hcall (fun _ _ => hpure _)
  | insert c documents => exact alike_call h hsame hstore hcall (fun _ _ => hpure _)
  | enableImages c => exact alike_call h hsame hstore hcall (fun _ _ => hpure _)
  | update c f u =>
    refine alike_call h hsame hstore hcall (fun ns outcome s t h => ?_)
    split
    · exact hmissing ns f s t h
    · exact hpure _ s t h
  | deleteOne c f =>
    refine alike_call h hsame hstore hcall (fun ns count s t h => ?_)
    split
    · exact hmissing ns f s t h
    · exact hpure _ s t h
  | deleteMany c f => exact alike_call h hsame hstore hcall (fun _ _ => hpure _)

/-! ## Runs -/

theorem alike_applyNumbered {after : Seeder σ → Seeder τ → Prop} {step : Step}
    (h : Alike after related (apply step) (apply step) s t) (number : Nat) :
    Alike after (Failure.Related related) (applyNumbered number step) (applyNumbered number step) s t := by
  have hcause : Alike after (Failure.Related related)
      ((apply step).mapError (fun cause => ⟨.step number step.display, cause⟩))
      ((apply step).mapError (fun cause => ⟨.step number step.display, cause⟩)) s t :=
    h.mapError (fun _ _ hrelated => ⟨rfl, hrelated⟩)
  exact .said (hcause.bind (fun _ _ h => h) (fun outcome s t h => .said (.pure _ h)))

variable {holds : Plan → Seeder σ → Seeder τ → Prop}

/-- Steps one after the other are alike if each is, as long as something holds of the steps that are still to come. -/
theorem alike_applyAll {plan : Plan}
    (hstep : ∀ step rest s t, holds (step :: rest) s t → Alike (holds rest) related (apply step) (apply step) s t)
    (hstop : ∀ rest s t, holds rest s t → holds [] s t) (h : holds plan s t) (number : Nat) :
    Alike (holds []) (Failure.Related related) (applyAll number plan) (applyAll number plan) s t := by
  induction plan generalizing s t number with
  | nil => exact .pure _ h
  | cons step rest ih =>
    refine (alike_applyNumbered (hstep step rest s t h) number).bind (hstop rest) (fun report s t h => ?_)
    exact (ih h (number + 1)).bind (fun _ _ h => h) (fun reports s t h => .pure _ h)

/-- A plan runs alike on two stores if its steps are alike one after the other. -/
theorem alike_run {plan : Plan}
    (hstep : ∀ step rest s t, holds (step :: rest) s t → Alike (holds rest) related (apply step) (apply step) s t)
    (hstop : ∀ rest s t, holds rest s t → holds [] s t) (h : holds plan s t) :
    Alike (holds []) (Failure.Related related) (run plan) (run plan) s t :=
  (alike_applyAll hstep hstop h 1).bind (fun _ _ h => h) (fun _ _ _ h => .said (.pure _ h))

end Seeder

end Seedbed
