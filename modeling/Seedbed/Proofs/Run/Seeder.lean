import Mathlib.Data.List.Basic
import Seedbed.Proofs.Action
import Seedbed.Run.Seeder

/-!
# Runs of a seeder on any store

What a step leaves is what its call on the store leaves (`leaves_call`, `leaves_call_error`), and nothing at all if no database is
selected (`leaves_noDatabase`). A run either succeeds in all steps, one after the other (`Succeeds`, `leaves_run`), or in the steps
before one that fails (`leaves_run_error`); one of the two is always the case (`succeeds_or_fails`), and the steps after the one that
fails do not matter (`run_congr`).
-/

namespace Seedbed

/-- The database that a step selects, if it selects one. -/
def Step.database? : Step → Option String
  | .use database => some database
  | _ => none

/-- The database that is selected after steps: the one of the last step that selects one, or the one from before. -/
def lastSelected (plan : Plan) (initial : Option String) : Option String := (plan.filterMap Step.database?).getLast?.or initial

theorem lastSelected_cons (step : Step) (plan : Plan) (initial : Option String) :
    lastSelected (step :: plan) initial = lastSelected plan (step.database?.or initial) := by
  cases h : step.database? with
  | none => simp [lastSelected, h]
  | some database => cases hl : (plan.filterMap Step.database?).getLast? <;> simp [lastSelected, h, hl, List.getLast?_cons]

namespace Seeder

variable {σ α : Type} {m n : σ} {database collection : String}

theorem leaves_address (m : σ) (database collection : String) :
    (address collection).Leaves ⟨some database, m⟩ (.ok ⟨database, collection⟩) ⟨some database, m⟩ := ⟨rfl, rfl⟩

theorem leaves_onStore {action : Action StoreError σ α} {r : Except StoreError α} (h : action.Leaves m r n)
    (database : Option String) : (onStore action).Leaves ⟨database, m⟩ (r.mapError Cause.store) ⟨database, n⟩ :=
  (h.mapError Cause.store).within

variable {call : Namespace → Action StoreError σ α} {next : Namespace → α → Action Cause (Seeder σ) StepOutcome} {s : Seeder σ}

/-- A step on a collection makes a call on the store and goes on from what that leaves. -/
theorem leaves_call {a : α} {r : Except Cause StepOutcome} (h : (call ⟨database, collection⟩).Leaves m (.ok a) n)
    (hnext : (next ⟨database, collection⟩ a).Leaves ⟨some database, n⟩ r s) :
    (address collection >>= fun ns => onStore (call ns) >>= next ns).Leaves ⟨some database, m⟩ r s :=
  (leaves_address m database collection).bind ((leaves_onStore h (some database)).bind hnext)

/-- A step on a collection whose call on the store fails, fails with the error of the store. -/
theorem leaves_call_error {e : StoreError} (h : (call ⟨database, collection⟩).Leaves m (.error e) n) :
    (address collection >>= fun ns => onStore (call ns) >>= next ns).Leaves ⟨some database, m⟩ (.error (.store e))
      ⟨some database, n⟩ :=
  (leaves_address m database collection).bind (leaves_onStore h (some database)).bind_error

/-- Whether an action, if it succeeds, has the given outcome and leaves the seeder as it is. -/
def Yields (action : Action Cause (Seeder σ) StepOutcome) (outcome : StepOutcome) : Prop :=
  ∀ {s t : Seeder σ} {o : StepOutcome}, action.Leaves s (.ok o) t → o = outcome ∧ t = s

theorem yields_pure (outcome : StepOutcome) : Yields (pure outcome : Action Cause (Seeder σ) StepOutcome) outcome := by
  intro s t o h
  obtain ⟨ho, ht⟩ := (Action.Leaves.pure outcome s).unique h
  exact ⟨(Except.ok.inj ho).symm, ht.symm⟩

/-- What a step goes on with that fails if the document it is about is not there. -/
theorem yields_unless_missing (missed : Prop) [Decidable missed] (ns : Namespace) (f : Filter) (outcome : StepOutcome) :
    Yields (if missed then missing ns f else pure outcome : Action Cause (Seeder σ) StepOutcome) outcome := by
  split
  · intro s t o h
    cases ((Action.Leaves.fail _ s).unique h).1
  · exact yields_pure outcome

/-- A step on a collection succeeds only if a database is selected and its call on the store succeeds; it leaves what that leaves. -/
theorem exists_of_leaves_call {t : Seeder σ} {outcome : StepOutcome} {outcomeOf : α → StepOutcome}
    (h : (address collection >>= fun ns => onStore (call ns) >>= next ns).Leaves s (.ok outcome) t)
    (hnext : ∀ ns a, Yields (next ns a) (outcomeOf a)) :
    ∃ database m a n, s = ⟨some database, m⟩ ∧ (call ⟨database, collection⟩).Leaves m (.ok a) n ∧ outcome = outcomeOf a ∧
      t = ⟨some database, n⟩ := by
  obtain ⟨database, m⟩ := s
  cases database with
  | none =>
    have hnone : (address collection).Leaves (⟨none, m⟩ : Seeder σ) (.error (.noDatabase collection)) ⟨none, m⟩ := ⟨rfl, rfl⟩
    cases (hnone.bind_error.unique h).1
  | some database =>
    rcases Action.Leaves.error_or_ok (call ⟨database, collection⟩) m with ⟨e, n, hcall⟩ | ⟨a, n, hcall⟩
    · cases ((leaves_call_error hcall).unique h).1
    · obtain ⟨houtcome, ht⟩ := (leaves_call hcall (.self (next ⟨database, collection⟩ a) _)).unique h
      obtain ⟨ho, hstate⟩ := hnext _ a ⟨houtcome, ht⟩
      exact ⟨database, m, a, n, rfl, hcall, ho, hstate⟩

/-- A step on a collection selects no database. -/
theorem database_call (hnext : ∀ ns a (s : Seeder σ), (next ns a s).state.database = s.database) (s : Seeder σ) :
    ((address collection >>= fun ns => onStore (call ns) >>= next ns) s).state.database = s.database := by
  obtain ⟨database, m⟩ := s
  cases database with
  | none => rfl
  | some database =>
    rcases Action.Leaves.error_or_ok (call ⟨database, collection⟩) m with ⟨e, n, h⟩ | ⟨a, n, h⟩
    · rw [(leaves_call_error h).state]
    · rw [(leaves_call h (.self (next ⟨database, collection⟩ a) _)).state]
      exact hnext _ a _

variable [DocumentStore σ]

/-- A seeder after steps were applied one after the other, whether or not they fail. -/
def after (plan : Plan) (s : Seeder σ) : Seeder σ := plan.foldl (fun s step => (apply step s).state) s

theorem after_append (front rest : Plan) (s : Seeder σ) : after (front ++ rest) s = after rest (after front s) := List.foldl_append

/-- Whether steps succeed one after the other, each on what the one before leaves, with the given outcomes. -/
inductive Succeeds : Plan → Seeder σ → List StepOutcome → Seeder σ → Prop
  | nil (s : Seeder σ) : Succeeds [] s [] s
  | cons {step : Step} {rest : Plan} {s t u : Seeder σ} {outcome : StepOutcome} {outcomes : List StepOutcome} :
    (apply step).Leaves s (.ok outcome) t → Succeeds rest t outcomes u → Succeeds (step :: rest) s (outcome :: outcomes) u

/-! ## One step -/

theorem leaves_use (database : String) (s : Seeder σ) :
    (apply (.use database)).Leaves s (.ok .selected) { s with database := some database } := ⟨rfl, rfl⟩

/-- A step that names a collection fails while no database is selected, and leaves everything as it is. -/
theorem leaves_noDatabase {step : Step} (h : step.collection? = some collection) (m : σ) :
    (apply step).Leaves ⟨none, m⟩ (.error (.noDatabase collection)) ⟨none, m⟩ := by
  cases step <;> cases h <;> exact ⟨rfl, rfl⟩

theorem leaves_drop (h : (DocumentStore.drop ⟨database, collection⟩).Leaves m (.ok ()) n) :
    (apply (.drop collection)).Leaves ⟨some database, m⟩ (.ok .dropped) ⟨some database, n⟩ :=
  leaves_call h (.pure _ _)

theorem leaves_insert {documents : List Document} {count : Nat}
    (h : (DocumentStore.insertMany ⟨database, collection⟩ documents).Leaves m (.ok count) n) :
    (apply (.insert collection documents)).Leaves ⟨some database, m⟩ (.ok (.inserted count)) ⟨some database, n⟩ :=
  leaves_call h (.pure _ _)

theorem leaves_enableImages (h : (DocumentStore.enableImages ⟨database, collection⟩).Leaves m (.ok ()) n) :
    (apply (.enableImages collection)).Leaves ⟨some database, m⟩ (.ok .imagesEnabled) ⟨some database, n⟩ :=
  leaves_call h (.pure _ _)

theorem leaves_update {f : Filter} {u : FieldUpdate} {outcome : UpdateOutcome}
    (h : (DocumentStore.updateOne ⟨database, collection⟩ f u).Leaves m (.ok outcome) n) (hm : outcome.matched ≠ 0) :
    (apply (.update collection f u)).Leaves ⟨some database, m⟩ (.ok (.updated outcome)) ⟨some database, n⟩ := by
  refine leaves_call h ?_
  rw [if_neg hm]
  exact .pure _ _

/-- An update that selects no document fails. -/
theorem leaves_update_missing {f : Filter} {u : FieldUpdate} {outcome : UpdateOutcome}
    (h : (DocumentStore.updateOne ⟨database, collection⟩ f u).Leaves m (.ok outcome) n) (hm : outcome.matched = 0) :
    (apply (.update collection f u)).Leaves ⟨some database, m⟩
      (.error (.store (.notFound (Namespace.render ⟨database, collection⟩) f.display))) ⟨some database, n⟩ := by
  refine leaves_call h ?_
  rw [if_pos hm]
  exact .fail _ _

theorem leaves_deleteOne {f : Filter} {count : Nat}
    (h : (DocumentStore.deleteOne ⟨database, collection⟩ f).Leaves m (.ok count) n) (hc : count ≠ 0) :
    (apply (.deleteOne collection f)).Leaves ⟨some database, m⟩ (.ok (.deleted count)) ⟨some database, n⟩ := by
  refine leaves_call h ?_
  rw [if_neg hc]
  exact .pure _ _

/-- A deletion of one document that selects none fails. -/
theorem leaves_deleteOne_missing {f : Filter} {count : Nat}
    (h : (DocumentStore.deleteOne ⟨database, collection⟩ f).Leaves m (.ok count) n) (hc : count = 0) :
    (apply (.deleteOne collection f)).Leaves ⟨some database, m⟩
      (.error (.store (.notFound (Namespace.render ⟨database, collection⟩) f.display))) ⟨some database, n⟩ := by
  refine leaves_call h ?_
  rw [if_pos hc]
  exact .fail _ _

theorem leaves_deleteMany {f : Filter} {count : Nat}
    (h : (DocumentStore.deleteMany ⟨database, collection⟩ f).Leaves m (.ok count) n) :
    (apply (.deleteMany collection f)).Leaves ⟨some database, m⟩ (.ok (.deleted count)) ⟨some database, n⟩ :=
  leaves_call h (.pure _ _)

/-- A step selects the database that it names, if it is one that selects, also when it fails. -/
theorem database_apply (step : Step) (s : Seeder σ) : (apply step s).state.database = step.database?.or s.database := by
  cases step with
  | use database => rfl
  | drop c => exact database_call (fun _ _ _ => rfl) s
  | insert c documents => exact database_call (fun _ _ _ => rfl) s
  | enableImages c => exact database_call (fun _ _ _ => rfl) s
  | update c f u => exact database_call (fun _ _ _ => by split <;> rfl) s
  | deleteOne c f => exact database_call (fun _ _ _ => by split <;> rfl) s
  | deleteMany c f => exact database_call (fun _ _ _ => rfl) s

/-- After steps the database is selected that the last of them names that selects one. -/
theorem database_after (plan : Plan) (s : Seeder σ) : (after plan s).database = lastSelected plan s.database := by
  induction plan generalizing s with
  | nil => rfl
  | cons step rest ih => rw [lastSelected_cons, ← database_apply, ← ih, after, after, List.foldl_cons]

/-! ## Steps one after the other -/

variable {s t u : Seeder σ} {step : Step} {front rest : Plan} {outcomes : List StepOutcome}

/-- What the steps of a plan did, as it is reported. -/
def reports (plan : Plan) (outcomes : List StepOutcome) : List StepReport :=
  List.zipWith (fun step outcome => ⟨step.display, outcome⟩) plan outcomes

theorem leaves_applyNumbered {outcome : StepOutcome} (h : (apply step).Leaves s (.ok outcome) t) (number : Nat) :
    (applyNumbered number step).Leaves s (.ok ⟨step.display, outcome⟩) t :=
  (Action.Leaves.say _ _ _ s).bind ((h.mapError _).bind ((Action.Leaves.say _ _ _ t).bind (.pure _ t)))

theorem leaves_applyNumbered_error {cause : Cause} (h : (apply step).Leaves s (.error cause) t) (number : Nat) :
    (applyNumbered number step).Leaves s (.error ⟨.step number step.display, cause⟩) t :=
  (Action.Leaves.say _ _ _ s).bind (h.mapError _).bind_error

/-- Steps that succeed are all reported. -/
theorem leaves_applyAll (h : Succeeds front s outcomes t) (number : Nat) :
    (applyAll number front).Leaves s (.ok (reports front outcomes)) t := by
  induction h generalizing number with
  | nil s => exact .pure _ s
  | cons hstep _ ih => exact (leaves_applyNumbered hstep number).bind ((ih (number + 1)).bind (.pure _ _))

/-- A step that fails after others that succeed ends the run, with its number in the failure. -/
theorem leaves_applyAll_error {cause : Cause} (h : Succeeds front s outcomes t) (hstep : (apply step).Leaves t (.error cause) u)
    (rest : Plan) (number : Nat) :
    (applyAll number (front ++ step :: rest)).Leaves s (.error ⟨.step (number + front.length) step.display, cause⟩) u := by
  induction h generalizing number with
  | nil s => exact (leaves_applyNumbered_error hstep number).bind_error
  | cons hfirst hrest ih =>
    rw [List.length_cons, Nat.add_comm (List.length _) 1, ← Nat.add_assoc]
    exact (leaves_applyNumbered hfirst number).bind (ih hstep (number + 1)).bind_error

/-- Steps that succeed followed by others that succeed are steps that succeed. -/
theorem Succeeds.append {more : List StepOutcome} (h : Succeeds front s outcomes t) (h' : Succeeds rest t more u) :
    Succeeds (front ++ rest) s (outcomes ++ more) u := by
  induction h with
  | nil s => exact h'
  | cons hstep _ ih => exact .cons hstep (ih h')

/-- All steps succeed, or there is a first one that fails after the others before it succeeded. -/
theorem succeeds_or_fails (plan : Plan) (s : Seeder σ) :
    (∃ outcomes t, Succeeds plan s outcomes t) ∨
      ∃ front step rest outcomes t cause u, plan = front ++ step :: rest ∧ Succeeds front s outcomes t ∧
        (apply step).Leaves t (.error cause) u := by
  induction plan generalizing s with
  | nil => exact .inl ⟨[], s, .nil s⟩
  | cons step rest ih =>
    rcases Action.Leaves.error_or_ok (apply step) s with ⟨cause, t, hstep⟩ | ⟨outcome, t, hstep⟩
    · exact .inr ⟨[], step, rest, [], s, cause, t, rfl, .nil s, hstep⟩
    · rcases ih t with ⟨outcomes, u, h⟩ | ⟨front, failing, others, outcomes, u, cause, v, rfl, h, hfails⟩
      · exact .inl ⟨outcome :: outcomes, u, .cons hstep h⟩
      · exact .inr ⟨step :: front, failing, others, outcome :: outcomes, u, cause, v, rfl, .cons hstep h, hfails⟩

/-- What is counted in outcomes. -/
def totalOf (count : StepOutcome → Nat) (outcomes : List StepOutcome) : Nat := outcomes.foldr (fun outcome n => count outcome + n) 0

/-- What is counted in the report of steps that succeed is counted in their outcomes. -/
theorem total_reports (h : Succeeds front s outcomes t) (count : StepOutcome → Nat) :
    Report.total count ⟨reports front outcomes⟩ = totalOf count outcomes := by
  induction h with
  | nil s => rfl
  | cons _ _ ih =>
    rw [Report.total, reports, List.zipWith_cons_cons, List.foldr_cons, totalOf, List.foldr_cons]
    exact congrArg _ ih

/-- Steps that succeed leave what they leave when each is applied whether or not the others fail. -/
theorem after_of_succeeds (h : Succeeds front s outcomes t) : after front s = t := by
  induction h with
  | nil s => rfl
  | cons hstep _ ih =>
    rw [← ih, ← hstep.state]
    rfl

/-! ## The first step of a kind -/

/-- Whether the step at the given place of a plan, on what those before it leave, is one of a kind. -/
def HoldsAt (kind : Seeder σ → Step → Prop) (plan : Plan) (s : Seeder σ) (k : Nat) : Prop :=
  ∃ step, plan[k]? = some step ∧ kind (after (plan.take k) s) step

variable {kind : Seeder σ → Step → Prop}

/-- Of what kind a step is depends on it and the steps before it alone. -/
theorem holdsAt_append {k : Nat} (h : k < front.length) (s : Seeder σ) (rest : Plan) :
    HoldsAt kind (front ++ rest) s k ↔ HoldsAt kind front s k := by
  rw [HoldsAt, HoldsAt, List.getElem?_append_left h, List.take_append_of_le_length (Nat.le_of_lt h)]

/-- Where a step that succeeds is not of a kind, as long as something holds that it preserves, none of those that succeed one after
the other is. -/
theorem not_holdsAt_of_succeeds (holds : Plan → Seeder σ → Prop) (hstep : ∀ {step rest s outcome t}, holds (step :: rest) s →
    (apply step).Leaves s (.ok outcome) t → ¬kind s step ∧ holds rest t) (h : Succeeds front s outcomes t) (rest : Plan)
    (hs : holds (front ++ rest) s) (k : Nat) : ¬HoldsAt kind front s k := by
  induction h generalizing k with
  | nil s => exact fun ⟨step, hnone, _⟩ => absurd hnone (by simp)
  | cons hfirst _ ih =>
    obtain ⟨hnot, hrest⟩ := hstep hs hfirst
    rintro ⟨step, hget, hkind⟩
    cases k with
    | zero =>
      cases hget
      exact hnot hkind
    | succ k =>
      refine ih hrest k ⟨step, hget, ?_⟩
      rwa [List.take_succ_cons, after, List.foldl_cons, hfirst.state] at hkind

/-- What holds at the start of steps that succeed and is preserved by each holds at their end. -/
theorem holds_of_succeeds (holds : Plan → Seeder σ → Prop) (hstep : ∀ {step rest s outcome t}, holds (step :: rest) s →
    (apply step).Leaves s (.ok outcome) t → holds rest t) (h : Succeeds front s outcomes t) (hs : holds (front ++ rest) s) :
    holds rest t := by
  induction h with
  | nil s => exact hs
  | cons hfirst _ ih => exact ih (hstep hs hfirst)

/-- A step of a kind after others that are not is the first one of that kind. -/
theorem holdsAt_first_iff (h : Succeeds front s outcomes t) (hfront : ∀ k, ¬HoldsAt kind front s k) (hstep : kind t step) (rest : Plan)
    (k : Nat) :
    HoldsAt kind (front ++ step :: rest) s k ∧ (∀ j < k, ¬HoldsAt kind (front ++ step :: rest) s j) ↔ k = front.length := by
  have hat : HoldsAt kind (front ++ step :: rest) s front.length := by
    refine ⟨step, by simp, ?_⟩
    rwa [List.take_left, after_of_succeeds h]
  have hbefore : ∀ j < front.length, ¬HoldsAt kind (front ++ step :: rest) s j :=
    fun j hj hholds => hfront j ((holdsAt_append hj s _).1 hholds)
  constructor
  · rintro ⟨hk, hfirst⟩
    rcases Nat.lt_trichotomy k front.length with hlt | heq | hgt
    · exact absurd hk (hbefore k hlt)
    · exact heq
    · exact absurd hat (hfirst _ hgt)
  · rintro rfl
    exact ⟨hat, hbefore⟩

/-! ## Runs -/

/-- A plan all of whose steps succeed is reported step by step. -/
theorem leaves_run (h : Succeeds front s outcomes t) : (run front).Leaves s (.ok ⟨reports front outcomes⟩) t :=
  (leaves_applyAll h 1).bind ((Action.Leaves.say _ _ _ t).bind (.pure _ t))

/-- A plan in which a step fails after others that succeed fails with the number of that step and its cause, and leaves what that
step leaves. -/
theorem leaves_run_error {cause : Cause} (h : Succeeds front s outcomes t) (hstep : (apply step).Leaves t (.error cause) u)
    (rest : Plan) :
    (run (front ++ step :: rest)).Leaves s (.error ⟨.step (front.length + 1) step.display, cause⟩) u := by
  rw [Nat.add_comm]
  exact (leaves_applyAll_error h hstep rest 1).bind_error

/-- The steps after one that fails do not matter. -/
theorem applyAll_congr {cause : Cause} (h : Succeeds front s outcomes t) (hstep : (apply step).Leaves t (.error cause) u)
    (rest others : Plan) (number : Nat) :
    applyAll number (front ++ step :: rest) s = applyAll number (front ++ step :: others) s := by
  induction h generalizing number with
  | nil s =>
    have hfails := (leaves_applyNumbered_error hstep number).outcome
    exact (Action.bind_error hfails).trans (Action.bind_error hfails).symm
  | cons hfirst _ ih =>
    exact Action.Leaves.bind_congr_right (leaves_applyNumbered hfirst number) (Action.Leaves.bind_congr_left (ih hstep (number + 1)) _)

theorem run_congr {cause : Cause} (h : Succeeds front s outcomes t) (hstep : (apply step).Leaves t (.error cause) u)
    (rest others : Plan) : run (front ++ step :: rest) s = run (front ++ step :: others) s :=
  Action.Leaves.bind_congr_left (applyAll_congr h hstep rest others 1) _

end Seeder

end Seedbed
