import Seedbed.Proofs.Run.Seeder
import Seedbed.Proofs.Store.Calls

/-!
# When a run on a store in memory fails, and what it leaves

`Step.Fails` says when a step fails, in terms of the database that is selected and of the documents of the store; a step fails
exactly then (`leaves_of_refused`, `leaves_of_not_fails`), with the cause and the store that `Refused` says: the store as it was, but
for an insertion, which keeps the documents before the one that clashes. A run fails exactly if some step does, and ends at the
first one.
-/

namespace Seedbed

open Memory

/-- Whether a step on a collection of the selected database fails: an insertion of which an identifier clashes, images to be turned
on for a collection that does not exist, an update or a deletion of one document that selects none. -/
def Step.FailsIn (database : String) (m : Memory) : Step → Prop
  | .insert collection documents =>
    ∃ before entry rest, identified m.ids documents = before ++ entry :: rest ∧
      Clashes (m.documents ⟨database, collection⟩) before entry.1
  | .enableImages collection => m.collection? ⟨database, collection⟩ = none
  | .update collection f _ => ∀ d ∈ m.documents ⟨database, collection⟩, f.selects d = false
  | .deleteOne collection f => ∀ d ∈ m.documents ⟨database, collection⟩, f.selects d = false
  | .use _ | .drop _ | .deleteMany _ _ => False

/-- Whether a step fails: it names a collection while no database is selected, or it fails in the selected one. -/
def Step.Fails (s : Seeder Memory) (step : Step) : Prop :=
  (step.collection?.isSome = true ∧ s.database = none) ∨ ∃ database, s.database = some database ∧ step.FailsIn database s.store

namespace Seeder

/-- How a step fails: with which cause, and which store it leaves. -/
inductive Refused (s : Seeder Memory) : Step → Cause → Memory → Prop
  | noDatabase {step : Step} {collection : String} (hstep : step.collection? = some collection) (hnone : s.database = none) :
    Refused s step (.noDatabase collection) s.store
  | taken {database collection : String} {documents : List Document} {before rest : List (Value × Document)} {id : Value}
    {d : Document} (hsome : s.database = some database) (hsplit : identified s.store.ids documents = before ++ (id, d) :: rest)
    (hfits : Fits (s.store.documents ⟨database, collection⟩) before)
    (hclashes : Clashes (s.store.documents ⟨database, collection⟩) before id) :
    Refused s (.insert collection documents) (.store (.duplicateKey (Namespace.render ⟨database, collection⟩) id.display))
      { s.store.put ⟨database, collection⟩ { s.store.present ⟨database, collection⟩ with
          documents := s.store.documents ⟨database, collection⟩ ++ before.map Prod.snd } with
        ids := idsAfter s.store.ids (documents.take (before.length + 1)) }
  | noCollection {database collection : String} (hsome : s.database = some database)
    (hnone : s.store.collection? ⟨database, collection⟩ = none) :
    Refused s (.enableImages collection) (.store (.notFound (Namespace.render ⟨database, collection⟩) "collection")) s.store
  | nothingToUpdate {database collection : String} {f : Filter} {u : FieldUpdate} (hsome : s.database = some database)
    (hnone : ∀ d ∈ s.store.documents ⟨database, collection⟩, f.selects d = false) :
    Refused s (.update collection f u) (.store (.notFound (Namespace.render ⟨database, collection⟩) f.display)) s.store
  | nothingToDelete {database collection : String} {f : Filter} (hsome : s.database = some database)
    (hnone : ∀ d ∈ s.store.documents ⟨database, collection⟩, f.selects d = false) :
    Refused s (.deleteOne collection f) (.store (.notFound (Namespace.render ⟨database, collection⟩) f.display)) s.store

/-- Whether the step of the given place in a plan fails after the steps before it. -/
def FailsAt (plan : Plan) (s : Seeder Memory) (k : Nat) : Prop := ∃ step, plan[k]? = some step ∧ step.Fails (after (plan.take k) s)

variable {s t : Seeder Memory} {step : Step} {front rest : Plan}

/-! ## One step -/

/-- A step that is refused fails, with that cause and leaving that store. -/
theorem leaves_of_refused {cause : Cause} {m : Memory} (h : Refused s step cause m) :
    (apply step).Leaves s (.error cause) ⟨s.database, m⟩ := by
  obtain ⟨database?, store⟩ := s
  cases h with
  | noDatabase hstep hnone =>
    cases hnone
    exact leaves_noDatabase hstep store
  | taken hsome hsplit hfits hclashes =>
    cases hsome
    exact leaves_call_error (leaves_insertMany_of_clashes hsplit hfits hclashes)
  | noCollection hsome hnone =>
    cases hsome
    exact leaves_call_error (leaves_enableImages_of_none hnone)
  | nothingToUpdate hsome hnone =>
    cases hsome
    exact leaves_update_missing (leaves_updateOne_of_none hnone) rfl
  | nothingToDelete hsome hnone =>
    cases hsome
    exact leaves_deleteOne_missing (leaves_deleteOne_of_none hnone) rfl

/-- A step that fails is refused in one of these ways; of an insertion the first identifier that clashes decides. -/
theorem exists_refused (h : step.Fails s) : ∃ cause m, Refused s step cause m := by
  rcases h with ⟨hcollection, hnone⟩ | ⟨database, hsome, h⟩
  · obtain ⟨collection, hcollection⟩ := Option.isSome_iff_exists.1 hcollection
    exact ⟨_, _, .noDatabase hcollection hnone⟩
  · cases step with
    | insert collection documents =>
      obtain ⟨before, entry, rest, hsplit, hclashes⟩ := h
      rcases fits_or_clashes (s.store.documents ⟨database, collection⟩) (identified s.store.ids documents) with
        hfits | ⟨first, ⟨id, d⟩, others, heq, hfits, hfirst⟩
      · -- all fit, and so would this one
        have hprefix : Fits (s.store.documents ⟨database, collection⟩) (before ++ [entry]) := by
          rw [hsplit, List.append_cons] at hfits
          exact ⟨fun e he => hfits.1 e (List.mem_append_left _ he), (List.pairwise_append.1 hfits.2).1⟩
        exact absurd hclashes (fits_append_singleton.1 hprefix).2
      · exact ⟨_, _, .taken hsome heq hfits hfirst⟩
    | enableImages collection => exact ⟨_, _, .noCollection hsome h⟩
    | update collection f u => exact ⟨_, _, .nothingToUpdate hsome h⟩
    | deleteOne collection f => exact ⟨_, _, .nothingToDelete hsome h⟩
    | use database => cases h
    | drop collection => cases h
    | deleteMany collection f => cases h

/-- A step that does not fail succeeds. -/
theorem leaves_of_not_fails (h : ¬step.Fails s) : ∃ outcome t, (apply step).Leaves s (.ok outcome) t := by
  obtain ⟨database?, m⟩ := s
  cases database? with
  | none =>
    cases step with
    | use database => exact ⟨_, _, leaves_use database _⟩
    | _ => exact absurd (.inl ⟨rfl, rfl⟩) h
  | some database =>
    have hin : ¬step.FailsIn database m := fun hfails => h (.inr ⟨database, rfl, hfails⟩)
    cases step with
    | use database => exact ⟨_, _, leaves_use database _⟩
    | drop collection => exact ⟨_, _, Seeder.leaves_drop (Memory.leaves_drop m _)⟩
    | insert collection documents =>
      rcases fits_or_clashes (m.documents ⟨database, collection⟩) (identified m.ids documents) with
        hfits | ⟨before, entry, rest, hsplit, -, hclashes⟩
      · exact ⟨_, _, leaves_insert (leaves_insertMany hfits)⟩
      · exact absurd ⟨before, entry, rest, hsplit, hclashes⟩ hin
    | enableImages collection =>
      obtain ⟨c, hc⟩ := Option.ne_none_iff_exists'.1 hin
      exact ⟨_, _, Seeder.leaves_enableImages (Memory.leaves_enableImages hc)⟩
    | update collection f u =>
      obtain ⟨before, d, rest, hfirst⟩ := (none_or_firstSelected f (m.documents ⟨database, collection⟩)).resolve_left hin
      exact ⟨_, _, leaves_update (leaves_updateOne_first hfirst u) Nat.one_ne_zero⟩
    | deleteOne collection f =>
      obtain ⟨before, d, rest, hfirst⟩ := (none_or_firstSelected f (m.documents ⟨database, collection⟩)).resolve_left hin
      exact ⟨_, _, Seeder.leaves_deleteOne (leaves_deleteOne_first hfirst) Nat.one_ne_zero⟩
    | deleteMany collection f => exact ⟨_, _, Seeder.leaves_deleteMany (leaves_deleteMany_filter m ⟨database, collection⟩ f)⟩

/-- A step that succeeds does not fail. -/
theorem not_fails_of_leaves {outcome : StepOutcome} (h : (apply step).Leaves s (.ok outcome) t) : ¬step.Fails s := by
  intro hfails
  obtain ⟨cause, m, hrefused⟩ := exists_refused hfails
  cases (h.unique (leaves_of_refused hrefused)).1

/-- A step that does not succeed fails. -/
theorem fails_of_leaves_error {cause : Cause} (h : (apply step).Leaves s (.error cause) t) : step.Fails s := by
  by_contra hnot
  obtain ⟨outcome, u, hok⟩ := leaves_of_not_fails hnot
  cases (h.unique hok).1

/-! ## Runs -/

/-- Of steps that all succeed none fails after those before it. -/
theorem not_failsAt_of_succeeds {outcomes : List StepOutcome} (h : Succeeds front s outcomes t) (k : Nat) : ¬FailsAt front s k :=
  not_holdsAt_of_succeeds (fun _ _ => True) (fun _ hstep => ⟨not_fails_of_leaves hstep, trivial⟩) h [] trivial k

/-- A step that does not succeed after others that do is the first one that fails. -/
theorem failsAt_iff_eq_length {outcomes : List StepOutcome} {cause : Cause} {u : Seeder Memory} (h : Succeeds front s outcomes t)
    (hstep : (apply step).Leaves t (.error cause) u) (rest : Plan) (k : Nat) :
    FailsAt (front ++ step :: rest) s k ∧ (∀ j < k, ¬FailsAt (front ++ step :: rest) s j) ↔ k = front.length :=
  holdsAt_first_iff h (not_failsAt_of_succeeds h) (fails_of_leaves_error hstep) rest k

/-- A run fails exactly if some step fails after the steps before it. It ends at the first one that does, after the steps before it
succeeded: the failure tells the number of that step and its cause, the database is the one that was selected last, the store is the
one that the refused step leaves, and the steps after it do not matter. -/
theorem run_fails_at_first (plan : Plan) (s : Seeder Memory) :
    ((∃ failure, (run plan s).result = .error failure) ↔ ∃ k, FailsAt plan s k) ∧
      ∀ k, FailsAt plan s k → (∀ j < k, ¬FailsAt plan s j) →
        (∃ report, (run (plan.take k)).Leaves s (.ok report) (after (plan.take k) s)) ∧
          ∃ step cause m, plan[k]? = some step ∧ Refused (after (plan.take k) s) step cause m ∧
            (run plan s).result = .error ⟨.step (k + 1) step.display, cause⟩ ∧
            (run plan s).state = ⟨lastSelected (plan.take k) s.database, m⟩ ∧
            ∀ others, run (plan.take (k + 1) ++ others) s = run plan s := by
  rcases succeeds_or_fails plan s with ⟨outcomes, t, h⟩ | ⟨front, step, rest, outcomes, t, cause, u, rfl, h, hstep⟩
  · have hnone := not_failsAt_of_succeeds h
    refine ⟨⟨?_, fun ⟨k, hk⟩ => absurd hk (hnone k)⟩, fun k hk => absurd hk (hnone k)⟩
    rintro ⟨failure, hfailure⟩
    cases (leaves_run h).result.symm.trans hfailure
  · have hrun := leaves_run_error h hstep rest
    refine ⟨⟨fun _ => ⟨_, ((failsAt_iff_eq_length h hstep rest _).2 rfl).1⟩, fun _ => ⟨_, hrun.result⟩⟩, fun k hk hfirst => ?_⟩
    have hlength := (failsAt_iff_eq_length h hstep rest k).1 ⟨hk, hfirst⟩
    subst hlength
    obtain ⟨cause', m, hrefused⟩ := exists_refused (fails_of_leaves_error hstep)
    obtain ⟨hcause, hstate⟩ := hstep.unique (leaves_of_refused hrefused)
    cases hcause
    have hafter := after_of_succeeds h
    rw [List.take_left, hafter]
    refine ⟨⟨_, leaves_run h⟩, step, cause, m, by simp, hrefused, hrun.result, ?_, fun others => ?_⟩
    · rw [hrun.state, hstate, ← hafter, database_after]
    · rw [List.take_length_add_append, List.append_assoc]
      exact run_congr h hstep others rest

end Seeder

end Seedbed
