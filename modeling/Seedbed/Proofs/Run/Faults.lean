import Seedbed.Proofs.Run.Operations
import Seedbed.Proofs.Server.Refusals

/-!
# Faults in a run

What goes wrong with a call is told by the call, and nothing goes wrong in silence but the drop of a collection that does not exist; what
is told of a refusal is a matter of its code (`Call.told_by_code`). A step whose call on the store fails ends the run, and the error of
the store is the cause of the failure (`Seeder.leaves_run_call_error`).
-/

namespace Seedbed

namespace Seeder

variable {σ : Type} [DocumentStore σ] {m n : σ} {s t : Seeder σ} {step : Step} {front : Plan} {outcomes : List StepOutcome}
  {database collection : String} {call : Call} {e : StoreError}

/-- A step whose call on the store fails, fails with the error of the store. -/
theorem leaves_apply_call_error (hcall : step.call? = some (collection, call))
    (h : (call.on ⟨database, collection⟩).Leaves m (.error e) n) :
    (apply step).Leaves ⟨some database, m⟩ (.error (.store e)) ⟨some database, n⟩ := by
  cases step with
  | use other => cases hcall
  | _ =>
    cases hcall
    exact leaves_call_error h

/-- A run ends with the first call that fails, and the error of the store is the cause of its failure. -/
theorem leaves_run_call_error (hfront : Succeeds front s outcomes t) (hdatabase : t.database = some database)
    (hcall : step.call? = some (collection, call)) (h : (call.on ⟨database, collection⟩).Leaves t.store (.error e) n) (rest : Plan) :
    (run (front ++ step :: rest)).Leaves s (.error ⟨.step (front.length + 1) step.display, .store e⟩) ⟨some database, n⟩ := by
  obtain ⟨selected, store⟩ := t
  obtain rfl : selected = some database := hdatabase
  exact leaves_run_error hfront (leaves_apply_call_error hcall h) rest

end Seeder

namespace Call

/-- Every fault in the dealing with a server for a call makes the call fail with the error that the fault is told by, but for one: a drop
that is refused as a command with the code 26 succeeds. A refusal is told by the same error whether a command, a write or the first of
several writes is refused, and the code alone decides of which kind that is. So it is on a server that always answers the same, however
often it is asked: with a fault and no reply, with the refusal of everything or of every write, and with everything done but nothing
confirmed. The error of a call that ends a run is the cause of the failure of the run. -/
theorem told_by_code :
    (∀ (κ : Type) [Server κ] (ns : Namespace) (call : Call) (client t : Client κ), call ≠ .insertMany [] →
      (∀ a, (call.deal ns).Leaves client (.ok a) t → (call.on ns).Leaves client (.ok a) t) ∧
        ∀ fault, (call.deal ns).Leaves client (.error fault) t →
          ((∃ a, (call.on ns).Leaves client (.ok a) t) ↔ call = .drop ∧ ∃ message, fault = .command ⟨26, message⟩) ∧
            (¬(call = .drop ∧ ∃ message, fault = .command ⟨26, message⟩) →
              (call.on ns).Leaves client (.error (fault.storeError ns)) t)) ∧
      (∀ (ns : Namespace) (refusal : Refusal) (fault : ServerFault), fault.Tells refusal →
        fault.storeError ns = refusal.storeError ns ∧ refusal.Classified ns (fault.storeError ns)) ∧
      (∀ (ns : Namespace) (call : Call) (client : Client Steady), client.IsAcknowledged → call.Sendable →
        (∀ fault, client.server.answer = .error fault → ¬(call = .drop ∧ ∃ message, fault = .command ⟨26, message⟩) →
          ∃ t, (call.on ns).Leaves client (.error (fault.storeError ns)) t) ∧
        (∀ refusal, client.server.answer = .ok (Reply.refusing refusal) → ¬(call = .drop ∧ refusal.code = 26) →
          ∃ t, (call.on ns).Leaves client (.error (refusal.storeError ns)) t) ∧
        (∀ refusal, client.server.answer = .ok (Reply.refusing refusal) → call = .drop → refusal.code = 26 →
          ∃ a t, (call.on ns).Leaves client (.ok a) t) ∧
        (∀ refusal others, client.server.answer = .ok (Reply.refusingWrites (refusal :: others)) → call.Writes →
          ∃ t, (call.on ns).Leaves client (.error (refusal.storeError ns)) t) ∧
        ∀ count code codeName message, client.server.answer = .ok (Reply.unconfirmed count code codeName message) →
          call = .drop ∨ call.Writes → ∃ text t, (call.on ns).Leaves client (.error (.backend (ns.render ++ ": " ++ text))) t) ∧
      ∀ (σ : Type) [DocumentStore σ] (front rest : Plan) (step : Step) (s t : Seeder σ) (outcomes : List StepOutcome)
        (database collection : String) (call : Call) (e : StoreError) (n : σ), Seeder.Succeeds front s outcomes t →
        t.database = some database → step.call? = some (collection, call) →
        (call.on ⟨database, collection⟩).Leaves t.store (.error e) n →
        (Seeder.run (front ++ step :: rest)).Leaves s (.error ⟨.step (front.length + 1) step.display, .store e⟩) ⟨some database, n⟩ := by
  refine ⟨?_, ?_, ?_, ?_⟩
  · intro κ _ ns call client t hsome
    refine ⟨fun a hdeal => leaves_of_deal_ok hsome hdeal, fun fault hdeal => ?_⟩
    rw [← ServerFault.saysMissing_iff]
    refine ⟨⟨?_, ?_⟩, leaves_of_deal_error hsome hdeal⟩
    · rintro ⟨a, hon⟩
      by_contra htold
      cases (hon.unique (leaves_of_deal_error hsome hdeal htold)).1
    · rintro ⟨rfl, hmissing⟩
      exact ⟨(), leaves_drop_of_missing hdeal hmissing⟩
  · intro ns refusal fault htells
    rw [htells.storeError_eq]
    exact ⟨rfl, refusal.classified_storeError ns⟩
  · intro ns call client hacknowledged hsendable
    refine ⟨?_, ?_, ?_, ?_, ?_⟩
    · intro fault hanswer htold
      rw [← ServerFault.saysMissing_iff] at htold
      exact leaves_unanswered ns hacknowledged hsendable hanswer htold
    · intro refusal hanswer htold
      exact leaves_refused ns hacknowledged hsendable hanswer htold
    · rintro refusal hanswer rfl hmissing
      exact ⟨(), leaves_drop_refused ns hacknowledged hanswer hmissing⟩
    · intro refusal others hanswer hwrites
      exact leaves_refusedWrite ns hacknowledged hsendable hwrites hanswer
    · intro count code codeName message hanswer hwrites
      exact leaves_unconfirmed ns hacknowledged hsendable hwrites hanswer
  · intro σ _ front rest step s t outcomes database collection call e n hfront hdatabase hcall hon
    exact Seeder.leaves_run_call_error hfront hdatabase hcall hon rest

/-- A client of a server that lets it do nothing. -/
def barred : Client Steady := Client.new ⟨.ok (Reply.refusing ⟨13, "not authorized on kestra"⟩)⟩ ⟨0⟩

/-- A run that may do nothing fails for want of a connection. -/
theorem told_by_code_barred :
    ∃ n, (Seeder.run [.use "kestra", .drop "mongo_types"]).Leaves ⟨none, barred⟩
      (.error ⟨.step 2 (Step.drop "mongo_types").display, .store (.connection "not authorized on kestra")⟩) ⟨some "kestra", n⟩ := by
  have hdrop := (told_by_code.2.2.1 ⟨"kestra", "mongo_types"⟩ .drop barred rfl trivial).2.1 ⟨13, "not authorized on kestra"⟩ rfl
    (by simp)
  obtain ⟨n, hdrop⟩ := hdrop
  have hfront : Seeder.Succeeds [.use "kestra"] ⟨none, barred⟩ [.selected] ⟨some "kestra", barred⟩ :=
    .cons (Seeder.leaves_use "kestra" _) (.nil _)
  exact ⟨n, told_by_code.2.2.2 (Client Steady) _ [] _ _ _ _ _ _ _ _ n hfront rfl rfl hdrop⟩

end Call

end Seedbed
