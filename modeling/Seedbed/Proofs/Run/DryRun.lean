import Seedbed.Proofs.Run.Commands
import Seedbed.Proofs.Run.Simulation
import Seedbed.Proofs.Server.DryRun

/-!
# A dry run predicts the real one

A plan that is run on a store in memory and on a client of a server with the same contents is reported alike, or fails at the same
step for a cause of the same kind, and leaves the same contents (`run_alike`). This follows step by step from the calls being alike,
for plans whose insertions are of documents that have identifiers and of which every document arrives as it is sent; a count of 64 bits
has to have room for all documents.
-/

namespace Seedbed

/-- Whether a step, if it inserts documents, inserts some, and only such as have identifiers. -/
def Step.InsertsGiven : Step → Prop
  | .insert _ documents => documents ≠ [] ∧ ∀ d ∈ documents, d.has "_id" = true
  | _ => True

/-- Whether all documents that a step has to send can be sent and arrive as they are. -/
def Step.Delivered (step : Step) : Prop := ∀ d ∈ step.documents, d.Sendable ∧ d.Arrives

/-- How many documents a step inserts at most. -/
def Step.inserts : Step → Nat
  | .insert _ documents => documents.length
  | _ => 0

/-- How many documents a plan inserts at most. -/
def inserts (plan : Plan) : Nat := plan.foldr (fun step n => step.inserts + n) 0

/-- Whether two causes are of the same kind. -/
def Cause.SameKind : Cause → Cause → Prop
  | .noDatabase c, .noDatabase d => c = d
  | .store e, .store f => e.SameKind f
  | .fixture _, .fixture _ => True
  | _, _ => False

/-- Whether two failures are of the same kind and in the same context, which is the step that failed. -/
def Failure.SameKind (f g : Failure) : Prop := f.context = g.context ∧ f.cause.SameKind g.cause

namespace Seeder

open Seedbed.Action

/-- Whether two seeders have selected the same database and their stores have the same contents, with room for so many documents. -/
def Mirrors (room : Nat) (s : Seeder Memory) (t : Seeder (Client Deployment)) : Prop :=
  s.database = t.database ∧ Seedbed.Mirrors room s.store t.store

variable {room : Nat} {s : Seeder Memory} {t : Seeder (Client Deployment)} {step : Step}

/-- The calls of a step are alike on a store in memory and on a client. -/
theorem callsAlike_mirrors {m : Memory} {client : Client Deployment} (h : Seedbed.Mirrors (room + step.inserts) m client)
    (hdelivered : step.Delivered) (hgiven : step.InsertsGiven) (database : String) :
    step.CallsAlike (Seedbed.Mirrors room) StoreError.SameKind database m client := by
  cases step with
  | use _ => trivial
  | drop c => exact h.alike_drop ⟨database, c⟩
  | insert c documents =>
    exact h.alike_insertMany ⟨database, c⟩ hgiven.1 hgiven.2 (fun d hd => (hdelivered d hd).1) (fun d hd => (hdelivered d hd).2)
  | enableImages c => exact h.alike_enableImages ⟨database, c⟩
  | update c f u =>
    obtain ⟨hf, hfilter⟩ := hdelivered f.query List.mem_cons_self
    obtain ⟨hu, hchange⟩ := hdelivered u.document (List.mem_cons_of_mem _ List.mem_cons_self)
    exact h.alike_updateOne ⟨database, c⟩ hf hu hfilter hchange
  | deleteOne c f =>
    obtain ⟨hf, hfilter⟩ := hdelivered f.query List.mem_cons_self
    exact h.alike_deleteOne ⟨database, c⟩ hf hfilter
  | deleteMany c f =>
    obtain ⟨hf, hfilter⟩ := hdelivered f.query List.mem_cons_self
    exact h.alike_deleteMany ⟨database, c⟩ hf hfilter

theorem sameKind_refl (cause : Cause) : cause.SameKind cause := by
  cases cause with
  | noDatabase c => rfl
  | store e => cases e <;> trivial
  | fixture e => trivial

/-- Whether two seeders mirror each other before steps all of which can be delivered, with room for all that they insert. -/
def Ready (plan : Plan) (s : Seeder Memory) (t : Seeder (Client Deployment)) : Prop :=
  (∀ step ∈ plan, step.Delivered ∧ step.InsertsGiven) ∧ Mirrors (inserts plan) s t

/-- A step is alike on a store in memory and on a client, and the steps after it find what they need. -/
theorem alike_ready (step : Step) (rest : Plan) (s : Seeder Memory) (t : Seeder (Client Deployment)) (h : Ready (step :: rest) s t) :
    Alike (Ready rest) Cause.SameKind (apply step) (apply step) s t := by
  obtain ⟨hplan, hdatabase, hstore⟩ := h
  obtain ⟨⟨hdelivered, hgiven⟩, hrest⟩ := List.forall_mem_cons.1 hplan
  have hroom : inserts (step :: rest) = inserts rest + step.inserts := by
    rw [inserts, List.foldr_cons, ← inserts, Nat.add_comm]
  rw [hroom] at hstore
  have hstep : Alike (Paired (Seedbed.Mirrors (inserts rest))) Cause.SameKind (apply step) (apply step) s t :=
    alike_apply ⟨hdatabase, hstore.weaken⟩ sameKind_refl (fun _ _ hkind => hkind)
      (fun database _ => callsAlike_mirrors hstore hdelivered hgiven database)
  exact hstep.imp (fun hmirrors => ⟨hrest, hmirrors⟩)

theorem Ready.weaken (rest : Plan) (s : Seeder Memory) (t : Seeder (Client Deployment)) (h : Ready rest s t) : Ready [] s t := by
  obtain ⟨-, hdatabase, hstore⟩ := h
  rw [← Nat.zero_add (inserts rest)] at hstore
  exact ⟨by simp, hdatabase, hstore.weaken⟩

/-- A plan that is run on a store in memory and on a server with the same contents is reported in the same way, or fails at the same
step with an error of the same kind, and the same contents are left. All documents that it inserts have identifiers, none of its
insertions is empty, everything in it can be sent and arrives as it is, and a collection never gets so large that a count of 64 bits
has no room for it. -/
theorem run_alike (plan : Plan) (s : Seeder Memory) (t : Seeder (Client Deployment)) (hdatabase : s.database = t.database)
    (hcontents : t.store.server.catalog = s.store.catalog) (hacknowledged : t.store.IsAcknowledged)
    (hplan : ∀ step ∈ plan, step.Delivered ∧ step.InsertsGiven)
    (hroom : ∀ ns, (s.store.documents ns).length + inserts plan < countLimit) :
    SameResult Failure.SameKind (run plan s).result (run plan t).result ∧
      (run plan s).state.database = (run plan t).state.database ∧
      (run plan t).state.store.server.catalog = (run plan s).state.store.catalog := by
  have hready : Ready plan s t := ⟨hplan, hdatabase, hcontents, hacknowledged, hroom⟩
  have hrun : Alike (Ready []) Failure.SameKind (run plan) (run plan) s t := alike_run alike_ready Ready.weaken hready
  exact ⟨hrun.result, hrun.state.2.1, hrun.state.2.2.contents⟩

/-- A plan that inserts a document, changes it and deletes it. -/
def trial : Plan :=
  [.use "kestra", .drop "mongo_types", .insert "mongo_types" [[("_id", .int32 1)]], .enableImages "mongo_types",
    .update "mongo_types" (.id 1) ⟨"available", .boolean true⟩, .deleteOne "mongo_types" (.id 1)]

/-- It is run on a store without collections and on a server without any, which refuses to drop one that does not exist. -/
theorem run_alike_trial :
    (∀ step ∈ trial, step.Delivered ∧ step.InsertsGiven) ∧
      SameResult Failure.SameKind (run trial ⟨none, Memory.empty ⟨0⟩⟩).result
        (run trial ⟨none, Client.new (⟨Catalog.empty, true⟩ : Deployment) ⟨0⟩⟩).result := by
  have hplan : ∀ step ∈ trial, step.Delivered ∧ step.InsertsGiven := by
    intro step hstep
    simp only [trial, List.mem_cons, List.not_mem_nil, or_false] at hstep
    rcases hstep with rfl | rfl | rfl | rfl | rfl | rfl
    · exact ⟨List.forall_mem_nil _, trivial⟩
    · exact ⟨List.forall_mem_nil _, trivial⟩
    · exact ⟨List.forall_mem_singleton.2 ⟨rfl, rfl⟩, List.cons_ne_nil _ _, List.forall_mem_singleton.2 rfl⟩
    · exact ⟨List.forall_mem_nil _, trivial⟩
    · exact ⟨List.forall_mem_cons.2 ⟨⟨rfl, rfl⟩, List.forall_mem_singleton.2 ⟨rfl, rfl⟩⟩, trivial⟩
    · exact ⟨List.forall_mem_singleton.2 ⟨rfl, rfl⟩, trivial⟩
  have hroom : ∀ ns, ((Memory.empty ⟨0⟩).documents ns).length + inserts trial < countLimit := fun _ => by
    show 0 + 1 < countLimit
    decide
  exact ⟨hplan, (run_alike trial ⟨none, Memory.empty ⟨0⟩⟩ ⟨none, Client.new ⟨Catalog.empty, true⟩ ⟨0⟩⟩ rfl rfl rfl hplan hroom).1⟩

end Seeder

end Seedbed
