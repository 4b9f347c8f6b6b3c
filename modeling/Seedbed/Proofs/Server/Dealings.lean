import Seedbed.Proofs.Server.Calls
import Seedbed.Proofs.Store.Operations

/-!
# Dealings with a server, and how they are told

Every call of a client is a dealing with its server (`Call.deal`), whose result it has, and whose fault it tells as an error of the
store (`Call.leaves_of_deal_ok`, `Call.leaves_of_deal_error`). A drop is the one exception: it succeeds if the command is refused
because there is no such collection (`Call.leaves_drop_of_missing`). Where there are no documents to be inserted there is no dealing.
-/

namespace Seedbed.Call

/-! ## Calls on any store -/

/-- What a call has for a result. -/
def Result : Call → Type
  | .drop => Unit
  | .insertMany _ => Nat
  | .enableImages => Unit
  | .updateOne _ _ => UpdateOutcome
  | .deleteOne _ => Nat
  | .deleteMany _ => Nat
  | .findAll => List Document
  | .imagesEnabled => Bool

/-- A call made on a store. -/
def on {σ : Type} [DocumentStore σ] (ns : Namespace) : (call : Call) → Action StoreError σ call.Result
  | .drop => DocumentStore.drop ns
  | .insertMany documents => DocumentStore.insertMany ns documents
  | .enableImages => DocumentStore.enableImages ns
  | .updateOne f u => DocumentStore.updateOne ns f u
  | .deleteOne f => DocumentStore.deleteOne ns f
  | .deleteMany f => DocumentStore.deleteMany ns f
  | .findAll => DocumentStore.findAll ns
  | .imagesEnabled => DocumentStore.imagesEnabled ns

/-! ## Calls of a client -/

variable {κ : Type} [Server κ]

/-- The dealing of a client with a server for a call, before it is told in words of a store. -/
def deal (ns : Namespace) : (call : Call) → Action ServerFault (Client κ) call.Result
  | .drop => Dealing.drop ns
  | .insertMany documents => Dealing.insertMany ns documents
  | .enableImages => Dealing.enableImages ns
  | .updateOne f u => Dealing.updateOne ns f.query u.document
  | .deleteOne f => Dealing.delete ns f.query true
  | .deleteMany f => Dealing.delete ns f.query false
  | .findAll => Dealing.findAll ns
  | .imagesEnabled => Dealing.imagesEnabled ns

variable {ns : Namespace} {call : Call} {client t : Client κ}

/-- Every call but a drop is its dealing, told in words of a store. -/
theorem on_eq_telling (ns : Namespace) (hdrop : call ≠ .drop) (hsome : call ≠ .insertMany []) :
    (call.on ns : Action StoreError (Client κ) call.Result) = Client.telling ns (call.deal ns) := by
  cases call with
  | drop => exact absurd rfl hdrop
  | insertMany documents =>
    have hne : documents ≠ [] := fun h => hsome (congrArg Call.insertMany h)
    exact Client.insertMany_of_ne ns hne
  | _ => rfl

/-- A call has the result that its dealing comes to. -/
theorem leaves_of_deal_ok {a : call.Result} (hsome : call ≠ .insertMany []) (h : (call.deal ns).Leaves client (.ok a) t) :
    (call.on ns).Leaves client (.ok a) t := by
  by_cases hdrop : call = .drop
  · subst hdrop
    exact Client.leaves_drop_of_dealing h
  · rw [on_eq_telling ns hdrop hsome]
    exact Client.leaves_telling h ns

/-- The drop of a collection that does not exist succeeds. -/
theorem leaves_drop_of_missing {fault : ServerFault} (h : (Call.drop.deal ns).Leaves client (.error fault) t)
    (hmissing : fault.saysMissing = true) : (Call.drop.on ns).Leaves client (.ok ()) t := by
  have hdrop : (Client.drop ns).Leaves client _ t := Client.leaves_drop_of_dealing h
  simp only [Reply.tolerateMissing, if_pos hmissing] at hdrop
  exact hdrop

/-- A call fails with the fault that its dealing comes to, unless it is a drop and there is no such collection. -/
theorem leaves_of_deal_error {fault : ServerFault} (hsome : call ≠ .insertMany []) (h : (call.deal ns).Leaves client (.error fault) t)
    (htold : ¬(call = .drop ∧ fault.saysMissing = true)) : (call.on ns).Leaves client (.error (fault.storeError ns)) t := by
  by_cases hdrop : call = .drop
  · subst hdrop
    have hpresent : ¬fault.saysMissing = true := fun hmissing => htold ⟨rfl, hmissing⟩
    have hleaves : (Client.drop ns).Leaves client _ t := Client.leaves_drop_of_dealing h
    simp only [Reply.tolerateMissing, if_neg hpresent] at hleaves
    exact hleaves
  · rw [on_eq_telling ns hdrop hsome]
    exact Client.leaves_telling h ns

end Seedbed.Call
