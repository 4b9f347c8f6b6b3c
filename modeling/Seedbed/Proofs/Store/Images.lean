import Mathlib.Data.List.Induction
import Seedbed.Proofs.Store.Operations

/-!
# When images of a collection are captured

Two calls alone have to do with the capture of images: a drop takes it away with the collection, and turning it on succeeds for a
collection that exists (`captures_perform`). A new collection has none, also one in the place of another that was dropped. So images
are captured after a run from an empty store exactly if the run turned them on, with success, and did not drop the collection after
that (`captures_run`).
-/

namespace Seedbed

/-- What a call makes of the capture of images, whatever documents it inserts, changes or deletes. -/
theorem images_after (call : Call) (ids : IdSource) (c : Option Collection) :
    ((call.after ids c).map Collection.images).getD false =
      match call with
      | .drop => false
      | .enableImages => c.isSome
      | _ => (c.map Collection.images).getD false := by
  cases c with
  | none => cases call <;> rfl
  | some c => cases call <;> rfl

namespace Memory

variable {m : Memory} {ns : Namespace} {ids : IdSource} {ops : List Operation} {op : Operation}

/-- Whether images of a collection are captured; not of one that does not exist. -/
def captures (m : Memory) (ns : Namespace) : Bool := ((m.collection? ns).map Collection.images).getD false

theorem result_imagesEnabled (m : Memory) (ns : Namespace) : (imagesEnabled ns m).result = .ok (m.captures ns) := rfl

/-- Images are turned on exactly for a collection that exists. -/
theorem result_enableImages_iff : (enableImages ns m).result = .ok () ↔ (m.collection? ns).isSome = true := by
  unfold enableImages
  cases m.collection? ns with
  | none => simp
  | some c => simp

/-- A collection of which images are captured exists. -/
theorem isSome_of_captures (h : m.captures ns = true) : (m.collection? ns).isSome = true := by
  cases hc : m.collection? ns with
  | none =>
    rw [captures, hc] at h
    cases h
  | some c => rfl

/-! ## One operation -/

theorem captures_perform_drop (m : Memory) (ns : Namespace) : (Call.drop.perform ns m).captures ns = false := by
  rw [captures, collection?_perform, if_pos rfl, images_after]

theorem captures_perform_enableImages (m : Memory) (ns : Namespace) :
    (Call.enableImages.perform ns m).captures ns = (m.collection? ns).isSome := by
  rw [captures, collection?_perform, if_pos rfl, images_after]

/-- No other operation sets or clears the capture of images of a collection. -/
theorem captures_perform (hdrop : op ≠ ⟨ns, .drop⟩) (henable : op ≠ ⟨ns, .enableImages⟩) (m : Memory) :
    (op.call.perform op.address m).captures ns = m.captures ns := by
  obtain ⟨address, call⟩ := op
  rw [captures, collection?_perform]
  by_cases haddress : address = ns
  · subst haddress
    rw [if_pos rfl, images_after]
    cases call with
    | drop => exact absurd rfl hdrop
    | enableImages => exact absurd rfl henable
    | _ => rfl
  · rw [if_neg haddress, captures]

/-! ## Runs -/

/-- Whether a run from an empty store turns images of a collection on, with success, and does not drop the collection after that. -/
def TurnsOn (ids : IdSource) (ns : Namespace) (ops : List Operation) : Prop :=
  ∃ before after, ops = before ++ ⟨ns, .enableImages⟩ :: after ∧ (enableImages ns (run before (empty ids))).result = .ok () ∧
    ∀ op ∈ after, op ≠ ⟨ns, .drop⟩

/-- That is a call since the last drop. -/
theorem turnsOn_iff :
    TurnsOn ids ns ops ↔
      Since ns (fun before call => call = .enableImages ∧ (enableImages ns (run before (empty ids))).result = .ok ()) ops := by
  constructor
  · rintro ⟨before, after, hsplit, hsucceeds, hkept⟩
    exact ⟨before, .enableImages, after, hsplit, ⟨rfl, hsucceeds⟩, hkept⟩
  · rintro ⟨before, call, after, hsplit, ⟨rfl, hsucceeds⟩, hkept⟩
    exact ⟨before, after, hsplit, hsucceeds, hkept⟩

/-- A run that is longer by one operation turns images on with that operation, or has turned them on before it. -/
theorem turnsOn_append_singleton :
    TurnsOn ids ns (ops ++ [op]) ↔
      (op = ⟨ns, .enableImages⟩ ∧ (enableImages ns (run ops (empty ids))).result = .ok ()) ∨
        (TurnsOn ids ns ops ∧ op ≠ ⟨ns, .drop⟩) := by
  obtain ⟨address, call⟩ := op
  rw [turnsOn_iff, turnsOn_iff, since_append_singleton, Operation.mk.injEq, and_assoc]

/-- Images of a collection are captured after a run from an empty store exactly if the run turned them on, with success, and did not
drop the collection after that; and no operation but these two on this very collection, on whatever store and whether or not it
succeeds, sets or clears the capture. -/
theorem captures_run (ops : List Operation) (ids : IdSource) (ns : Namespace) :
    ((imagesEnabled ns (run ops (empty ids))).result = .ok true ↔ TurnsOn ids ns ops) ∧
      ∀ (m : Memory) (op : Operation), op ≠ ⟨ns, .drop⟩ → op ≠ ⟨ns, .enableImages⟩ →
        (imagesEnabled ns (op.call.perform op.address m)).result = (imagesEnabled ns m).result := by
  refine ⟨?_, fun m op hdrop henable => ?_⟩
  · rw [result_imagesEnabled, Except.ok.injEq]
    induction ops using List.reverseRecOn with
    | nil => simp [TurnsOn, run, empty, captures, collection?, Catalog.empty, Catalog.get?, Catalog.lookup]
    | append_singleton ops op ih =>
      rw [run_append_singleton, turnsOn_append_singleton, ← ih, result_enableImages_iff]
      by_cases hdrop : op = ⟨ns, .drop⟩
      · subst hdrop
        simp [captures_perform_drop]
      by_cases henable : op = ⟨ns, .enableImages⟩
      · subst henable
        rw [captures_perform_enableImages]
        constructor
        · exact fun hsome => .inl ⟨rfl, hsome⟩
        · rintro (⟨-, hsome⟩ | ⟨hcaptures, -⟩)
          · exact hsome
          · exact isSome_of_captures hcaptures
      · rw [captures_perform hdrop henable]
        simp [hdrop, henable]
  · rw [result_imagesEnabled, result_imagesEnabled, captures_perform hdrop henable]

end Memory

end Seedbed
