import Seedbed.Action
import Seedbed.Store.Error
import Seedbed.Store.Filter
import Seedbed.Store.Namespace

/-!
# Document stores

The calls that a document store answers. Plans are run against any store, and the seeded state is verified on any store.
-/

namespace Seedbed

/-- A document store whose states are those of `σ`. -/
class DocumentStore (σ : Type) where
  /-- Drops a collection, whether or not it exists. -/
  drop : Namespace → Action StoreError σ Unit
  /-- Inserts documents in order and tells how many were inserted. -/
  insertMany : Namespace → List Document → Action StoreError σ Nat
  /-- Turns on the capture of images before and after a change of a collection. -/
  enableImages : Namespace → Action StoreError σ Unit
  /-- Updates the first document that a filter selects. -/
  updateOne : Namespace → Filter → FieldUpdate → Action StoreError σ UpdateOutcome
  /-- Deletes the first document that a filter selects and tells how many were deleted. -/
  deleteOne : Namespace → Filter → Action StoreError σ Nat
  /-- Deletes every document that a filter selects and tells how many were deleted. -/
  deleteMany : Namespace → Filter → Action StoreError σ Nat
  /-- The documents of a collection in their natural order. -/
  findAll : Namespace → Action StoreError σ (List Document)
  /-- Whether the capture of images is turned on; it is off for a collection that does not exist. -/
  imagesEnabled : Namespace → Action StoreError σ Bool

end Seedbed
