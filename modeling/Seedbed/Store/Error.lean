/-!
# Errors of a store

What can go wrong with a call on a store, whatever the store is made of.
-/

namespace Seedbed

/-- Why a call on a store failed. -/
inductive StoreError where
  /-- The store cannot be reached, or does not let the caller in. -/
  | connection (reason : String)
  /-- A collection, or a document that a step needs, is not there. -/
  | notFound (address target : String)
  /-- An identifier is taken. -/
  | duplicateKey (address id : String)
  /-- A value cannot be told to the store. -/
  | typeRepresentation (reason : String)
  /-- Anything else that the store reports. -/
  | backend (reason : String)
  deriving DecidableEq, Repr

/-- An error of a store in words. -/
def StoreError.message : StoreError → String
  | .connection reason => "Connection error: " ++ reason
  | .notFound address target => "Not found in " ++ address ++ ": " ++ target
  | .duplicateKey address id => "Duplicate _id " ++ id ++ " in " ++ address
  | .typeRepresentation reason => "Type representation error: " ++ reason
  | .backend reason => "Store error: " ++ reason

end Seedbed
