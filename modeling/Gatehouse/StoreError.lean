/-!
# Failures of a store

What may go wrong when users or roles are read from or written to a store.
-/

namespace Gatehouse

/-- A failure of a store of users or roles. -/
inductive StoreError where
  /-- The store could not be reached or refused the call. -/
  | unavailable (reason : String)
  /-- The store holds data that cannot be understood. -/
  | corrupt (reason : String)
  /-- A value could not be written in the store's format. -/
  | encoding (reason : String)
  deriving DecidableEq, Repr

/-- The text of a failure. -/
def StoreError.message : StoreError → String
  | .unavailable reason => "store unavailable: " ++ reason
  | .corrupt reason => "store returned corrupt data: " ++ reason
  | .encoding reason => "value could not be encoded for storage: " ++ reason

end Gatehouse
