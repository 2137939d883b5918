/-!
# Failures of password digests
-/

namespace Gatehouse

/-- A digest could not be made, or a stored one makes no sense. -/
inductive PasswordError where
  | digest (reason : String)
  deriving DecidableEq, Repr

/-- The text of a failure. -/
def PasswordError.message : PasswordError → String
  | .digest reason => "password hash error: " ++ reason

end Gatehouse
