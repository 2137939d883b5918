import Gatehouse.Federation.Error
import Gatehouse.Password.Error
import Gatehouse.StoreError
import Gatehouse.Token.Error

/-!
# Outcomes of a failed authentication

An unknown user and a wrong password are kept apart here; what a client sees of them is the same.
-/

namespace Gatehouse

/-- Why someone was not signed in or not recognised. -/
inductive AuthError where
  /-- A wrong password, no password at all, or a refresh token that was taken back. -/
  | invalidCredentials
  /-- There is no user of this name. -/
  | userNotFound (username : String)
  /-- The user is deactivated. -/
  | userInactive (username : String)
  /-- A token could not be used. -/
  | tokenInvalid (reason : String)
  /-- A token was valid until some time ago. -/
  | tokenExpired
  /-- The provider gave no ID token. -/
  | idTokenMissing
  /-- The provider's ID token was not accepted. -/
  | idTokenInvalid (reason : String)
  /-- The state that came back is not the one that was given out. -/
  | invalidState
  /-- The provider did not exchange the code. -/
  | providerFailed (reason : String)
  /-- A request carries no usable access token. -/
  | unauthenticated (reason : String)
  /-- A store failed. -/
  | storeFailure (reason : String)
  /-- Hashing or signing failed. -/
  | internal (reason : String)
  deriving DecidableEq, Repr

namespace AuthError

/-- The text of an outcome. -/
def message : AuthError → String
  | .invalidCredentials => "invalid credentials"
  | .userNotFound username => "user not found: " ++ username
  | .userInactive username => "user is inactive: " ++ username
  | .tokenInvalid reason => "invalid token: " ++ reason
  | .tokenExpired => "token has expired"
  | .idTokenMissing => "provider returned no ID token"
  | .idTokenInvalid reason => "invalid ID token: " ++ reason
  | .invalidState => "OIDC state mismatch"
  | .providerFailed reason => "OIDC provider error: " ++ reason
  | .unauthenticated reason => "not authenticated: " ++ reason
  | .storeFailure reason => "store failure: " ++ reason
  | .internal reason => "internal error: " ++ reason

/-- The outcome of a store's failure. -/
def ofStore (e : StoreError) : AuthError :=
  .storeFailure e.message

end AuthError

end Gatehouse
