import Gatehouse.Session.Error

/-!
# What a client is told about a failure

Every failure has a status and a short text for the client. A client never learns whether a user
exists, and nothing of what went wrong inside the service.
-/

namespace Gatehouse

/-- A request that was not carried out. -/
inductive Problem where
  | auth (error : AuthError)
  | store (error : StoreError)
  /-- Sign-in by a provider is switched off. -/
  | federationDisabled
  /-- The provider sent the browser back without a code. -/
  | signInAborted (reason : String)
  deriving DecidableEq, Repr

namespace Problem

/-- The full text of a problem. -/
def message : Problem → String
  | .auth e => e.message
  | .store e => e.message
  | .federationDisabled => "OpenID sign-in is disabled"
  | .signInAborted reason => "OpenID sign-in aborted: " ++ reason

/-- The status and the text that a client sees. -/
def shown : Problem → Nat × String
  | .auth .invalidCredentials | .auth (.userNotFound _) => (401, "Invalid username or password")
  | .auth (.userInactive _) => (403, "User is inactive")
  | .auth (.tokenInvalid _) | .auth .tokenExpired => (401, "Invalid or expired token")
  | .auth (.unauthenticated _) => (401, "Authentication required")
  | .auth .invalidState => (400, "Invalid sign-in state")
  | .auth .idTokenMissing | .auth (.idTokenInvalid _) => (401, "Federated sign-in failed")
  | .auth (.providerFailed _) => (502, "Identity provider unavailable")
  | .auth (.storeFailure _) | .auth (.internal _) => (500, "Internal server error")
  | .store _ => (500, "Internal server error")
  | .federationDisabled => (404, "OpenID sign-in is disabled")
  | .signInAborted _ => (400, "Sign-in was not completed")

end Problem

end Gatehouse
