/-!
# Failures of an identity provider
-/

namespace Gatehouse

/-- What may go wrong in talking to an identity provider. -/
inductive ProviderError where
  /-- The provider could not be set up. -/
  | setup (reason : String)
  /-- The authorization code was not exchanged for tokens. -/
  | exchangeFailed (reason : String)
  /-- The ID token was not accepted. -/
  | idTokenInvalid (reason : String)
  /-- The claims of the ID token could not be read. -/
  | claimsUnreadable (reason : String)
  deriving DecidableEq, Repr

/-- The text of a failure. -/
def ProviderError.message : ProviderError → String
  | .setup reason => "OIDC provider initialization failed: " ++ reason
  | .exchangeFailed reason => "OIDC code exchange failed: " ++ reason
  | .idTokenInvalid reason => "invalid ID token: " ++ reason
  | .claimsUnreadable reason => "failed to parse ID token claims: " ++ reason

end Gatehouse
