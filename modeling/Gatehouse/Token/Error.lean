/-!
# Failures of tokens
-/

namespace Gatehouse

/-- What may go wrong when tokens are issued and checked. -/
inductive TokenError where
  /-- The settings do not allow tokens to be issued. -/
  | settings (reason : String)
  /-- The token is not one of ours or not one at all. -/
  | invalid (reason : String)
  /-- The token was valid until some time ago. -/
  | expired
  /-- The token could not be signed. -/
  | signing (reason : String)
  deriving DecidableEq, Repr

/-- The text of a failure. -/
def TokenError.message : TokenError → String
  | .settings reason => "token configuration error: " ++ reason
  | .invalid reason => "invalid token: " ++ reason
  | .expired => "token has expired"
  | .signing reason => "failed to sign token: " ++ reason

end Gatehouse
