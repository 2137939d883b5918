import Gatehouse.Federation.Provider
import Gatehouse.Session.Service

/-!
# Signing in by a provider

A sign-in begins with a fresh binding, which the browser keeps while it is at the provider. It is
completed only for a browser that brings back the state of its binding; then the code is exchanged
with the binding's verifier, and the ID token has to carry the binding's nonce. A user who signs in
for the first time is created.
-/

namespace Gatehouse

/-- Where the browser is sent, and what it keeps until it comes back. -/
structure LoginStart where
  url : String
  binding : LoginBinding
  deriving DecidableEq, Repr

/-- Signs users in by a provider. -/
structure FederationService (m : Type → Type) where
  provider : IdentityProvider m
  users : UserStore m
  codec : TokenCodec

namespace FederationService

variable {m : Type → Type} [Monad m]

/-- Begins a sign-in. -/
def beginSignIn (s : FederationService m) (state nonce verifier : Draw) : Option LoginStart :=
  let binding := LoginBinding.ofDraws state nonce verifier
  (s.provider.authUrl binding).map fun url => ⟨url, binding⟩

/-- Calls the provider; a failure becomes a failure of the operation. -/
def fromProvider {α : Type} (wrap : String → AuthError) (call : m (Except ProviderError α)) :
    ExceptT AuthError m α :=
  ExceptT.mk do return (← call).mapError fun e => wrap e.message

/-- Checks the state that came back. -/
def checkState (received : String) (binding : LoginBinding) : Except AuthError Unit :=
  if binding.state = "" ∨ received ≠ binding.state then .error .invalidState else .ok ()

/-- The ID token among the tokens of the provider. -/
def presentIdToken (tokens : ProviderTokens) : Except AuthError String :=
  match tokens.idToken.filter fun raw => raw ≠ "" with
  | none => .error .idTokenMissing
  | some raw => .ok raw

/-- The template of a user who signs in for the first time. -/
def template (p : Profile) : UserTemplate :=
  { UserTemplate.ofUsername p.username with firstname := p.firstName, lastname := p.lastName }

/-- Completes a sign-in with the code and the state that came back. None if the program stops when
the session is opened. -/
def complete (s : FederationService m) (at_ : Issuance) (code received : String)
    (binding : LoginBinding) : ExceptT AuthError m (Option Session) := do
  checkState received binding
  let tokens ← fromProvider .providerFailed (s.provider.exchange code binding.verifier)
  let raw ← presentIdToken tokens
  let idToken ← fromProvider .idTokenInvalid (s.provider.verifyIdToken raw binding.nonce)
  let profile ← fromProvider .idTokenInvalid (pure (s.provider.profile tokens idToken))
  let user ← fromStore (s.users.findOrCreate (template profile))
  if !user.active then throw (.userInactive user.username)
  else establish s.users s.codec at_ user .openId profile.roles

end FederationService

end Gatehouse
