import Gatehouse.Federation.Binding
import Gatehouse.Federation.Profile

/-!
# Identity providers

A provider sends the browser to its sign-in page, exchanges the code that comes back for tokens,
and vouches for an ID token.
-/

namespace Gatehouse

/-- The tokens that a provider gives for a code. -/
structure ProviderTokens where
  access : String
  refresh : Option String
  idToken : Option String
  deriving DecidableEq, Repr

/-- The tokens as shown to people, without their texts. -/
def ProviderTokens.shown (t : ProviderTokens) : String :=
  let flag := fun b : Bool => if b then "true" else "false"
  Text.shownRecord "OAuthToken"
    [("has_refresh_token", flag t.refresh.isSome), ("has_id_token", flag t.idToken.isSome)] true

/-- An ID token that was accepted: its claims, and the subject that they name. -/
structure IdToken where
  subject : String
  claims : ClaimSet
  subject_ne : subject ≠ ""
  lookup_sub : claims.lookup "sub" = some (.str subject)

namespace IdToken

/-- The subject among some claims, if it is a text that is not empty. -/
def subject? (claims : ClaimSet) : Option String :=
  ((claims.lookup "sub").bind Json.text?).filter fun subject => subject ≠ ""

theorem subject?_eq_some_iff {claims : ClaimSet} {subject : String} :
    subject? claims = some subject ↔ claims.lookup "sub" = some (.str subject) ∧ subject ≠ "" := by
  simp [subject?, Option.filter_eq_some_iff, Option.bind_eq_some_iff]

/-- The ID token of some claims. -/
def ofClaims (claims : ClaimSet) : Except ProviderError IdToken :=
  match h : subject? claims with
  | none => .error Profile.noSubject
  | some subject =>
    .ok ⟨subject, claims, (subject?_eq_some_iff.mp h).2, (subject?_eq_some_iff.mp h).1⟩

end IdToken

/-- A provider. -/
structure IdentityProvider (m : Type → Type) where
  /-- The address to which the browser is sent; none if the binding does not suit the provider. -/
  authUrl : LoginBinding → Option String
  /-- Exchanges a code, with the proof that this is the one who began the sign-in. -/
  exchange : (code verifier : String) → m (Except ProviderError ProviderTokens)
  /-- Checks an ID token and that it carries a nonce. -/
  verifyIdToken : (raw nonce : String) → m (Except ProviderError IdToken)
  /-- The profile of the user. -/
  profile : ProviderTokens → IdToken → Except ProviderError Profile

end Gatehouse
