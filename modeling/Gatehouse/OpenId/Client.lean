import Gatehouse.OpenId.IdTokenCheck
import Gatehouse.OpenId.Settings
import Gatehouse.OpenId.Transport

/-!
# The client of an OpenID provider

A provider describes itself in a document below the address of its issuer. With that document and
the provider's keys, `OpenIdClient` is an `IdentityProvider`: it sends the browser to the sign-in
page with a challenge for the verifier of the binding, exchanges codes for tokens, and checks ID
tokens.
-/

namespace Gatehouse

/-- What a provider says of itself. -/
structure ProviderMetadata where
  issuer : String
  /-- The sign-in page. -/
  authorizationEndpoint : Url
  /-- Where codes are exchanged for tokens. -/
  tokenEndpoint : Option Url
  /-- Where the keys are. -/
  keysUrl : Url
  deriving DecidableEq, Repr

namespace ProviderMetadata

/-- The place of the document below the address of an issuer. -/
def documentPath : String := ".well-known/openid-configuration"

/-- The address of the document of an issuer. -/
def address (issuer : String) : String :=
  if issuer.toList.getLast? = some '/' then issuer ++ documentPath
  else issuer ++ "/" ++ documentPath

/-- A member that is a URL. -/
def urlMember? (name : String) (j : Json) : Option Url :=
  (j.textMember? name).bind fun s => (Url.read s).toOption

/-- A member that is a URL if it is there. -/
def optionalUrl? (name : String) (j : Json) : Option (Option Url) :=
  match j.member? name with
  | none | some .null => some none
  | some _ => (urlMember? name j).map some

/-- Whether a member is a list of texts. -/
def hasTexts (name : String) (j : Json) : Bool :=
  match j.member? name with
  | some (.arr items) => items.all fun item => item.text?.isSome
  | _ => false

/-- The lists that every description has. -/
def neededLists : List String :=
  ["response_types_supported", "subject_types_supported", "id_token_signing_alg_values_supported"]

/-- Reads a description. -/
def ofJson? (j : Json) : Option ProviderMetadata := do
  let issuer ← j.textMember? "issuer"
  let authorizationEndpoint ← urlMember? "authorization_endpoint" j
  let keysUrl ← urlMember? "jwks_uri" j
  let tokenEndpoint ← optionalUrl? "token_endpoint" j
  if neededLists.all (hasTexts · j) then
    pure ⟨issuer, authorizationEndpoint, tokenEndpoint, keysUrl⟩
  else none

/-- Reads the description of a given issuer. -/
def read (issuer : String) (j : Json) : Except FetchFault ProviderMetadata :=
  match ofJson? j with
  | none => .error .unreadable
  | some found =>
    if found.issuer = issuer then .ok found
    else .error (.invalid ("unexpected issuer URI `" ++ found.issuer ++ "` (expected `" ++ issuer ++
      "`)"))

end ProviderMetadata

/-- A client that knows its provider. -/
structure OpenIdClient where
  settings : OpenIdSettings
  metadata : ProviderMetadata
  keys : List ProviderKey
  deriving DecidableEq, Repr

namespace OpenIdClient

/-! ### Discovery -/

section

variable {m : Type → Type} [Monad m]

/-- Fetches the description of a provider and its keys. -/
def fetchProvider (t : Transport m) (issuer address : String) :
    ExceptT FetchFault m (ProviderMetadata × List ProviderKey) := do
  let metadata ← ProviderMetadata.read issuer (← t.fetch address)
  match ProviderKey.readSet? (← t.fetch metadata.keysUrl.text) with
  | none => throw .unreadable
  | some keys => pure (metadata, keys)

/-- Reads an address in the settings. -/
def readSetting (what s : String) : Except ProviderError Url :=
  (Url.read s).mapError fun fault => .setup ("invalid " ++ what ++ " URL: " ++ fault.message)

/-- Gets to know the provider of some settings. -/
def discover (t : Transport m) (settings : OpenIdSettings) :
    ExceptT ProviderError m OpenIdClient := do
  let failed := fun reason : String => ProviderError.setup ("discovery failed: " ++ reason)
  let _ ← readSetting "provider" settings.providerUrl
  match Url.read (ProviderMetadata.address settings.providerUrl) with
  | .error _ => throw (failed "Failed to parse URL")
  | .ok url =>
    let (metadata, keys) ← ExceptT.mk do
      return (← (fetchProvider t settings.providerUrl url.text).run).mapError fun fault =>
        failed fault.message
    let _ ← readSetting "redirect" settings.redirectUrl
    pure ⟨settings, metadata, keys⟩

end

/-! ### Sending the browser to the provider -/

/-- Whether a verifier has a length that providers accept. -/
def acceptsVerifier (verifier : String) : Bool :=
  let size := (Text.utf8 verifier).length
  43 ≤ size && size ≤ 128

/-- The challenge for a verifier. -/
def challenge (verifier : String) : String :=
  Base64.encode Base64.urlSafe (Sha256.digest (Text.utf8 verifier))

/-- The scope that makes a request one for an ID token. -/
def idScope : String := "openid"

/-- The scopes of a request: the one for an ID token, and the others of the settings. -/
def requestedScopes (settings : OpenIdSettings) : List String :=
  idScope :: settings.scopes.filter (· ≠ idScope)

/-- The fields of the address to which the browser is sent. -/
def authFields (settings : OpenIdSettings) (b : LoginBinding) : List (String × String) :=
  [("response_type", "code"), ("client_id", settings.clientId), ("state", b.state),
    ("code_challenge", challenge b.verifier), ("code_challenge_method", "S256"),
    ("redirect_uri", settings.redirectUrl), ("scope", " ".intercalate (requestedScopes settings)),
    ("nonce", b.nonce)]

/-- The address to which the browser is sent. -/
def authUrl (c : OpenIdClient) (b : LoginBinding) : Option String :=
  if acceptsVerifier b.verifier then
    some (c.metadata.authorizationEndpoint.addFields (authFields c.settings b)).text
  else none

/-! ### Exchanging codes -/

/-- The request that exchanges a code. -/
def exchangeRequest (settings : OpenIdSettings) (endpoint : Url) (code verifier : String) :
    ProviderRequest where
  method := "POST"
  url := endpoint.text
  credentials := some (settings.clientId, settings.clientSecret)
  form := [("grant_type", "authorization_code"), ("code", code), ("code_verifier", verifier),
    ("redirect_uri", settings.redirectUrl)]

/-- The failure of an exchange. -/
def exchangeFailed (reason : String) : ProviderError :=
  .exchangeFailed ("token exchange failed: " ++ reason)

/-- What a provider says of a refused exchange. -/
def refusalText (error : String) (description address : Option String) : String :=
  error ++ (description.map (": " ++ ·)).getD "" ++
    (address.map fun s => " (see " ++ s ++ ")").getD ""

/-- The failure that an answer without tokens stands for. -/
def refusal (r : ProviderReply) : ProviderError :=
  if r.body = "" then exchangeFailed "Other error: server returned empty error response"
  else
    match Json.read r.body with
    | .error _ => exchangeFailed FetchFault.unreadable.message
    | .ok j =>
      match j.textMember? "error" with
      | none => exchangeFailed FetchFault.unreadable.message
      | some error => exchangeFailed ("Server returned error response: " ++
          refusalText error (j.textMember? "error_description") (j.textMember? "error_uri"))

/-- A member that is a text if it is there. -/
def optionalText? (name : String) (j : Json) : Option (Option String) :=
  match j.member? name with
  | none | some .null => some none
  | some (.str s) => some (some s)
  | some _ => none

/-- Reads tokens. An ID token has to have the parts of one. -/
def readTokens? (j : Json) : Option ProviderTokens := do
  let access ← j.textMember? "access_token"
  let _ ← j.textMember? "token_type"
  let refresh ← optionalText? "refresh_token" j
  let idToken ← optionalText? "id_token" j
  if idToken.all fun raw => (RawIdToken.read? raw).any RawIdToken.isComplete then
    pure ⟨access, refresh, idToken⟩
  else none

/-- The tokens in the answer to an exchange. -/
def tokensOf (r : ProviderReply) : Except ProviderError ProviderTokens :=
  if r.status ≠ 200 then .error (refusal r)
  else if !r.isJson then .error (exchangeFailed ("Other error: " ++ r.typeReason))
  else if r.body = "" then
    .error (exchangeFailed "Other error: server returned empty response body")
  else
    match (Json.read r.body).toOption.bind readTokens? with
    | none => .error (exchangeFailed FetchFault.unreadable.message)
    | some tokens => .ok tokens

/-- Exchanges a code. -/
def exchange {m : Type → Type} [Monad m] (c : OpenIdClient) (t : Transport m)
    (code verifier : String) : m (Except ProviderError ProviderTokens) := do
  match c.metadata.tokenEndpoint with
  | none =>
    return .error (.exchangeFailed "token endpoint error: No token endpoint URL specified")
  | some endpoint =>
    match ← t.trySend (exchangeRequest c.settings endpoint code verifier) with
    | .error fault => return .error (exchangeFailed fault.message)
    | .ok reply => return tokensOf reply

/-! ### The provider -/

/-- What ID tokens have to agree with. -/
def policy (c : OpenIdClient) : IdTokenPolicy :=
  ⟨c.metadata.issuer, c.settings.clientId, c.keys⟩

/-- The client as a provider, at some moment. -/
def provider {m : Type → Type} [Monad m] (c : OpenIdClient) (t : Transport m) (now : Int) :
    IdentityProvider m where
  authUrl := c.authUrl
  exchange := c.exchange t
  verifyIdToken raw nonce := pure (c.policy.verify now raw nonce)
  profile _ idToken := Profile.ofClaims idToken.claims c.settings.rolesClaim

end OpenIdClient

end Gatehouse
