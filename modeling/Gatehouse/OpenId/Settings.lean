import Gatehouse.Json.Decode
import Gatehouse.Text.Blank
import Gatehouse.Text.Quoted

/-!
# Settings for an OpenID provider

The scopes that are asked for are kept as one text, separated by commas.
-/

namespace Gatehouse

open Decoder

/-- How sign-in by an OpenID provider works. -/
structure OpenIdSettings where
  /-- Whether there is sign-in by a provider at all. -/
  enabled : Bool
  /-- The issuer, at whose address the provider describes itself. -/
  providerUrl : String
  clientId : String
  clientSecret : String
  /-- Where the provider sends the browser back to. -/
  redirectUrl : String
  /-- The scopes, separated by commas. -/
  scopeText : String
  /-- The path to the roles in the claims of an ID token. -/
  rolesPath : Option String
  /-- What the button says. -/
  name : String
  icon : Option String
  deriving DecidableEq, Repr

namespace OpenIdSettings

/-- The scopes that are asked for if nothing else is said. -/
def usualScopes : List String :=
  ["openid", "profile", "email"]

/-- The settings without a provider. -/
def disabled : OpenIdSettings :=
  ⟨false, "", "", "", "", ",".intercalate usualScopes, none, "OpenID", none⟩

/-- The scopes of a text: its parts between commas, without blanks around them and without empty
parts. -/
def parseScopes (s : String) : List String :=
  ((Text.splitAt ',' s).map Text.trim).filter fun scope => scope ≠ ""

/-- The scopes that are asked for. -/
def scopes (s : OpenIdSettings) : List String :=
  parseScopes s.scopeText

/-- The path to the roles, unless it is empty. -/
def rolesClaim (s : OpenIdSettings) : Option String :=
  s.rolesPath.filter fun path => path ≠ ""

/-- Adds a scope that is not there yet. -/
def addScope (scopes : List String) (scope : String) : List String :=
  if scope ∈ scopes then scopes else scopes ++ [scope]

/-- The settings of a provider with further scopes. -/
def ofProvider (providerUrl clientId clientSecret redirectUrl : String) (added : List String) :
    OpenIdSettings :=
  { disabled with
    enabled := true
    providerUrl := providerUrl
    clientId := clientId
    clientSecret := clientSecret
    redirectUrl := redirectUrl
    scopeText := ",".intercalate (added.foldl addScope usualScopes) }

/-- The record of the settings. -/
def toJson (s : OpenIdSettings) : Json :=
  .obj [("enabled", .bool s.enabled), ("provider_url", .str s.providerUrl),
    ("client_id", .str s.clientId), ("client_secret", .str s.clientSecret),
    ("redirect_url", .str s.redirectUrl), ("scopes", .str s.scopeText),
    ("roles_claim", Json.ofOption .str s.rolesPath), ("name", .str s.name),
    ("icon", Json.ofOption .str s.icon)]

/-- The members of the record of the settings. -/
def shape : List Member :=
  [member "enabled" bool, member "provider_url" text, member "client_id" text,
    member "client_secret" text, member "redirect_url" text, member "scopes" text,
    member "roles_claim" (option text), member "name" text, member "icon" (option text)]

/-- Reads settings; what is missing is as without a provider. -/
def decode : Decoder OpenIdSettings := do
  let found ← entries shape 0
  let enabled ← found.orElse "enabled" bool disabled.enabled
  let providerUrl ← found.orElse "provider_url" text disabled.providerUrl
  let clientId ← found.orElse "client_id" text disabled.clientId
  let clientSecret ← found.orElse "client_secret" text disabled.clientSecret
  let redirectUrl ← found.orElse "redirect_url" text disabled.redirectUrl
  let scopeText ← found.orElse "scopes" text disabled.scopeText
  let rolesPath ← found.orElse "roles_claim" (option text) disabled.rolesPath
  let name ← found.orElse "name" text disabled.name
  let icon ← found.orElse "icon" (option text) disabled.icon
  pure ⟨enabled, providerUrl, clientId, clientSecret, redirectUrl, scopeText, rolesPath, name, icon⟩

/-- The settings as shown to people, without the secret. -/
def shown (s : OpenIdSettings) : String :=
  Text.shownRecord "OpenIdConfig"
    [("enabled", if s.enabled then "true" else "false"),
      ("provider_url", Text.quoted s.providerUrl), ("client_id", Text.quoted s.clientId),
      ("client_secret", Text.quoted "<redacted>"), ("redirect_url", Text.quoted s.redirectUrl),
      ("scopes", Text.quoted s.scopeText), ("roles_claim", Text.quotedOption s.rolesPath),
      ("name", Text.quoted s.name), ("icon", Text.quotedOption s.icon)] false

end OpenIdSettings

end Gatehouse
