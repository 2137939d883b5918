import Gatehouse.OpenId.Settings
import Gatehouse.Token.Settings

/-!
# Settings of the whole service
-/

namespace Gatehouse

open Decoder

/-- The settings of the service. -/
structure ServiceSettings where
  /-- Where the database is. -/
  databaseUrl : String
  /-- Where the service listens. -/
  listenAddress : String
  /-- Whether cookies are sent over secure connections only. -/
  secureCookies : Bool
  token : TokenSettings
  openId : OpenIdSettings
  deriving DecidableEq, Repr

namespace ServiceSettings

/-- The address at which the service listens if nothing else is said. -/
def usualAddress : String := "0.0.0.0:8080"

/-- Cookies are safe if nothing else is said. -/
def usualSecureCookies : Bool := true

/-- The members of the record of the settings. -/
def shape : List Member :=
  [member "database_url" text, member "listen_addr" text, member "secure_cookies" bool,
    member "jwt" TokenSettings.decode, member "openid" OpenIdSettings.decode]

/-- Reads settings. -/
def decode : Decoder ServiceSettings := do
  let found ← entries shape 4
  let databaseUrl ← found.needed "database_url" text
  let listenAddress ← found.orElse "listen_addr" text usualAddress
  let secureCookies ← found.orElse "secure_cookies" bool usualSecureCookies
  let token ← found.needed "jwt" TokenSettings.decode
  let openId ← found.orElse "openid" OpenIdSettings.decode .disabled
  pure ⟨databaseUrl, listenAddress, secureCookies, token, openId⟩

end ServiceSettings

end Gatehouse
