import Gatehouse.Json.Decode
import Gatehouse.Text.Quoted

/-!
# Settings for tokens
-/

namespace Gatehouse

open Decoder

/-- How session tokens are signed and how long they are valid. -/
structure TokenSettings where
  /-- The signing key, shared by all nodes. -/
  secret : String
  /-- Who issues the tokens; tokens of another issuer are refused. -/
  issuer : String
  /-- How many seconds an access token is valid. -/
  accessTtl : Nat
  /-- How many seconds a refresh token is valid. -/
  refreshTtl : Nat
  /-- The header of a request that carries the access token. -/
  headerName : String
  deriving DecidableEq, Repr

namespace TokenSettings

/-- The settings with a given key and else the usual values. -/
def ofSecret (secret : String) : TokenSettings :=
  ⟨secret, "waymark", 900, 604800, "Authorization"⟩

/-- The record of the settings. -/
def toJson (s : TokenSettings) : Json :=
  .obj [("secret", .str s.secret), ("issuer", .str s.issuer),
    ("access_token_ttl", .int s.accessTtl), ("refresh_token_ttl", .int s.refreshTtl),
    ("header_name", .str s.headerName)]

/-- The members of the record of the settings. -/
def shape : List Member :=
  [member "secret" text, member "issuer" text, member "access_token_ttl" uint64,
    member "refresh_token_ttl" uint64, member "header_name" text]

/-- Reads settings; only the key is needed. -/
def decode : Decoder TokenSettings := do
  let found ← entries shape 1
  let secret ← found.needed "secret" text
  let usual := ofSecret secret
  let issuer ← found.orElse "issuer" text usual.issuer
  let accessTtl ← found.orElse "access_token_ttl" uint64 usual.accessTtl
  let refreshTtl ← found.orElse "refresh_token_ttl" uint64 usual.refreshTtl
  let headerName ← found.orElse "header_name" text usual.headerName
  pure ⟨secret, issuer, accessTtl, refreshTtl, headerName⟩

/-- The settings as shown to people, without the key. -/
def shown (s : TokenSettings) : String :=
  Text.shownRecord "JwtConfig"
    [("secret", Text.quoted "<redacted>"), ("issuer", Text.quoted s.issuer),
      ("access_token_ttl", Decimal.natText s.accessTtl),
      ("refresh_token_ttl", Decimal.natText s.refreshTtl),
      ("header_name", Text.quoted s.headerName)] false

end TokenSettings

end Gatehouse
