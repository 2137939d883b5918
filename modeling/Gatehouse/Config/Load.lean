import Gatehouse.Config.Environment
import Gatehouse.Config.Settings
import Gatehouse.Toml.Reader

/-!
# Loading the settings of the service

The settings are in a file, if there is one, and in the environment, which counts more. The file is
written in TOML, YAML or JSON. YAML is not read here: how its texts are read is given (`readYaml`).
-/

namespace Gatehouse

/-- Why settings were not loaded. -/
inductive ConfigFault where
  /-- A file is not well formed. -/
  | unreadable (file : String)
  /-- A setting is missing. -/
  | missing (name : String)
  /-- A setting is not what it should be. -/
  | mismatch (name : String)
  deriving DecidableEq, Repr

/-- The settings in one section, by their names. -/
abbrev Section := List (String × Setting)

namespace Section

/-- A setting that has to be there. -/
def needed {α : Type} (s : Section) (name : String) (read : Setting → Option α) :
    Except ConfigFault α :=
  match s.lookup name with
  | none => .error (.missing name)
  | some v =>
    match read v with
    | some a => .ok a
    | none => .error (.mismatch name)

/-- A setting that may be missing. -/
def orElse {α : Type} (s : Section) (name : String) (read : Setting → Option α) (default : α) :
    Except ConfigFault α :=
  if (s.lookup name).isNone then .ok default else s.needed name read

/-- The settings of a section. -/
def of (name : String) (names : List String) (v : Setting) : Except ConfigFault Section :=
  match v.section? names with
  | some s => .ok s
  | none => .error (.mismatch name)

end Section

/-- A setting that may be left out on purpose. -/
def Setting.asOptionalText? : Setting → Option (Option String)
  | .absent => some none
  | s => s.asText?.map some

/-- The names of the settings that a record has. -/
def memberNames (shape : List Decoder.Member) : List String :=
  shape.map (·.name)

/-- The settings for tokens. -/
def TokenSettings.ofSetting (v : Setting) : Except ConfigFault TokenSettings := do
  let s ← Section.of "jwt" (memberNames shape) v
  let usual := ofSecret (← s.needed "secret" Setting.asText?)
  let issuer ← s.orElse "issuer" Setting.asText? usual.issuer
  let accessTtl ← s.orElse "access_token_ttl" Setting.asNat? usual.accessTtl
  let refreshTtl ← s.orElse "refresh_token_ttl" Setting.asNat? usual.refreshTtl
  let headerName ← s.orElse "header_name" Setting.asText? usual.headerName
  pure ⟨usual.secret, issuer, accessTtl, refreshTtl, headerName⟩

/-- The settings for a provider. -/
def OpenIdSettings.ofSetting (v : Setting) : Except ConfigFault OpenIdSettings := do
  let s ← Section.of "openid" (memberNames shape) v
  let enabled ← s.orElse "enabled" Setting.asBool? disabled.enabled
  let providerUrl ← s.orElse "provider_url" Setting.asText? disabled.providerUrl
  let clientId ← s.orElse "client_id" Setting.asText? disabled.clientId
  let clientSecret ← s.orElse "client_secret" Setting.asText? disabled.clientSecret
  let redirectUrl ← s.orElse "redirect_url" Setting.asText? disabled.redirectUrl
  let scopeText ← s.orElse "scopes" Setting.asText? disabled.scopeText
  let rolesPath ← s.orElse "roles_claim" Setting.asOptionalText? disabled.rolesPath
  let name ← s.orElse "name" Setting.asText? disabled.name
  let icon ← s.orElse "icon" Setting.asOptionalText? disabled.icon
  pure ⟨enabled, providerUrl, clientId, clientSecret, redirectUrl, scopeText, rolesPath, name, icon⟩

namespace ServiceSettings

/-- The settings of the service. -/
def ofSetting (v : Setting) : Except ConfigFault ServiceSettings := do
  let s ← Section.of "" (memberNames shape) v
  let databaseUrl ← s.needed "database_url" Setting.asText?
  let listenAddress ← s.orElse "listen_addr" Setting.asText? usualAddress
  let secureCookies ← s.orElse "secure_cookies" Setting.asBool? usualSecureCookies
  let token ← match s.lookup "jwt" with
    | none => .error (.missing "jwt")
    | some v => TokenSettings.ofSetting v
  let openId ← match s.lookup "openid" with
    | none => pure .disabled
    | some v => OpenIdSettings.ofSetting v
  pure ⟨databaseUrl, listenAddress, secureCookies, token, openId⟩

/-- The name of the file with the settings, without the ending that tells its format. -/
def fileName : String := "waymark"

/-- The formats of the file with the settings: the endings of each, and how it is read. -/
def fileFormats (readYaml : String → Option Setting) : List (String × (String → Option Setting)) :=
  [(".toml", Toml.read?), (".yaml", readYaml), (".yml", readYaml),
    (".json", fun content => (Json.read content).toOption.map Setting.ofJson)]

/-- The settings in the first file that is there. It has to be one table. A byte order mark at its
start is not part of what is read. A file without an ending has no format: no settings are read
then, neither from it nor from another file. -/
def readFiles (readYaml : String → Option Setting) (files : List (String × String)) :
    Except ConfigFault Section :=
  if (files.lookup fileName).isSome then .ok []
  else
    match (fileFormats readYaml).find? fun format =>
      (files.lookup (fileName ++ format.1)).isSome with
    | none => .ok []
    | some (ending, read) =>
      let name := fileName ++ ending
      match (files.lookup name).bind fun content => read (Text.dropMark content) with
      | some (.table ms) => .ok ms
      | _ => .error (.unreadable name)

/-- Loads the settings out of the first file that is there and out of the environment. -/
def load (readYaml : String → Option Setting) (files environment : List (String × String)) :
    Except ConfigFault ServiceSettings := do
  let inFile ← readFiles readYaml files
  ofSetting (((Setting.table []).putAll inFile).putAll (Environment.settings environment))

end ServiceSettings

end Gatehouse
