import Gatehouse.Permission.Record

/-!
# The claims of a token

What a token says about its holder, as a record that is read back from the token.
-/

namespace Gatehouse

open Decoder

/-- The two halves of a pair of tokens. -/
inductive TokenKind where
  | access
  | refresh
  deriving DecidableEq, Repr, Inhabited

/-- The name of a kind of token. -/
def TokenKind.name : TokenKind → String
  | .access => "access"
  | .refresh => "refresh"

/-- The kind of token of a name. -/
def TokenKind.ofName? (s : String) : Option TokenKind :=
  [TokenKind.access, .refresh].find? (·.name == s)

/-- How a session came about. -/
inductive SignInMethod where
  | password
  | openId
  deriving DecidableEq, Repr, Inhabited

/-- The name of a method. -/
def SignInMethod.name : SignInMethod → String
  | .password => "password"
  | .openId => "openid"

/-- The method of a name. -/
def SignInMethod.ofName? (s : String) : Option SignInMethod :=
  [SignInMethod.password, .openId].find? (·.name == s)

/-- What a token says. -/
structure Claims where
  userId : UserId
  username : String
  kind : TokenKind
  method : SignInMethod
  /-- The roles that the identity provider named; they only inform. -/
  roles : Option (List String)
  /-- A text that no two tokens share. -/
  tokenId : String
  /-- When the token was issued, in seconds. -/
  issuedAt : Int
  /-- The last second in which the token is valid. -/
  expiresAt : Int
  issuer : String
  deriving DecidableEq, Repr

namespace Claims

/-- The record of the claims. Roles that were not given are left out. -/
def toJson (c : Claims) : Json :=
  .obj <|
    [("user_id", c.userId.toJson), ("username", .str c.username), ("token_type", .str c.kind.name),
      ("auth_type", .str c.method.name)] ++
    (match c.roles with
      | none => []
      | some roles => [("roles", Json.ofTexts roles)]) ++
    [("jti", .str c.tokenId), ("iat", .int c.issuedAt), ("exp", .int c.expiresAt),
      ("iss", .str c.issuer)]

/-- Reads an optional list of roles. -/
def decodeRoles : Decoder (Option (List String)) :=
  option (list text)

/-- The members of the record of claims. -/
def shape : List Member :=
  [member "user_id" UserId.decode, member "username" text,
    member "token_type" (choice TokenKind.ofName?),
    member "auth_type" (choice SignInMethod.ofName?),
    member "roles" decodeRoles, member "jti" text, member "iat" int64, member "exp" int64,
    member "iss" text]

/-- Reads claims. -/
def decode : Decoder Claims := do
  let found ← entries shape 9
  let userId ← found.needed "user_id" UserId.decode
  let username ← found.needed "username" text
  let kind ← found.needed "token_type" (choice TokenKind.ofName?)
  let method ← found.needed "auth_type" (choice SignInMethod.ofName?)
  let roles ← found.orElse "roles" decodeRoles none
  let tokenId ← found.needed "jti" text
  let issuedAt ← found.needed "iat" int64
  let expiresAt ← found.needed "exp" int64
  let issuer ← found.needed "iss" text
  pure ⟨userId, username, kind, method, roles, tokenId, issuedAt, expiresAt, issuer⟩

end Claims

end Gatehouse
