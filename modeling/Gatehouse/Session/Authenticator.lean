import Gatehouse.Session.Service

/-!
# Recognising callers

A request is recognised by the access token in one of its headers. The scheme `Bearer` may stand
before the token.
-/

namespace Gatehouse

/-- Who makes a call. Permissions are not part of it; they are looked up for every decision. -/
structure Caller where
  userId : UserId
  username : String
  method : SignInMethod
  roles : Option (List String)
  deriving DecidableEq, Repr

/-- The members of the record of a caller. Roles that were not given are left out. -/
def Caller.members (c : Caller) : List (String × Json) :=
  [("user_id", c.userId.toJson), ("username", .str c.username),
    ("auth_type", .str c.method.name)] ++
  match c.roles with
  | none => []
  | some roles => [("roles", Json.ofTexts roles)]

/-- The record of a caller. -/
def Caller.toJson (c : Caller) : Json :=
  .obj c.members

/-- Recognises the callers of requests. -/
structure Authenticator (m : Type → Type) where
  codec : TokenCodec
  users : UserStore m
  /-- The header that carries the access token. -/
  headerName : String

namespace Authenticator

variable {m : Type → Type} [Monad m]

/-- The token in a header value, without a scheme before it and without blanks around it. -/
def bearerToken (value : String) : String :=
  let value := Text.trim value
  match Text.cutFirst? ' ' value.toList with
  | none => value
  | some (scheme, token) =>
    if Text.sameLetters (String.ofList scheme) "bearer" then Text.trim (String.ofList token)
    else value

/-- Checks a text that should be an access token. -/
def checkAccessToken (a : Authenticator m) (now : Int) (token : String) :
    Except AuthError Claims :=
  match a.codec.verify now token with
  | .error e => .error (.unauthenticated e.message)
  | .ok claims =>
    if claims.kind = .access then .ok claims else .error (.unauthenticated "not an access token")

/-- The access token of a request. -/
def presented (header : Option String) : Except AuthError String :=
  match (header.map bearerToken).filter fun token => token ≠ "" with
  | none => .error (.unauthenticated "missing access token")
  | some token => .ok token

/-- Recognises the caller from the value of the header, if the request has it. -/
def authenticate (a : Authenticator m) (now : Int) (header : Option String) :
    ExceptT AuthError m Caller := do
  let token ← presented header
  let claims ← a.checkAccessToken now token
  match ← fromStore (a.users.findById claims.userId) with
  | none => throw (.unauthenticated "unknown user")
  | some user =>
    if !user.active then throw (.unauthenticated "user is inactive")
    else pure ⟨user.id, user.username, claims.method, claims.roles⟩

end Authenticator

end Gatehouse
