import Gatehouse.Password.Hasher
import Gatehouse.Session.Error
import Gatehouse.Token.Codec
import Gatehouse.User.Record
import Gatehouse.User.Store

/-!
# Signing in, refreshing and signing out

A user has at most one refresh token out. Signing in and refreshing replace it, and signing out
takes it back. Each operation is a row of calls to the user store; nothing but these calls keeps
two operations of one user apart, so of two that race the last write wins.

An operation that opens a session gives none, without an error, if the program stops in it: the
tokens of the session cannot be issued.
-/

namespace Gatehouse

/-- A user who is signed in, and the tokens of the session. -/
structure Session where
  user : User
  tokens : TokenPair
  deriving DecidableEq, Repr

/-- The record of a session. -/
def Session.toJson (s : Session) : Json :=
  .obj [("user", s.user.toJson), ("access_token", .str s.tokens.access),
    ("refresh_token", .str s.tokens.refresh)]

section

variable {m : Type → Type} [Monad m]

/-- Calls a store; its failures are failures of the operation. -/
def fromStore {α : Type} (call : m (Except StoreError α)) : ExceptT AuthError m α :=
  ExceptT.mk do return (← call).mapError AuthError.ofStore

/-- Issues a pair for a user and stores the digest of its refresh token. -/
def establish (users : UserStore m) (codec : TokenCodec) (at_ : Issuance) (user : User)
    (method : SignInMethod) (roles : Option (List String)) :
    ExceptT AuthError m (Option Session) := do
  match codec.issuePair at_ user.id user.username method roles with
  | none => pure none
  | some tokens =>
    let digest := TokenCodec.refreshDigest tokens.refresh
    fromStore (users.updateRefreshDigest user.id (some digest))
    pure (some ⟨user.setRefreshDigest (some digest) (.ofSeconds at_.now), tokens⟩)

end

/-- Signs users in with passwords and keeps their sessions. -/
structure SessionService (m : Type → Type) where
  users : UserStore m
  codec : TokenCodec
  hasher : PasswordHasher

namespace SessionService

variable {m : Type → Type} [Monad m]

/-- Checks the password of a user who wants to sign in. -/
def checkPassword (s : SessionService m) (user : User) (username password : String) :
    Except AuthError Unit :=
  match user.passwordDigest.filter fun digest => !digest.isEmpty with
  | none => .error .invalidCredentials
  | some digest =>
    match s.hasher.verify password digest with
    | .error e => .error (.internal e.message)
    | .ok false => .error .invalidCredentials
    | .ok true => if user.active then .ok () else .error (.userInactive username)

/-- Signs a user in with a password. -/
def login (s : SessionService m) (at_ : Issuance) (username password : String) :
    ExceptT AuthError m (Option Session) := do
  match ← fromStore (s.users.findByUsername username) with
  | none => throw (.userNotFound username)
  | some user =>
    s.checkPassword user username password
    establish s.users s.codec at_ user .password none

/-- Checks a text that should be a refresh token. -/
def checkRefreshToken (s : SessionService m) (now : Int) (token : String) :
    Except AuthError Claims :=
  match s.codec.verify now token with
  | .error .expired => .error (.tokenInvalid "refresh token has expired")
  | .error e => .error (.tokenInvalid e.message)
  | .ok claims =>
    if claims.kind = .refresh then .ok claims else .error (.tokenInvalid "not a refresh token")

/-- Checks that a user may exchange a refresh token: it is the one that is out. -/
def checkOutstanding (user : User) (token : String) : Except AuthError Unit :=
  if !user.active then .error (.userInactive user.username)
  else if user.refreshDigest = some (TokenCodec.refreshDigest token) then .ok ()
  else .error .invalidCredentials

/-- Exchanges a refresh token for a new pair, which takes the old one back. -/
def refresh (s : SessionService m) (at_ : Issuance) (token : String) :
    ExceptT AuthError m (Option Session) := do
  let claims ← s.checkRefreshToken at_.now token
  match ← fromStore (s.users.findById claims.userId) with
  | none => throw (.userNotFound claims.username)
  | some user =>
    checkOutstanding user token
    establish s.users s.codec at_ user claims.method claims.roles

/-- Takes back the refresh token of a user. -/
def logout (s : SessionService m) (id : UserId) : ExceptT AuthError m Unit :=
  fromStore (s.users.updateRefreshDigest id none)

end SessionService

end Gatehouse
