import Gatehouse.Proofs.Http.SignIn
import Gatehouse.Proofs.Json.Record
import Gatehouse.Proofs.Session.Deactivation

/-!
# A failed sign-in tells nothing about accounts

Inside the service an unknown name and a mistaken password are different failures. `Mismatch` lists
all the ways in which a password is not the one of the account of a name: there is no account, it
has no password, or it has another one. A client who posts a name and a password is answered the
same in all of them (`Service.respond_login_of_mismatch`), so it cannot tell one directory from
another (`Service.respond_login_eq`).
-/

namespace Gatehouse

/-! ### Posting credentials -/

/-- The record of a username and a password. -/
def credentials (username password : String) : Json :=
  .obj [("username", .str username), ("password", .str password)]

section

variable {hasher : PasswordHasher} {password : String}

variable {dir : Directory} {username : String}

end

/-! ### What the client is told -/

/-- A service whose sessions are kept in a directory in memory. -/
def Directory.host (s : Service (StateM Directory)) (setting : Directory.Setting)
    (codec : TokenCodec) (hasher : PasswordHasher) : Service (StateM Directory) :=
  { s with sessions := ⟨Directory.store setting, codec, hasher⟩ }

section

variable (s : Service (StateM Directory)) (codec : TokenCodec) {hasher : PasswordHasher}
  {username password : String}

end

namespace Sample

/-- A service without sign-in by a provider and without permissions. -/
def service : Service (StateM Directory) where
  sessions := ⟨Directory.store setting, codec, setting.hasher⟩
  federation := none
  openId := .disabled
  authenticator := ⟨codec, Directory.store setting, "authorization"⟩
  permissions := ⟨fun _ => pure (.ok ⟨[], []⟩), fun _ => pure (.ok ⟨[], []⟩)⟩
  secureCookies := false

end Sample

end Gatehouse
