import Gatehouse.Id
import Gatehouse.Time.Moment

/-!
# Users

A user signs in with a password, through an identity provider, or both. The digest of the password
and the digest of the one refresh token that is out are kept with the user.
-/

namespace Gatehouse

/-- A user of the service. -/
structure User where
  id : UserId
  username : String
  /-- The digest of the password; none for a user who only comes from a provider. -/
  passwordDigest : Option String
  firstname : String
  lastname : String
  active : Bool
  /-- The digest of the one refresh token that is out. -/
  refreshDigest : Option String
  createdAt : Moment
  updatedAt : Moment
  deriving DecidableEq, Repr, Inhabited

/-- What is known of a user who may not exist yet. -/
structure UserTemplate where
  username : String
  firstname : String
  lastname : String
  active : Bool
  passwordDigest : Option String
  deriving DecidableEq, Repr, Inhabited

/-- An active user of a name, without further names and without a password. -/
def UserTemplate.ofUsername (username : String) : UserTemplate :=
  ⟨username, "", "", true, none⟩

namespace User

/-- The user made from a template at some moment. -/
def ofTemplate (id : UserId) (t : UserTemplate) (now : Moment) : User :=
  ⟨id, t.username, t.passwordDigest, t.firstname, t.lastname, t.active, none, now, now⟩

/-- Whether the user can sign in with a password. -/
def hasPassword (u : User) : Bool :=
  match u.passwordDigest with
  | none => false
  | some digest => !digest.isEmpty

/-- Replaces the digest of the password. -/
def setPasswordDigest (u : User) (digest : Option String) (now : Moment) : User :=
  { u with passwordDigest := digest, updatedAt := now }

/-- A digest to be stored; an empty one is none. -/
def storedDigest (digest : Option String) : Option String :=
  digest.filter fun d => !d.isEmpty

/-- Replaces the digest of the refresh token. -/
def setRefreshDigest (u : User) (digest : Option String) (now : Moment) : User :=
  { u with refreshDigest := storedDigest digest, updatedAt := now }

/-- Activates or deactivates the user. -/
def setActive (u : User) (active : Bool) (now : Moment) : User :=
  { u with active := active, updatedAt := now }

/-! ### Small laws -/

/-- An empty digest is never stored. -/
theorem storedDigest_ne_empty (digest : Option String) : storedDigest digest ≠ some "" := by
  cases digest with
  | none => simp [storedDigest]
  | some d =>
    simp only [storedDigest, Option.filter]
    split
    · rintro ⟨⟩
      simp_all
    · simp

end User

end Gatehouse
