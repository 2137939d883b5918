import Gatehouse.Permission.Basic
import Gatehouse.StoreError

/-!
# Stores of permissions

A permission store answers what the roles of a user, or one role, allow. `RoleBook` is the store
in memory: a list of roles, and which users are bound to which role codes.
-/

namespace Gatehouse

/-- Answers which permissions a user and a role have. An unknown one has none. -/
structure PermissionStore (m : Type → Type) where
  /-- The union over all roles bound to a user. -/
  byUsername : String → m (Except StoreError Permissions)
  /-- The permissions of the role of a code. -/
  byRoleCode : String → m (Except StoreError Permissions)

/-- Roles and their bindings to users. -/
structure RoleBook where
  roles : List Role
  /-- Pairs of a username and a role code. -/
  bindings : List (String × String)
  /-- While set, every question fails. -/
  unavailable : Bool
  deriving DecidableEq, Repr, Inhabited

namespace RoleBook

/-- A book without roles and bindings. -/
def empty : RoleBook :=
  ⟨[], [], false⟩

/-- Adds a role, in place of one with the same code. -/
def putRole (book : RoleBook) (role : Role) : RoleBook :=
  { book with roles := book.roles.filter (·.code != role.code) ++ [role] }

/-- Binds a user to a role code. -/
def bind (book : RoleBook) (username code : String) : RoleBook :=
  if (username, code) ∈ book.bindings then book
  else { book with bindings := book.bindings ++ [(username, code)] }

/-- Takes a role code from a user. -/
def unbind (book : RoleBook) (username code : String) : RoleBook :=
  { book with bindings := book.bindings.filter (· ≠ (username, code)) }

/-- Sets whether every question fails. -/
def setUnavailable (book : RoleBook) (value : Bool) : RoleBook :=
  { book with unavailable := value }

/-- The failure of a book that is not available. -/
def refusal : StoreError :=
  .unavailable "memory store marked unavailable"

/-- The permissions of a user. -/
def byUsername (book : RoleBook) (username : String) : Except StoreError Permissions :=
  if book.unavailable then .error refusal
  else .ok (.ofRoles (book.roles.filter fun r => (username, r.code) ∈ book.bindings))

/-- The permissions of a role. -/
def byRoleCode (book : RoleBook) (code : String) : Except StoreError Permissions :=
  if book.unavailable then .error refusal
  else .ok (.ofRoles (book.roles.filter (·.code == code)))

/-- The book as a store. -/
def store {m : Type → Type} [Monad m] (book : RoleBook) : PermissionStore m where
  byUsername username := pure (book.byUsername username)
  byRoleCode code := pure (book.byRoleCode code)

end RoleBook

end Gatehouse
