import Gatehouse.Json.Decode
import Gatehouse.Json.Printer
import Gatehouse.Permission.Basic

/-!
# Permissions and roles as JSON records

Every permission, role and set of permissions has a record form. The lists of a role may be left
out when it is read; all other members are needed.
-/

namespace Gatehouse

open Decoder

/-- A scope as a JSON string. -/
def Scope.toJson (s : Scope) : Json :=
  .str s.text

/-- Reads a scope. -/
def Scope.decode : Decoder Scope :=
  Scope.ofText <$> Decoder.text

/-- A user's number as a JSON number. -/
def UserId.toJson (id : UserId) : Json :=
  .int id.value

/-- Reads a user's number. -/
def UserId.decode : Decoder UserId :=
  UserId.mk <$> int64

/-- A role's number as a JSON number. -/
def RoleId.toJson (id : RoleId) : Json :=
  .int id.value

/-- Reads a role's number. -/
def RoleId.decode : Decoder RoleId :=
  RoleId.mk <$> int64

/-- Reads a kind of resource. -/
def ResourceKind.decode : Decoder ResourceKind :=
  choice ResourceKind.ofName?

/-- Reads an action. -/
def Action.decode : Decoder Action :=
  choice Action.ofName?

/-- Reads a section. -/
def AdminSection.decode : Decoder AdminSection :=
  choice AdminSection.ofName?

/-- Reads a kind of role. -/
def RoleKind.decode : Decoder RoleKind :=
  choice RoleKind.ofName?

/-! ### Records -/

/-- The record of a resource permission. -/
def ResourcePermission.toJson (p : ResourcePermission) : Json :=
  .obj [("namespace", p.namespaceScope.toJson), ("project", p.projectScope.toJson),
    ("resource", .str p.resource.name), ("action", .str p.action.name)]

/-- The members of the record of a resource permission. -/
def ResourcePermission.shape : List Member :=
  [member "namespace" Scope.decode, member "project" Scope.decode,
    member "resource" ResourceKind.decode, member "action" Action.decode]

/-- Reads a resource permission. -/
def ResourcePermission.decode : Decoder ResourcePermission := do
  let found ← entries shape 4
  let ns ← found.needed "namespace" Scope.decode
  let project ← found.needed "project" Scope.decode
  let resource ← found.needed "resource" ResourceKind.decode
  let action ← found.needed "action" Action.decode
  pure ⟨ns, project, resource, action⟩

/-- The record of an admin permission. -/
def AdminPermission.toJson (p : AdminPermission) : Json :=
  .obj [("section", .str p.adminSection.name), ("action", .str p.action.name)]

/-- The members of the record of an admin permission. -/
def AdminPermission.shape : List Member :=
  [member "section" AdminSection.decode, member "action" Action.decode]

/-- Reads an admin permission. -/
def AdminPermission.decode : Decoder AdminPermission := do
  let found ← entries shape 2
  let adminSection ← found.needed "section" AdminSection.decode
  let action ← found.needed "action" Action.decode
  pure ⟨adminSection, action⟩

/-- The JSON array of some resource permissions. -/
def ResourcePermission.listToJson (ps : List ResourcePermission) : Json :=
  .arr (ps.map toJson)

/-- The JSON array of some admin permissions. -/
def AdminPermission.listToJson (ps : List AdminPermission) : Json :=
  .arr (ps.map toJson)

/-- The record of a role. -/
def Role.toJson (r : Role) : Json :=
  .obj [("id", r.id.toJson), ("code", .str r.code), ("type", .str r.kind.name),
    ("resources", ResourcePermission.listToJson r.resources),
    ("admin", AdminPermission.listToJson r.admin)]

/-- The members of the record of a role. -/
def Role.shape : List Member :=
  [member "id" RoleId.decode, member "code" text, member "type" RoleKind.decode,
    member "resources" (list ResourcePermission.decode),
    member "admin" (list AdminPermission.decode)]

/-- Reads a role. -/
def Role.decode : Decoder Role := do
  let found ← entries shape 3
  let id ← found.needed "id" RoleId.decode
  let code ← found.needed "code" text
  let kind ← found.needed "type" RoleKind.decode
  let resources ← found.orElse "resources" (list ResourcePermission.decode) []
  let admin ← found.orElse "admin" (list AdminPermission.decode) []
  pure ⟨id, code, kind, resources, admin⟩

/-- The record of a set of permissions. -/
def Permissions.toJson (p : Permissions) : Json :=
  .obj [("resources", ResourcePermission.listToJson p.resources),
    ("admin", AdminPermission.listToJson p.admin)]

/-- The members of the record of a set of permissions. -/
def Permissions.shape : List Member :=
  [member "resources" (list ResourcePermission.decode),
    member "admin" (list AdminPermission.decode)]

/-- Reads a set of permissions. -/
def Permissions.decode : Decoder Permissions := do
  let found ← entries shape 2
  let resources ← found.needed "resources" (list ResourcePermission.decode)
  let admin ← found.needed "admin" (list AdminPermission.decode)
  pure ⟨resources, admin⟩

end Gatehouse
