import Gatehouse.Database.Statement
import Gatehouse.Json.Printer
import Gatehouse.Permission.Record
import Gatehouse.Permission.Store

/-!
# The roles in the database

A role is kept as a row, its permissions as JSON texts. One row that cannot be read makes the whole
lookup fail, so that no decision rests on a part of the roles. The failure says what is wrong with
the row; of a JSON text it says so in the words of the JSON reader (`FaultWords`).
-/

namespace Gatehouse

/-- A role as it is kept. -/
structure RoleRow where
  id : Int
  code : String
  kind : String
  /-- The resource permissions, as a JSON text. -/
  resources : String
  /-- The admin permissions, as a JSON text. -/
  admin : String
  deriving DecidableEq, Repr

/-- The JSON reader's words for what is wrong with a text that is not a list of permissions, for
each kind of permissions. -/
structure FaultWords where
  resources : String → String
  admin : String → String

namespace RoleRow

/-- The row of a role. -/
def ofRole (r : Role) : RoleRow where
  id := r.id.value
  code := r.code
  kind := r.kind.name
  resources := (ResourcePermission.listToJson r.resources).render
  admin := (AdminPermission.listToJson r.admin).render

/-- The failure of a row whose kind is not known. -/
def unknownKind (row : RoleRow) : StoreError :=
  .corrupt ("role " ++ row.code ++ " has unknown type " ++ row.kind)

/-- The failure of a row whose permissions cannot be read. -/
def unreadable (row : RoleRow) (what words : String) : StoreError :=
  .corrupt ("role " ++ row.code ++ " " ++ what ++ ": " ++ words)

/-- Reads permissions. -/
def readList {α : Type} (row : RoleRow) (what : String) (words : String → String)
    (decode : Decoder α) (s : String) : Except StoreError (List α) :=
  ((Decoder.list decode).run s).mapError fun _ => row.unreadable what (words s)

/-- The role of a row. -/
def toRole (words : FaultWords) (row : RoleRow) : Except StoreError Role :=
  match RoleKind.ofName? row.kind with
  | none => .error row.unknownKind
  | some kind => do
    let resources ←
      row.readList "resources" words.resources ResourcePermission.decode row.resources
    let admin ← row.readList "admin" words.admin AdminPermission.decode row.admin
    pure ⟨⟨row.id⟩, row.code, kind, resources, admin⟩

/-- Reads a row of the database. -/
def ofRow (row : Row) : Except DatabaseFault RoleRow := do
  let id ← row.int "id"
  let code ← row.text "code"
  let kind ← row.text "role_type"
  let resources ← row.text "resources"
  let admin ← row.text "admin"
  pure ⟨id, code, kind, resources, admin⟩

end RoleRow

/-- The permissions of the roles of some rows. -/
def Permissions.ofRows (words : FaultWords) (rows : List RoleRow) : Except StoreError Permissions :=
  (rows.mapM (RoleRow.toRole words)).map Permissions.ofRoles

namespace PermissionStore

/-- The statement for the roles of a user. -/
def rolesOfUser (username : String) : SqlStatement :=
  ⟨"SELECT r.id, r.code, r.type AS role_type, r.resources::text AS resources, " ++
      "r.admin::text AS admin FROM roles r JOIN user_roles ur ON ur.role_id = r.id " ++
      "JOIN users u ON u.id = ur.user_id WHERE u.username = $1",
    [.text username]⟩

/-- The statement for the role of a code. -/
def roleOfCode (code : String) : SqlStatement :=
  ⟨"SELECT id, code, type AS role_type, resources::text AS resources, admin::text AS admin " ++
      "FROM roles WHERE code = $1",
    [.text code]⟩

variable {m : Type → Type} [Monad m]

/-- The permissions of the roles that a statement gives. -/
def lookup (db : Database m) (words : FaultWords) (q : SqlStatement) :
    m (Except StoreError Permissions) := do
  match ← db.execute q with
  | .error fault => return .error fault.toStoreError
  | .ok rows =>
    match rows.mapM RoleRow.ofRow with
    | .error fault => return .error fault.toStoreError
    | .ok roleRows => return Permissions.ofRows words roleRows

/-- The store in a database. -/
def ofDatabase (db : Database m) (words : FaultWords) : PermissionStore m where
  byUsername username := lookup db words (rolesOfUser username)
  byRoleCode code := lookup db words (roleOfCode code)

end PermissionStore

end Gatehouse
