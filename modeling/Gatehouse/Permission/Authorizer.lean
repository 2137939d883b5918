import Gatehouse.Filter.Compile
import Gatehouse.Permission.Store

/-!
# Decisions for subjects

Every decision asks the store anew, so a change of roles counts from the next question on. A plain
question fails when the store fails; a `must` question then denies.
-/

namespace Gatehouse

/-- Whose permissions decide. -/
inductive Subject where
  /-- A user, through all roles bound to it. -/
  | username (name : String)
  /-- A single role. -/
  | roleCode (code : String)
  deriving DecidableEq, Repr

/-- The text of a subject. -/
def Subject.text : Subject → String
  | .username name => "user:" ++ name
  | .roleCode code => "role:" ++ code

/-- What a decision is about. -/
inductive Question : Type → Type where
  | resource (ns project : String) (kind : ResourceKind) (action : Action) : Question Bool
  | admin (adminSection : AdminSection) (action : Action) : Question Bool
  | namespaceFilter (action : Action) : Question RowFilter
  | projectFilter (ns : String) (action : Action) : Question RowFilter
  | namespaceProjectFilter (action : Action) : Question RowFilter

/-- The answer that permissions give to a question. -/
def Question.answer {α : Type} (p : Permissions) : Question α → α
  | .resource ns project kind action => p.allowsResource ns project kind action
  | .admin adminSection action => p.allowsAdmin adminSection action
  | .namespaceFilter action => .byNamespace p action
  | .projectFilter ns action => .byProject p ns action
  | .namespaceProjectFilter action => .byNamespaceProject p action

namespace PermissionStore

variable {m : Type → Type} [Monad m]

/-- The permissions of a subject. -/
def permissions (store : PermissionStore m) : Subject → m (Except StoreError Permissions)
  | .username name => store.byUsername name
  | .roleCode code => store.byRoleCode code

/-- The permissions of a subject, none if the store fails. -/
def permissionsOrNone (store : PermissionStore m) (subject : Subject) : m Permissions := do
  match ← store.permissions subject with
  | .ok p => pure p
  | .error _ => pure .none

/-- Answers a question about a subject. -/
def ask {α : Type} (store : PermissionStore m) (subject : Subject) (question : Question α) :
    m (Except StoreError α) := do
  return (← store.permissions subject).map question.answer

/-- Answers a question about a subject, denying if the store fails. -/
def must {α : Type} (store : PermissionStore m) (subject : Subject) (question : Question α) :
    m α := do
  return question.answer (← store.permissionsOrNone subject)

end PermissionStore

end Gatehouse
