import Gatehouse.Filter.Basic
import Gatehouse.Permission.Basic

/-!
# Compiling permissions to filters

Rows carry no kind of resource, so a row may be seen when the permissions allow the action on any
kind of resource there. `byNamespace` decides by the namespace alone, `byProject` looks into one
namespace, and `byNamespaceProject` decides by both codes. The clauses come in a fixed order and
hold sets, so a filter depends only on which permissions there are.
-/

namespace Gatehouse.RowFilter

/-- The permissions that count for an action on rows. -/
def applicable (permissions : Permissions) (action : Action) : List ResourcePermission :=
  permissions.resources.filter fun p => p.resource.covers .any && p.action.covers action

/-- The namespaces in which the subject may do something. -/
def byNamespace (permissions : Permissions) (action : Action) : RowFilter :=
  let held := applicable permissions action
  if held.any (·.namespaceScope.isAny) then .unrestricted
  else
    let namespaces := CodeSet.ofList (held.filterMap (·.namespaceScope.code?))
    if namespaces.isEmpty then .denyAll else .anyOf [.namespaceIn namespaces]

/-- The projects of one namespace in which the subject may do something. -/
def byProject (permissions : Permissions) (ns : String) (action : Action) : RowFilter :=
  let held := (applicable permissions action).filter (·.namespaceScope.admits ns)
  if held.any (·.projectScope.isAny) then .anyOf [.namespaceIs ns]
  else
    let projects := CodeSet.ofList (held.filterMap (·.projectScope.code?))
    if projects.isEmpty then .denyAll else .anyOf [.projectsIn ns projects]

/-- The namespaces in which every project is allowed. -/
def fullNamespaces (held : List ResourcePermission) : CodeSet :=
  .ofList (held.filterMap fun p => if p.projectScope.isAny then p.namespaceScope.code? else none)

/-- The projects that are allowed in every namespace. -/
def freeProjects (held : List ResourcePermission) : CodeSet :=
  .ofList (held.filterMap fun p => if p.namespaceScope.isAny then p.projectScope.code? else none)

/-- The namespaces in which single projects are allowed. -/
def partialNamespaces (held : List ResourcePermission) : CodeSet :=
  .ofList (held.filterMap fun p => if p.projectScope.isAny then none else p.namespaceScope.code?)

/-- The single projects that are allowed in one namespace. -/
def projectsOf (held : List ResourcePermission) (ns : String) : CodeSet :=
  .ofList (held.filterMap fun p =>
    if p.namespaceScope = .exact ns then p.projectScope.code? else none)

/-- The rows of all namespaces on which the subject may do something. A namespace in which every
project is allowed needs no list of projects. -/
def byNamespaceProject (permissions : Permissions) (action : Action) : RowFilter :=
  let held := applicable permissions action
  if held.any fun p => p.namespaceScope.isAny && p.projectScope.isAny then .unrestricted
  else
    let full := fullNamespaces held
    let free := freeProjects held
    let single := (partialNamespaces held).toList.filter fun ns => !full.contains ns
    .ofClauses <|
      (if full.isEmpty then [] else [.namespaceIn full]) ++
        (if free.isEmpty then [] else [.projectIn free]) ++
          single.map fun ns => .projectsIn ns (projectsOf held ns)

end Gatehouse.RowFilter
