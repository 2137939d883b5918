import Gatehouse.Proofs.Filter.Admission

/-!
# Filters depend on which permissions there are

A compiler reads a list of permissions, but neither their order nor how often one is listed counts:
permissions that list the same ones for resources have equal filters (`byNamespace_congr`,
`byProject_congr`, `byNamespaceProject_congr`). The reason is the same each time. What a compiler
collects are sets of codes, and what it asks of all permissions is whether there is one of some
kind.
-/

namespace Gatehouse

/-- Whether two sets of permissions list the same permissions. -/
structure Permissions.Alike (p q : Permissions) : Prop where
  resources : ∀ r, r ∈ p.resources ↔ r ∈ q.resources
  admin : ∀ a, a ∈ p.admin ↔ a ∈ q.admin

section Lists

variable {α : Type} {xs ys : List α}

/-- Lists with the same members have members of the same kinds. -/
theorem any_congr_mem (h : ∀ a, a ∈ xs ↔ a ∈ ys) (f : α → Bool) : xs.any f = ys.any f := by
  rw [Bool.eq_iff_iff, List.any_eq_true, List.any_eq_true]
  exact exists_congr fun a => and_congr_left fun _ => h a

/-- The codes that are picked out of lists with the same members are the same set. -/
theorem CodeSet.ofList_filterMap_congr (h : ∀ a, a ∈ xs ↔ a ∈ ys) (f : α → Option String) :
    CodeSet.ofList (xs.filterMap f) = CodeSet.ofList (ys.filterMap f) := by
  refine CodeSet.ext_mem fun code => ?_
  rw [CodeSet.mem_ofList, CodeSet.mem_ofList, List.mem_filterMap, List.mem_filterMap]
  exact exists_congr fun a => and_congr_left fun _ => h a

end Lists

namespace RowFilter

variable {p q : Permissions}

/-- The permissions that count are the same if the permissions are. -/
theorem mem_applicable_congr (h : ∀ r, r ∈ p.resources ↔ r ∈ q.resources) (action : Action)
    (r : ResourcePermission) : r ∈ applicable p action ↔ r ∈ applicable q action := by
  rw [mem_applicable, mem_applicable, h r]

theorem byNamespace_congr (h : ∀ r, r ∈ p.resources ↔ r ∈ q.resources) (action : Action) :
    byNamespace p action = byNamespace q action := by
  have hheld := mem_applicable_congr h action
  rw [byNamespace, byNamespace, any_congr_mem hheld, CodeSet.ofList_filterMap_congr hheld]

theorem byProject_congr (h : ∀ r, r ∈ p.resources ↔ r ∈ q.resources) (ns : String)
    (action : Action) : byProject p ns action = byProject q ns action := by
  have hheld : ∀ r, r ∈ (applicable p action).filter (·.namespaceScope.admits ns) ↔
      r ∈ (applicable q action).filter (·.namespaceScope.admits ns) := fun r => by
    rw [List.mem_filter, List.mem_filter, mem_applicable_congr h action r]
  rw [byProject, byProject, any_congr_mem hheld, CodeSet.ofList_filterMap_congr hheld]

theorem byNamespaceProject_congr (h : ∀ r, r ∈ p.resources ↔ r ∈ q.resources) (action : Action) :
    byNamespaceProject p action = byNamespaceProject q action := by
  have hheld := mem_applicable_congr h action
  have hfull : fullNamespaces (applicable p action) = fullNamespaces (applicable q action) :=
    CodeSet.ofList_filterMap_congr hheld _
  have hfree : freeProjects (applicable p action) = freeProjects (applicable q action) :=
    CodeSet.ofList_filterMap_congr hheld _
  have hpartial : partialNamespaces (applicable p action) =
      partialNamespaces (applicable q action) :=
    CodeSet.ofList_filterMap_congr hheld _
  have hprojects : projectsOf (applicable p action) = projectsOf (applicable q action) :=
    funext fun _ => CodeSet.ofList_filterMap_congr hheld _
  rw [byNamespaceProject_eq, byNamespaceProject_eq, any_congr_mem hheld, clausesOf, clausesOf,
    hfull, hfree, hpartial, hprojects]

end RowFilter

end Gatehouse
