import Gatehouse.Proofs.Filter.Rendering
import Gatehouse.Proofs.Text.Order

/-!
# The form of compiled filters

The clauses of a filter could be any: none at all, clauses with empty sets, several for the same
column. A compiler makes none of these (`RowFilter.canonical_of_compiled`). Its clauses are in
canonical form (`FilterClause.Canonical`): each set has a code, the namespaces that are allowed as a
whole share one clause and the projects that are allowed everywhere another, and each other
namespace has one clause for its projects, in the order of the bytes. A filter in this form admits
some row, so that the filter for no row is the only way to admit none.
-/

namespace Gatehouse

namespace FilterClause

/-- The namespaces of a clause for whole namespaces. -/
def wholeNamespaces? : FilterClause → Option CodeSet
  | .namespaceIn namespaces => some namespaces
  | _ => none

/-- The projects of a clause for projects of every namespace. -/
def freeProjects? : FilterClause → Option CodeSet
  | .projectIn projects => some projects
  | _ => none

/-- The namespace of a clause for projects of one namespace. -/
def partialNamespace? : FilterClause → Option String
  | .projectsIn ns _ => some ns
  | _ => none

/-- Clauses are in canonical form. -/
structure Canonical (clauses : List FilterClause) : Prop where
  ne_nil : clauses ≠ []
  proper : ∀ clause ∈ clauses, clause.IsProper
  wholeNamespaces_le_one : (clauses.filterMap wholeNamespaces?).length ≤ 1
  freeProjects_le_one : (clauses.filterMap freeProjects?).length ≤ 1
  ascending : (clauses.filterMap partialNamespace?).Pairwise fun a b => Text.utf8 a < Text.utf8 b
  apart : ∀ whole ∈ clauses.filterMap wholeNamespaces?,
    ∀ ns ∈ clauses.filterMap partialNamespace?, ns ∉ whole

variable {clause : FilterClause}

theorem filterMap_singleton {α : Type} (f : FilterClause → Option α) (clause : FilterClause) :
    [clause].filterMap f = (f clause).toList := by
  cases h : f clause <;> simp [h]

/-- A single clause without an empty set is in canonical form. -/
theorem canonical_singleton (h : clause.IsProper) : Canonical [clause] := by
  refine ⟨List.cons_ne_nil clause [], by simpa using h, List.length_filterMap_le _ _,
    List.length_filterMap_le _ _, ?_, ?_⟩
  · rw [filterMap_singleton]
    cases clause.partialNamespace? <;> simp
  · -- no clause is of both kinds
    rw [filterMap_singleton, filterMap_singleton]
    cases clause <;> simp [wholeNamespaces?, partialNamespace?]

/-- A clause without an empty set admits a row. -/
theorem IsProper.exists_admits (h : clause.IsProper) :
    ∃ ns project, clause.admits ns project = true := by
  cases clause with
  | namespaceIn namespaces =>
    obtain ⟨ns, hns⟩ := List.exists_mem_of_ne_nil _ h
    exact ⟨ns, "", admits_namespaceIn.mpr hns⟩
  | projectIn projects =>
    obtain ⟨project, hproject⟩ := List.exists_mem_of_ne_nil _ h
    exact ⟨"", project, CodeSet.contains_iff.mpr hproject⟩
  | namespaceIs ns => exact ⟨ns, "", beq_self_eq_true ns⟩
  | projectsIn ns projects =>
    obtain ⟨project, hproject⟩ := List.exists_mem_of_ne_nil _ h
    exact ⟨ns, project, admits_projectsIn.mpr ⟨rfl, hproject⟩⟩

end FilterClause

namespace RowFilter

open FilterClause

/-! ### The clauses over all namespaces -/

section

variable (held : List ResourcePermission)

/-- The namespaces that have clauses for their projects, in order. -/
def openNamespaces : List String :=
  (partialNamespaces held).toList.filter fun ns => !(fullNamespaces held).contains ns

/-- What is picked out of the clauses is picked out of each kind in turn. -/
theorem filterMap_clausesOf {α : Type} (f : FilterClause → Option α) :
    (clausesOf held).filterMap f =
      (if (fullNamespaces held).isEmpty then []
          else (f (.namespaceIn (fullNamespaces held))).toList)
        ++ (if (freeProjects held).isEmpty then [] else (f (.projectIn (freeProjects held))).toList)
        ++ (openNamespaces held).filterMap fun ns => f (.projectsIn ns (projectsOf held ns)) := by
  have hunless : ∀ (codes : CodeSet) (c : FilterClause),
      (if codes.isEmpty then [] else [c]).filterMap f =
        if codes.isEmpty then [] else (f c).toList := by
    intro codes c
    rw [← filterMap_singleton]
    split <;> rfl
  rw [clausesOf, List.filterMap_append, List.filterMap_append, hunless, hunless,
    List.filterMap_map]
  rfl

theorem wholeNamespaces_clausesOf :
    (clausesOf held).filterMap wholeNamespaces? =
      if (fullNamespaces held).isEmpty then [] else [fullNamespaces held] := by
  simp [filterMap_clausesOf, wholeNamespaces?]

theorem freeProjects_clausesOf :
    (clausesOf held).filterMap freeProjects? =
      if (freeProjects held).isEmpty then [] else [freeProjects held] := by
  simp [filterMap_clausesOf, freeProjects?]

theorem partialNamespaces_clausesOf :
    (clausesOf held).filterMap partialNamespace? = openNamespaces held := by
  simp [filterMap_clausesOf, partialNamespace?]

/-- The clauses over all namespaces are in canonical form, if there is one. -/
theorem canonical_clausesOf (hne : clausesOf held ≠ []) : Canonical (clausesOf held) where
  ne_nil := hne
  proper := fun clause => isProper_of_mem_clausesOf
  wholeNamespaces_le_one := by
    rw [wholeNamespaces_clausesOf]
    split <;> simp
  freeProjects_le_one := by
    rw [freeProjects_clausesOf]
    split <;> simp
  ascending := by
    rw [partialNamespaces_clausesOf]
    exact ((partialNamespaces held).ascending.filter _).imp Text.utf8_lt_utf8_iff.mpr
  apart := by
    intro whole hwhole ns hns
    rw [partialNamespaces_clausesOf] at hns
    -- the namespaces of the third kind are those that are not allowed as a whole
    have hnot := (List.mem_filter.mp hns).2
    rw [wholeNamespaces_clausesOf] at hwhole
    split at hwhole
    · cases hwhole
    · rw [List.mem_singleton.mp hwhole]
      intro hmem
      rw [CodeSet.contains_iff.mpr hmem] at hnot
      exact absurd hnot (by decide)

end

/-! ### All compilers -/

variable {f : RowFilter}

theorem eq_of_ofClauses_eq_anyOf {clauses clauses' : List FilterClause}
    (h : ofClauses clauses = .anyOf clauses') : clauses = clauses' := by
  cases clauses with
  | nil => cases h
  | cons clause rest => exact RowFilter.anyOf.inj h

/-- A filter without empty sets admits no row only if it is the filter for no row. -/
theorem IsProper.eq_denyAll_iff (hf : f.IsProper) :
    f = .denyAll ↔ ∀ ns project, f.admits ns project = false := by
  constructor
  · rintro rfl ns project
    rfl
  · intro hnone
    cases f with
    | unrestricted => exact absurd (hnone "" "") (by decide)
    | denyAll => rfl
    | anyOf clauses =>
      obtain ⟨clause, hclause⟩ := List.exists_mem_of_ne_nil clauses hf.1
      obtain ⟨ns, project, hadmits⟩ := (hf.2 clause hclause).exists_admits
      have hrow : (anyOf clauses).admits ns project = true :=
        List.any_eq_true.mpr ⟨clause, hclause, hadmits⟩
      exact absurd (hnone ns project) (by simp [hrow])

/-- **Compiled filters are in canonical form.** The clauses of a compiled filter are in canonical
form, and the filter is the one for no row exactly if it admits none. -/
theorem canonical_of_compiled (hf : f.Compiled) :
    (∀ clauses, f = .anyOf clauses → Canonical clauses) ∧
      (f = .denyAll ↔ ∀ ns project, f.admits ns project = false) := by
  refine ⟨fun clauses hclauses => ?_, hf.isProper.eq_denyAll_iff⟩
  have hne : clauses ≠ [] := (hclauses ▸ hf.isProper : (anyOf clauses).IsProper).1
  rcases hf.eq_ofClauses with h | h | ⟨clause, hclause, h⟩ | ⟨held, h⟩
  · exact RowFilter.noConfusion (h.symm.trans hclauses)
  · exact RowFilter.noConfusion (h.symm.trans hclauses)
  · cases h.symm.trans hclauses
    exact canonical_singleton hclause
  · obtain rfl := eq_of_ofClauses_eq_anyOf (h.symm.trans hclauses)
    exact canonical_clausesOf held hne

/-- Permissions of all shapes, some of them for the projects of a namespace that is allowed as a
whole. -/
theorem canonical_of_compiled_mixed :
    let f := byNamespaceProject
      ⟨[⟨.exact "c", .exact "q", .agent, .read⟩, ⟨.exact "a", .exact "r", .all, .read⟩,
        ⟨.any, .exact "p", .page, .all⟩, ⟨.exact "b", .exact "q", .all, .read⟩,
        ⟨.exact "a", .any, .all, .read⟩, ⟨.exact "c", .exact "p", .all, .read⟩], []⟩ .read
    ∃ clauses, f = .anyOf clauses ∧ clauses.filterMap partialNamespace? = ["b", "c"] ∧
      Canonical clauses ∧ f ≠ .denyAll := by
  intro f
  have hf : f.Compiled := .byNamespaceProject _ _
  obtain ⟨hcanonical, hdeny⟩ := canonical_of_compiled hf
  have hclauses : f = .anyOf [.namespaceIn (.ofList ["a"]), .projectIn (.ofList ["p"]),
      .projectsIn "b" (.ofList ["q"]), .projectsIn "c" (.ofList ["p", "q"])] := by decide +kernel
  refine ⟨_, hclauses, by decide, hcanonical _ hclauses, fun h => ?_⟩
  have hrow : f.admits "a" "s" = false := hdeny.mp h "a" "s"
  rw [hclauses] at hrow
  exact absurd hrow (by decide +kernel)

end RowFilter

end Gatehouse
