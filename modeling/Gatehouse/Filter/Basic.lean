import Gatehouse.Filter.CodeSet

/-!
# Row filters

A filter says which rows of a table may be seen, a row being known by the codes of its namespace
and its project. Apart from the two trivial filters it is a list of clauses, of which a row has to
satisfy one.
-/

namespace Gatehouse

/-- One of the alternatives of a filter. -/
inductive FilterClause where
  /-- Rows of these namespaces. -/
  | namespaceIn (namespaces : CodeSet)
  /-- Rows of these projects, in any namespace. -/
  | projectIn (projects : CodeSet)
  /-- Rows of one namespace. -/
  | namespaceIs (ns : String)
  /-- Rows of these projects in one namespace. -/
  | projectsIn (ns : String) (projects : CodeSet)
  deriving DecidableEq, Repr, Inhabited

/-- Which rows may be seen. -/
inductive RowFilter where
  /-- All rows. -/
  | unrestricted
  /-- No row. -/
  | denyAll
  /-- The rows that satisfy one of the clauses. -/
  | anyOf (clauses : List FilterClause)
  deriving DecidableEq, Repr, Inhabited

/-- Whether a row satisfies a clause. -/
def FilterClause.admits (clause : FilterClause) (ns project : String) : Bool :=
  match clause with
  | .namespaceIn namespaces => namespaces.contains ns
  | .projectIn projects => projects.contains project
  | .namespaceIs own => own == ns
  | .projectsIn own projects => own == ns && projects.contains project

/-- Whether a row may be seen. -/
def RowFilter.admits (filter : RowFilter) (ns project : String) : Bool :=
  match filter with
  | .unrestricted => true
  | .denyAll => false
  | .anyOf clauses => clauses.any (·.admits ns project)

/-- The filter of some clauses; without clauses no row may be seen. -/
def RowFilter.ofClauses : List FilterClause → RowFilter
  | [] => .denyAll
  | clauses => .anyOf clauses

/-- A filter of clauses admits what one of the clauses admits. -/
theorem RowFilter.admits_ofClauses (clauses : List FilterClause) (ns project : String) :
    (RowFilter.ofClauses clauses).admits ns project = clauses.any (·.admits ns project) := by
  cases clauses <;> simp [ofClauses, admits]

end Gatehouse
