import Gatehouse.Decimal.Integer
import Gatehouse.Filter.Basic

/-!
# Filters in SQL

A filter is appended to the text of a query as a condition on the columns `namespace_code` and
`project_code`. Codes never become part of the text: each is bound to a numbered placeholder.
-/

namespace Gatehouse

/-- A query under construction: its text and the values bound to the placeholders `$1`, `$2`, … -/
structure SqlQuery where
  text : String
  binds : List String
  deriving DecidableEq, Repr, Inhabited

namespace SqlQuery

/-- A query without values. -/
def ofText (text : String) : SqlQuery :=
  ⟨text, []⟩

/-- Appends text. -/
def push (q : SqlQuery) (text : String) : SqlQuery :=
  { q with text := q.text ++ text }

/-- Appends a placeholder and binds a value to it. -/
def bind (q : SqlQuery) (value : String) : SqlQuery :=
  ⟨q.text ++ "$" ++ Decimal.natText (q.binds.length + 1), q.binds ++ [value]⟩

/-- Appends placeholders after the first one. -/
def bindMore (q : SqlQuery) (values : List String) : SqlQuery :=
  values.foldl (fun q value => (q.push ", ").bind value) q

/-- Appends placeholders separated by commas. -/
def bindAll (q : SqlQuery) : List String → SqlQuery
  | [] => q
  | value :: rest => (q.bind value).bindMore rest

end SqlQuery

/-- How a condition is attached to a query. -/
inductive SqlJoiner where
  /-- The query has no condition yet. -/
  | whereCondition
  /-- The query has a condition already. -/
  | andCondition
  deriving DecidableEq, Repr, Inhabited

/-- The words of a joiner. -/
def SqlJoiner.text : SqlJoiner → String
  | .whereCondition => " WHERE "
  | .andCondition => " AND "

/-- The column of a row's namespace. -/
def namespaceColumn : String := "namespace_code"

/-- The column of a row's project. -/
def projectColumn : String := "project_code"

namespace FilterClause

/-- Appends the condition that a column holds one of some codes. -/
def appendIn (q : SqlQuery) (column : String) (codes : CodeSet) : SqlQuery :=
  (((q.push column).push " IN (").bindAll codes.toList).push ")"

/-- Appends the condition that a column holds one code. -/
def appendIs (q : SqlQuery) (column code : String) : SqlQuery :=
  ((q.push column).push " = ").bind code

/-- Appends a clause to a query. -/
def appendTo (clause : FilterClause) (q : SqlQuery) : SqlQuery :=
  match clause with
  | .namespaceIn namespaces => appendIn q namespaceColumn namespaces
  | .projectIn projects => appendIn q projectColumn projects
  | .namespaceIs ns => appendIs q namespaceColumn ns
  | .projectsIn ns projects =>
    appendIn ((appendIs q namespaceColumn ns).push " AND ") projectColumn projects

/-- Appends a clause in parentheses. -/
def appendEnclosed (clause : FilterClause) (q : SqlQuery) : SqlQuery :=
  (clause.appendTo (q.push "(")).push ")"

end FilterClause

namespace RowFilter

/-- Appends alternatives, each in parentheses. -/
def appendAlternatives (q : SqlQuery) : List FilterClause → SqlQuery
  | [] => q
  | clause :: rest =>
    rest.foldl (fun q c => c.appendEnclosed (q.push " OR ")) (clause.appendEnclosed q)

/-- Appends a filter to a query. The filter of all rows appends nothing, a single clause stands
bare, and several clauses are alternatives in parentheses. -/
def appendTo (filter : RowFilter) (joiner : SqlJoiner) (q : SqlQuery) : SqlQuery :=
  match filter with
  | .unrestricted => q
  | .denyAll => (q.push joiner.text).push "1 = 0"
  | .anyOf [clause] => clause.appendTo (q.push joiner.text)
  | .anyOf clauses => (appendAlternatives ((q.push joiner.text).push "(") clauses).push ")"

end RowFilter

end Gatehouse
