import Gatehouse.Proofs.Filter.Rendering
import Gatehouse.Proofs.Text.Order
import Mathlib.Data.List.Forall2

/-!
# The text of a query tells no code

What a filter appends to the text of a query is settled by its shape (`RowFilter.SameShape`): which
clauses it has, and how many codes each of their sets. The codes themselves are only bound, clause
by clause and in the order of their bytes (`RowFilter.Binds`). `appendTo_of_sameShape` says both,
for filters of any kind: the sets of a clause may be empty, and there may be no clause at all.

The lexemes of a filter are written with the places of its values and not with the values, so
they are the same for filters of one shape; what is appended is known from them (`Appends`).
-/

namespace Gatehouse

/-! ### Shapes -/

/-- Two clauses are of one shape: of the same kind, with as many codes in each set. -/
inductive FilterClause.SameShape : FilterClause → FilterClause → Prop
  | namespaceIn {s t : CodeSet} (h : s.toList.length = t.toList.length) :
    SameShape (.namespaceIn s) (.namespaceIn t)
  | projectIn {s t : CodeSet} (h : s.toList.length = t.toList.length) :
    SameShape (.projectIn s) (.projectIn t)
  | namespaceIs (a b : String) : SameShape (.namespaceIs a) (.namespaceIs b)
  | projectsIn (a b : String) {s t : CodeSet} (h : s.toList.length = t.toList.length) :
    SameShape (.projectsIn a s) (.projectsIn b t)

/-- Two filters are of one shape: of the same kind, with clauses of the same shapes one by one. -/
inductive RowFilter.SameShape : RowFilter → RowFilter → Prop
  | unrestricted : SameShape .unrestricted .unrestricted
  | denyAll : SameShape .denyAll .denyAll
  | anyOf {cs ds : List FilterClause} (h : List.Forall₂ FilterClause.SameShape cs ds) :
    SameShape (.anyOf cs) (.anyOf ds)

namespace FilterClause.SameShape

variable {c d : FilterClause}

/-- Clauses of one shape bind as many values. -/
theorem length_values (h : c.SameShape d) : c.values.length = d.values.length := by
  cases h with
  | namespaceIn h => exact h
  | projectIn h => exact h
  | namespaceIs a b => rfl
  | projectsIn a b h => exact congrArg (· + 1) h

/-- Clauses of one shape have the same lexemes. -/
theorem lexemes_eq (h : c.SameShape d) (n : Nat) : c.lexemes n = d.lexemes n := by
  cases h with
  | namespaceIn h => rw [lexemes, lexemes, h]
  | projectIn h => rw [lexemes, lexemes, h]
  | namespaceIs a b => rfl
  | projectsIn a b h => rw [lexemes, lexemes, h]

end FilterClause.SameShape

namespace RowFilter

variable {cs ds : List FilterClause}

theorem length_flatMap_values (h : List.Forall₂ FilterClause.SameShape cs ds) :
    (cs.flatMap FilterClause.values).length = (ds.flatMap FilterClause.values).length := by
  induction h with
  | nil => rfl
  | cons h _ ih =>
    rw [List.flatMap_cons, List.flatMap_cons, List.length_append, List.length_append,
      h.length_values, ih]

theorem moreAlternatives_congr (h : List.Forall₂ FilterClause.SameShape cs ds) (n : Nat) :
    moreAlternatives n cs = moreAlternatives n ds := by
  induction h generalizing n with
  | nil => rfl
  | cons h _ ih => rw [moreAlternatives, moreAlternatives, h.lexemes_eq, h.length_values, ih]

theorem alternatives_congr (h : List.Forall₂ FilterClause.SameShape cs ds) (n : Nat) :
    alternatives n cs = alternatives n ds := by
  cases h with
  | nil => rfl
  | cons h hrest =>
    rw [alternatives, alternatives, h.lexemes_eq, h.length_values, moreAlternatives_congr hrest]

namespace SameShape

variable {f g : RowFilter}

theorem length_values (h : f.SameShape g) : f.values.length = g.values.length := by
  cases h with
  | unrestricted => rfl
  | denyAll => rfl
  | anyOf h => exact length_flatMap_values h

/-- Filters of one shape have the same lexemes. -/
theorem lexemes_eq (h : f.SameShape g) (n : Nat) : f.lexemes n = g.lexemes n := by
  cases h with
  | unrestricted => rfl
  | denyAll => rfl
  | anyOf h =>
    have hall := alternatives_congr h n
    -- a single clause stands bare, so it is looked at apart
    cases h with
    | nil => rfl
    | cons h hrest =>
      cases hrest with
      | nil => exact h.lexemes_eq n
      | cons => exact congrArg enclosedLexemes hall

/-- Filters of one shape append the same text. -/
theorem text_appendTo (h : f.SameShape g) (joiner : SqlJoiner) (q : SqlQuery) :
    (f.appendTo joiner q).text = (g.appendTo joiner q).text := by
  by_cases hf : f = .unrestricted
  · subst hf
    cases h
    rfl
  · have hg : g ≠ .unrestricted := by
      rintro rfl
      cases h
      exact hf rfl
    rw [← String.toList_inj, (appends_appendTo hf joiner q).text,
      (appends_appendTo hg joiner q).text, h.lexemes_eq]

end SameShape

end RowFilter

/-! ### Values -/

/-- A row of codes lists a set: it has the codes of the set, in the order of their bytes. -/
structure CodeSet.ListedAs (s : CodeSet) (codes : List String) : Prop where
  mem_iff : ∀ code, code ∈ codes ↔ code ∈ s
  ascending : codes.Pairwise fun a b => Text.utf8 a < Text.utf8 b

/-- A set is listed in one way only. -/
theorem CodeSet.listedAs_iff {s : CodeSet} {codes : List String} :
    s.ListedAs codes ↔ codes = s.toList := by
  constructor
  · intro h
    have hcodes : codes.Pairwise (· < ·) := h.ascending.imp Text.utf8_lt_utf8_iff.mp
    have hset : (⟨codes, hcodes⟩ : CodeSet) = s := CodeSet.ext_mem h.mem_iff
    exact congrArg toList hset
  · rintro rfl
    exact ⟨fun _ => Iff.rfl, s.ascending.imp Text.utf8_lt_utf8_iff.mpr⟩

/-- The values of a clause in order: its namespace before its projects. -/
inductive FilterClause.Binds : FilterClause → List String → Prop
  | namespaceIn {s : CodeSet} {codes : List String} (h : s.ListedAs codes) :
    Binds (.namespaceIn s) codes
  | projectIn {s : CodeSet} {codes : List String} (h : s.ListedAs codes) :
    Binds (.projectIn s) codes
  | namespaceIs (ns : String) : Binds (.namespaceIs ns) [ns]
  | projectsIn (ns : String) {s : CodeSet} {codes : List String} (h : s.ListedAs codes) :
    Binds (.projectsIn ns s) (ns :: codes)

theorem FilterClause.binds_iff {c : FilterClause} {values : List String} :
    c.Binds values ↔ values = c.values := by
  constructor
  · rintro (h | h | - | ⟨-, h⟩)
    · exact CodeSet.listedAs_iff.mp h
    · exact CodeSet.listedAs_iff.mp h
    · rfl
    · exact congrArg _ (CodeSet.listedAs_iff.mp h)
  · rintro rfl
    cases c with
    | namespaceIn s => exact .namespaceIn (CodeSet.listedAs_iff.mpr rfl)
    | projectIn s => exact .projectIn (CodeSet.listedAs_iff.mpr rfl)
    | namespaceIs ns => exact .namespaceIs ns
    | projectsIn ns s => exact .projectsIn ns (CodeSet.listedAs_iff.mpr rfl)

namespace RowFilter

/-- The values of a filter in order: clause by clause. -/
inductive Binds : RowFilter → List String → Prop
  | unrestricted : Binds .unrestricted []
  | denyAll : Binds .denyAll []
  | anyOf {clauses : List FilterClause} {parts : List (List String)}
    (h : List.Forall₂ FilterClause.Binds clauses parts) : Binds (.anyOf clauses) parts.flatten

theorem forall₂_binds_iff {clauses : List FilterClause} {parts : List (List String)} :
    List.Forall₂ FilterClause.Binds clauses parts ↔ parts = clauses.map FilterClause.values := by
  constructor
  · intro h
    induction h with
    | nil => rfl
    | cons h _ ih => rw [FilterClause.binds_iff.mp h, ih, List.map_cons]
  · rintro rfl
    exact List.forall₂_map_right_iff.mpr
      (List.forall₂_same.mpr fun _ _ => FilterClause.binds_iff.mpr rfl)

theorem binds_iff {f : RowFilter} {values : List String} : f.Binds values ↔ values = f.values := by
  constructor
  · rintro (- | - | h)
    · rfl
    · rfl
    · rw [forall₂_binds_iff.mp h, RowFilter.values, List.flatMap_def]
  · rintro rfl
    cases f with
    | unrestricted => exact .unrestricted
    | denyAll => exact .denyAll
    | anyOf clauses =>
      rw [RowFilter.values, List.flatMap_def]
      exact .anyOf (forall₂_binds_iff.mpr rfl)

theorem binds_appendTo (f : RowFilter) (joiner : SqlJoiner) (q : SqlQuery) :
    (f.appendTo joiner q).binds = q.binds ++ f.values := by
  by_cases hf : f = .unrestricted
  · subst hf
    exact (List.append_nil _).symm
  · exact (appends_appendTo hf joiner q).binds

/-- **Codes are bound and never written.** Filters of one shape append the same text to a query,
whatever their codes are, and bind as many values. The values that a filter binds are those of its
clauses in turn, a namespace before its projects, and each set in the order of the bytes. -/
theorem appendTo_of_sameShape (f : RowFilter) (joiner : SqlJoiner) (q : SqlQuery) :
    (∀ g, f.SameShape g → ∀ tail,
      ((f.appendTo joiner q).push tail).text = ((g.appendTo joiner q).push tail).text ∧
      (f.appendTo joiner q).binds.length = (g.appendTo joiner q).binds.length) ∧
    ∀ values, (f.appendTo joiner q).binds = q.binds ++ values ↔ f.Binds values := by
  refine ⟨fun g h tail => ⟨?_, ?_⟩, fun values => ?_⟩
  · rw [SqlQuery.push, SqlQuery.push, h.text_appendTo]
  · rw [binds_appendTo, binds_appendTo, List.length_append, List.length_append, h.length_values]
  · rw [binds_appendTo, List.append_cancel_left_eq, binds_iff, eq_comm]

/-- Codes that look like parts of a query leave no trace in it. -/
theorem appendTo_of_sameShape_hostile :
    let f : RowFilter := .anyOf [.namespaceIn .empty, .projectsIn "a" (.ofList ["p", "q"])]
    let g : RowFilter := .anyOf [.namespaceIn .empty,
      .projectsIn "' OR 1 = 1 --" (.ofList ["); DELETE FROM users", "$1"])]
    let q := SqlQuery.ofText "SELECT id FROM redirects"
    f.SameShape g ∧
      ((f.appendTo .whereCondition q).push " ORDER BY id").text =
        ((g.appendTo .whereCondition q).push " ORDER BY id").text ∧
      g.Binds ["' OR 1 = 1 --", "$1", "); DELETE FROM users"] := by
  intro f g q
  have h : f.SameShape g :=
    .anyOf (.cons (.namespaceIn rfl) (.cons (.projectsIn _ _ (by decide +kernel)) .nil))
  exact ⟨h, ((appendTo_of_sameShape f .whereCondition q).1 g h " ORDER BY id").1,
    ((appendTo_of_sameShape g .whereCondition q).2 _).mp (by decide +kernel)⟩

end RowFilter

end Gatehouse
