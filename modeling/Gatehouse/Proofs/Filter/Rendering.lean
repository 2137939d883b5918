import Gatehouse.Proofs.Filter.Admission
import Gatehouse.Proofs.Sql.Fragment

/-!
# Filters appended to queries

A filter that the compilers make is appended to the text of a query, with its codes bound to
placeholders. `appendTo_of_compiled` says what the database then reads: a well-formed condition that
holds for a row exactly when the condition that was there holds for it and the filter admits it.

The text is described by its lexemes first, together with the values that are bound on the way
(`Appends`), and the lexemes are then read with the laws for fragments. Two things have to be seen
for each clause: its lexemes are factors, so that a single clause may stand bare behind an `AND`
although it may contain an `AND` of its own, and its placeholders are those of its own values
wherever it stands, which is what `Bound` carries along.

The lists of `IN` must not be empty. The compilers never make a clause of an empty set
(`IsProper`), and this is all that is used about them.
-/

namespace Gatehouse

open Sql

/-! ### Placeholders -/

/-- The text of a placeholder. -/
def placeholderText (k : Nat) : String :=
  "$" ++ Decimal.natText k

theorem toList_placeholderText (k : Nat) :
    (placeholderText k).toList = '$' :: Decimal.natDigits k := by
  simp [placeholderText, Decimal.natText]

theorem placeholder?_placeholderText (k : Nat) :
    (Token.word (placeholderText k)).placeholder? = some k := by
  have hnumeral : IsNumeral (Decimal.natDigits k) :=
    ⟨Decimal.natDigits_ne_nil k, fun _ => Decimal.isSome_digit?_of_mem_natDigits⟩
  rw [Token.placeholder?, toList_placeholderText]
  simp [hnumeral, Decimal.digitsValue_natDigits]

theorem isWord_placeholderText (k : Nat) : IsWord (placeholderText k) := by
  rw [IsWord, toList_placeholderText]
  refine ⟨by simp, fun c hc => ?_⟩
  rcases List.mem_cons.mp hc with rfl | hc
  · decide
  · have hdigit : c.isDigit = true := (Decimal.isDigits_natDigits k).isDigit c hc
    simp [isWordChar, Char.isAlphanum, hdigit]

/-- A placeholder is no keyword: it starts with a character that no keyword has. -/
theorem isKeyword_placeholderText (k : Nat) (name : String)
    (h : (name.toList.map Char.toLower).head? ≠ some '$') :
    (Token.word (placeholderText k)).isKeyword name = false := by
  rw [Token.isKeyword, Text.sameLetters, toList_placeholderText, beq_eq_false_iff_ne]
  rintro heq
  rw [← heq] at h
  exact h rfl

theorem opens?_placeholderText (k : Nat) : (Token.word (placeholderText k)).opens? = none := by
  simp [Token.opens?, isKeyword_placeholderText k "CASE" (by decide)]

theorem closes?_placeholderText (k : Nat) : (Token.word (placeholderText k)).closes? = none := by
  simp [Token.closes?, isKeyword_placeholderText k "END" (by decide)]

/-- Placeholders that stand for some values. -/
def Bound (binds : List String) (ks : List Nat) (values : List String) : Prop :=
  ks.map (boundValue? binds) = values.map some

theorem bound_all (values : List String) : Bound values (List.range' 1 values.length) values := by
  refine List.ext_getElem? fun i => ?_
  by_cases h : i < values.length
  · simp [boundValue?, h, Nat.add_comm 1 i]
  · simp [h]

/-- The placeholders of the first values and those of the others. -/
theorem Bound.append {binds : List String} {n : Nat} {values more : List String}
    (h : Bound binds (List.range' (n + 1) (values ++ more).length) (values ++ more)) :
    Bound binds (List.range' (n + 1) values.length) values ∧
      Bound binds (List.range' (n + values.length + 1) more.length) more := by
  rw [Bound, List.length_append, ← List.range'_append_1, List.map_append, List.map_append,
    Nat.add_right_comm] at h
  exact List.append_inj h (by simp)

/-! ### Lexemes of conditions -/

/-- The name of a column. -/
def Sql.Column.name : Column → String
  | .namespaceCode => namespaceColumn
  | .projectCode => projectColumn

/-- A column is the value of a placeholder. -/
def isLexemes (column : String) (k : Nat) : List Lexeme :=
  [.word column, .blank, .symbol '=', .blank, .word (placeholderText k)]

/-- Placeholders after the first one. -/
def moreLexemes (ks : List Nat) : List Lexeme :=
  ks.flatMap fun k => [.symbol ',', .blank, .word (placeholderText k)]

/-- Placeholders with commas between them. -/
def listLexemes : List Nat → List Lexeme
  | [] => []
  | k :: ks => .word (placeholderText k) :: moreLexemes ks

/-- A column is the value of one of some placeholders. -/
def inLexemes (column : String) (ks : List Nat) : List Lexeme :=
  .word column :: .blank :: .word "IN" :: .blank ::
    (.symbol '(' :: (listLexemes ks ++ [.symbol ')']))

/-- A condition in parentheses. -/
def enclosedLexemes (ls : List Lexeme) : List Lexeme :=
  .symbol '(' :: (ls ++ [.symbol ')'])

namespace FilterClause

/-- The values that are bound for a clause. -/
def values : FilterClause → List String
  | .namespaceIn namespaces => namespaces.toList
  | .projectIn projects => projects.toList
  | .namespaceIs ns => [ns]
  | .projectsIn ns projects => ns :: projects.toList

/-- The lexemes of a clause behind `n` values. -/
def lexemes (n : Nat) : FilterClause → List Lexeme
  | .namespaceIn namespaces =>
    inLexemes namespaceColumn (List.range' (n + 1) namespaces.toList.length)
  | .projectIn projects => inLexemes projectColumn (List.range' (n + 1) projects.toList.length)
  | .namespaceIs _ => isLexemes namespaceColumn (n + 1)
  | .projectsIn _ projects =>
    isLexemes namespaceColumn (n + 1) ++ (operatorLexemes "AND" ++
      inLexemes projectColumn (List.range' (n + 2) projects.toList.length))

end FilterClause

namespace RowFilter

/-- The lexemes of the alternatives after the first one, behind `n` values. -/
def moreAlternatives (n : Nat) : List FilterClause → List Lexeme
  | [] => []
  | clause :: rest =>
    operatorLexemes "OR" ++ enclosedLexemes (clause.lexemes n) ++
      moreAlternatives (n + clause.values.length) rest

/-- The lexemes of alternatives, each in parentheses, behind `n` values. -/
def alternatives (n : Nat) : List FilterClause → List Lexeme
  | [] => []
  | clause :: rest =>
    enclosedLexemes (clause.lexemes n) ++ moreAlternatives (n + clause.values.length) rest

/-- The values that are bound for a filter. -/
def values : RowFilter → List String
  | .unrestricted => []
  | .denyAll => []
  | .anyOf clauses => clauses.flatMap FilterClause.values

/-- The lexemes of a filter behind `n` values. -/
def lexemes (n : Nat) : RowFilter → List Lexeme
  | .unrestricted => []
  | .denyAll => [.word "1", .blank, .symbol '=', .blank, .word "0"]
  | .anyOf [clause] => clause.lexemes n
  | .anyOf clauses => enclosedLexemes (alternatives n clauses)

end RowFilter

/-- The keyword of a joiner. -/
def SqlJoiner.keyword : SqlJoiner → String
  | .whereCondition => "WHERE"
  | .andCondition => "AND"

/-! ### What is appended -/

/-- A query grows by some lexemes and values. -/
structure Appends (q q' : SqlQuery) (ls : List Lexeme) (values : List String) : Prop where
  text : q'.text.toList = q.text.toList ++ spell ls
  binds : q'.binds = q.binds ++ values

namespace Appends

variable {q q' q'' : SqlQuery} {ls ms : List Lexeme} {values more : List String}

theorem refl (q : SqlQuery) : Appends q q [] [] :=
  ⟨by simp [spell], by simp⟩

theorem trans (h : Appends q q' ls values) (h' : Appends q' q'' ms more) :
    Appends q q'' (ls ++ ms) (values ++ more) := by
  refine ⟨?_, ?_⟩
  · rw [h'.text, h.text, spell, spell, spell, List.flatMap_append, List.append_assoc]
  · rw [h'.binds, h.binds, List.append_assoc]

/-- The number of values afterwards. -/
theorem length_binds (h : Appends q q' ls values) :
    q'.binds.length = q.binds.length + values.length := by
  rw [h.binds, List.length_append]

end Appends

namespace SqlQuery

@[simp] theorem binds_push (q : SqlQuery) (text : String) : (q.push text).binds = q.binds := rfl

theorem appends_push (q : SqlQuery) (text : String) (ls : List Lexeme)
    (h : text.toList = spell ls) : Appends q (q.push text) ls [] :=
  ⟨by simp [push, h], by simp [push]⟩

theorem appends_bind (q : SqlQuery) (value : String) :
    Appends q (q.bind value) [.word (placeholderText (q.binds.length + 1))] [value] :=
  ⟨by simp [bind, spell, Lexeme.chars, placeholderText], rfl⟩

theorem appends_bindMore (q : SqlQuery) (values : List String) :
    Appends q (q.bindMore values) (moreLexemes (List.range' (q.binds.length + 1) values.length))
      values := by
  induction values generalizing q with
  | nil => exact .refl q
  | cons value rest ih =>
    have hfirst := (q.appends_push ", " [.symbol ',', .blank] (by decide)).trans
      ((q.push ", ").appends_bind value)
    have hall := hfirst.trans (ih _)
    rw [hfirst.length_binds] at hall
    exact hall

theorem appends_bindAll (q : SqlQuery) (values : List String) :
    Appends q (q.bindAll values) (listLexemes (List.range' (q.binds.length + 1) values.length))
      values := by
  cases values with
  | nil => exact .refl q
  | cons value rest =>
    have hall := (q.appends_bind value).trans ((q.bind value).appends_bindMore rest)
    rw [(q.appends_bind value).length_binds] at hall
    exact hall

end SqlQuery

namespace FilterClause

theorem appends_appendIs (q : SqlQuery) (column : Column) (code : String) :
    Appends q (appendIs q column.name code) (isLexemes column.name (q.binds.length + 1))
      [code] := by
  have hcolumn := q.appends_push column.name [.word column.name]
    (by simp [spell, Lexeme.chars])
  have hequals := (q.push column.name).appends_push " = "
    [.blank, .symbol '=', .blank] (by decide)
  exact (hcolumn.trans hequals).trans (SqlQuery.appends_bind _ code)

theorem appends_appendIn (q : SqlQuery) (column : Column) (codes : CodeSet) :
    Appends q (appendIn q column.name codes)
      (inLexemes column.name (List.range' (q.binds.length + 1) codes.toList.length))
      codes.toList := by
  have hcolumn := q.appends_push column.name [.word column.name]
    (by simp [spell, Lexeme.chars])
  have hin := (q.push column.name).appends_push " IN ("
    [.blank, .word "IN", .blank, .symbol '('] (by decide)
  have hlist := ((q.push column.name).push " IN (").appends_bindAll codes.toList
  have hclose := SqlQuery.appends_push
    (((q.push column.name).push " IN (").bindAll codes.toList) ")"
    [.symbol ')'] (by decide)
  simpa [appendIn, inLexemes] using ((hcolumn.trans hin).trans hlist).trans hclose

/-- A clause grows a query by its lexemes and its values. -/
theorem appends_appendTo (clause : FilterClause) (q : SqlQuery) :
    Appends q (clause.appendTo q) (clause.lexemes q.binds.length) clause.values := by
  cases clause with
  | namespaceIn namespaces => exact appends_appendIn q .namespaceCode namespaces
  | projectIn projects => exact appends_appendIn q .projectCode projects
  | namespaceIs ns => exact appends_appendIs q .namespaceCode ns
  | projectsIn ns projects =>
    have his := appends_appendIs q .namespaceCode ns
    have hand := (appendIs q namespaceColumn ns).appends_push " AND "
      (operatorLexemes "AND") (by decide)
    -- the placeholders of the projects go on after that of the namespace
    have hboth := his.trans hand
    have hall := hboth.trans (appends_appendIn _ .projectCode projects)
    rw [hboth.length_binds, List.append_assoc] at hall
    exact hall

theorem appends_appendEnclosed (clause : FilterClause) (q : SqlQuery) :
    Appends q (clause.appendEnclosed q) (enclosedLexemes (clause.lexemes q.binds.length))
      clause.values := by
  have hopen := q.appends_push "(" [.symbol '('] (by decide)
  have hclause := clause.appends_appendTo (q.push "(")
  have hclose := SqlQuery.appends_push (clause.appendTo (q.push "(")) ")"
    [.symbol ')'] (by decide)
  simpa [appendEnclosed, enclosedLexemes] using (hopen.trans hclause).trans hclose

end FilterClause

namespace RowFilter

theorem appends_appendMore (q : SqlQuery) (clauses : List FilterClause) :
    Appends q (clauses.foldl (fun q c => c.appendEnclosed (q.push " OR ")) q)
      (moreAlternatives q.binds.length clauses) (clauses.flatMap FilterClause.values) := by
  induction clauses generalizing q with
  | nil => exact .refl q
  | cons clause rest ih =>
    have hor := q.appends_push " OR " (operatorLexemes "OR") (by decide)
    have hfirst := hor.trans (clause.appends_appendEnclosed (q.push " OR "))
    have hall := hfirst.trans (ih _)
    rw [hfirst.length_binds] at hall
    exact hall

theorem appends_appendAlternatives (q : SqlQuery) (clauses : List FilterClause) :
    Appends q (appendAlternatives q clauses) (alternatives q.binds.length clauses)
      (clauses.flatMap FilterClause.values) := by
  cases clauses with
  | nil => exact .refl q
  | cons clause rest =>
    have hfirst := clause.appends_appendEnclosed q
    have hall := hfirst.trans (appends_appendMore _ rest)
    rw [hfirst.length_binds] at hall
    exact hall

theorem appends_enclosed (q : SqlQuery) (clauses : List FilterClause) :
    Appends q ((appendAlternatives (q.push "(") clauses).push ")")
      (enclosedLexemes (alternatives q.binds.length clauses))
      (clauses.flatMap FilterClause.values) := by
  have hopen := q.appends_push "(" [.symbol '('] (by decide)
  have hclauses := appends_appendAlternatives (q.push "(") clauses
  have hclose := SqlQuery.appends_push (appendAlternatives (q.push "(") clauses) ")"
    [.symbol ')'] (by decide)
  simpa [enclosedLexemes] using (hopen.trans hclauses).trans hclose

/-- A filter grows a query by its lexemes, after those of the joiner, and by its values. -/
theorem appends_appendTo {f : RowFilter} (hf : f ≠ .unrestricted) (joiner : SqlJoiner)
    (q : SqlQuery) :
    Appends q (f.appendTo joiner q)
      (operatorLexemes joiner.keyword ++ f.lexemes q.binds.length) f.values := by
  have hjoiner := q.appends_push joiner.text (operatorLexemes joiner.keyword)
    (by cases joiner <;> decide)
  match f with
  | .unrestricted => exact absurd rfl hf
  | .denyAll =>
    exact hjoiner.trans (SqlQuery.appends_push (q.push joiner.text) _ _ (by rw [lexemes]; decide))
  | .anyOf [clause] =>
    have hclause := clause.appends_appendTo (q.push joiner.text)
    simpa [appendTo, lexemes, values] using hjoiner.trans hclause
  | .anyOf [] => exact hjoiner.trans (appends_enclosed (q.push joiner.text) [])
  | .anyOf (clause :: other :: rest) =>
    exact hjoiner.trans (appends_enclosed (q.push joiner.text) (clause :: other :: rest))

end RowFilter

/-! ### The placeholders of the lexemes -/

/-- The placeholders among some lexemes. -/
def placeholdersOf (ls : List Lexeme) : List Nat :=
  (tokensOf ls).filterMap Token.placeholder?

@[simp] theorem placeholdersOf_append (ls ms : List Lexeme) :
    placeholdersOf (ls ++ ms) = placeholdersOf ls ++ placeholdersOf ms := by
  simp [placeholdersOf]

@[simp] theorem placeholdersOf_enclosedLexemes (ls : List Lexeme) :
    placeholdersOf (enclosedLexemes ls) = placeholdersOf ls := by
  simp [placeholdersOf, enclosedLexemes, List.filterMap_cons]

theorem placeholdersOf_isLexemes (column : Column) (k : Nat) :
    placeholdersOf (isLexemes column.name k) = [k] := by
  have hcolumn : (Token.word column.name).placeholder? = none := by cases column <;> decide
  simp [placeholdersOf, isLexemes, List.filterMap_cons, hcolumn, placeholder?_placeholderText]

theorem placeholdersOf_moreLexemes (ks : List Nat) : placeholdersOf (moreLexemes ks) = ks := by
  induction ks with
  | nil => rfl
  | cons k ks ih =>
    rw [moreLexemes, List.flatMap_cons, placeholdersOf_append, ← moreLexemes, ih]
    simp [placeholdersOf, List.filterMap_cons, placeholder?_placeholderText]

theorem placeholdersOf_listLexemes (ks : List Nat) : placeholdersOf (listLexemes ks) = ks := by
  cases ks with
  | nil => rfl
  | cons k ks =>
    have hmore := placeholdersOf_moreLexemes ks
    rw [placeholdersOf] at hmore
    simp [placeholdersOf, listLexemes, placeholder?_placeholderText, hmore]

theorem placeholdersOf_inLexemes (column : Column) (ks : List Nat) :
    placeholdersOf (inLexemes column.name ks) = ks := by
  have hwords : placeholdersOf [.word column.name, .blank, .word "IN", .blank] = [] := by
    cases column <;> decide
  have happend := placeholdersOf_append [.word column.name, .blank, .word "IN", .blank]
    (enclosedLexemes (listLexemes ks))
  rw [hwords, placeholdersOf_enclosedLexemes, placeholdersOf_listLexemes] at happend
  exact happend

/-- The placeholders of a clause follow on the values before it. -/
theorem FilterClause.placeholdersOf_lexemes (clause : FilterClause) (n : Nat) :
    placeholdersOf (clause.lexemes n) = List.range' (n + 1) clause.values.length := by
  cases clause with
  | namespaceIn namespaces => exact placeholdersOf_inLexemes .namespaceCode _
  | projectIn projects => exact placeholdersOf_inLexemes .projectCode _
  | namespaceIs ns => exact placeholdersOf_isLexemes .namespaceCode _
  | projectsIn ns projects =>
    have hand : placeholdersOf (operatorLexemes "AND") = [] := by decide
    rw [lexemes, placeholdersOf_append, placeholdersOf_append, hand]
    have his : placeholdersOf (isLexemes namespaceColumn (n + 1)) = [n + 1] :=
      placeholdersOf_isLexemes .namespaceCode _
    have hin := placeholdersOf_inLexemes .projectCode
      (List.range' (n + 2) projects.toList.length)
    rw [his, List.nil_append]
    exact congrArg (List.cons (n + 1)) hin

namespace RowFilter

theorem placeholdersOf_moreAlternatives (clauses : List FilterClause) (n : Nat) :
    placeholdersOf (moreAlternatives n clauses) =
      List.range' (n + 1) (clauses.flatMap FilterClause.values).length := by
  induction clauses generalizing n with
  | nil => rfl
  | cons clause rest ih =>
    have hor : placeholdersOf (operatorLexemes "OR") = [] := by decide
    rw [moreAlternatives, placeholdersOf_append, placeholdersOf_append, hor, List.nil_append,
      placeholdersOf_enclosedLexemes, clause.placeholdersOf_lexemes, ih, List.flatMap_cons,
      List.length_append, ← List.range'_append_1, Nat.add_right_comm]

theorem placeholdersOf_alternatives (clauses : List FilterClause) (n : Nat) :
    placeholdersOf (alternatives n clauses) =
      List.range' (n + 1) (clauses.flatMap FilterClause.values).length := by
  cases clauses with
  | nil => rfl
  | cons clause rest =>
    rw [alternatives, placeholdersOf_append, placeholdersOf_enclosedLexemes,
      clause.placeholdersOf_lexemes, placeholdersOf_moreAlternatives, List.flatMap_cons,
      List.length_append, ← List.range'_append_1, Nat.add_right_comm]

/-- The placeholders of a filter are numbered in the order of its values. -/
theorem placeholdersOf_lexemes (f : RowFilter) (n : Nat) :
    placeholdersOf (f.lexemes n) = List.range' (n + 1) f.values.length := by
  match f with
  | .unrestricted => rfl
  | .denyAll => exact (by decide : placeholdersOf (lexemes 0 .denyAll) = [])
  | .anyOf [clause] =>
    rw [lexemes, clause.placeholdersOf_lexemes, values, List.flatMap_singleton]
  | .anyOf [] => exact (by decide : placeholdersOf (lexemes 0 (.anyOf [])) = [])
  | .anyOf (clause :: other :: rest) =>
    rw [lexemes, placeholdersOf_enclosedLexemes, placeholdersOf_alternatives, values]
    simp

end RowFilter

/-! ### Reading the lexemes -/

section

variable {isAtom : List Tree → Bool} {binds : List String}

/-- A column's name is a word and no operator. -/
private theorem isKeyword_column (column : Column) :
    ∀ name ∈ ["OR", "AND", "BETWEEN", "CASE", "END"],
      (Token.word column.name).isKeyword name = false := by
  cases column <;> decide

/-- A placeholder is no operator. -/
private theorem isKeyword_placeholder (k : Nat) :
    ∀ name ∈ ["OR", "AND", "BETWEEN", "CASE", "END"],
      (Token.word (placeholderText k)).isKeyword name = false := by
  intro name hname
  refine isKeyword_placeholderText k name ?_
  revert name
  decide

private theorem column?_column (column : Column) :
    (Token.word column.name).column? = some column := by
  cases column <;> decide

private theorem nests_column (column : Column) {ts : List Token} {items : List Tree}
    (h : Nests ts items) :
    Nests (.word column.name :: ts) (.leaf (.word column.name) :: items) :=
  .cons (by cases column <;> decide) (by cases column <;> decide) h

private theorem nests_placeholder (k : Nat) {ts : List Token} {items : List Tree}
    (h : Nests ts items) :
    Nests (.word (placeholderText k) :: ts) (.leaf (.word (placeholderText k)) :: items) :=
  .cons (opens?_placeholderText k) (closes?_placeholderText k) h

/-- That a column is a value. -/
theorem readsFactors_isLexemes (column : Column) {k : Nat} {value : String}
    (hbound : Bound binds [k] [value]) :
    ReadsFactors isAtom binds (isLexemes column.name k) fun row => value == row.code column := by
  have hvalue : boundValue? binds k = some value := by simpa [Bound] using hbound
  refine ⟨⟨rfl, by cases column <;> decide, by decide, rfl, isWord_placeholderText k, trivial⟩,
    [.leaf (.word column.name), .leaf (.symbol '='), .leaf (.word (placeholderText k))],
    nests_column column (.cons (by decide) (by decide) (nests_placeholder k .nil)),
    meansFactors_atom (a := .isValue column k) ?_ ?_ fun row => ?_⟩
  · -- no operator is among the lexemes, so they make one atom
    have hcolumn := isKeyword_column column
    have hplaceholder := isKeyword_placeholder k
    simp_all [pieces, Piece.isKeyword, Token.isKeyword]
  · simp [pieces, factor?, atom?, filterAtom?, column?_column, placeholder?_placeholderText]
  · simp [Atom.holds, hvalue]

/-- The trees of placeholders after the first one. -/
private def moreItems (ks : List Nat) : List Tree :=
  ks.flatMap fun k => [.leaf (.symbol ','), .leaf (.word (placeholderText k))]

private theorem spaced_moreLexemes (ks : List Nat) (b : Bool) : Spaced b (moreLexemes ks) := by
  induction ks generalizing b with
  | nil => exact trivial
  | cons k ks ih => exact ⟨by decide, rfl, isWord_placeholderText k, ih true⟩

private theorem nests_moreLexemes (ks : List Nat) :
    Nests (tokensOf (moreLexemes ks)) (moreItems ks) := by
  induction ks with
  | nil => exact .nil
  | cons k ks ih => exact .cons (by decide) (by decide) (nests_placeholder k ih)

/-- Placeholders with commas between them are read as their numbers. -/
private theorem listed?_items (k : Nat) (ks : List Nat) :
    listed? (.leaf (.word (placeholderText k)) :: moreItems ks) = some (k :: ks) := by
  induction ks generalizing k with
  | nil => simp [moreItems, listed?, placeholder?_placeholderText]
  | cons k' ks ih =>
    have hrest := ih k'
    rw [moreItems] at hrest
    simp [moreItems, listed?, placeholder?_placeholderText, hrest]

/-- That a column is one of some values. There has to be one. -/
theorem readsFactors_inLexemes (column : Column) {ks : List Nat} {values : List String}
    (hne : values ≠ []) (hbound : Bound binds ks values) :
    ReadsFactors isAtom binds (inLexemes column.name ks)
      fun row => values.contains (row.code column) := by
  -- a list without items would not be read, so the first item is split off
  obtain ⟨k, ks, rfl⟩ : ∃ k ks', ks = k :: ks' := by
    refine List.exists_cons_of_ne_nil ?_
    rintro rfl
    exact hne (List.map_eq_nil_iff.mp hbound.symm)
  refine ⟨⟨rfl, by cases column <;> decide, rfl, by decide, by decide, rfl,
      isWord_placeholderText k, spaced_append_symbol (spaced_moreLexemes ks true) (by decide)
      trivial⟩,
    [.leaf (.word column.name), .leaf (.word "IN"),
      .group .round (.leaf (.word (placeholderText k)) :: moreItems ks)],
    ?_, meansFactors_atom (a := .isOneOf column (k :: ks)) ?_ ?_ fun row => ?_⟩
  · have hlist := (nests_placeholder k (nests_moreLexemes ks)).round
    have hall := nests_column column (.cons (t := .word "IN") (by decide) (by decide) hlist)
    simpa [inLexemes, listLexemes] using hall
  · have hcolumn := isKeyword_column column
    have hin : ∀ name ∈ ["OR", "AND", "BETWEEN"],
        (Token.word "IN").isKeyword name = false := by decide
    simp_all [pieces, Piece.isKeyword, Token.isKeyword]
  · have hin : (Token.word "IN").isKeyword "IN" = true := by decide
    simp [pieces, factor?, atom?, filterAtom?, column?_column, hin, listed?_items]
  · have hany : ((k :: ks).map (boundValue? binds)).any (· == some (row.code column)) =
        (values.map some).any (· == some (row.code column)) := by rw [hbound]
    rw [List.any_map, List.any_map] at hany
    rw [Atom.holds, List.contains_eq_any_beq]
    refine hany.trans ?_
    simp [Function.comp_def, Bool.beq_comm]

/-- A clause that makes no empty list. -/
def FilterClause.IsProper : FilterClause → Prop
  | .namespaceIn namespaces => namespaces.toList ≠ []
  | .projectIn projects => projects.toList ≠ []
  | .namespaceIs _ => True
  | .projectsIn _ projects => projects.toList ≠ []

/-- A clause is read as what it admits. -/
theorem FilterClause.IsProper.readsFactors {clause : FilterClause} (hclause : clause.IsProper)
    {n : Nat} (hbound : Bound binds (List.range' (n + 1) clause.values.length) clause.values) :
    ReadsFactors isAtom binds (clause.lexemes n)
      fun row => clause.admits row.namespaceCode row.projectCode := by
  cases clause with
  | namespaceIn namespaces => exact readsFactors_inLexemes .namespaceCode hclause hbound
  | projectIn projects => exact readsFactors_inLexemes .projectCode hclause hbound
  | namespaceIs ns => exact readsFactors_isLexemes .namespaceCode hbound
  | projectsIn ns projects =>
    have hsplit : Bound binds (List.range' (n + 1) ([ns] ++ projects.toList).length)
        ([ns] ++ projects.toList) := hbound
    obtain ⟨hns, hprojects⟩ := hsplit.append
    exact (readsFactors_isLexemes .namespaceCode hns).and
      (readsFactors_inLexemes .projectCode hclause hprojects)

namespace RowFilter

/-- More alternatives are read as one of them being so. -/
theorem readsAlternatives_more {ls : List Lexeme} {truth : TableRow → Bool}
    (hls : ReadsAlternatives isAtom binds ls truth) {clauses : List FilterClause}
    (hclauses : ∀ clause ∈ clauses, clause.IsProper) {n : Nat}
    (hbound : Bound binds (List.range' (n + 1) (clauses.flatMap FilterClause.values).length)
      (clauses.flatMap FilterClause.values)) :
    ReadsAlternatives isAtom binds (ls ++ moreAlternatives n clauses)
      fun row => truth row ||
        clauses.any (·.admits row.namespaceCode row.projectCode) := by
  induction clauses generalizing ls truth n with
  | nil => simpa [moreAlternatives] using hls
  | cons clause rest ih =>
    rw [List.flatMap_cons] at hbound
    obtain ⟨hfirst, hrest⟩ := hbound.append
    have hclause : ReadsFactors isAtom _ _ _ := (hclauses clause (by simp)).readsFactors hfirst
    have hall := ih (hls.or hclause.alternatives.enclosed)
      (fun c hc => hclauses c (by simp [hc])) hrest
    simpa [moreAlternatives, enclosedLexemes, Bool.or_assoc] using hall

/-- Alternatives, at least one, are read as one of them being so. -/
theorem readsAlternatives {clauses : List FilterClause} (hne : clauses ≠ [])
    (hclauses : ∀ clause ∈ clauses, clause.IsProper) {n : Nat}
    (hbound : Bound binds (List.range' (n + 1) (clauses.flatMap FilterClause.values).length)
      (clauses.flatMap FilterClause.values)) :
    ReadsAlternatives isAtom binds (alternatives n clauses)
      fun row => clauses.any (·.admits row.namespaceCode row.projectCode) := by
  obtain ⟨clause, rest, rfl⟩ := List.exists_cons_of_ne_nil hne
  rw [List.flatMap_cons] at hbound
  obtain ⟨hfirst, hrest⟩ := hbound.append
  have hclause : ReadsFactors isAtom _ _ _ := (hclauses clause (by simp)).readsFactors hfirst
  exact readsAlternatives_more hclause.alternatives.enclosed.alternatives
    (fun c hc => hclauses c (by simp [hc])) hrest

/-- A filter that makes no empty list and no empty parentheses. -/
def IsProper : RowFilter → Prop
  | .unrestricted => True
  | .denyAll => True
  | .anyOf clauses => clauses ≠ [] ∧ ∀ clause ∈ clauses, clause.IsProper

/-- One is not zero. -/
private theorem readsFactors_denyAll (n : Nat) :
    ReadsFactors isAtom binds (RowFilter.denyAll.lexemes n) fun _ => false := by
  refine ⟨⟨rfl, by decide, by decide, rfl, by decide, trivial⟩,
    [.leaf (.word "1"), .leaf (.symbol '='), .leaf (.word "0")],
    .cons (by decide) (by decide) (.cons (by decide) (by decide) (.cons (by decide) (by decide)
      .nil)), meansFactors_atom (a := .numbers 1 0) ?_ ?_ fun row => rfl⟩
  · -- no operator is among the lexemes, so they make one atom
    have hdigits : ∀ text ∈ ["1", "0"], ∀ name ∈ ["OR", "AND", "BETWEEN"],
        (Token.word text).isKeyword name = false := by decide
    simp_all [pieces, Piece.isKeyword, Token.isKeyword]
  · have hcolumn : (Token.word "1").column? = none := by decide
    have hone : (Token.word "1").number? = some 1 := by decide
    have hzero : (Token.word "0").number? = some 0 := by decide
    simp [pieces, factor?, atom?, filterAtom?, hcolumn, hone, hzero]

/-- A filter is read as what it admits. -/
theorem readsFactors {f : RowFilter} (hne : f ≠ .unrestricted) (hf : f.IsProper) {n : Nat}
    (hbound : Bound binds (List.range' (n + 1) f.values.length) f.values) :
    ReadsFactors isAtom binds (f.lexemes n)
      fun row => f.admits row.namespaceCode row.projectCode := by
  match f with
  | .unrestricted => exact absurd rfl hne
  | .denyAll => exact readsFactors_denyAll n
  | .anyOf [] => exact absurd rfl hf.1
  | .anyOf [clause] =>
    rw [values, List.flatMap_singleton] at hbound
    have hclause : ReadsFactors isAtom _ _ _ := (hf.2 clause (by simp)).readsFactors hbound
    simpa [lexemes, admits] using hclause
  | .anyOf (clause :: other :: rest) =>
    exact (readsAlternatives hf.1 hf.2 hbound).enclosed

end RowFilter

end

/-! ### The filters of the compilers -/

namespace RowFilter

/-- The filters that the compilers make. -/
inductive Compiled : RowFilter → Prop where
  | byNamespace (permissions : Permissions) (action : Action) :
    Compiled (byNamespace permissions action)
  | byProject (permissions : Permissions) (ns : String) (action : Action) :
    Compiled (byProject permissions ns action)
  | byNamespaceProject (permissions : Permissions) (action : Action) :
    Compiled (byNamespaceProject permissions action)

private theorem toList_ne_nil_of_isEmpty {s : CodeSet} (h : ¬ s.isEmpty = true) :
    s.toList ≠ [] := by
  rwa [CodeSet.isEmpty, List.isEmpty_iff] at h

private theorem toList_ne_nil_of_mem {s : CodeSet} {code : String} (h : code ∈ s) :
    s.toList ≠ [] :=
  List.ne_nil_of_mem (CodeSet.mem_def.mp h)

/-- A compiler makes the filter for all rows, the one for no row, one of a single clause, or the one
of the clauses over all namespaces. -/
theorem Compiled.eq_ofClauses {f : RowFilter} (hf : f.Compiled) :
    f = .unrestricted ∨ f = .denyAll ∨ (∃ clause, clause.IsProper ∧ f = .anyOf [clause]) ∨
      ∃ held, f = .ofClauses (clausesOf held) := by
  cases hf with
  | byNamespace permissions action =>
    rw [RowFilter.byNamespace]
    split
    · exact .inl rfl
    · dsimp only
      split
      · exact .inr (.inl rfl)
      · next h => exact .inr (.inr (.inl ⟨.namespaceIn _, toList_ne_nil_of_isEmpty h, rfl⟩))
  | byProject permissions ns action =>
    rw [RowFilter.byProject]
    split
    · exact .inr (.inr (.inl ⟨.namespaceIs ns, trivial, rfl⟩))
    · dsimp only
      split
      · exact .inr (.inl rfl)
      · next h => exact .inr (.inr (.inl ⟨.projectsIn ns _, toList_ne_nil_of_isEmpty h, rfl⟩))
  | byNamespaceProject permissions action =>
    rw [byNamespaceProject_eq]
    split
    · exact .inl rfl
    · exact .inr (.inr (.inr ⟨_, rfl⟩))

/-- No clause over all namespaces is made of an empty set. -/
theorem isProper_of_mem_clausesOf {held : List ResourcePermission} {clause : FilterClause}
    (h : clause ∈ clausesOf held) : clause.IsProper := by
  rcases mem_clausesOf.mp h with ⟨rfl, ns, hns⟩ | ⟨rfl, project, hproject⟩ |
    ⟨ns, hpartial, -, rfl⟩
  · exact toList_ne_nil_of_mem hns
  · exact toList_ne_nil_of_mem hproject
  · -- a namespace with single projects has one of them
    obtain ⟨p, hp, hns, hany⟩ := mem_partialNamespaces.mp hpartial
    cases hscope : p.projectScope with
    | any => rw [hscope] at hany; exact absurd hany (by decide)
    | exact code => exact toList_ne_nil_of_mem (mem_projectsOf.mpr ⟨p, hp, hns, hscope⟩)

/-- The compilers make no empty list and no empty parentheses. -/
theorem Compiled.isProper {f : RowFilter} (hf : f.Compiled) : f.IsProper := by
  rcases hf.eq_ofClauses with rfl | rfl | ⟨clause, hclause, rfl⟩ | ⟨held, rfl⟩
  · exact trivial
  · exact trivial
  · exact ⟨List.cons_ne_nil clause [], by simpa using hclause⟩
  · have hclauses : ∀ clause ∈ clausesOf held, clause.IsProper :=
      fun clause => isProper_of_mem_clausesOf
    cases h : clausesOf held with
    | nil => exact trivial
    | cons clause rest => exact ⟨List.cons_ne_nil clause rest, h ▸ hclauses⟩

/-- What a filter appends to a query without values, after the joiner. -/
def fragment (f : RowFilter) : String :=
  String.ofList (spell (f.lexemes 0))

theorem appendTo_ofText {f : RowFilter} (hne : f ≠ .unrestricted) (joiner : SqlJoiner)
    (base : String) :
    f.appendTo joiner (.ofText base) = ⟨base ++ joiner.text ++ f.fragment, f.values⟩ := by
  have happends := appends_appendTo hne joiner (.ofText base)
  have hjoiner : joiner.text.toList = spell (operatorLexemes joiner.keyword) := by
    cases joiner <;> decide
  have htext : (f.appendTo joiner (.ofText base)).text = base ++ joiner.text ++ f.fragment := by
    rw [← String.toList_inj, happends.text, String.toList_append, String.toList_append, fragment,
      String.toList_ofList, hjoiner, List.append_assoc, spell, spell, spell, List.flatMap_append]
    rfl
  have hbinds : (f.appendTo joiner (.ofText base)).binds = f.values := happends.binds
  rw [← htext, ← hbinds]

/-- **A filter that is appended to a query is read as what it admits.** The filter of all rows
appends nothing. Any other filter appends, after the joiner, a fragment whose placeholders are
numbered as the bound values are. As a first condition it is well formed and holds for the rows that
the filter admits, and behind a conjunction it holds for those of them for which the conjunction
holds. -/
theorem appendTo_of_compiled {f : RowFilter} (hf : f.Compiled) (isAtom : List Tree → Bool) :
    (f = .unrestricted → ∀ joiner q, f.appendTo joiner q = q) ∧
    (f ≠ .unrestricted → ∀ joiner base, ∃ fragment,
      (f.appendTo joiner (.ofText base)).text = base ++ joiner.text ++ fragment ∧
      placeholders fragment =
        some (List.range' 1 (f.appendTo joiner (.ofText base)).binds.length)) ∧
    (f ≠ .unrestricted → ∀ base, ∃ text c,
      (f.appendTo .whereCondition (.ofText base)).text = base ++ " WHERE " ++ text ∧
      condition? isAtom text = some c ∧
      ∀ row, c.holds (f.appendTo .whereCondition (.ofText base)).binds row =
        f.admits row.namespaceCode row.projectCode) ∧
    ∀ before text c, condition? isAtom text = some c → c.isConjunction = true →
      c.placeholders = [] →
      ∃ text' c', (f.appendTo .andCondition (.ofText (before ++ text))).text = before ++ text' ∧
        condition? isAtom text' = some c' ∧
        ∀ row, c'.holds (f.appendTo .andCondition (.ofText (before ++ text))).binds row =
          (c.holds [] row && f.admits row.namespaceCode row.projectCode) := by
  have hreads : f ≠ .unrestricted → ReadsFactors isAtom f.values (f.lexemes 0)
      fun row => f.admits row.namespaceCode row.projectCode := by
    intro hne
    refine readsFactors hne hf.isProper ?_
    rw [Nat.zero_add]
    exact bound_all f.values
  refine ⟨?_, fun hne joiner base => ?_, fun hne base => ?_, fun before text c hc hconj hnil => ?_⟩
  · rintro rfl joiner q
    rfl
  · obtain ⟨hspaced, -⟩ := hreads hne
    rw [appendTo_ofText hne]
    refine ⟨f.fragment, rfl, ?_⟩
    rw [placeholders, fragment, tokens?_of_spell String.toList_ofList hspaced, Option.map_some]
    exact congrArg some (f.placeholdersOf_lexemes 0)
  · have hfragment : f.fragment.toList = spell (f.lexemes 0) := String.toList_ofList
    obtain ⟨c, hc, hholds⟩ := (hreads hne).alternatives.condition hfragment
    rw [appendTo_ofText hne]
    exact ⟨f.fragment, c, rfl, hc, hholds⟩
  · by_cases hne : f = .unrestricted
    · subst hne
      exact ⟨text, c, rfl, hc, fun row => by simp [admits, appendTo, SqlQuery.ofText]⟩
    · -- the fragment has no bare alternative, so the `AND` before it takes in all of it
      have htext : (text ++ " AND " ++ f.fragment).toList =
          text.toList ++ spell (operatorLexemes "AND" ++ f.lexemes 0) := by
        simp [fragment, spell, operatorLexemes]
        rfl
      obtain ⟨c', hc', hholds⟩ := (hreads hne).append_conjunction hc hconj htext
      rw [appendTo_ofText hne]
      refine ⟨_, c', ?_, hc', fun row => ?_⟩
      · simp only [SqlJoiner.text, String.append_assoc]
      · rw [hholds, c.holds_of_placeholders_eq_nil hnil f.values []]

/-- Clauses of three kinds behind a conjunction that contains alternatives in parentheses. -/
theorem appendTo_of_compiled_mixed :
    let f := byNamespaceProject
      ⟨[⟨.exact "a", .any, .all, .read⟩, ⟨.any, .exact "p", .page, .all⟩,
        ⟨.exact "b", .exact "q", .agent, .read⟩, ⟨.exact "b", .exact "r", .all, .read⟩], []⟩ .read
    let text := "deleted = 0 AND (hits > 1 OR pinned)"
    let q := f.appendTo .andCondition (.ofText ("SELECT * FROM items WHERE " ++ text))
    f.Compiled ∧ q.binds = ["a", "p", "b", "q", "r"] ∧
      ∃ c, condition? (fun _ => true) text = some c ∧ c.isConjunction = true ∧
        c.placeholders = [] ∧
        ∃ text' c', q.text = "SELECT * FROM items WHERE " ++ text' ∧
          condition? (fun _ => true) text' = some c' ∧
          ∀ row, c'.holds q.binds row =
            (c.holds [] row && f.admits row.namespaceCode row.projectCode) := by
  intro f text q
  have hf : f.Compiled := .byNamespaceProject _ _
  have hread : (condition? (fun _ => true) text).any
      (fun c => c.isConjunction && c.placeholders.isEmpty) = true := by decide +kernel
  have hadds := (appendTo_of_compiled hf fun _ => true).2.2.2 "SELECT * FROM items WHERE " text
  cases hc : condition? (fun _ => true) text with
  | none => rw [hc] at hread; exact absurd hread (by simp)
  | some c =>
    rw [hc, Option.any_some, Bool.and_eq_true, List.isEmpty_iff] at hread
    obtain ⟨hconj, hnil⟩ := hread
    exact ⟨hf, by decide +kernel, c, rfl, hconj, hnil, hadds c hc hconj hnil⟩

end RowFilter

end Gatehouse
