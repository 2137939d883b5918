import Gatehouse.Filter.Sql
import Gatehouse.Proofs.Decimal.Digits
import Gatehouse.Proofs.Sql.Token
import Gatehouse.Text.Blank

/-!
# Reading the condition of a query

The tokens of a condition are nested by their brackets, and then read with the precedence of SQL:
a condition is cut at its `OR`s, each alternative at its `AND`s, and each factor is either a
condition in parentheses or an atom. Comparisons and `IN` stay inside the factors, so they bind
tighter than `AND`. An `AND` that belongs to a `BETWEEN` cuts nothing, and neither does one inside
brackets or between `CASE` and `END`.

The atoms that a filter is made of are read here: a column is a placeholder, a column is one of
some placeholders, a number is a number. All other atoms are judged by `isAtom`, which says what
else is well formed. An empty list after `IN`, an empty condition in parentheses, a bracket without
its partner and an operator without an operand are never read.

`Condition.holds` says for which rows a condition holds, with the placeholders standing for the
bound values. A condition that has no definite truth value does not select a row; since no
condition is negated outside of an atom, it is enough to tell *true* from the rest.
-/

namespace Gatehouse.Sql

/-! ### Brackets -/

/-- The ways in which tokens are enclosed. -/
inductive Bracket where
  | round
  | square
  /-- From `CASE` to `END`. -/
  | case
  deriving DecidableEq, Repr

/-- Whether a token is a keyword; case does not matter. -/
def Token.isKeyword (t : Token) (name : String) : Bool :=
  match t with
  | .word text => Text.sameLetters text name
  | _ => false

/-- The bracket that a token opens. -/
def Token.opens? (t : Token) : Option Bracket :=
  if t = .symbol '(' then some .round
  else if t = .symbol '[' then some .square
  else if t.isKeyword "CASE" then some .case
  else none

/-- The bracket that a token closes. -/
def Token.closes? (t : Token) : Option Bracket :=
  if t = .symbol ')' then some .round
  else if t = .symbol ']' then some .square
  else if t.isKeyword "END" then some .case
  else none

/-- Tokens nested by their brackets. -/
inductive Tree where
  | leaf (t : Token)
  | group (bracket : Bracket) (items : List Tree)

/-- The items read so far in the innermost bracket, and the brackets that are open around them,
the innermost first, each with what was read before it. -/
structure Nesting where
  items : List Tree
  outer : List (Bracket × List Tree)

/-- Takes a token into a nesting. -/
def Nesting.step (n : Nesting) (t : Token) : Option Nesting :=
  match t.opens?, t.closes?, n.outer with
  | some bracket, _, _ => some ⟨[], (bracket, n.items) :: n.outer⟩
  | none, some bracket, (opened, before) :: outer =>
    if opened = bracket then some ⟨before ++ [.group bracket n.items], outer⟩ else none
  | none, some _, [] => none
  | none, none, _ => some { n with items := n.items ++ [.leaf t] }

/-- Nests tokens; every bracket has to be closed. -/
def trees? (ts : List Token) : Option (List Tree) :=
  (ts.foldlM Nesting.step ⟨[], []⟩).bind fun n => if n.outer.isEmpty then some n.items else none

/-! ### Atoms -/

/-- The columns by which a filter tells rows apart. -/
inductive Column where
  | namespaceCode
  | projectCode
  deriving DecidableEq, Repr

/-- The column of a name. -/
def Column.ofName? (name : String) : Option Column :=
  if name = namespaceColumn then some .namespaceCode
  else if name = projectColumn then some .projectCode
  else none

/-- A condition without operators between conditions. -/
inductive Atom where
  /-- A column is the value of a placeholder. -/
  | isValue (column : Column) (k : Nat)
  /-- A column is the value of one of some placeholders. -/
  | isOneOf (column : Column) (ks : List Nat)
  /-- A number is a number. -/
  | numbers (a b : Nat)
  /-- Anything else. -/
  | other (items : List Tree)

/-- Whether characters are digits, at least one. -/
def IsNumeral (digits : List Char) : Prop :=
  digits ≠ [] ∧ ∀ c ∈ digits, (Decimal.digit? c).isSome = true

instance (digits : List Char) : Decidable (IsNumeral digits) :=
  decidable_of_iff (digits ≠ [] ∧ digits.all (fun c => (Decimal.digit? c).isSome) = true)
    (by simp [IsNumeral])

/-- The number of a token. -/
def Token.number? : Token → Option Nat
  | .word text =>
    if IsNumeral text.toList then some (Decimal.digitsValue text.toList) else none
  | _ => none

/-- The number of a placeholder. -/
def Token.placeholder? : Token → Option Nat
  | .word text =>
    match text.toList with
    | '$' :: digits =>
      if IsNumeral digits then some (Decimal.digitsValue digits) else none
    | _ => none
  | _ => none

@[simp] theorem Token.placeholder?_symbol (c : Char) : (Token.symbol c).placeholder? = none := rfl

/-- The column that a token names. -/
def Token.column? : Token → Option Column
  | .word text => Column.ofName? text
  | _ => none

/-- The placeholders in the text of a condition, in their order. -/
def placeholders (text : String) : Option (List Nat) :=
  (tokens? text).map (List.filterMap Token.placeholder?)

/-- The numbers of placeholders between commas; there is at least one. -/
def listed? : List Tree → Option (List Nat)
  | [.leaf t] => t.placeholder?.map ([·])
  | .leaf t :: .leaf (.symbol ',') :: rest =>
    match t.placeholder?, listed? rest with
    | some k, some ks => some (k :: ks)
    | _, _ => none
  | _ => none

/-- Reads an atom of one of the forms that filters are made of. -/
def filterAtom? : List Tree → Option Atom
  | [.leaf a, .leaf (.symbol '='), .leaf b] =>
    match a.column?, b.placeholder?, a.number?, b.number? with
    | some column, some k, _, _ => some (.isValue column k)
    | _, _, some m, some n => some (.numbers m n)
    | _, _, _, _ => none
  | [.leaf a, .leaf word, .group .round items] =>
    if word.isKeyword "IN" then
      match a.column?, listed? items with
      | some column, some ks => some (.isOneOf column ks)
      | _, _ => none
    else none
  | _ => none

/-- Whether a list without items follows an `IN`. -/
def hasEmptyList : List Tree → Bool
  | [] => false
  | .leaf t :: .group .round [] :: rest => t.isKeyword "IN" || hasEmptyList rest
  | _ :: rest => hasEmptyList rest

/-- Reads an atom. -/
def atom? (isAtom : List Tree → Bool) (items : List Tree) : Option Atom :=
  match filterAtom? items with
  | some a => some a
  | none => if isAtom items && !hasEmptyList items then some (.other items) else none

/-! ### Conditions -/

/-- A condition. Parentheses are kept. -/
inductive Condition where
  | atom (a : Atom)
  | enclosed (condition : Condition)
  | and (left right : Condition)
  | or (left right : Condition)

/-- Whether a condition is a conjunction of atoms and conditions in parentheses. -/
def Condition.isConjunction : Condition → Bool
  | .atom _ => true
  | .enclosed _ => true
  | .and left right => left.isConjunction && right.isConjunction
  | .or _ _ => false

/-- The placeholders of an atom whose value it is about. -/
def Atom.placeholders : Atom → List Nat
  | .isValue _ k => [k]
  | .isOneOf _ ks => ks
  | .numbers _ _ => []
  | .other _ => []

/-- The placeholders of a condition whose value it is about. -/
def Condition.placeholders : Condition → List Nat
  | .atom a => a.placeholders
  | .enclosed condition => condition.placeholders
  | .and left right => left.placeholders ++ right.placeholders
  | .or left right => left.placeholders ++ right.placeholders

/-- An item of a factor, and the condition in it if it stands in parentheses. -/
structure Piece where
  tree : Tree
  inner : Option Condition

/-- Whether a piece is a keyword. -/
def Piece.isKeyword (p : Piece) (name : String) : Bool :=
  match p.tree with
  | .leaf t => t.isKeyword name
  | .group _ _ => false

/-- Puts an operator between what stands before it, if anything, and a condition. -/
def joined (op : Condition → Condition → Condition) : Option Condition → Condition → Condition
  | none, condition => condition
  | some before, condition => op before condition

section

variable (isAtom : List Tree → Bool)

/-- Reads a factor: a condition in parentheses, or an atom. -/
def factor? : List Piece → Option Condition
  | [] => none
  | [⟨.group .round _, inner⟩] => inner.map .enclosed
  | ps => (atom? isAtom (ps.map (·.tree))).map .atom

/-- How far a condition is read. -/
structure Reading where
  /-- The alternatives before this one. -/
  before : Option Condition
  /-- The factors of this alternative before this one. -/
  factors : Option Condition
  /-- The pieces of this factor. -/
  current : List Piece
  /-- Whether the next `AND` belongs to a `BETWEEN`. -/
  between : Bool

namespace Reading

/-- Nothing is read yet. -/
def start : Reading :=
  ⟨none, none, [], false⟩

/-- The current alternative, when its last factor ends here. -/
def alternative? (r : Reading) : Option Condition :=
  if r.between then none else (factor? isAtom r.current).map (joined .and r.factors)

/-- The whole condition, when it ends here. -/
def finish (r : Reading) : Option Condition :=
  (r.alternative? isAtom).map (joined .or r.before)

/-- Reads a piece. -/
def step (r : Reading) (p : Piece) : Option Reading :=
  if p.isKeyword "OR" then
    (r.alternative? isAtom).map fun c => ⟨some (joined .or r.before c), none, [], false⟩
  else if p.isKeyword "AND" && !r.between then
    (r.alternative? isAtom).map fun c => ⟨r.before, some c, [], false⟩
  else
    some { r with
      current := r.current ++ [p]
      between := p.isKeyword "BETWEEN" || (r.between && !p.isKeyword "AND") }

/-- Reads pieces. -/
def steps (r : Reading) (ps : List Piece) : Option Reading :=
  ps.foldlM (step isAtom) r

end Reading

/-- The condition of some pieces. -/
def conditionOf? (ps : List Piece) : Option Condition :=
  (Reading.start.steps isAtom ps).bind (Reading.finish isAtom)

mutual

/-- The condition inside parentheses. -/
def Tree.inner : Tree → Option Condition
  | .leaf _ => none
  | .group bracket items => if bracket = .round then conditionOf? isAtom (pieces items) else none

/-- The pieces of some trees. -/
def pieces : List Tree → List Piece
  | [] => []
  | tree :: rest => ⟨tree, tree.inner⟩ :: pieces rest

end

/-- Reads the text of a condition. -/
def condition? (text : String) : Option Condition :=
  ((tokens? text).bind trees?).bind fun items => conditionOf? isAtom (pieces isAtom items)

end

/-! ### Meaning -/

/-- A row of a table, as far as conditions can tell it from others. -/
structure TableRow where
  namespaceCode : String
  projectCode : String
  /-- Whether another atom is true of the row. -/
  other : List Tree → Bool

/-- The code of a row in a column. -/
def TableRow.code (row : TableRow) : Column → String
  | .namespaceCode => row.namespaceCode
  | .projectCode => row.projectCode

/-- The value of a placeholder. -/
def boundValue? (binds : List String) : Nat → Option String
  | 0 => none
  | k + 1 => binds[k]?

/-- Whether an atom is true of a row. -/
def Atom.holds (binds : List String) (row : TableRow) : Atom → Bool
  | .isValue column k => boundValue? binds k == some (row.code column)
  | .isOneOf column ks => ks.any fun k => boundValue? binds k == some (row.code column)
  | .numbers a b => a == b
  | .other items => row.other items

/-- Whether a condition is true of a row. -/
def Condition.holds (binds : List String) (row : TableRow) : Condition → Bool
  | .atom a => a.holds binds row
  | .enclosed condition => condition.holds binds row
  | .and left right => left.holds binds row && right.holds binds row
  | .or left right => left.holds binds row || right.holds binds row

/-- A condition without placeholders does not depend on the bound values. -/
theorem Condition.holds_of_placeholders_eq_nil {c : Condition} (h : c.placeholders = [])
    (binds binds' : List String) (row : TableRow) : c.holds binds row = c.holds binds' row := by
  induction c with
  | atom a =>
    cases a with
    | isValue column k => simp [placeholders, Atom.placeholders] at h
    | isOneOf column ks =>
      have hks : ks = [] := h
      simp [holds, Atom.holds, hks]
    | numbers a b => rfl
    | other items => rfl
  | enclosed c ih => exact ih h
  | and left right ihl ihr =>
    obtain ⟨hl, hr⟩ := List.append_eq_nil_iff.mp h
    simp [holds, ihl hl, ihr hr]
  | or left right ihl ihr =>
    obtain ⟨hl, hr⟩ := List.append_eq_nil_iff.mp h
    simp [holds, ihl hl, ihr hr]

/-! ### Nesting what is spelled -/

/-- Tokens that nest to some items wherever they stand. -/
def Nests (ts : List Token) (items : List Tree) : Prop :=
  ∀ n : Nesting, ts.foldlM Nesting.step n = some ⟨n.items ++ items, n.outer⟩

namespace Nests

theorem nil : Nests [] [] := fun n => by simp

/-- A token that is no bracket. -/
theorem cons {t : Token} {ts : List Token} {items : List Tree} (ho : t.opens? = none)
    (hc : t.closes? = none) (h : Nests ts items) : Nests (t :: ts) (.leaf t :: items) := by
  intro n
  have hstep : n.step t = some { n with items := n.items ++ [.leaf t] } := by
    simp [Nesting.step, ho, hc]
  simp [List.foldlM_cons, hstep, h _]

theorem append {ts us : List Token} {items more : List Tree} (h : Nests ts items)
    (hu : Nests us more) : Nests (ts ++ us) (items ++ more) := by
  intro n
  simp [List.foldlM_append, h n, hu _]

/-- Tokens in parentheses. -/
theorem round {ts : List Token} {items : List Tree} (h : Nests ts items) :
    Nests (.symbol '(' :: (ts ++ [.symbol ')'])) [.group .round items] := by
  intro n
  have hopen : n.step (.symbol '(') = some ⟨[], (.round, n.items) :: n.outer⟩ := by
    simp [Nesting.step, Token.opens?]
  have hclose : Nesting.step ⟨items, (.round, n.items) :: n.outer⟩ (.symbol ')') =
      some ⟨n.items ++ [.group .round items], n.outer⟩ := by
    simp [Nesting.step, Token.opens?, Token.closes?, Token.isKeyword]
  have hinner := h ⟨[], (.round, n.items) :: n.outer⟩
  simp only [List.nil_append] at hinner
  simp [List.foldlM_cons, List.foldlM_append, hopen, hinner, hclose]

end Nests

/-- Tokens that nest by themselves may be followed by more. -/
theorem trees?_append {ts us : List Token} {items more : List Tree} (h : trees? ts = some items)
    (hu : Nests us more) : trees? (ts ++ us) = some (items ++ more) := by
  obtain ⟨n, hn, hitems⟩ := Option.bind_eq_some_iff.mp h
  simp only [Option.ite_none_right_eq_some, Option.some.injEq] at hitems
  obtain ⟨houter, rfl⟩ := hitems
  simp [trees?, List.foldlM_append, hn, hu n, List.isEmpty_iff.mp houter]

theorem trees?_of_nests {ts : List Token} {items : List Tree} (h : Nests ts items) :
    trees? ts = some items := by
  have hnil : trees? [] = some [] := rfl
  exact trees?_append hnil h

end Gatehouse.Sql
