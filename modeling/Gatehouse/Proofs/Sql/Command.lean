import Gatehouse.Proofs.Sql.Condition

/-!
# Reading commands

A command asks or changes one table: `SELECT` gives columns of the rows that have some value in a
key, `INSERT` adds a row unless its value in some column is taken, and `UPDATE` sets columns of the
rows that have some value in a key. The values are operands: placeholders, or the time.

`command?` reads the text of a command. It is for the commands of these forms only; the conditions
that are put together for a query are read by `condition?`.
-/

namespace Gatehouse.Sql

/-- What stands for a value. -/
inductive Operand where
  /-- The value of a placeholder. -/
  | placeholder (k : Nat)
  /-- The time at which the command is carried out. -/
  | now
  deriving DecidableEq, Repr

/-- A command on one table. -/
inductive Command where
  /-- `SELECT columns FROM table WHERE key = value` -/
  | select (columns : List String) (table key : String) (value : Operand)
  /-- `INSERT INTO table (columns) VALUES (values) ON CONFLICT (unique) DO NOTHING RETURNING
  returned` -/
  | insert (table : String) (columns : List String) (values : List Operand) (unique : String)
    (returned : List String)
  /-- `UPDATE table SET changes WHERE key = value` -/
  | update (table : String) (changes : List (String × Operand)) (key : String) (value : Operand)
  deriving DecidableEq, Repr

/-! ### Parts of a command -/

/-- A reader of the next tokens. -/
abbrev TokenReader := StateT (List Token) Option

namespace TokenReader

/-- Reads a token that fits. -/
def token {α : Type} (fits? : Token → Option α) : TokenReader α
  | [] => none
  | t :: ts => (fits? t).map fun a => (a, ts)

/-- Reads a symbol. -/
def symbol (c : Char) : TokenReader Unit :=
  token fun t => if t = .symbol c then some () else none

/-- Reads some keywords. -/
def keywords : List String → TokenReader Unit
  | [] => pure ()
  | name :: names => do
    token fun t => if t.isKeyword name then some () else none
    keywords names

/-- Reads the name of a table or a column. -/
def name : TokenReader String :=
  token fun
    | .word text => some text
    | _ => none

/-- Reads an operand. -/
def operand : TokenReader Operand :=
  Operand.placeholder <$> token Token.placeholder? <|> do
    keywords ["now"]
    symbol '('
    symbol ')'
    pure .now

/-- Reads items between commas. There is at least one, and there are at most `limit`. -/
def list {α : Type} (item : TokenReader α) : (limit : Nat) → TokenReader (List α)
  | 0 => failure
  | limit + 1 => do
    let a ← item
    let more ← (symbol ',' *> list item limit) <|> pure []
    pure (a :: more)

/-- Reads items between commas. -/
def items {α : Type} (item : TokenReader α) : TokenReader (List α) := do
  list item (← get).length

/-- Reads what stands in parentheses. -/
def enclosed {α : Type} (inside : TokenReader α) : TokenReader α := do
  symbol '('
  let a ← inside
  symbol ')'
  pure a

/-- Reads a name, an equals sign and an operand. -/
def equation : TokenReader (String × Operand) := do
  let column ← name
  symbol '='
  let value ← operand
  pure (column, value)

/-! ### Commands -/

/-- Reads a selection. -/
def select : TokenReader Command := do
  keywords ["SELECT"]
  let columns ← items name
  keywords ["FROM"]
  let table ← name
  keywords ["WHERE"]
  let (key, value) ← equation
  pure (.select columns table key value)

/-- Reads an insertion. -/
def insert : TokenReader Command := do
  keywords ["INSERT", "INTO"]
  let table ← name
  let columns ← enclosed (items name)
  keywords ["VALUES"]
  let values ← enclosed (items operand)
  keywords ["ON", "CONFLICT"]
  let unique ← enclosed name
  keywords ["DO", "NOTHING", "RETURNING"]
  let returned ← items name
  pure (.insert table columns values unique returned)

/-- Reads an update. -/
def update : TokenReader Command := do
  keywords ["UPDATE"]
  let table ← name
  keywords ["SET"]
  let changes ← items equation
  keywords ["WHERE"]
  let (key, value) ← equation
  pure (.update table changes key value)

end TokenReader

/-- The command of some characters. -/
def commandOf? (text : List Char) : Option Command := do
  let ts ← (scan ⟨[], .blank⟩ text).bind Scan.finish
  let (command, rest) ← (TokenReader.select <|> TokenReader.insert <|> TokenReader.update).run ts
  if rest = [] then some command else none

/-- The command of a text. -/
def command? (text : String) : Option Command :=
  commandOf? text.toList

end Gatehouse.Sql
