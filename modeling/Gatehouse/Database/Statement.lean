import Gatehouse.Id
import Gatehouse.StoreError
import Gatehouse.Time.Moment

/-!
# Statements and rows

A database carries out a statement, whose values are bound and never part of its text, and gives
rows of named columns. A row that cannot be read means that the data is corrupt; any other failure
means that the database is not available.
-/

namespace Gatehouse

/-- A value that is bound to a statement or found in a column. -/
inductive SqlValue where
  | null
  | int (value : Int)
  | bool (value : Bool)
  | text (value : String)
  | time (value : Moment)
  deriving DecidableEq, Repr

/-- The value of a text that may be missing. -/
def SqlValue.ofText? : Option String → SqlValue
  | none => .null
  | some s => .text s

/-- A statement with the values of its placeholders `$1`, `$2` and so on. -/
structure SqlStatement where
  sql : String
  params : List SqlValue
  deriving DecidableEq, Repr

/-- A row: the values of its columns by name. -/
abbrev Row := List (String × SqlValue)

/-- Why a statement gave no result. -/
inductive DatabaseFault where
  /-- The database was not reached, or the connection was lost. -/
  | unreachable
  /-- The database refused the statement. -/
  | refused (reason : String)
  /-- A column is not there. -/
  | missingColumn (name : String)
  /-- The value of a column is not what it should be. -/
  | badColumn (name reason : String)
  deriving DecidableEq, Repr

/-- The text of a fault. -/
def DatabaseFault.message : DatabaseFault → String
  | .unreachable => "error communicating with database"
  | .refused reason => "error returned from database: " ++ reason
  | .missingColumn name => "no column found for name: " ++ name
  | .badColumn name reason =>
    "error occurred while decoding column \"" ++ name ++ "\": " ++ reason

/-- The store's failure on a fault. -/
def DatabaseFault.toStoreError : DatabaseFault → StoreError
  | .badColumn name reason => .corrupt (DatabaseFault.badColumn name reason).message
  | fault => .unavailable fault.message

/-- Carries out statements. -/
structure Database (m : Type → Type) where
  execute : SqlStatement → m (Except DatabaseFault (List Row))

/-- A database that cannot be reached. -/
def Database.offline {m : Type → Type} [Monad m] : Database m where
  execute _ := pure (.error .unreachable)

namespace Row

/-- Reads a column. -/
def column {α : Type} (row : Row) (name : String) (read : SqlValue → Except String α) :
    Except DatabaseFault α :=
  match row.lookup name with
  | none => .error (.missingColumn name)
  | some v => (read v).mapError (.badColumn name)

/-- The reason for a value that is missing. -/
def unexpectedNull : String := "unexpected null"

/-- The reason for a value of another type. -/
def mismatchedTypes : String := "mismatched types"

/-- A column of integers. -/
def int (row : Row) (name : String) : Except DatabaseFault Int :=
  row.column name fun
    | .int n => .ok n
    | .null => .error unexpectedNull
    | _ => .error mismatchedTypes

/-- A column of truth values. -/
def bool (row : Row) (name : String) : Except DatabaseFault Bool :=
  row.column name fun
    | .bool b => .ok b
    | .null => .error unexpectedNull
    | _ => .error mismatchedTypes

/-- A column of texts. -/
def text (row : Row) (name : String) : Except DatabaseFault String :=
  row.column name fun
    | .text s => .ok s
    | .null => .error unexpectedNull
    | _ => .error mismatchedTypes

/-- A column of texts that may be missing. -/
def text? (row : Row) (name : String) : Except DatabaseFault (Option String) :=
  row.column name fun
    | .text s => .ok (some s)
    | .null => .ok none
    | _ => .error mismatchedTypes

/-- A column of times. -/
def time (row : Row) (name : String) : Except DatabaseFault Moment :=
  row.column name fun
    | .time t => .ok t
    | .null => .error unexpectedNull
    | _ => .error mismatchedTypes

end Row

end Gatehouse
