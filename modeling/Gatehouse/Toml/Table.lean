import Gatehouse.Config.Setting

/-!
# Tables of a TOML document

A document opens tables by headers and fills them with pairs. The tree built so far remembers how
each table came to be, since a table may be opened only once, and a key may be set only once.
-/

namespace Gatehouse.Toml

/-- How a table came to be. -/
inductive Origin where
  /-- It is on the way to a table that was opened. -/
  | passed
  /-- It is on the way to a key that was set. -/
  | dotted
  /-- It was opened by a header. -/
  | opened
  deriving DecidableEq, Repr

/-- What a key leads to. -/
inductive Node where
  | value (s : Setting)
  | table (origin : Origin) (members : List (String × Node))
  /-- A row of tables, each opened by a header; the latest is the first. -/
  | row (latest : List (String × Node)) (earlier : List (List (String × Node)))
  deriving Inhabited

/-- What is in a table. -/
abbrev Members := List (String × Node)

namespace Node

mutual

/-- The setting that a node stands for. -/
def toSetting : Node → Setting
  | .value s => s
  | .table _ ms => .table (membersToSettings ms)
  | .row latest earlier => .list ((membersToTable latest :: rowToSettings earlier).reverse)

/-- The settings that members stand for. -/
def membersToSettings : List (String × Node) → List (String × Setting)
  | [] => []
  | (name, n) :: ms => (name, n.toSetting) :: membersToSettings ms

/-- The table that members stand for. -/
def membersToTable (ms : List (String × Node)) : Setting :=
  .table (membersToSettings ms)

/-- The tables of a row. -/
def rowToSettings : List (List (String × Node)) → List Setting
  | [] => []
  | ms :: rest => .table (membersToSettings ms) :: rowToSettings rest

end

/-- Changes the node of a name, or what stands for a missing one. None if that is not allowed. -/
def alter (name : String) (f : Option Node → Option Node) : Members → Option Members
  | [] => (f none).map fun n => [(name, n)]
  | (k, n) :: rest =>
    if k = name then (f (some n)).map fun n => (k, n) :: rest
    else (alter name f rest).map ((k, n) :: ·)

/-- Changes what a key leads to, going through the tables on the way. The passage is told whether
it is the last one, into the table that has the key itself. -/
def reach (through : Bool → Option Node → (Members → Option Members) → Option Node)
    (f : Option Node → Option Node) : List String → Members → Option Members
  | [], _ => none
  | [name], ms => alter name f ms
  | name :: rest, ms =>
    alter name (fun n => through (rest.length == 1) n (reach through f rest)) ms

/-- Goes through a table on the way to a header: through any table, and through the latest one of a
row. -/
def throughHeader (_last : Bool) (n : Option Node) (f : Members → Option Members) : Option Node :=
  match n with
  | none => (f []).map (.table .passed)
  | some (.table origin ms) => (f ms).map (.table origin)
  | some (.row latest earlier) => (f latest).map (.row · earlier)
  | some (.value _) => none

/-- Goes through a table on the way to a key. A table that was opened by a header is passed only as
the latest of a row, and the table that has the key may not stem from a header at all. -/
def throughKey (last : Bool) (n : Option Node) (f : Members → Option Members) : Option Node :=
  match n with
  | none => (f []).map (.table .dotted)
  | some (.table .dotted ms) => (f ms).map (.table .dotted)
  | some (.table .passed ms) => if last then none else (f ms).map (.table .passed)
  | some (.row latest earlier) => if last then none else (f latest).map (.row · earlier)
  | some (.table .opened _) | some (.value _) => none

/-- Opens a table. -/
def openTable : List String → Members → Option Members :=
  reach throughHeader fun
    | none => some (.table .opened [])
    | some (.table .passed ms) => some (.table .opened ms)
    | _ => none

/-- Opens the next table of a row. -/
def openRow : List String → Members → Option Members :=
  reach throughHeader fun
    | none => some (.row [] [])
    | some (.row latest earlier) => some (.row [] (latest :: earlier))
    | _ => none

/-- Sets a key to a value. -/
def setKey (key : List String) (s : Setting) : Members → Option Members :=
  reach throughKey (fun n => if n.isNone then some (.value s) else none) key

/-- Sets a key in the table that a header opened. -/
def setIn (current : List String) (key : List String) (s : Setting) (ms : Members) :
    Option Members :=
  if current.isEmpty then setKey key s ms
  else reach throughHeader (fun n => throughHeader true n (setKey key s)) current ms

end Node

end Gatehouse.Toml
