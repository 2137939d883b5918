import Gatehouse.Database.Users
import Gatehouse.Proofs.Sql.Command

/-!
# Commands on the table of users

A user is a row of named columns (`User.toRow`), and the table of users carries out commands on such
rows: `UserTable.database` reads the text of a statement as a command and does what this says,
column by column. It refuses what it cannot read, what names another table or a column that is not
there, what would change a unique column, and what would leave a row that is no user.

`UserTable.answer` says in a few words what the table answers to a query of the store. The two
agree: the statement of a query is read as its command (`UserQuery.command?_statement`), and this is
carried out as the table answers (`UserTable.execute_statement`). So the store in this database is
the store that asks the table (`UserTable.ofDatabase_database`).
-/

namespace Gatehouse

/-! ### Rows -/

namespace Row

/-- Whether a row has some value in a column. Nothing has the value that is missing. -/
def has (row : Row) (name : String) (v : SqlValue) : Bool :=
  v ≠ .null && row.lookup name == some v

/-- Some columns of a row; none if one of them is not there. -/
def project (row : Row) (names : List String) : Option Row :=
  names.mapM fun name => (row.lookup name).map fun v => (name, v)

/-- A row with another value in a column; none if the column is not there. -/
def set (row : Row) (change : String × SqlValue) : Option Row :=
  if (row.lookup change.1).isNone then none
  else some (row.map fun column => if column.1 = change.1 then change else column)

end Row

namespace User

/-- The names of the columns of a user. -/
def columnNames : List String :=
  ["id", "username", "password_hash", "firstname", "lastname", "active", "refresh_token_hash",
    "created_at", "updated_at"]

/-- The row of a user. -/
def toRow (u : User) : Row :=
  [("id", .int u.id.value), ("username", .text u.username),
    ("password_hash", .ofText? u.passwordDigest), ("firstname", .text u.firstname),
    ("lastname", .text u.lastname), ("active", .bool u.active),
    ("refresh_token_hash", .ofText? u.refreshDigest), ("created_at", .time u.createdAt),
    ("updated_at", .time u.updatedAt)]

/-- The row of a user is read as the user. -/
theorem ofRow_toRow (u : User) : ofRow u.toRow = .ok u := by
  obtain ⟨id, username, passwordDigest, firstname, lastname, active, refreshDigest, _, _⟩ := u
  cases passwordDigest <;> cases refreshDigest <;> rfl

theorem toRow_injective : Function.Injective toRow := by
  intro u v h
  have hsame := congrArg ofRow h
  rw [ofRow_toRow, ofRow_toRow] at hsame
  exact Except.ok.inj hsame

theorem mapM_ofRow_toRow (users : List User) : (users.map toRow).mapM ofRow = .ok users := by
  induction users with
  | nil => rfl
  | cons u users ih => rw [List.map_cons, List.mapM_cons, ofRow_toRow, ih]; rfl

theorem project_toRow (u : User) : u.toRow.project columnNames = some u.toRow := rfl

theorem has_id_toRow (u : User) (id : UserId) :
    u.toRow.has "id" (.int id.value) = decide (u.id = id) := by
  have hid : u.id.value = id.value ↔ u.id = id := ⟨congrArg UserId.mk, congrArg UserId.value⟩
  show (some (SqlValue.int u.id.value) == some (.int id.value)) = _
  rw [Bool.eq_iff_iff]
  simp [hid]

theorem has_username_toRow (u : User) (username : String) :
    u.toRow.has "username" (.text username) = decide (u.username = username) := by
  show (some (SqlValue.text u.username) == some (.text username)) = _
  rw [Bool.eq_iff_iff]
  simp

/-- What an insertion starts from: the next number, the time, and the defaults of the columns. A
name has no default. -/
def defaultRow (id : Int) (now : Moment) : Row :=
  [("id", .int id), ("username", .null), ("password_hash", .null), ("firstname", .text ""),
    ("lastname", .text ""), ("active", .bool true), ("refresh_token_hash", .null),
    ("created_at", .time now), ("updated_at", .time now)]

/-- The user of a row with some changes; none if this is no row of a user. -/
def ofChanges? (row : Row) (changes : List (String × SqlValue)) : Option User := do
  (ofRow (← changes.foldlM Row.set row)).toOption

theorem ofChanges?_passwordDigest (u : User) (digest : String) (now : Moment) :
    ofChanges? u.toRow [("password_hash", .text digest), ("updated_at", .time now)] =
      some (u.setPasswordDigest (some digest) now) := by
  obtain ⟨id, username, passwordDigest, firstname, lastname, active, refreshDigest, _, _⟩ := u
  cases refreshDigest <;> rfl

theorem ofChanges?_refreshDigest (u : User) (digest : Option String) (now : Moment) :
    ofChanges? u.toRow [("refresh_token_hash", .ofText? digest), ("updated_at", .time now)] =
      some { u with refreshDigest := digest, updatedAt := now } := by
  obtain ⟨id, username, passwordDigest, firstname, lastname, active, refreshDigest, _, _⟩ := u
  cases passwordDigest <;> cases digest <;> rfl

theorem ofChanges?_defaultRow (id : Int) (t : UserTemplate) (now : Moment) :
    ofChanges? (defaultRow id now)
        [("username", .text t.username), ("password_hash", .ofText? t.passwordDigest),
          ("firstname", .text t.firstname), ("lastname", .text t.lastname),
          ("active", .bool t.active)] =
      some (.ofTemplate ⟨id⟩ t now) := by
  obtain ⟨username, firstname, lastname, active, passwordDigest⟩ := t
  cases passwordDigest <;> rfl

end User

/-! ### Carrying out commands -/

/-- The value of an operand, at some moment and with some values for the placeholders. -/
def Sql.Operand.value? (now : Moment) (params : List SqlValue) : Operand → Option SqlValue
  | .placeholder 0 => none
  | .placeholder (k + 1) => params[k]?
  | .now => some (.time now)

namespace UserTable

/-- The name of the table. -/
def name : String := "users"

/-- The columns whose values are unique. -/
def uniqueColumns : List String := ["id", "username"]

section

variable (now : Moment) (params : List SqlValue) (table : UserTable)

/-- Gives columns of the rows that have some value in a key. -/
def select (columns : List String) (key : String) (value : Sql.Operand) :
    Option (List Row × UserTable) := do
  let v ← value.value? now params
  let shown ← (table.rows.filter (·.toRow.has key v)).mapM (·.toRow.project columns)
  pure (shown, table)

/-- Adds a row unless its value in a unique column is taken; a number is given out in any case. -/
def insert (columns : List String) (values : List Sql.Operand) (unique : String)
    (returned : List String) : Option (List Row × UserTable) := do
  let vs ← values.mapM (·.value? now params)
  let id := table.lastId + 1
  let user ← User.ofChanges? (User.defaultRow id now) (columns.zip vs)
  let v ← user.toRow.lookup unique
  if columns.length ≠ values.length ∨ unique ∉ uniqueColumns then none
  else if table.rows.any (·.toRow.has unique v) then pure ([], { table with lastId := id })
  else
    let shown ← user.toRow.project returned
    pure ([shown], ⟨table.rows ++ [user], id⟩)

/-- Sets columns of the rows that have some value in a key. Unique columns are not changed. -/
def update (changes : List (String × Sql.Operand)) (key : String) (value : Sql.Operand) :
    Option (List Row × UserTable) := do
  let v ← value.value? now params
  let changed ← changes.mapM fun change => (change.2.value? now params).map fun v => (change.1, v)
  let rows ← table.rows.mapM fun u =>
    if u.toRow.has key v then User.ofChanges? u.toRow changed else some u
  if changes.any (·.1 ∈ uniqueColumns) then none else pure ([], { table with rows := rows })

/-- Carries out a command: the rows that it gives, and the table after it. -/
def carryOut : Sql.Command → Option (List Row × UserTable)
  | .select columns table' key value =>
    if table' = name then select now params table columns key value else none
  | .insert table' columns values unique returned =>
    if table' = name then insert now params table columns values unique returned else none
  | .update table' changes key value =>
    if table' = name then update now params table changes key value else none

end

/-- The table as a database. -/
def database (now : Moment) : Database (StateM UserTable) where
  execute s := fun table =>
    match (Sql.command? s.sql).bind (carryOut now s.params table) with
    | none => (.error (.refused "the statement cannot be carried out"), table)
    | some (rows, after) => (.ok rows, after)

end UserTable

/-! ### The commands of the store -/

namespace UserQuery

/-- Selects the users with the first value in a key. -/
def selection (key : String) : Sql.Command :=
  .select User.columnNames "users" key (.placeholder 1)

/-- Inserts a user of the five values, unless the name is taken. -/
def insertion : Sql.Command :=
  .insert "users" ["username", "password_hash", "firstname", "lastname", "active"]
    [.placeholder 1, .placeholder 2, .placeholder 3, .placeholder 4, .placeholder 5] "username"
    User.columnNames

/-- Sets a column to the second value for the user whose number is the first, and notes the time. -/
def change (column : String) : Sql.Command :=
  .update "users" [(column, .placeholder 2), ("updated_at", .now)] "id" (.placeholder 1)

/-- What the statement of a query says. -/
def command : UserQuery → Sql.Command
  | .byId _ => selection "id"
  | .byUsername _ => selection "username"
  | .insert _ => insertion
  | .setPassword _ _ => change "password_hash"
  | .setRefreshDigest _ _ => change "refresh_token_hash"

/-- **The text of a query's statement is read as its command.** -/
theorem command?_statement (q : UserQuery) : Sql.command? q.statement.sql = some q.command := by
  -- the characters of each text are known by the pieces in which it is written
  have hselect : ∀ a b c d : List Char, Sql.command? (String.ofList a ++
      (String.ofList b ++ String.ofList c) ++ String.ofList d) =
        Sql.commandOf? (a ++ (b ++ c) ++ d) := fun a b c d => by
    simp only [Sql.command?, String.toList_append, String.toList_ofList]
  have hinsert : ∀ a b c d : List Char, Sql.command? (String.ofList a ++ String.ofList b ++
      (String.ofList c ++ String.ofList d)) =
        Sql.commandOf? (a ++ b ++ (c ++ d)) := fun a b c d => by
    simp only [Sql.command?, String.toList_append, String.toList_ofList]
  have hupdate : ∀ a : List Char, Sql.command? (String.ofList a) = Sql.commandOf? a := fun a => by
    rw [Sql.command?, String.toList_ofList]
  cases q with
  | byId id => exact (hselect _ _ _ _).trans (show _ = some (selection "id") by decide +kernel)
  | byUsername username =>
    exact (hselect _ _ _ _).trans (show _ = some (selection "username") by decide +kernel)
  | insert t => exact (hinsert _ _ _ _).trans (show _ = some insertion by decide +kernel)
  | setPassword id digest =>
    exact (hupdate _).trans (show _ = some (change "password_hash") by decide +kernel)
  | setRefreshDigest id digest =>
    exact (hupdate _).trans (show _ = some (change "refresh_token_hash") by decide +kernel)

/-- An insertion is not sent as a look-up: it has more values. -/
theorem insert_statement_ne (t : UserTemplate) (username : String) :
    (insert t).statement ≠ (byUsername username).statement := fun h =>
  absurd (congrArg (·.params.length) h) (show (5 : Nat) ≠ 1 by decide)

end UserQuery

namespace UserTable

section

variable (now : Moment) (table : UserTable)

/-- Selecting all columns gives the rows of a key. -/
theorem select_columnNames {params : List SqlValue} {key : String} {value : Sql.Operand}
    {v : SqlValue} {p : User → Bool} (hv : value.value? now params = some v)
    (hp : ∀ u : User, u.toRow.has key v = p u) :
    select now params table User.columnNames key value =
      some ((table.rows.filter p).map User.toRow, table) := by
  have hproject : (fun u : User => u.toRow.project User.columnNames) = fun u => pure u.toRow :=
    funext User.project_toRow
  simp only [select, hv, Option.bind_eq_bind, Option.bind_some, funext hp, hproject, List.mapM_pure]
  rfl

/-- Inserting a user adds the user, unless the name is taken. -/
theorem insert_eq {params : List SqlValue} {columns : List String} {values : List Sql.Operand}
    {vs : List SqlValue} {t : UserTemplate} (hvs : values.mapM (·.value? now params) = some vs)
    (hlength : columns.length = values.length)
    (huser : User.ofChanges? (User.defaultRow (table.lastId + 1) now) (columns.zip vs) =
      some (.ofTemplate ⟨table.lastId + 1⟩ t now)) :
    insert now params table columns values "username" User.columnNames =
      some ((table.answer now (.insert t)).1.map User.toRow, (table.answer now (.insert t)).2) := by
  have htaken : (fun u : User => u.toRow.has "username" (.text t.username)) =
      fun u => decide (u.username = t.username) := funext fun u => u.has_username_toRow t.username
  have hname : (User.ofTemplate ⟨table.lastId + 1⟩ t now).toRow.lookup "username" =
      some (.text t.username) := rfl
  have hunique : ¬(columns.length ≠ values.length ∨ "username" ∉ uniqueColumns) := by
    simp [hlength, uniqueColumns]
  simp only [insert, hvs, Option.bind_eq_bind, Option.bind_some, huser, hname, if_neg hunique,
    htaken, User.project_toRow, answer]
  split <;> rfl

/-- Changing columns changes the rows of a key. -/
theorem update_eq {params : List SqlValue} {changes : List (String × Sql.Operand)} {id : UserId}
    {changed : List (String × SqlValue)} {f : User → User}
    (hid : params[0]? = some (.int id.value))
    (hchanged : (changes.mapM fun change =>
      (change.2.value? now params).map fun v => (change.1, v)) = some changed)
    (hkept : changes.any (·.1 ∈ uniqueColumns) = false)
    (hf : ∀ u, User.ofChanges? u.toRow changed = some (f u)) :
    update now params table changes "id" (.placeholder 1) = some ([], table.change id f) := by
  have hrows : (fun u : User =>
      if u.toRow.has "id" (.int id.value) then User.ofChanges? u.toRow changed else some u) =
        fun u => pure (if u.id = id then f u else u) := by
    funext u
    simp only [User.has_id_toRow, decide_eq_true_eq, hf]
    split <;> rfl
  have hvalue : Sql.Operand.value? now params (.placeholder 1) = some (.int id.value) := hid
  simp only [update, hvalue, hchanged, Option.bind_eq_bind, Option.bind_some, hrows,
    List.mapM_pure, hkept, Bool.false_eq_true, if_false]
  rfl

/-- **Commands are carried out as the table answers.** -/
theorem carryOut_command (q : UserQuery) :
    carryOut now q.statement.params table q.command =
      some ((table.answer now q).1.map User.toRow, (table.answer now q).2) := by
  cases q with
  | byId id => exact select_columnNames now table rfl fun u => u.has_id_toRow id
  | byUsername username =>
    exact select_columnNames now table rfl fun u => u.has_username_toRow username
  | insert t => exact insert_eq now table rfl rfl (User.ofChanges?_defaultRow _ t now)
  | setPassword id digest =>
    exact update_eq now table rfl rfl (by decide) fun u => u.ofChanges?_passwordDigest digest now
  | setRefreshDigest id digest =>
    exact update_eq now table rfl rfl (by decide) fun u => u.ofChanges?_refreshDigest digest now

end

/-- The statement of a query is answered as the query, in rows. -/
theorem execute_statement (now : Moment) (q : UserQuery) (table : UserTable) :
    (database now).execute q.statement table =
      (.ok ((table.answer now q).1.map User.toRow), (table.answer now q).2) := by
  simp only [database, UserQuery.command?_statement, Option.bind_some, carryOut_command]

theorem askDatabase_database (now : Moment) (q : UserQuery) :
    UserStore.askDatabase (database now) q = ask now q := by
  funext table
  show (UserStore.askDatabase (database now) q).run table = _
  simp only [UserStore.askDatabase, StateT.run_bind]
  have hexecute : StateT.run ((database now).execute q.statement) table = _ :=
    execute_statement now q table
  rw [hexecute]
  show (Except.mapError _ (List.mapM User.ofRow _), _) = _
  rw [User.mapM_ofRow_toRow]
  rfl

/-- **The store in the database of the table asks the table.** -/
theorem ofDatabase_database (now : Moment) (salt : Bytes) (hasher : PasswordHasher) :
    UserStore.ofDatabase (database now) salt hasher =
      UserStore.ofQueries (ask now) (hasher.make salt) :=
  congrArg (UserStore.ofQueries · (hasher.make salt)) (funext (askDatabase_database now))

end UserTable

end Gatehouse
