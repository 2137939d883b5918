import Gatehouse.Database.Statement
import Gatehouse.Password.Hasher
import Gatehouse.User.Store

/-!
# The users in the database

The store makes five kinds of queries, and `UserStore.ofQueries` says how each of its operations is
put together from them. `UserQuery.statement` is the text of a query for the database, and
`UserTable.answer` is what a table of users with unique names answers.
-/

namespace Gatehouse

/-- A query on the table of users. -/
inductive UserQuery where
  | byId (id : UserId)
  | byUsername (username : String)
  /-- Adds a user, unless the name is taken; gives the user that was added. -/
  | insert (template : UserTemplate)
  | setPassword (id : UserId) (digest : String)
  | setRefreshDigest (id : UserId) (digest : Option String)
  deriving DecidableEq, Repr

namespace UserQuery

/-- The columns of a user, in the order in which they are read. -/
def columns : String :=
  "id, username, password_hash, firstname, lastname, active, refresh_token_hash, " ++
    "created_at, updated_at"

/-- The statement of a query. -/
def statement : UserQuery → SqlStatement
  | .byId id => ⟨"SELECT " ++ columns ++ " FROM users WHERE id = $1", [.int id.value]⟩
  | .byUsername username =>
    ⟨"SELECT " ++ columns ++ " FROM users WHERE username = $1", [.text username]⟩
  | .insert t =>
    ⟨"INSERT INTO users (username, password_hash, firstname, lastname, active) " ++
        "VALUES ($1, $2, $3, $4, $5) ON CONFLICT (username) DO NOTHING RETURNING " ++ columns,
      [.text t.username, .ofText? t.passwordDigest, .text t.firstname, .text t.lastname,
        .bool t.active]⟩
  | .setPassword id digest =>
    ⟨"UPDATE users SET password_hash = $2, updated_at = now() WHERE id = $1",
      [.int id.value, .text digest]⟩
  | .setRefreshDigest id digest =>
    ⟨"UPDATE users SET refresh_token_hash = $2, updated_at = now() WHERE id = $1",
      [.int id.value, .ofText? digest]⟩

end UserQuery

/-- Reads a user out of a row. -/
def User.ofRow (row : Row) : Except DatabaseFault User := do
  let id ← row.int "id"
  let username ← row.text "username"
  let passwordDigest ← row.text? "password_hash"
  let firstname ← row.text "firstname"
  let lastname ← row.text "lastname"
  let active ← row.bool "active"
  let refreshDigest ← row.text? "refresh_token_hash"
  let createdAt ← row.time "created_at"
  let updatedAt ← row.time "updated_at"
  pure ⟨⟨id⟩, username, passwordDigest, firstname, lastname, active, refreshDigest, createdAt,
    updatedAt⟩

namespace UserStore

variable {m : Type → Type} [Monad m]

/-- The failure of a name that is neither free nor found. -/
def vanished (username : String) : StoreError :=
  .unavailable ("user " ++ username ++ " vanished during find-or-create")

/-- The first user that a query gives. -/
def first? (ask : UserQuery → m (Except StoreError (List User))) (q : UserQuery) :
    m (Except StoreError (Option User)) := do
  return (← ask q).map List.head?

/-- Adds the user of a template, or finds the user who has its name. -/
def insertOrFind (ask : UserQuery → m (Except StoreError (List User))) (t : UserTemplate) :
    m (Except StoreError User) := do
  match ← first? ask (.insert t) with
  | .error e => return .error e
  | .ok (some user) => return .ok user
  | .ok none =>
    match ← first? ask (.byUsername t.username) with
    | .error e => return .error e
    | .ok (some user) => return .ok user
    | .ok none => return .error (vanished t.username)

/-- The store that asks queries. Passwords are digested by `digest`. -/
def ofQueries (ask : UserQuery → m (Except StoreError (List User)))
    (digest : String → Except PasswordError String) : UserStore m where
  findById id := first? ask (.byId id)
  findByUsername username := first? ask (.byUsername username)
  findOrCreate t := insertOrFind ask t
  updatePassword id password :=
    match digest password with
    | .error e => pure (.error (.encoding e.message))
    | .ok digest => do return (← ask (.setPassword id digest)).map fun _ => ()
  updateRefreshDigest id d := do
    return (← ask (.setRefreshDigest id (User.storedDigest d))).map fun _ => ()

/-- The users that a query gives, read out of the rows of a database. -/
def askDatabase (db : Database m) (q : UserQuery) : m (Except StoreError (List User)) := do
  match ← db.execute q.statement with
  | .error fault => return .error fault.toStoreError
  | .ok rows => return (rows.mapM User.ofRow).mapError DatabaseFault.toStoreError

/-- The store in a database. -/
def ofDatabase (db : Database m) (salt : Bytes) (hasher : PasswordHasher) : UserStore m :=
  ofQueries (askDatabase db) (hasher.make salt)

end UserStore

/-! ### The table -/

/-- A table of users. Names are unique, and numbers are given out one after the other, also to a
user who is not added because the name is taken. -/
structure UserTable where
  rows : List User
  /-- The last number that was given out. -/
  lastId : Int
  deriving DecidableEq, Repr

namespace UserTable

/-- Changes the rows of a number. -/
def change (table : UserTable) (id : UserId) (f : User → User) : UserTable :=
  { table with rows := table.rows.map fun u => if u.id = id then f u else u }

/-- What the table answers to a query at some moment, and the table after it. -/
def answer (now : Moment) (table : UserTable) : UserQuery → List User × UserTable
  | .byId id => (table.rows.filter (·.id = id), table)
  | .byUsername username => (table.rows.filter (·.username = username), table)
  | .insert t =>
    let id := table.lastId + 1
    if table.rows.any (·.username = t.username) then ([], { table with lastId := id })
    else
      let user := User.ofTemplate ⟨id⟩ t now
      ([user], ⟨table.rows ++ [user], id⟩)
  | .setPassword id digest => ([], table.change id (·.setPasswordDigest (some digest) now))
  | .setRefreshDigest id digest =>
    ([], table.change id fun u => { u with refreshDigest := digest, updatedAt := now })

/-- Asks the table, which never fails. -/
def ask (now : Moment) (q : UserQuery) : StateM UserTable (Except StoreError (List User)) :=
  fun table =>
    let (rows, after) := table.answer now q
    (.ok rows, after)

end UserTable

end Gatehouse
