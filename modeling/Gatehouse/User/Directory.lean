import Gatehouse.Password.Hasher
import Gatehouse.User.Store

/-!
# The directory of users in memory

The directory is a list of users in the order in which they were created, and the last number that
was given out. Each operation gives its result and the directory after it; what fails leaves the
directory as it was.
-/

namespace Gatehouse

/-- Users in the order of their creation. -/
structure Directory where
  users : List User
  /-- The last number that was given to a user. -/
  lastId : Int
  /-- While set, the directory refuses to look up and to change users. -/
  unavailable : Bool
  deriving DecidableEq, Repr, Inhabited

namespace Directory

/-- The directory without users. -/
def empty : Directory :=
  ⟨[], 0, false⟩

/-- What an operation gives: a result and the directory after it. -/
abbrev Outcome (α : Type) := Except StoreError α × Directory

/-- The failure of a directory that is not available. -/
def refusal : StoreError :=
  .unavailable "memory directory marked unavailable"

/-- The failure to find a user by its number. -/
def noUser (id : UserId) : StoreError :=
  .unavailable ("no user with id " ++ id.text)

/-- Carries out an operation unless the directory is unavailable. -/
def guarded {α : Type} (dir : Directory) (run : Outcome α) : Outcome α :=
  if dir.unavailable then (.error refusal, dir) else run

/-! ### Finding -/

/-- The user of a number. -/
def user? (dir : Directory) (id : UserId) : Option User :=
  dir.users.find? (·.id == id)

/-- The first user of a name. -/
def named? (dir : Directory) (username : String) : Option User :=
  dir.users.find? (·.username == username)

/-- Finds a user by its number. -/
def findById (dir : Directory) (id : UserId) : Outcome (Option User) :=
  dir.guarded (.ok (dir.user? id), dir)

/-- Finds a user by its name. -/
def findByUsername (dir : Directory) (username : String) : Outcome (Option User) :=
  dir.guarded (.ok (dir.named? username), dir)

/-! ### Creating -/

/-- Adds the user of a template under the next number. -/
def create (dir : Directory) (t : UserTemplate) (now : Moment) : User × Directory :=
  let user := User.ofTemplate ⟨dir.lastId + 1⟩ t now
  (user, { dir with users := dir.users ++ [user], lastId := dir.lastId + 1 })

/-- Finds the user that a template names, or adds it. -/
def findOrCreate (dir : Directory) (t : UserTemplate) (now : Moment) : Outcome User :=
  dir.guarded <|
    match dir.named? t.username with
    | some user => (.ok user, dir)
    | none =>
      let (user, dir) := dir.create t now
      (.ok user, dir)

/-- Adds the user of a template with a digest of its password, whether the name is taken or not. -/
def insertWithDigest (dir : Directory) (t : UserTemplate) (digest : String) (now : Moment) :
    Outcome User :=
  dir.guarded <|
    let (user, dir) := dir.create { t with passwordDigest := some digest } now
    (.ok user, dir)

/-! ### Changing -/

/-- Changes the first user of a number. -/
def changeFirst (id : UserId) (change : User → User) : List User → List User
  | [] => []
  | user :: rest =>
    if user.id = id then change user :: rest else user :: changeFirst id change rest

/-- Changes the user of a number, if there is one. -/
def change (dir : Directory) (id : UserId) (f : User → User) : Outcome Unit :=
  match dir.user? id with
  | none => (.error (noUser id), dir)
  | some _ => (.ok (), { dir with users := changeFirst id f dir.users })

/-- Stores the digest of a password. -/
def updatePasswordDigest (dir : Directory) (id : UserId) (digest : String) (now : Moment) :
    Outcome Unit :=
  dir.guarded (dir.change id (·.setPasswordDigest (some digest) now))

/-- Stores the digest of a refresh token. -/
def updateRefreshDigest (dir : Directory) (id : UserId) (digest : Option String) (now : Moment) :
    Outcome Unit :=
  dir.guarded (dir.change id (·.setRefreshDigest digest now))

/-- Activates or deactivates a user, also while the directory is unavailable. -/
def setActive (dir : Directory) (id : UserId) (active : Bool) (now : Moment) : Outcome Unit :=
  dir.change id (·.setActive active now)

/-- Sets whether the directory refuses. -/
def setUnavailable (dir : Directory) (value : Bool) : Directory :=
  { dir with unavailable := value }

/-! ### The directory as a store -/

/-- What an operation of the directory needs from outside: the time, and the salt and the cost of
new password digests. -/
structure Setting where
  now : Moment
  salt : Bytes
  hasher : PasswordHasher

/-- An operation that may change the directory. -/
def act {α : Type} (run : Directory → Outcome α) : StateM Directory (Except StoreError α) :=
  fun dir => run dir

/-- An operation that needs the digest of a password, which is made before anything else is done. -/
def withDigest {α : Type} (s : Setting) (password : String)
    (run : String → Directory → Outcome α) : StateM Directory (Except StoreError α) :=
  match s.hasher.make s.salt password with
  | .error e => pure (.error (.encoding e.message))
  | .ok digest => act (run digest)

/-- The directory as a store. -/
def store (s : Setting) : UserStore (StateM Directory) where
  findById id := act (·.findById id)
  findByUsername username := act (·.findByUsername username)
  findOrCreate t := act (·.findOrCreate t s.now)
  updatePassword id password :=
    withDigest s password fun digest dir => dir.updatePasswordDigest id digest s.now
  updateRefreshDigest id digest := act (·.updateRefreshDigest id digest s.now)

/-- Adds the user of a template with a password. -/
def insertWithPassword (s : Setting) (t : UserTemplate) (password : String) :
    StateM Directory (Except StoreError User) :=
  withDigest s password fun digest dir => dir.insertWithDigest t digest s.now

end Directory

end Gatehouse
