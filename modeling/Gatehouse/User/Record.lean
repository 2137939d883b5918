import Gatehouse.Permission.Record
import Gatehouse.User.Basic

/-!
# Users as JSON records

The digests of a user are never written to a record and never read from one.
-/

namespace Gatehouse

open Decoder

/-- A moment as a JSON string. -/
def Moment.toJson (t : Moment) : Json :=
  .str t.text

/-- Reads a moment. -/
def Moment.decode : Decoder Moment :=
  ofText Moment.read?

/-- The record of a user. -/
def User.toJson (u : User) : Json :=
  .obj [("id", u.id.toJson), ("username", .str u.username), ("firstname", .str u.firstname),
    ("lastname", .str u.lastname), ("active", .bool u.active), ("created_at", u.createdAt.toJson),
    ("updated_at", u.updatedAt.toJson)]

/-- The members of the record of a user. -/
def User.shape : List Member :=
  [member "id" UserId.decode, member "username" text, member "firstname" text,
    member "lastname" text, member "active" bool, member "created_at" Moment.decode,
    member "updated_at" Moment.decode]

/-- Reads a user. -/
def User.decode : Decoder User := do
  let found ← entries shape 7
  let id ← found.needed "id" UserId.decode
  let username ← found.needed "username" text
  let firstname ← found.needed "firstname" text
  let lastname ← found.needed "lastname" text
  let active ← found.needed "active" bool
  let createdAt ← found.needed "created_at" Moment.decode
  let updatedAt ← found.needed "updated_at" Moment.decode
  pure ⟨id, username, none, firstname, lastname, active, none, createdAt, updatedAt⟩

end Gatehouse
