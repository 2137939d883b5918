import Gatehouse.Text.Blank
import Gatehouse.Decimal.Integer

/-!
# Identifiers of users and roles

Users and roles are numbered. A number is written in decimal and read back from text with blank
characters around it.
-/

namespace Gatehouse

/-- The number of a user. -/
structure UserId where
  value : Int
  deriving DecidableEq, Repr, Inhabited

/-- The number of a role. -/
structure RoleId where
  value : Int
  deriving DecidableEq, Repr, Inhabited

/-- The two kinds of identifier, as named in a failure to read one. -/
inductive IdKind where
  | user
  | role
  deriving DecidableEq, Repr

/-- The name of a kind of identifier. -/
def IdKind.name : IdKind → String
  | .user => "UserId"
  | .role => "RoleId"

/-- A text that is no identifier: which kind was wanted and what is wrong with the number. -/
structure IdFault where
  kind : IdKind
  fault : Decimal.IntegerFault
  deriving DecidableEq, Repr

/-- The text of a failure to read an identifier. -/
def IdFault.message (e : IdFault) : String :=
  "failed to parse " ++ e.kind.name ++ ": " ++ e.fault.message

namespace Id

/-- Reads the number of an identifier of the given kind, leaving out blank characters around it. -/
def read (kind : IdKind) (text : String) : Except IdFault Int :=
  match Decimal.readInt64 (Text.trimChars text.toList) with
  | .ok n => .ok n
  | .error fault => .error ⟨kind, fault⟩

end Id

/-- Reads a user's number. -/
def UserId.read (text : String) : Except IdFault UserId :=
  (Id.read .user text).map UserId.mk

/-- Reads a role's number. -/
def RoleId.read (text : String) : Except IdFault RoleId :=
  (Id.read .role text).map RoleId.mk

/-- The text of a user's number. -/
def UserId.text (id : UserId) : String :=
  Decimal.intText id.value

/-- The text of a role's number. -/
def RoleId.text (id : RoleId) : String :=
  Decimal.intText id.value

end Gatehouse
