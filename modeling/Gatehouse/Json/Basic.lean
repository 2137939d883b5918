import Gatehouse.Decimal.Shortest

/-!
# JSON values

A number is an integer of 64 bits or a binary floating-point number. The members of an object are
kept in ascending order of their names, each name once, by `ofMembers` and `canonical`.
-/

namespace Gatehouse

open Decimal

/-- A JSON value. -/
inductive Json where
  | null
  | bool (value : Bool)
  | int (value : Int)
  | float (value : Binary64)
  | str (value : String)
  | arr (items : List Json)
  | obj (members : List (String × Json))
  deriving Inhabited, BEq

namespace Json

/-- Puts a member into a list in ascending order of the names, in place of one of the same name. -/
def insertMember {α : Type} (name : String) (value : α) : List (String × α) → List (String × α)
  | [] => [(name, value)]
  | (n, v) :: rest =>
    if name = n then (name, value) :: rest
    else if name < n then (name, value) :: (n, v) :: rest
    else (n, v) :: insertMember name value rest

/-- The object with the given members; of several members of one name the last counts. -/
def ofMembers (members : List (String × Json)) : Json :=
  .obj (members.foldl (fun done m => insertMember m.1 m.2 done) [])

mutual

/-- The value with the members of all its objects in order; of several members of one name the last
counts. -/
def canonical : Json → Json
  | .arr items => .arr (canonicalItems items)
  | .obj members => ofMembers (canonicalMembers members)
  | j => j

/-- The items of an array with the members of all objects in order. -/
def canonicalItems : List Json → List Json
  | [] => []
  | j :: rest => j.canonical :: canonicalItems rest

/-- The members of an object with the members of all objects in their values in order. -/
def canonicalMembers : List (String × Json) → List (String × Json)
  | [] => []
  | (name, j) :: rest => (name, j.canonical) :: canonicalMembers rest

end

/-- The value of a member of an object. -/
def member? (name : String) : Json → Option Json
  | .obj members => members.lookup name
  | _ => none

/-- The text of a JSON string. -/
def text? : Json → Option String
  | .str s => some s
  | _ => none

/-- The text of a member of an object that is a string. -/
def textMember? (name : String) (j : Json) : Option String :=
  (j.member? name).bind text?

/-- A value or `null`. -/
def ofOption {α : Type} (write : α → Json) : Option α → Json
  | none => .null
  | some a => write a

/-- A list of strings. -/
def ofTexts (texts : List String) : Json :=
  .arr (texts.map .str)

@[simp] theorem text?_eq_some_iff {j : Json} {s : String} : j.text? = some s ↔ j = .str s := by
  cases j <;> simp [text?]

end Json

end Gatehouse
