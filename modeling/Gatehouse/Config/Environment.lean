import Gatehouse.Config.Setting

/-!
# Settings from the environment

The name of a variable is a path with `__` between the names, and upper and lower case do not
differ. A value that reads as a truth value or as a number is taken for one.
-/

namespace Gatehouse.Environment

open Decimal

/-- A letter in lower case: of the letters beyond ASCII only the Kelvin sign has an ASCII letter as
its lower case, and no setting has any other letter in its name. -/
def lowerChar (c : Char) : Char :=
  if c = '\u212A' then 'k' else c.toLower

/-- Puts a point for every two underscores. -/
def dotted : List Char → List Char
  | '_' :: '_' :: rest => '.' :: dotted rest
  | c :: rest => c :: dotted rest
  | [] => []

/-- The path of a variable. -/
def pathText (name : String) : String :=
  String.ofList (dotted (name.toList.map lowerChar))

/-- The setting of a value. -/
def valueOf (value : String) : Setting :=
  if Text.sameLetters value "true" then .bool true
  else if Text.sameLetters value "false" then .bool false
  else
    match readInt64 value.toList with
    | .ok n => .int n
    | .error _ =>
      match readBinary64 value.toList with
      | some x => .float x
      | none => .text value

/-- The settings of variables, by their paths. -/
def settings (vars : List (String × String)) : List (String × Setting) :=
  vars.map fun v => (pathText v.1, valueOf v.2)

end Gatehouse.Environment
