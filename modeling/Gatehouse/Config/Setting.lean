import Gatehouse.Decimal.Shortest
import Gatehouse.Json.Basic
import Gatehouse.Text.Blank

/-!
# Trees of settings

Settings come from files and from the environment. They are put together in one tree, the later
source over the earlier one: tables are merged and all else is replaced. A place in the tree is
named by a path such as `jwt.secret` or `nodes[0]`.

Whoever reads a setting says what it should be, and texts, numbers and truth values are taken for
each other where that makes sense.
-/

namespace Gatehouse

open Decimal

/-- A tree of settings. -/
inductive Setting where
  /-- A place without a value. -/
  | absent
  | bool (value : Bool)
  /-- An integer of 64 bits, with or without a sign. -/
  | int (value : Int)
  | float (value : Binary64)
  | text (value : String)
  | list (items : List Setting)
  | table (members : List (String × Setting))
  deriving Inhabited

/-- A step from a setting to one inside it. -/
inductive PathStep where
  | member (name : String)
  /-- An item; a negative number counts from the end. -/
  | item (index : Int)
  deriving DecidableEq, Repr

namespace PathStep

/-- Whether a character may stand in a name on a path. -/
def isNameChar (c : Char) : Bool :=
  c.isAlphanum || c == '_' || c == '-'

/-- Whether a character may stand around an index. -/
def isSpace (c : Char) : Bool :=
  c == ' ' || c == '\t'

/-- Reads an index, up to its closing bracket. -/
def readIndex? (s : List Char) : Option (Int × List Char) :=
  let s := s.dropWhile isSpace
  let (negative, s) := match s with
    | '-' :: rest => (true, rest)
    | s => (false, s)
  let digits := s.takeWhile Char.isDigit
  match digits, (s.dropWhile Char.isDigit).dropWhile isSpace with
  | [], _ => none
  | _, ']' :: rest =>
    let n : Int := digitsValue digits
    let index := if negative then -n else n
    if IsInt64 index then some (index, rest) else none
  | _, _ => none

/-- Reads the steps after the first name. The length of the text bounds the fuel. -/
def readRest? : Nat → List Char → Option (List PathStep)
  | _, [] => some []
  | 0, _ :: _ => none
  | fuel + 1, '.' :: rest =>
    let name := rest.takeWhile isNameChar
    if name.isEmpty then none
    else (readRest? fuel (rest.dropWhile isNameChar)).map (.member (String.ofList name) :: ·)
  | fuel + 1, '[' :: rest =>
    match readIndex? rest with
    | none => none
    | some (index, rest) => (readRest? fuel rest).map (.item index :: ·)
  | _ + 1, _ :: _ => none

/-- Reads a path. -/
def read? (s : String) : Option (List PathStep) :=
  let name := s.toList.takeWhile isNameChar
  if name.isEmpty then none
  else (readRest? s.length (s.toList.dropWhile isNameChar)).map (.member (String.ofList name) :: ·)

/-- The path that a text names. A text that is no path names a member of the whole tree. -/
def ofText (s : String) : List PathStep :=
  (read? s).getD [.member s]

end PathStep

namespace Setting

/-! ### Putting settings into a tree -/

/-- The members of a table; other settings have none. -/
def members : Setting → List (String × Setting)
  | .table ms => ms
  | _ => []

/-- The items of a list; other settings have none. -/
def items : Setting → List Setting
  | .list ss => ss
  | _ => []

/-- Changes the member of a name, which is added if it is missing. -/
def alterMember (name : String) (f : Setting → Setting) :
    List (String × Setting) → List (String × Setting)
  | [] => [(name, f .absent)]
  | (n, s) :: rest => if n = name then (n, f s) :: rest else (n, s) :: alterMember name f rest

/-- Changes an item, which is added if it is missing. -/
def alterItem (index : Int) (f : Setting → Setting) (ss : List Setting) : List Setting :=
  if 0 ≤ index then
    (ss ++ List.replicate (index.toNat + 1 - ss.length) absent).modify index.toNat f
  else
    let missing := index.natAbs - ss.length
    (List.replicate missing absent ++ ss).modify (ss.length - index.natAbs) f

/-- Changes the setting at the end of a path. What is not a table or a list on the way becomes
one. -/
def update (f : Setting → Setting) : List PathStep → Setting → Setting
  | [], s => f s
  | .member name :: path, s => .table (alterMember name (update f path) s.members)
  | .item index :: path, s => .list (alterItem index (update f path) s.items)

mutual

/-- Puts a setting over another one. -/
def onto : Setting → Setting → Setting
  | .table ms, .absent => ontoMembers ms (.table [])
  | .table ms, held => ontoMembers ms held
  | s, _ => s

/-- Puts the members of a table over a setting. -/
def ontoMembers : List (String × Setting) → Setting → Setting
  | [], held => held
  | (name, s) :: rest, held => ontoMembers rest (.table (alterMember name (onto s) held.members))

end

/-- Puts settings, each named by a path, over a tree. -/
def putAll (tree : Setting) (named : List (String × Setting)) : Setting :=
  named.foldl (fun tree p => tree.update (onto p.2) (PathStep.ofText p.1)) tree

/-! ### Reading settings -/

/-- The truth value that a word names, whatever the case of its letters. -/
def wordBool? (s : String) : Option Bool :=
  if ["true", "on", "yes"].any (Text.sameLetters s) then some true
  else if ["false", "off", "no"].any (Text.sameLetters s) then some false
  else none

/-- A setting as a text. -/
def asText? : Setting → Option String
  | .text s => some s
  | .bool b => some (if b then "true" else "false")
  | .int n => some (intText n)
  | .float x => some x.plainText
  | _ => none

/-- A setting as a truth value. -/
def asBool? : Setting → Option Bool
  | .bool b => some b
  | .int n => some (n != 0)
  | .float x => some (!x.isZero)
  | .text s =>
    if s = "1" then some true else if s = "0" then some false else wordBool? s
  | _ => none

/-- A float as a natural number of 64 bits: rounded, and kept within the bounds. -/
def floatNat : Binary64 → Nat
  | .finite false m e => min (Binary64.roundMagnitude m e) maxUInt64
  | .infinite false => maxUInt64
  | _ => 0

/-- A setting as a natural number of 64 bits. -/
def asNat? : Setting → Option Nat
  | .int n => if 0 ≤ n then some n.toNat else none
  | .bool b => some (if b then 1 else 0)
  | .float x => some (floatNat x)
  | .text s =>
    match wordBool? s with
    | some b => some (if b then 1 else 0)
    | none => (readUInt64 s.toList).toOption
  | _ => none

/-- The settings of a section: the members of a table by their names, or the items of a list in
the order of the names. -/
def section? (names : List String) : Setting → Option (List (String × Setting))
  | .table ms => some ms
  | .list ss => some (names.zip ss)
  | _ => none

/-! ### Settings out of JSON -/

mutual

/-- The setting of a JSON value. -/
def ofJson : Json → Setting
  | .null => .absent
  | .bool b => .bool b
  | .int n => .int n
  | .float x => .float x
  | .str s => .text s
  | .arr js => .list (ofJsonItems js)
  | .obj ms => .table (ofJsonMembers ms)

/-- The settings of JSON values. -/
def ofJsonItems : List Json → List Setting
  | [] => []
  | j :: js => ofJson j :: ofJsonItems js

/-- The settings of members of a JSON object. -/
def ofJsonMembers : List (String × Json) → List (String × Setting)
  | [] => []
  | (name, j) :: ms => (name, ofJson j) :: ofJsonMembers ms

end

end Setting

end Gatehouse
