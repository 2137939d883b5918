import Gatehouse.Text.Utf8
import Gatehouse.Toml.Lexical
import Gatehouse.Toml.Scalar
import Gatehouse.Toml.Table

/-!
# Reading TOML documents

A document is a row of lines: headers in brackets, and pairs of a key and a value. Lists and tables
in braces may go over several lines.
-/

namespace Gatehouse.Toml

/-- How deep lists and tables in braces may lie in one another. -/
def maxNesting : Nat := 80

mutual

/-- Reads a value, in which lists and tables lie at most `depth` deep. The length of the text bounds
the fuel, here and in what follows. -/
def readValue? : Nat → Nat → List Char → Reading Setting
  | 0, _, _ | _, _, [] => none
  | _ + 1, 0, '[' :: _ | _ + 1, 0, '\x7b' :: _ => none
  | fuel + 1, depth + 1, '[' :: rest => (readItems? fuel depth rest).map fun p => (.list p.1, p.2)
  | fuel + 1, depth + 1, '\x7b' :: rest =>
    (readPairs? fuel depth [] rest).map fun p => (Node.membersToTable p.1, p.2)
  | _ + 1, _, c :: rest =>
    if c = '"' ∨ c = '\'' then (readQuoted? (c :: rest)).map fun p => (.text p.1, p.2)
    else
      let (word, rest) := cutWord (c :: rest)
      (scalar? word).map fun v => (v, rest)

/-- Reads the items of a list up to its closing bracket. -/
def readItems? : Nat → Nat → List Char → Reading (List Setting)
  | 0, _, _ => none
  | fuel + 1, depth, s =>
    match skipLines s with
    | ']' :: rest => some ([], rest)
    | s =>
      match readValue? fuel depth s with
      | none => none
      | some (v, rest) =>
        match skipLines rest with
        | ',' :: more => (readItems? fuel depth more).map fun p => (v :: p.1, p.2)
        | ']' :: more => some ([v], more)
        | _ => none

/-- Reads the pairs of a table in braces up to its closing brace. -/
def readPairs? : Nat → Nat → Members → List Char → Reading Members
  | 0, _, _, _ => none
  | fuel + 1, depth, ms, s =>
    match skipLines s with
    | '\x7d' :: rest => some (ms, rest)
    | s =>
      match readKey? s with
      | none => none
      | some (key, rest) =>
        match skipLines rest with
        | '=' :: rest =>
          match readValue? fuel depth (skipLines rest) with
          | none => none
          | some (v, rest) =>
            match Node.setKey key v ms, skipLines rest with
            | some ms, ',' :: more => readPairs? fuel depth ms more
            | some ms, '\x7d' :: more => some (ms, more)
            | _, _ => none
        | _ => none

end

/-- The part of a document that was read: the table that the latest header opened, and all tables
so far. -/
structure Progress where
  current : List String
  root : Members

/-- Reads the name in a header and its closing brackets. -/
def readHeader? (closing : List Char) (s : List Char) : Reading (List String) :=
  match readKey? s with
  | some (key, rest) =>
    if closing.isPrefixOf rest then some (key, rest.drop closing.length) else none
  | none => none

/-- Reads one line that is not blank. -/
def readEntry? (done : Progress) (s : List Char) : Reading Progress :=
  match s with
  | '[' :: '[' :: rest =>
    match readHeader? [']', ']'] rest with
    | none => none
    | some (key, rest) => (Node.openRow key done.root).map fun root => (⟨key, root⟩, rest)
  | '[' :: rest =>
    match readHeader? [']'] rest with
    | none => none
    | some (key, rest) => (Node.openTable key done.root).map fun root => (⟨key, root⟩, rest)
  | s =>
    match readKey? s with
    | some (key, '=' :: rest) =>
      match readValue? (rest.length + 1) maxNesting (skip rest) with
      | none => none
      | some (v, rest) =>
        (Node.setIn done.current key v done.root).map fun root => (⟨done.current, root⟩, rest)
    | _ => none

/-- Reads the lines of a document. -/
def readEntries? : Nat → Progress → List Char → Option Members
  | 0, _, _ => none
  | fuel + 1, done, s =>
    match skipLines s with
    | [] => some done.root
    | s =>
      match readEntry? done s with
      | none => none
      | some (done, rest) =>
        match readLineEnd? rest with
        | none => none
        | some rest => readEntries? fuel done rest

/-- The table of a document, if it is well formed. -/
def read? (s : String) : Option Setting :=
  let body := (Text.dropMark s).toList
  (readEntries? (body.length + 1) ⟨[], []⟩ body).map Node.membersToTable

end Gatehouse.Toml
