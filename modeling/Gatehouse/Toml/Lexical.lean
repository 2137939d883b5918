import Gatehouse.Text.Blank

/-!
# TOML texts and keys

A key is a row of names, each bare or quoted, and the dots between them lead into tables. Quoted
texts come in four forms: on one line or on several, and with or without escapes. Every reader
gives what it read and the text that follows, or nothing where the text is not well formed.
-/

namespace Gatehouse.Toml

/-- What a reader gives: a result and the text after it. -/
abbrev Reading (α : Type) := Option (α × List Char)

/-- Whether a character separates words on a line. -/
def isSpace (c : Char) : Bool :=
  c == ' ' || c == '\t'

/-- Drops the spaces at the start. -/
def skip (s : List Char) : List Char :=
  s.dropWhile isSpace

/-- Whether a character may stand in comments and in quoted texts on one line. -/
def isVisible (c : Char) : Bool :=
  c == '\t' || (' ' ≤ c && c != '\x7f')

/-- What follows a line end, where the text starts with one. A carriage return ends a line only
together with the line feed after it. -/
def cutLineEnd? : List Char → Option (List Char)
  | '\n' :: rest | '\r' :: '\n' :: rest => some rest
  | _ => none

/-- Drops the spaces at the start, and a comment after them. -/
def skipComment (s : List Char) : List Char :=
  match skip s with
  | '#' :: rest => rest.dropWhile isVisible
  | s => s

/-- Reads up to the end of the line: spaces and a comment. The line end is not taken. -/
def readLineEnd? (s : List Char) : Option (List Char) :=
  let rest := skipComment s
  if rest.isEmpty ∨ (cutLineEnd? rest).isSome then some rest else none

/-- Skips so many lines at most that are blank but for a comment, and what stands before the next
word. -/
def skipLinesUpTo : Nat → List Char → List Char
  | 0, s => s
  | count + 1, s =>
    match cutLineEnd? (skipComment s) with
    | some rest => skipLinesUpTo count rest
    | none => skipComment s

/-- Skips spaces, comments and line ends; there are no more line ends than characters. -/
def skipLines (s : List Char) : List Char :=
  skipLinesUpTo (s.length + 1) s

/-! ### Quoted texts -/

/-- The value of a hexadecimal digit. -/
def hexValue? (c : Char) : Option Nat :=
  if '0' ≤ c ∧ c ≤ '9' then some (c.toNat - 48)
  else if 'a' ≤ c ∧ c ≤ 'f' then some (c.toNat - 87)
  else if 'A' ≤ c ∧ c ≤ 'F' then some (c.toNat - 55)
  else none

/-- The character with a number of so many hexadecimal digits. -/
def readCodePoint? (width : Nat) (s : List Char) : Reading Char :=
  match (s.take width).mapM hexValue? with
  | none => none
  | some digits =>
    let n := digits.foldl (fun n d => 16 * n + d) 0
    if digits.length = width ∧ n.isValidChar then some (Char.ofNat n, s.drop width) else none

/-- Reads what follows the mark of an escape. -/
def readEscape? : List Char → Reading Char
  | 'b' :: rest => some ('\x08', rest)
  | 't' :: rest => some ('\t', rest)
  | 'n' :: rest => some ('\n', rest)
  | 'f' :: rest => some ('\x0c', rest)
  | 'r' :: rest => some ('\r', rest)
  | 'e' :: rest => some ('\x1b', rest)
  | '"' :: rest => some ('"', rest)
  | '\\' :: rest => some ('\\', rest)
  | 'x' :: rest => readCodePoint? 2 rest
  | 'u' :: rest => readCodePoint? 4 rest
  | 'U' :: rest => readCodePoint? 8 rest
  | _ => none

/-- Adds characters in front of what a reader gives. -/
def prepend (before : List Char) : Reading (List Char) → Reading (List Char) :=
  Option.map fun p => (before ++ p.1, p.2)

/-- Reads a text with escapes on one line, after its opening mark. The length of the text bounds
the fuel. -/
def readBasic? : Nat → List Char → Reading (List Char)
  | 0, _ | _, [] => none
  | _ + 1, '"' :: rest => some ([], rest)
  | fuel + 1, '\\' :: rest =>
    match readEscape? rest with
    | none => none
    | some (c, rest) => prepend [c] (readBasic? fuel rest)
  | fuel + 1, c :: rest => if isVisible c then prepend [c] (readBasic? fuel rest) else none

/-- Reads a text without escapes on one line, after its opening mark. -/
def readLiteral? (s : List Char) : Reading (List Char) :=
  match Text.cutFirst? '\'' s with
  | none => none
  | some (body, rest) => if body.all isVisible then some (body, rest) else none

/-- Reads the marks that end a text on several lines: three of them, before which one or two may
belong to the text. -/
def readEnd? (mark : Char) (s : List Char) : Reading (List Char) :=
  let count := (s.takeWhile (· == mark)).length
  if count < 3 then none
  else
    let own := min (count - 3) 2
    some (List.replicate own mark, s.drop (own + 3))

/-- Drops the spaces and line ends at the start. -/
def skipBlank : List Char → List Char
  | ' ' :: rest | '\t' :: rest | '\n' :: rest | '\r' :: '\n' :: rest => skipBlank rest
  | s => s

/-- Reads a text with escapes on several lines, after its opening marks. Its line ends belong to it
as they are. A mark of an escape at the end of a line drops everything up to the next character
that is no space. The length of the text bounds the fuel. -/
def readBasicLines? : Nat → List Char → Reading (List Char)
  | 0, _ | _, [] => none
  | fuel + 1, '\r' :: '\n' :: rest => prepend ['\r', '\n'] (readBasicLines? fuel rest)
  | fuel + 1, c :: rest =>
    match readEnd? '"' (c :: rest) with
    | some ending => some ending
    | none =>
      if c = '\\' then
        if (cutLineEnd? (skip rest)).isSome then readBasicLines? fuel (skipBlank rest)
        else
          match readEscape? rest with
          | none => none
          | some (e, rest) => prepend [e] (readBasicLines? fuel rest)
      else if isVisible c ∨ c = '\n' then prepend [c] (readBasicLines? fuel rest)
      else none

/-- Reads a text without escapes on several lines, after its opening marks. -/
def readLiteralLines? : List Char → Reading (List Char)
  | [] => none
  | '\r' :: '\n' :: rest => prepend ['\r', '\n'] (readLiteralLines? rest)
  | c :: rest =>
    match readEnd? '\'' (c :: rest) with
    | some ending => some ending
    | none =>
      if isVisible c ∨ c = '\n' then prepend [c] (readLiteralLines? rest) else none

/-- Drops a line end directly after the opening marks. -/
def dropLineEnd (s : List Char) : List Char :=
  (cutLineEnd? s).getD s

/-- Reads a quoted text. -/
def readQuoted? (s : List Char) : Reading String :=
  let body := match s with
    | '"' :: '"' :: '"' :: rest => readBasicLines? (s.length + 1) (dropLineEnd rest)
    | '\'' :: '\'' :: '\'' :: rest => readLiteralLines? (dropLineEnd rest)
    | '"' :: rest => readBasic? (s.length + 1) rest
    | '\'' :: rest => readLiteral? rest
    | _ => none
  body.map fun p => (String.ofList p.1, p.2)

/-! ### Keys -/

/-- Whether a character may stand in a bare name. -/
def isBareChar (c : Char) : Bool :=
  c.isAlphanum || c == '_' || c == '-'

/-- Reads a key without dots. -/
def readName? : List Char → Reading String
  | '"' :: rest => (readBasic? (rest.length + 1) rest).map fun p => (String.ofList p.1, p.2)
  | '\'' :: rest => (readLiteral? rest).map fun p => (String.ofList p.1, p.2)
  | s =>
    let name := s.takeWhile isBareChar
    if name.isEmpty then none else some (String.ofList name, s.dropWhile isBareChar)

/-- The names that a key has at most. -/
def maxNames : Nat := 80

/-- Reads a key of so many names at most, which have dots between them. -/
def readNames? : Nat → List Char → Reading (List String)
  | 0, _ => none
  | count + 1, s =>
    match readName? (skip s) with
    | none => none
    | some (name, rest) =>
      match skip rest with
      | '.' :: more => (readNames? count more).map fun p => (name :: p.1, p.2)
      | rest => some ([name], rest)

/-- Reads a key, and the spaces after it. -/
def readKey? (s : List Char) : Reading (List String) :=
  readNames? maxNames s

end Gatehouse.Toml
