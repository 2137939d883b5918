import Gatehouse.Text.Blank

/-!
# Media types

A body is taken for JSON only if the request declares it as `application/json`, or as another
`application` type with the suffix `json`. The case of letters does not matter. Parameters have to
be well formed, but are not looked at otherwise.
-/

namespace Gatehouse.MediaType

/-- The characters of names and of values without quotes. -/
def isToken (c : Char) : Bool :=
  c.isAlphanum || "!#$%&'*+-.^_\x60|~".toList.contains c

/-- Whether a text is a name. -/
def isName (s : List Char) : Bool :=
  !s.isEmpty && s.all isToken

/-- Cuts a quoted value, which is not empty, from what follows it. -/
def cutQuoted? : List Char → Option (List Char × List Char)
  | [] => none
  | first :: rest => (Text.cutFirst? '"' rest).map fun p => (first :: p.1, p.2)

/-- Checks the parameters that follow a separator. What is left to do is given as the fuel, which
the length of the text bounds. -/
def checkParameters : Nat → List Char → Bool
  | 0, s => s.isEmpty
  | fuel + 1, s =>
    let s := s.dropWhile (· == ' ')
    match Text.cutFirst? '=' s with
    | none => s.isEmpty
    | some (name, '"' :: quoted) =>
      match cutQuoted? quoted with
      | none => false
      | some (value, rest) =>
        isName name && value.all (' ' ≤ ·) &&
          match rest.dropWhile (· == ' ') with
          | [] => true
          | c :: more => c == ';' && checkParameters fuel more
    | some (name, plain) =>
      let value := plain.takeWhile (· ≠ ';')
      isName name && value.all isToken &&
        match plain.dropWhile (· ≠ ';') with
        | [] => true
        | _ :: more => !value.isEmpty && checkParameters fuel more

/-- Whether a subtype is JSON: it is `json`, or has the suffix `json`. -/
def isJsonSubtype : List Char → Bool
  | [] => false
  | first :: rest =>
    let isJsonName := fun s : List Char => s.map Char.toLower == "json".toList
    match Text.cutLast? '+' rest with
    | none => isJsonName (first :: rest)
    | some (base, suffix) => isJsonName (first :: base) || isJsonName suffix

/-- Whether a declared type is JSON. -/
def isJson (declared : String) : Bool :=
  match Text.cutFirst? '/' declared.toList with
  | none => false
  | some (kind, rest) =>
    let subtype := rest.takeWhile (· ≠ ';')
    let parameters := (rest.dropWhile (· ≠ ';')).drop 1
    Text.sameLetters (String.ofList kind) "application" && isName subtype &&
      isJsonSubtype subtype && checkParameters rest.length parameters

end Gatehouse.MediaType
