import Gatehouse.Json.Text

/-!
# Reading JSON texts piece by piece

A decoder takes a value off the front of some bytes. It tells what is left, also after a fault, so
that a reader that does not mind a fault can go on behind it. Arrays and objects nest at most as
deep as a decoder is told; values that are passed over may nest as deep as they like.

Loops over items and members are bounded by the number of bytes, since each round takes one.
-/

namespace Gatehouse

/-- Takes a value off the front of some bytes, given how deep arrays and objects may nest. -/
def Decoder (α : Type) : Type :=
  Nat → Bytes → JsonReading α

namespace Decoder

variable {α β σ : Type}

instance : Monad Decoder where
  pure a := fun _ s => (.ok a, s)
  bind x f := fun depth s =>
    match x depth s with
    | (.ok a, rest) => f a depth rest
    | (.error fault, rest) => (.error fault, rest)

/-- A fault at this place. -/
def fail (fault : JsonFault) : Decoder α := fun _ s =>
  (.error fault, s)

/-- The text is no JSON at this place. -/
def broken : Decoder α :=
  fail .syntaxFault

/-- The value at this place is not of the wanted kind. -/
def unfit : Decoder α :=
  fail .dataFault

/-- Goes on after a fault. -/
def settle (x : Decoder α) : Decoder (Except JsonFault α) := fun depth s =>
  (.ok (x depth s).1, (x depth s).2)

/-- A reading of bytes as a decoder. -/
def ofReading (read : Bytes → JsonReading α) : Decoder α := fun _ s =>
  read s

/-- A decoder that is bounded by the number of bytes. -/
def bounded (x : Nat → Decoder α) : Decoder α := fun depth s =>
  x (s.length + 1) depth s

/-- Allows one level less for the values in an array or an object. -/
def nested (x : Decoder α) : Decoder α := fun depth s =>
  match depth with
  | 0 => (.error .syntaxFault, s)
  | depth + 1 => x depth s

/-! ### Signs -/

/-- Whether a byte is blank. -/
def isSpace (b : UInt8) : Bool :=
  b == 0x20 || b == 0x0A || b == 0x09 || b == 0x0D

/-- Leaves out blank bytes. -/
def skipSpace (s : Bytes) : Bytes :=
  s.dropWhile isSpace

/-- Leaves out blank bytes and looks at the next sign. -/
def peek : Decoder (Option Char) := fun _ s =>
  (.ok ((skipSpace s).head?.map sign), skipSpace s)

/-- Takes one byte. -/
def advance : Decoder Unit := fun _ s =>
  (.ok (), s.tail)

/-- Takes the signs of a word. -/
def word : List Char → Decoder Unit
  | [] => pure ()
  | c :: cs => fun depth s =>
    match s with
    | [] => (.error .syntaxFault, [])
    | b :: rest => if sign b = c then word cs depth rest else (.error .syntaxFault, rest)

/-- Takes the colon between a name and a value. -/
def colon : Decoder Unit := do
  if (← peek) = some ':' then advance else broken

/-- Reads the value of a member after its name. -/
def valued (x : Decoder α) : Decoder α := do
  colon
  x

/-! ### Arrays and objects -/

/-- Takes the bracket that closes an array or the brace that closes an object. -/
def close (bracket : Char) : Decoder Unit := do
  match ← peek with
  | none => broken
  | some c =>
    if c = bracket then advance
    else if c = ',' ∧ bracket = ']' then do
      advance
      let _ ← peek
      broken
    else broken

/-- Reads an array or an object by reading what stands between its brackets. The closing bracket is
looked for even after a fault. -/
def enclosed (bracket : Char) (body : Decoder α) : Decoder α :=
  nested do
    advance
    let result ← settle body
    let closed ← settle (close bracket)
    match result, closed with
    | .error fault, _ => fail fault
    | .ok _, .error fault => fail fault
    | .ok a, .ok _ => pure a

/-- Whether there is another item in an array. -/
def hasItem (first : Bool) : Decoder Bool := do
  match ← peek with
  | none => broken
  | some c =>
    if c = ']' then pure false
    else if first then pure true
    else if c = ',' then do
      advance
      match ← peek with
      | none => broken
      | some c => if c = ']' then broken else pure true
    else broken

/-- Whether there is another member in an object. The quote of its name has not been taken yet. -/
def hasMember (first : Bool) : Decoder Bool := do
  match ← peek with
  | none => broken
  | some c =>
    if c = '\x7d' then pure false
    else if first then (if c = '"' then pure true else broken)
    else if c = ',' then do
      advance
      if (← peek) = some '"' then pure true else broken
    else broken

/-- Reads the items of an array. -/
def items (decode : Decoder α) : Nat → Bool → Decoder (List α)
  | 0, _ => broken
  | bound + 1, first => do
    if ← hasItem first then
      let a ← decode
      let as ← items decode bound false
      pure (a :: as)
    else pure []

/-- Reads the members of an object. After each name `take` reads the rest of the member into what
has been read. -/
def members (take : σ → String → Decoder σ) : Nat → Bool → σ → Decoder σ
  | 0, _, _ => broken
  | bound + 1, first, found => do
    if ← hasMember first then
      advance
      let name ← ofReading JsonText.read
      let found ← take found name
      members take bound false found
    else pure found

/-! ### Values of any kind -/

/-- Reads a value that is neither an array nor an object. -/
def scalar : Decoder Json := do
  match ← peek with
  | some 'n' => do
    advance
    word ['u', 'l', 'l']
    pure .null
  | some 't' => do
    advance
    word ['r', 'u', 'e']
    pure (.bool true)
  | some 'f' => do
    advance
    word ['a', 'l', 's', 'e']
    pure (.bool false)
  | some '"' => do
    advance
    let text ← ofReading JsonText.read
    pure (.str text)
  | some '-' => do
    advance
    ofReading (JsonNumber.read true)
  | some c => if c.isDigit then ofReading (JsonNumber.read false) else broken
  | none => broken

/-- Reads any value with at most so many levels and items; the members of objects stay as they are
written. -/
def rawIn : Nat → Decoder Json
  | 0 => broken
  | bound + 1 => do
    match ← peek with
    | some '[' => do
      let js ← enclosed ']' (items (rawIn bound) (bound + 1) true)
      pure (.arr js)
    | some '\x7b' => do
      let ms ← enclosed '\x7d' (members (fun ms name => do
        let j ← valued (rawIn bound)
        pure ((name, j) :: ms)) (bound + 1) true [])
      pure (.obj ms.reverse)
    | _ => scalar

/-- Reads any value; the members of objects stay as they are written. -/
def raw : Decoder Json :=
  bounded rawIn

/-- Reads any value. -/
def any : Decoder Json := do
  let j ← raw
  pure j.canonical

/-! ### Passing over values -/

/-- Passes over a value that is neither an array nor an object. -/
def passScalar : Decoder Unit := do
  match ← peek with
  | some 'n' => do
    advance
    word ['u', 'l', 'l']
  | some 't' => do
    advance
    word ['r', 'u', 'e']
  | some 'f' => do
    advance
    word ['a', 'l', 's', 'e']
  | some '"' => do
    advance
    ofReading JsonText.pass
  | some '-' => do
    advance
    ofReading JsonNumber.pass
  | some c => if c.isDigit then ofReading JsonNumber.pass else broken
  | none => broken

/-- Passes over the items or members after the first one, and the closing bracket. -/
def passRest (bracket : Char) (item : Decoder Unit) : Nat → Decoder Unit
  | 0 => broken
  | bound + 1 => do
    match ← peek with
    | none => broken
    | some c =>
      if c = bracket then advance
      else if c = ',' then do
        advance
        item
        passRest bracket item bound
      else broken

/-- Passes over an array or an object after its opening bracket. -/
def passEnclosed (bracket : Char) (item : Decoder Unit) (bound : Nat) : Decoder Unit := do
  if (← peek) = some bracket then advance
  else do
    item
    passRest bracket item bound

/-- Passes over a member of an object. -/
def passMember (value : Decoder Unit) : Decoder Unit := do
  if (← peek) = some '"' then do
    advance
    ofReading JsonText.pass
    valued value
  else broken

/-- Passes over a value with at most so many levels and items. -/
def passIn : Nat → Decoder Unit
  | 0 => broken
  | bound + 1 => do
    match ← peek with
    | some '[' => do
      advance
      passEnclosed ']' (passIn bound) (bound + 1)
    | some '\x7b' => do
      advance
      passEnclosed '\x7d' (passMember (passIn bound)) (bound + 1)
    | _ => passScalar

/-- Passes over a value: it only has to be well formed. -/
def ignored : Decoder Unit :=
  bounded passIn

end Decoder

end Gatehouse
