import Gatehouse.Text.Utf8

/-!
# Base64 without padding

Three bytes are written as four characters, and one or two bytes at the end as two or three. Only
what writing produces is read: padding, a foreign character, a lone last character and bits that
are set beyond the last byte are all refused.
-/

namespace Gatehouse.Base64

/-- The two characters after the letters and digits. -/
structure Alphabet where
  char62 : Char
  char63 : Char
  deriving DecidableEq, Repr

/-- The alphabet that is safe in addresses. -/
def urlSafe : Alphabet := ⟨'-', '_'⟩

/-- The standard alphabet. -/
def standard : Alphabet := ⟨'+', '/'⟩

/-- The character of a value below 64. -/
def Alphabet.char (a : Alphabet) (n : Nat) : Char :=
  if n < 26 then Char.ofNat ('A'.toNat + n)
  else if n < 52 then Char.ofNat ('a'.toNat + (n - 26))
  else if n < 62 then Char.ofNat ('0'.toNat + (n - 52))
  else if n = 62 then a.char62
  else a.char63

/-- The value of a character. -/
def Alphabet.value? (a : Alphabet) (c : Char) : Option Nat :=
  if 'A' ≤ c ∧ c ≤ 'Z' then some (c.toNat - 'A'.toNat)
  else if 'a' ≤ c ∧ c ≤ 'z' then some (c.toNat - 'a'.toNat + 26)
  else if '0' ≤ c ∧ c ≤ '9' then some (c.toNat - '0'.toNat + 52)
  else if c = a.char62 then some 62
  else if c = a.char63 then some 63
  else none

/-- Writes bytes. -/
def encodeChars (a : Alphabet) : Bytes → List Char
  | [] => []
  | [x] =>
    let x := x.toNat
    [a.char (x / 4), a.char (x % 4 * 16)]
  | [x, y] =>
    let x := x.toNat
    let y := y.toNat
    [a.char (x / 4), a.char (x % 4 * 16 + y / 16), a.char (y % 16 * 4)]
  | x :: y :: z :: rest =>
    let x := x.toNat
    let y := y.toNat
    let z := z.toNat
    a.char (x / 4) :: a.char (x % 4 * 16 + y / 16) :: a.char (y % 16 * 4 + z / 64) ::
      a.char (z % 64) :: encodeChars a rest

/-- Reads the values of characters as bytes. -/
def bytesOf : List Nat → Option Bytes
  | [] => some []
  | [_] => none
  | [p, q] => if q % 16 = 0 then some [UInt8.ofNat (p * 4 + q / 16)] else none
  | [p, q, r] =>
    if r % 4 = 0 then some [UInt8.ofNat (p * 4 + q / 16), UInt8.ofNat (q % 16 * 16 + r / 4)]
    else none
  | p :: q :: r :: s :: rest =>
    (bytesOf rest).map fun bytes =>
      UInt8.ofNat (p * 4 + q / 16) :: UInt8.ofNat (q % 16 * 16 + r / 4) ::
        UInt8.ofNat (r % 4 * 64 + s) :: bytes

/-- The values of some characters. -/
def valuesOf (a : Alphabet) : List Char → Option (List Nat)
  | [] => some []
  | c :: rest =>
    match a.value? c with
    | none => none
    | some v => (valuesOf a rest).map (v :: ·)

/-- Reads bytes. -/
def decodeChars (a : Alphabet) (s : List Char) : Option Bytes :=
  (valuesOf a s).bind bytesOf

/-- Writes bytes as a text. -/
def encode (a : Alphabet) (bytes : Bytes) : String :=
  String.ofList (encodeChars a bytes)

/-- Reads bytes from a text. -/
def decode? (a : Alphabet) (s : String) : Option Bytes :=
  decodeChars a s.toList

end Gatehouse.Base64
