import Gatehouse.Text.Blank
import Gatehouse.Text.Utf8

/-!
# Percent escapes and form fields

Bytes that a text cannot carry are written as a percent sign and two hexadecimal digits. Form
fields are names and values, each escaped so that neither `=` nor `&` is left in it, with `+` for
a space. Reading never fails: an escape that is none stands for itself.
-/

namespace Gatehouse.Percent

/-- The mark of an escape. -/
def mark : UInt8 := 0x25

/-- The hexadecimal digit of a number below sixteen. -/
def digit (n : Nat) : Char :=
  Char.ofNat (if n < 10 then 0x30 + n else 0x37 + n)

/-- The number of a hexadecimal digit. -/
def digitValue? (b : UInt8) : Option UInt8 :=
  if 0x30 ≤ b ∧ b ≤ 0x39 then some (b - 0x30)
  else if 0x41 ≤ b ∧ b ≤ 0x46 then some (b - 0x37)
  else if 0x61 ≤ b ∧ b ≤ 0x66 then some (b - 0x57)
  else none

/-- The byte of two hexadecimal digits. -/
def byte? (high low : UInt8) : Option UInt8 :=
  match digitValue? high, digitValue? low with
  | some h, some l => some (16 * h + l)
  | _, _ => none

/-- The escape of a byte. -/
def escape (b : UInt8) : List Char :=
  ['%', digit (b.toNat / 16), digit (b.toNat % 16)]

/-- Writes a text with escapes for some bytes. -/
def escapeWhere (isEscaped : UInt8 → Bool) (s : List Char) : String :=
  String.ofList <| (Text.utf8 (String.ofList s)).flatMap fun b =>
    if isEscaped b then escape b else [Char.ofNat b.toNat]

/-- Writes a text with escapes for control characters and for what is beyond ASCII. -/
def escapeControls : List Char → String :=
  escapeWhere fun b => b < 0x20 || 0x7F ≤ b

/-- Puts bytes in place of their escapes. -/
def decode : Bytes → Bytes
  | b :: high :: low :: rest =>
    match if b = mark then byte? high low else none with
    | some x => x :: decode rest
    | none => b :: decode (high :: low :: rest)
  | short => short

end Gatehouse.Percent

namespace Gatehouse.Form

/-- The bytes that stand for themselves in a form field. -/
def isPlain (b : UInt8) : Bool :=
  (0x30 ≤ b && b ≤ 0x39) || (0x41 ≤ b && b ≤ 0x5A) || (0x61 ≤ b && b ≤ 0x7A) ||
    b == 0x2A || b == 0x2D || b == 0x2E || b == 0x5F

/-- A byte in a form field. -/
def encodeByte (b : UInt8) : List Char :=
  if isPlain b then [Char.ofNat b.toNat] else if b = 0x20 then ['+'] else Percent.escape b

/-- A text as a name or a value of a form field. -/
def encode (s : String) : List Char :=
  (Text.utf8 s).flatMap encodeByte

/-- Writes one field. -/
def encodeField (field : String × String) : List Char :=
  encode field.1 ++ '=' :: encode field.2

/-- Writes fields. -/
def encodeFields (fields : List (String × String)) : List Char :=
  List.intercalate ['&'] (fields.map encodeField)

/-- Reads a name or a value. -/
def decode (s : List Char) : String :=
  let bytes := Text.utf8 (String.ofList s)
  Text.ofUtf8Lossy (Percent.decode (bytes.map fun b => if b = 0x2B then 0x20 else b))

/-- Reads one field; without `=` its value is empty. -/
def decodeField (s : List Char) : String × String :=
  match Text.cutFirst? '=' s with
  | some (name, value) => (decode name, decode value)
  | none => (decode s, "")

/-- Reads fields, leaving out empty ones. -/
def decodeFields (s : List Char) : List (String × String) :=
  ((Text.pieces '&' s).filter fun field => !field.isEmpty).map decodeField

end Gatehouse.Form
