import Gatehouse.Json.Number

/-!
# Strings in JSON texts

A string is read as bytes, which have to be UTF-8 in the end. An escape stands for a character; two
escapes of the halves of a surrogate pair stand for one character together, and half of a pair
alone is refused. A string that is passed over only has to be well formed: neither its bytes nor
the halves in its escapes are looked at.

After a fault reading goes on behind the byte at which it was noticed, which may lie inside of the
string or behind it.
-/

namespace Gatehouse.JsonText

open JsonReading

/-! ### Escapes -/

/-- The value of a hexadecimal digit. -/
def hexValue? (b : UInt8) : Option Nat :=
  let c := sign b
  if '0' ≤ c ∧ c ≤ '9' then some (c.toNat - '0'.toNat)
  else if 'a' ≤ c ∧ c ≤ 'f' then some (c.toNat - 'a'.toNat + 10)
  else if 'A' ≤ c ∧ c ≤ 'F' then some (c.toNat - 'A'.toNat + 10)
  else none

/-- The unit of 16 bits written in four hexadecimal digits. -/
def unit? (a b c d : UInt8) : Option Nat :=
  match hexValue? a, hexValue? b, hexValue? c, hexValue? d with
  | some a, some b, some c, some d => some (a * 4096 + b * 256 + c * 16 + d)
  | _, _, _, _ => none

/-- Reads a unit of 16 bits. -/
def readUnit : Bytes → JsonReading Nat
  | a :: b :: c :: d :: rest =>
    match unit? a b c d with
    | some n => (.ok n, rest)
    | none => broken rest
  | _ => broken []

/-- Whether a unit is the first half of a surrogate pair. -/
def isFirstHalf (n : Nat) : Bool :=
  0xD800 ≤ n && n < 0xDC00

/-- Whether a unit is the second half of a surrogate pair. -/
def isSecondHalf (n : Nat) : Bool :=
  0xDC00 ≤ n && n < 0xE000

/-- Reads the second half of a surrogate pair. -/
def readSecondHalf (first : Nat) : Bytes → JsonReading Char
  | [] => broken []
  | [_] => broken []
  | b :: u :: rest =>
    if sign b ≠ '\\' then broken (u :: rest)
    else if sign u ≠ 'u' then broken rest
    else
      match readUnit rest with
      | (.ok second, rest) =>
        if isSecondHalf second then
          (.ok (Char.ofNat (0x10000 + (first - 0xD800) * 0x400 + (second - 0xDC00))), rest)
        else broken rest
      | (.error _, rest) => broken rest

/-- Reads the character of one or two escaped units. -/
def readEscapedUnits (s : Bytes) : JsonReading Char :=
  match readUnit s with
  | (.error _, rest) => broken rest
  | (.ok n, rest) =>
    if isSecondHalf n then broken rest
    else if isFirstHalf n then readSecondHalf n rest
    else (.ok (Char.ofNat n), rest)

/-- The character of an escape of one letter. -/
def shortEscape? : Char → Option Char
  | '"' => some '"'
  | '\\' => some '\\'
  | '/' => some '/'
  | 'b' => some '\x08'
  | 'f' => some '\x0c'
  | 'n' => some '\n'
  | 'r' => some '\x0d'
  | 't' => some '\t'
  | _ => none

/-- Reads the character of an escape after its backslash. -/
def readEscape : Bytes → JsonReading Char
  | [] => broken []
  | b :: rest =>
    if sign b = 'u' then readEscapedUnits rest
    else
      match shortEscape? (sign b) with
      | some c => (.ok c, rest)
      | none => broken rest

theorem readUnit_length (s : Bytes) : (readUnit s).2.length ≤ s.length := by
  unfold readUnit
  split
  · split <;> simp [broken] <;> omega
  · simp [broken]

theorem readSecondHalf_length (n : Nat) (s : Bytes) :
    (readSecondHalf n s).2.length ≤ s.length := by
  unfold readSecondHalf
  split
  · simp [broken]
  · simp [broken]
  · rename_i rest
    have := readUnit_length rest
    repeat' split
    all_goals simp_all [broken]
    all_goals omega

theorem readEscapedUnits_length (s : Bytes) : (readEscapedUnits s).2.length ≤ s.length := by
  have h := readUnit_length s
  unfold readEscapedUnits
  split
  · simp_all [broken]
  · rename_i n rest _
    have := readSecondHalf_length n rest
    repeat' split
    all_goals simp_all [broken]
    all_goals omega

theorem readEscape_length (s : Bytes) : (readEscape s).2.length ≤ s.length := by
  unfold readEscape
  split
  · simp [broken]
  · rename_i rest
    have := readEscapedUnits_length rest
    repeat' split
    all_goals simp_all [broken]
    all_goals omega

/-! ### Strings -/

/-- Reads the bytes of a string after its opening quote. -/
def readBytes : Bytes → JsonReading Bytes
  | [] => broken []
  | b :: rest =>
    if sign b = '"' then (.ok [], rest)
    else if sign b = '\\' then
      match (readEscape rest).1 with
      | .error _ => broken (readEscape rest).2
      | .ok c => (readBytes (readEscape rest).2).map (String.utf8EncodeChar c ++ ·)
    else if b < 0x20 then broken (b :: rest)
    else (readBytes rest).map (b :: ·)
termination_by s => s.length
decreasing_by
  · have := readEscape_length rest
    simp; omega
  · simp

/-- Reads a string after its opening quote. -/
def read (s : Bytes) : JsonReading String :=
  match readBytes s with
  | (.ok bytes, rest) =>
    match Text.ofUtf8? bytes with
    | some text => (.ok text, rest)
    | none => broken rest
  | (.error _, rest) => broken rest

/-- Passes over an escape after its backslash. -/
def passEscape : Bytes → JsonReading Unit
  | [] => broken []
  | b :: rest =>
    if sign b = 'u' then (readUnit rest).map fun _ => ()
    else if (shortEscape? (sign b)).isSome then (.ok (), rest) else broken rest

theorem passEscape_length (s : Bytes) : (passEscape s).2.length ≤ s.length := by
  unfold passEscape
  split
  · simp [broken]
  · rename_i rest
    have := readUnit_length rest
    repeat' split
    all_goals simp_all [broken, JsonReading.map]
    all_goals omega

/-- Passes over a string after its opening quote. -/
def pass : Bytes → JsonReading Unit
  | [] => broken []
  | b :: rest =>
    if sign b = '"' then (.ok (), rest)
    else if sign b = '\\' then
      match (passEscape rest).1 with
      | .error _ => broken (passEscape rest).2
      | .ok _ => pass (passEscape rest).2
    else if b < 0x20 then broken (b :: rest)
    else pass rest
termination_by s => s.length
decreasing_by
  · have := passEscape_length rest
    simp; omega
  · simp

end Gatehouse.JsonText
