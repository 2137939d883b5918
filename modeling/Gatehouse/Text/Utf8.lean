/-!
# Texts as bytes

Texts are stored and sent as UTF-8. `ofUtf8?` refuses bytes that are no UTF-8, and `ofUtf8Lossy`
puts the replacement character where bytes make no sense: once for every longest start of a
character that is not finished, and once for every other byte.
-/

namespace Gatehouse

/-- A row of bytes. -/
abbrev Bytes := List UInt8

namespace Text

/-- The bytes of a text. -/
def utf8 (s : String) : Bytes :=
  s.toUTF8.data.toList

/-- Drops a byte order mark at the start of a text. -/
def dropMark (s : String) : String :=
  match s.toList with
  | '\uFEFF' :: rest => String.ofList rest
  | _ => s

/-- The text of some bytes, if they are UTF-8. -/
def ofUtf8? (bytes : Bytes) : Option String :=
  String.fromUTF8? ⟨bytes.toArray⟩

/-- The text of the bytes of a text is the text. -/
@[simp] theorem ofUtf8?_utf8 (s : String) : ofUtf8? (utf8 s) = some s := by
  have h : (⟨(utf8 s).toArray⟩ : ByteArray) = s.toByteArray := by
    simp [utf8]
  unfold ofUtf8? String.fromUTF8?
  simp only [h, s.isValidUTF8, dite_true]
  rfl

/-- How a character starts: the bytes that still have to follow, the bounds of the next one, and
the bits so far. -/
structure Utf8Start where
  missing : Nat
  low : UInt8
  high : UInt8
  bits : Nat

/-- The start of a character of several bytes. -/
def utf8Start? (b : UInt8) : Option Utf8Start :=
  let n := b.toNat
  if 0xC2 ≤ n ∧ n ≤ 0xDF then some ⟨1, 0x80, 0xBF, n - 0xC0⟩
  else if n = 0xE0 then some ⟨2, 0xA0, 0xBF, 0⟩
  else if n = 0xED then some ⟨2, 0x80, 0x9F, 0xD⟩
  else if 0xE1 ≤ n ∧ n ≤ 0xEF then some ⟨2, 0x80, 0xBF, n - 0xE0⟩
  else if n = 0xF0 then some ⟨3, 0x90, 0xBF, 0⟩
  else if n = 0xF4 then some ⟨3, 0x80, 0x8F, 4⟩
  else if 0xF1 ≤ n ∧ n ≤ 0xF3 then some ⟨3, 0x80, 0xBF, n - 0xF0⟩
  else none

/-- Reads the rest of a character: the character, or none if it is not finished, and the bytes
that follow. -/
def utf8Rest : Utf8Start → Bytes → Option Char × Bytes
  | start, [] => if start.missing = 0 then (some (Char.ofNat start.bits), []) else (none, [])
  | start, b :: rest =>
    if start.missing = 0 then (some (Char.ofNat start.bits), b :: rest)
    else if start.low ≤ b ∧ b ≤ start.high then
      utf8Rest ⟨start.missing - 1, 0x80, 0xBF, start.bits * 64 + (b.toNat - 0x80)⟩ rest
    else (none, b :: rest)

theorem utf8Rest_length (start : Utf8Start) (bytes : Bytes) :
    (utf8Rest start bytes).2.length ≤ bytes.length := by
  induction bytes generalizing start with
  | nil => unfold utf8Rest; split <;> simp
  | cons b rest ih =>
    unfold utf8Rest
    split
    · simp
    · split
      · exact Nat.le_succ_of_le (ih _)
      · simp

/-- The character that stands for bytes without a meaning. -/
def replacementChar : Char := '\uFFFD'

/-- The characters of some bytes, with replacements for what is no UTF-8. -/
def ofUtf8LossyChars : Bytes → List Char
  | [] => []
  | b :: rest =>
    if b < 0x80 then Char.ofNat b.toNat :: ofUtf8LossyChars rest
    else
      match utf8Start? b with
      | none => replacementChar :: ofUtf8LossyChars rest
      | some start =>
        (utf8Rest start rest).1.getD replacementChar :: ofUtf8LossyChars (utf8Rest start rest).2
termination_by bytes => bytes.length
decreasing_by
  · simp
  · simp
  · have := utf8Rest_length start rest
    simp; omega

/-- The text of some bytes, with replacements for what is no UTF-8. -/
def ofUtf8Lossy (bytes : Bytes) : String :=
  String.ofList (ofUtf8LossyChars bytes)

end Text

end Gatehouse
