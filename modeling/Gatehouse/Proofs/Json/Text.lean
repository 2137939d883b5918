import Gatehouse.Json.Printer
import Gatehouse.Json.Text
import Gatehouse.Proofs.Text.Utf8

/-!
# Reading strings that were written

The inside of a written string, up to its closing quote, is read as the string (`read_escape`). A
character that has to be escaped is written as a backslash and an escape of its own
(`exists_escape`); of all other characters the bytes are written as they are, and none of these
bytes is a quote, a backslash or a control sign.
-/

namespace Gatehouse

/-- The sign of an ASCII character is the character. -/
theorem sign_ofNat {c : Char} (h : c.toNat < 128) : sign (UInt8.ofNat c.toNat) = c := by
  have hmod : (UInt8.ofNat c.toNat).toNat = c.toNat := by
    rw [UInt8.toNat_ofNat']
    exact Nat.mod_eq_of_lt (by omega)
  rw [sign, hmod, Char.ofNat_toNat]

/-- The sign of a byte has the number of the byte. -/
theorem toNat_sign (b : UInt8) : (sign b).toNat = b.toNat :=
  Text.toNat_ofNat_byte b

theorem sign_ne_of_le {b : UInt8} (h : 128 ≤ b.toNat) {c : Char} (hc : c.toNat < 128) :
    sign b ≠ c := by
  intro hsign
  have htoNat := toNat_sign b
  rw [hsign] at htoNat
  omega

namespace JsonText

open Text Json

/-! ### Escapes -/

/-- Whether a character is written as an escape. -/
def NeedsEscape (c : Char) : Prop :=
  c = '"' ∨ c = '\\' ∨ c.toNat < 0x20

theorem escapeChar_of_not {c : Char} (h : ¬ NeedsEscape c) : escapeChar c = [c] := by
  simp only [NeedsEscape, not_or] at h
  rw [escapeChar, if_neg h.1, if_neg h.2.1, if_neg h.2.2]

/-- The unit of a control character is read out of its four digits. -/
theorem unit?_hexDigits : ∀ n < 0x20,
    unit? 0x30 0x30 (UInt8.ofNat (hexDigit (n / 16)).toNat)
      (UInt8.ofNat (hexDigit (n % 16)).toNat) = some n := by
  decide

private theorem bytes_unitEscape : ∀ n < 0x20,
    bytes ['u', '0', '0', hexDigit (n / 16), hexDigit (n % 16)] =
      [0x75, 0x30, 0x30, UInt8.ofNat (hexDigit (n / 16)).toNat,
        UInt8.ofNat (hexDigit (n % 16)).toNat] := by
  decide

/-- The escape of a character: what stands behind the backslash is read as the character. -/
def IsEscapeOf (e : List Char) (c : Char) : Prop :=
  ∀ rest, readEscape (bytes e ++ rest) = (.ok c, rest) ∧
    passEscape (bytes e ++ rest) = (.ok (), rest)

private theorem isEscapeOf_unit {c : Char} (h : c.toNat < 0x20) :
    IsEscapeOf ['u', '0', '0', hexDigit (c.toNat / 16), hexDigit (c.toNat % 16)] c := by
  intro rest
  have hunit := unit?_hexDigits c.toNat h
  have hread : readUnit (0x30 :: 0x30 :: UInt8.ofNat (hexDigit (c.toNat / 16)).toNat ::
      UInt8.ofNat (hexDigit (c.toNat % 16)).toNat :: rest) = (.ok c.toNat, rest) := by
    rw [readUnit, hunit]
  have hfirst : isFirstHalf c.toNat = false := by simp [isFirstHalf]; omega
  have hsecond : isSecondHalf c.toNat = false := by simp [isSecondHalf]; omega
  have hu : sign 0x75 = 'u' := by decide
  rw [bytes_unitEscape c.toNat h]
  simp only [List.cons_append, List.nil_append, readEscape, passEscape, hu, if_true,
    readEscapedUnits, hread, hfirst, hsecond, Bool.false_eq_true, if_false, Char.ofNat_toNat,
    JsonReading.map, Except.map, and_self]

/-- A character that needs an escape is written as a backslash and its escape. -/
theorem exists_escape {c : Char} (h : NeedsEscape c) :
    ∃ e, escapeChar c = '\\' :: e ∧ IsEscapeOf e c := by
  by_cases hquote : c = '"'
  · subst hquote
    exact ⟨['"'], rfl, fun rest => ⟨rfl, rfl⟩⟩
  by_cases hslash : c = '\\'
  · subst hslash
    exact ⟨['\\'], rfl, fun rest => ⟨rfl, rfl⟩⟩
  have hcontrol : c.toNat < 0x20 := by
    rcases h with h | h | h
    · exact absurd h hquote
    · exact absurd h hslash
    · exact h
  have heq : ∀ n, c.toNat = n → c = Char.ofNat n := fun n hn => by rw [← hn, Char.ofNat_toNat]
  rw [escapeChar, if_neg hquote, if_neg hslash, if_pos hcontrol]
  -- five control characters have an escape of one letter, and the others are written by number
  split
  · next hn => exact ⟨['b'], rfl, heq _ hn ▸ fun rest => ⟨rfl, rfl⟩⟩
  · next hn => exact ⟨['t'], rfl, heq _ hn ▸ fun rest => ⟨rfl, rfl⟩⟩
  · next hn => exact ⟨['n'], rfl, heq _ hn ▸ fun rest => ⟨rfl, rfl⟩⟩
  · next hn => exact ⟨['f'], rfl, heq _ hn ▸ fun rest => ⟨rfl, rfl⟩⟩
  · next hn => exact ⟨['r'], rfl, heq _ hn ▸ fun rest => ⟨rfl, rfl⟩⟩
  · exact ⟨_, rfl, isEscapeOf_unit hcontrol⟩

/-! ### Bytes that stand for themselves -/

/-- Whether a byte stands for itself in a string. -/
structure IsPlain (b : UInt8) : Prop where
  ne_quote : sign b ≠ '"'
  ne_slash : sign b ≠ '\\'
  not_control : ¬ b < 0x20

theorem isPlain_of_mem {c : Char} (h : ¬ NeedsEscape c) {b : UInt8}
    (hb : b ∈ String.utf8EncodeChar c) : IsPlain b := by
  simp only [NeedsEscape, not_or] at h
  rcases utf8EncodeChar_cases c with ⟨hlt, hc⟩ | ⟨-, hc⟩
  · rw [hc, List.mem_singleton] at hb
    subst hb
    refine ⟨by rw [sign_ofNat hlt]; exact h.1, by rw [sign_ofNat hlt]; exact h.2.1, ?_⟩
    rw [UInt8.lt_iff_toNat_lt, UInt8.toNat_ofNat']
    have := h.2.2
    simp only [UInt8.reduceToNat]
    omega
  · have hle := hc b hb
    refine ⟨sign_ne_of_le hle (by decide), sign_ne_of_le hle (by decide), ?_⟩
    rw [UInt8.lt_iff_toNat_lt]
    simp only [UInt8.reduceToNat]
    omega

theorem readBytes_plain {bs : Bytes} (h : ∀ b ∈ bs, IsPlain b) (rest : Bytes) :
    readBytes (bs ++ rest) = (readBytes rest).map (bs ++ ·) := by
  induction bs with
  | nil =>
    rw [List.nil_append]
    rcases readBytes rest with ⟨_ | _, _⟩ <;> rfl
  | cons b bs ih =>
    have hb := h b List.mem_cons_self
    rw [List.cons_append, readBytes, if_neg hb.ne_quote, if_neg hb.ne_slash, if_neg hb.not_control,
      ih fun c hc => h c (List.mem_cons_of_mem b hc)]
    rcases readBytes rest with ⟨_ | _, _⟩ <;> rfl

/-! ### Strings -/

private theorem bytes_backslash_cons (e : List Char) : bytes ('\\' :: e) = 0x5C :: bytes e := rfl

/-- A written character is read as its bytes. -/
theorem readBytes_escapeChar (c : Char) (rest : Bytes) :
    readBytes (bytes (escapeChar c) ++ rest) =
      (readBytes rest).map (String.utf8EncodeChar c ++ ·) := by
  by_cases h : NeedsEscape c
  · obtain ⟨e, he, hread⟩ := exists_escape h
    have hslash : sign 0x5C = '\\' := by decide
    rw [he, bytes_backslash_cons, List.cons_append, readBytes, hslash, if_neg (by decide),
      if_pos rfl, (hread rest).1]
  · rw [escapeChar_of_not h, bytes_cons, bytes_nil, List.append_nil]
    exact readBytes_plain (fun b hb => isPlain_of_mem h hb) rest

theorem readBytes_escape (s : List Char) (rest : Bytes) :
    readBytes (bytes (escape s) ++ 0x22 :: rest) = (.ok (bytes s), rest) := by
  induction s with
  | nil =>
    have hquote : sign 0x22 = '"' := by decide
    rw [escape, List.flatMap_nil, bytes_nil, List.nil_append, readBytes, if_pos hquote]
  | cons c s ih =>
    have hescape : escape (c :: s) = escapeChar c ++ escape s := List.flatMap_cons
    rw [hescape, bytes_append, List.append_assoc, readBytes_escapeChar, ih, bytes_cons]
    rfl

/-- **A written string is read as the string.** -/
theorem read_escape (s : String) (rest : Bytes) :
    read (bytes (escape s.toList) ++ 0x22 :: rest) = (.ok s, rest) := by
  rw [read, readBytes_escape]
  simp only [← utf8_eq, ofUtf8?_utf8]

end JsonText

end Gatehouse
