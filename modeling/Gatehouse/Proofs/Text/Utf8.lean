import Gatehouse.Text.Utf8

/-!
# The bytes of a row of characters

The bytes of a text are those of its characters, one after the other. A character of ASCII is one
byte, and no byte of any other character is in ASCII (`utf8EncodeChar_cases`), so a reader that
looks for signs of ASCII may go over the bytes one by one.
-/

namespace Gatehouse.Text

/-- The bytes of characters. -/
def bytes (s : List Char) : Bytes :=
  s.flatMap String.utf8EncodeChar

@[simp] theorem bytes_nil : bytes [] = [] := rfl

theorem bytes_cons (c : Char) (s : List Char) :
    bytes (c :: s) = String.utf8EncodeChar c ++ bytes s :=
  List.flatMap_cons

@[simp] theorem bytes_append (s t : List Char) : bytes (s ++ t) = bytes s ++ bytes t :=
  List.flatMap_append

theorem utf8_ofList (s : List Char) : utf8 (String.ofList s) = bytes s := by
  simp [utf8, bytes, String.toByteArray_ofList, List.utf8Encode]

theorem utf8_eq (s : String) : utf8 s = bytes s.toList := by
  rw [← utf8_ofList, String.ofList_toList]

/-- The character that a byte alone would stand for has the number of the byte. -/
theorem toNat_ofNat_byte (b : UInt8) : (Char.ofNat b.toNat).toNat = b.toNat := by
  have hlt := b.toNat_lt
  have hvalid : b.toNat.isValidChar := .inl (by omega)
  rw [Char.ofNat, dif_pos hvalid]
  rfl

/-- A character of ASCII is one byte, and the bytes of any other character are beyond ASCII. -/
theorem utf8EncodeChar_cases (c : Char) :
    (c.toNat < 128 ∧ String.utf8EncodeChar c = [UInt8.ofNat c.toNat]) ∨
      (128 ≤ c.toNat ∧ ∀ b ∈ String.utf8EncodeChar c, 128 ≤ b.toNat) := by
  have hval : c.val.toNat = c.toNat := rfl
  unfold String.utf8EncodeChar
  simp only [hval]
  split
  · exact .inl ⟨by omega, rfl⟩
  · refine .inr ⟨by omega, fun b hb => ?_⟩
    -- all bytes of a longer character carry the highest bit
    split at hb
    · simp only [List.mem_cons, List.not_mem_nil, or_false] at hb
      rcases hb with rfl | rfl <;> simp only [UInt8.toNat_ofNat'] <;> omega
    · split at hb
      · simp only [List.mem_cons, List.not_mem_nil, or_false] at hb
        rcases hb with rfl | rfl | rfl <;> simp only [UInt8.toNat_ofNat'] <;> omega
      · simp only [List.mem_cons, List.not_mem_nil, or_false] at hb
        rcases hb with rfl | rfl | rfl | rfl <;> simp only [UInt8.toNat_ofNat'] <;> omega

theorem utf8EncodeChar_of_lt {c : Char} (h : c.toNat < 128) :
    String.utf8EncodeChar c = [UInt8.ofNat c.toNat] := by
  rcases utf8EncodeChar_cases c with ⟨-, hc⟩ | ⟨hc, -⟩
  · exact hc
  · omega

/-- The bytes of ASCII characters are their numbers. -/
theorem bytes_of_lt {s : List Char} (h : ∀ c ∈ s, c.toNat < 128) :
    bytes s = s.map fun c => UInt8.ofNat c.toNat := by
  induction s with
  | nil => rfl
  | cons c s ih =>
    rw [bytes_cons, utf8EncodeChar_of_lt (h c List.mem_cons_self),
      ih fun d hd => h d (List.mem_cons_of_mem c hd)]
    rfl

/-! ### Nothing to replace -/

deriving instance DecidableEq for Utf8Start

theorem utf8Rest_done (low high : UInt8) (bits : Nat) (rest : Bytes) :
    utf8Rest ⟨0, low, high, bits⟩ rest = (some (Char.ofNat bits), rest) := by
  cases rest <;> simp [utf8Rest]

/-- A byte that goes on with a character adds six bits. -/
theorem utf8Rest_step {low high : UInt8} {n : Nat} (hlow : low.toNat ≤ n + 128)
    (hhigh : n + 128 ≤ high.toNat) (missing bits : Nat) (rest : Bytes) :
    utf8Rest ⟨missing + 1, low, high, bits⟩ (UInt8.ofNat (n + 128) :: rest) =
      utf8Rest ⟨missing, 0x80, 0xBF, bits * 64 + n⟩ rest := by
  have hlt := high.toNat_lt
  have hn : (UInt8.ofNat (n + 128)).toNat = n + 128 := by
    rw [UInt8.toNat_ofNat']
    omega
  rw [utf8Rest, if_neg (Nat.succ_ne_zero missing), if_pos ?_, hn, Nat.add_sub_cancel,
    Nat.add_sub_cancel]
  · rw [UInt8.le_iff_toNat_le, UInt8.le_iff_toNat_le, hn]
    exact ⟨hlow, hhigh⟩

private theorem utf8Rest_next {n : Nat} (hn : n < 64) (missing bits : Nat) (rest : Bytes) :
    utf8Rest ⟨missing + 1, 0x80, 0xBF, bits⟩ (UInt8.ofNat (n + 128) :: rest) =
      utf8Rest ⟨missing, 0x80, 0xBF, bits * 64 + n⟩ rest :=
  utf8Rest_step (Nat.le_add_left 128 n) (Nat.add_le_add_right (Nat.le_of_lt_succ hn) 128) ..

private theorem utf8Start?_two : ∀ n < 32, 2 ≤ n →
    utf8Start? (UInt8.ofNat (n + 192)) = some ⟨1, 0x80, 0xBF, n⟩ := by decide

private theorem utf8Start?_three : ∀ n < 16, utf8Start? (UInt8.ofNat (n + 224)) =
    some ⟨2, if n = 0 then 0xA0 else 0x80, if n = 13 then 0x9F else 0xBF, n⟩ := by decide

private theorem utf8Start?_four : ∀ n < 5, utf8Start? (UInt8.ofNat (n + 240)) =
    some ⟨3, if n = 0 then 0x90 else 0x80, if n = 4 then 0x8F else 0xBF, n⟩ := by decide

private theorem ofUtf8LossyChars_cons {b : UInt8} {start : Utf8Start} {rest rest' : Bytes}
    {c : Char} (hstart : utf8Start? b = some start) (hb : ¬ b < 0x80)
    (hrest : utf8Rest start rest = (some c, rest')) :
    ofUtf8LossyChars (b :: rest) = c :: ofUtf8LossyChars rest' := by
  rw [ofUtf8LossyChars, if_neg hb]
  simp only [hstart, hrest, Option.getD_some]

/-- The bytes of a character are read as the character. -/
theorem ofUtf8LossyChars_utf8EncodeChar (c : Char) (rest : Bytes) :
    ofUtf8LossyChars (String.utf8EncodeChar c ++ rest) = c :: ofUtf8LossyChars rest := by
  have hval : c.val.toNat = c.toNat := rfl
  have hvalid : c.toNat < 0xD800 ∨ 0xDFFF < c.toNat ∧ c.toNat < 0x110000 := c.valid
  have hchar : ∀ n, n = c.toNat → Char.ofNat n = c := fun n hn => hn ▸ Char.ofNat_toNat c
  have hlead : ∀ n, 128 ≤ n → n < 256 → ¬ UInt8.ofNat n < 0x80 := fun n h h' => by
    rw [UInt8.lt_iff_toNat_lt, UInt8.toNat_ofNat', Nat.mod_eq_of_lt h']
    exact Nat.not_lt.mpr h
  -- by the number of bytes; what is forbidden after some first bytes is no character at all
  unfold String.utf8EncodeChar
  simp only [hval]
  split
  · next h =>
    have hlt : UInt8.ofNat c.toNat < 0x80 := by
      rw [UInt8.lt_iff_toNat_lt, UInt8.toNat_ofNat', Nat.mod_eq_of_lt (by omega)]
      exact Nat.lt_succ_of_le h
    rw [List.singleton_append, ofUtf8LossyChars, if_pos hlt, UInt8.toNat_ofNat',
      Nat.mod_eq_of_lt (by omega), Char.ofNat_toNat]
  · split
    · refine ofUtf8LossyChars_cons (utf8Start?_two _ (by omega) (by omega))
        (hlead _ (by omega) (by omega)) ?_
      refine (utf8Rest_next (by omega) _ _ _).trans ?_
      rw [utf8Rest_done, hchar _ (by omega)]
      rfl
    · split
      · refine ofUtf8LossyChars_cons (utf8Start?_three _ (by omega))
          (hlead _ (by omega) (by omega)) ?_
        refine (utf8Rest_step ?_ ?_ _ _ _).trans ?_
        · split <;> simp; omega
        · split <;> simp <;> omega
        refine (utf8Rest_next (by omega) _ _ _).trans ?_
        rw [utf8Rest_done, hchar _ (by omega)]
        rfl
      · refine ofUtf8LossyChars_cons (utf8Start?_four _ (by omega))
          (hlead _ (by omega) (by omega)) ?_
        refine (utf8Rest_step ?_ ?_ _ _ _).trans ?_
        · split <;> simp; omega
        · split <;> simp <;> omega
        refine (utf8Rest_next (by omega) _ _ _).trans ?_
        refine (utf8Rest_next (by omega) _ _ _).trans ?_
        rw [utf8Rest_done, hchar _ (by omega)]
        rfl

/-- **The bytes of a text are read as the text**, without any replacement. -/
theorem ofUtf8Lossy_utf8 (s : String) : ofUtf8Lossy (utf8 s) = s := by
  have hchars : ∀ cs : List Char, ofUtf8LossyChars (bytes cs) = cs := by
    intro cs
    induction cs with
    | nil => rw [bytes_nil, ofUtf8LossyChars]
    | cons c cs ih => rw [bytes_cons, ofUtf8LossyChars_utf8EncodeChar, ih]
  rw [ofUtf8Lossy, utf8_eq, hchars, String.ofList_toList]

end Gatehouse.Text
