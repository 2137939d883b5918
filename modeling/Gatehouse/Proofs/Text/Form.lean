import Gatehouse.Proofs.Text.Cut
import Gatehouse.Proofs.Text.Utf8
import Gatehouse.Text.Form

/-!
# Reading form fields that were written

An escape is read as the byte that it was written for, and the separators `=` and `&` are never left
in a name or a value. So fields are read as they were written (`decodeFields_encodeFields`), also
behind fields that were there before (`decodeFields_append`).
-/

namespace Gatehouse

open Text

/-! ### Escapes -/

namespace Percent

theorem decode_cons_of_ne {b : UInt8} (h : b ≠ mark) (rest : Bytes) :
    decode (b :: rest) = b :: decode rest := by
  match rest with
  | [] => rfl
  | [_] => rfl
  | _ :: _ :: _ => rw [decode, if_neg h]

/-- What has no escapes is read as it is. -/
theorem decode_of_forall_ne {bs : Bytes} (h : ∀ b ∈ bs, b ≠ mark) : decode bs = bs := by
  induction bs with
  | nil => rfl
  | cons b bs ih =>
    rw [decode_cons_of_ne (h b List.mem_cons_self), ih fun x hx => h x (List.mem_cons_of_mem b hx)]

private theorem digitValue?_digit : ∀ n < 16,
    digitValue? (UInt8.ofNat (digit n).toNat) = some (UInt8.ofNat n) := by decide

private theorem toNat_digit_lt : ∀ n < 16, (digit n).toNat < 128 := by decide

/-- The bytes of an escape. -/
theorem bytes_escape (b : UInt8) :
    bytes (escape b) = [mark, UInt8.ofNat (digit (b.toNat / 16)).toNat,
      UInt8.ofNat (digit (b.toNat % 16)).toNat] := by
  have hlt := b.toNat_lt
  have hhigh := utf8EncodeChar_of_lt (toNat_digit_lt (b.toNat / 16) (by omega))
  have hlow := utf8EncodeChar_of_lt (toNat_digit_lt (b.toNat % 16) (by omega))
  rw [escape, bytes_cons, bytes_cons, bytes_cons, bytes_nil, hhigh, hlow]
  rfl

/-- An escape is read as the byte that it was written for. -/
theorem decode_escape (b : UInt8) (rest : Bytes) :
    decode (bytes (escape b) ++ rest) = b :: decode rest := by
  have hlt := b.toNat_lt
  have hbyte : 16 * UInt8.ofNat (b.toNat / 16) + UInt8.ofNat (b.toNat % 16) = b := by
    rw [← UInt8.toNat_inj]
    simp only [UInt8.toNat_add, UInt8.toNat_mul, UInt8.toNat_ofNat']
    show (16 * _ % 256 + _) % 256 = _
    omega
  rw [bytes_escape]
  simp only [List.cons_append, List.nil_append, decode, byte?,
    digitValue?_digit (b.toNat / 16) (by omega), digitValue?_digit (b.toNat % 16) (by omega), hbyte,
    if_true]

/-- A character that no escape has: neither the mark of escapes nor one of their digits. -/
def NoEscape (c : Char) : Prop :=
  c ≠ '%' ∧ ∀ n < 16, c ≠ digit n

instance (c : Char) : Decidable (NoEscape c) :=
  inferInstanceAs (Decidable (c ≠ '%' ∧ ∀ n < 16, c ≠ digit n))

theorem NoEscape.notMem_escape {c : Char} (hc : NoEscape c) (b : UInt8) : c ∉ escape b := by
  have hlt := b.toNat_lt
  simp only [escape, List.mem_cons, List.not_mem_nil, or_false]
  rintro (rfl | rfl | rfl)
  · exact hc.1 rfl
  · exact hc.2 _ (by omega) rfl
  · exact hc.2 _ (by omega) rfl

end Percent

/-! ### Names and values -/

namespace Form

/-- A byte with a space for a plus sign. -/
def spaced (b : UInt8) : UInt8 :=
  if b = 0x2B then 0x20 else b

/-- A byte that stands for itself is in ASCII, and neither begins an escape nor is a plus sign. -/
theorem isPlain_bounds {b : UInt8} (h : isPlain b = true) :
    b.toNat < 128 ∧ b.toNat ≠ 0x25 ∧ b.toNat ≠ 0x2B := by
  simp only [isPlain, Bool.or_eq_true, Bool.and_eq_true, decide_eq_true_eq, beq_iff_eq,
    UInt8.le_iff_toNat_le, ← UInt8.toNat_inj, UInt8.reduceToNat] at h
  omega

private theorem spaced_digit : ∀ n < 16,
    spaced (UInt8.ofNat (Percent.digit n).toNat) = UInt8.ofNat (Percent.digit n).toNat := by decide

/-- There is no plus sign in an escape. -/
theorem map_spaced_escape (b : UInt8) :
    (bytes (Percent.escape b)).map spaced = bytes (Percent.escape b) := by
  have hlt := b.toNat_lt
  rw [Percent.bytes_escape]
  simp only [List.map_cons, List.map_nil, spaced_digit (b.toNat / 16) (by omega),
    spaced_digit (b.toNat % 16) (by omega)]
  rfl

/-- A byte of a name or a value is read as it was. -/
theorem decode_encodeByte (b : UInt8) (rest : Bytes) :
    Percent.decode ((bytes (encodeByte b)).map spaced ++ rest) = b :: Percent.decode rest := by
  rw [encodeByte]
  split
  · next h =>
    obtain ⟨hlt, hmark, hplus⟩ := isPlain_bounds h
    have hspaced : spaced b = b := if_neg fun heq => hplus (congrArg UInt8.toNat heq)
    have hne : b ≠ Percent.mark := fun heq => hmark (congrArg UInt8.toNat heq)
    have hchar := toNat_ofNat_byte b
    rw [bytes_cons, utf8EncodeChar_of_lt (by omega), hchar, UInt8.ofNat_toNat]
    show Percent.decode (spaced b :: rest) = _
    rw [hspaced, Percent.decode_cons_of_ne hne]
  · split
    · next h =>
      subst h
      exact Percent.decode_cons_of_ne (by decide) rest
    · rw [map_spaced_escape, Percent.decode_escape]

private theorem decode_map_spaced (bs rest : Bytes) :
    Percent.decode ((bytes (bs.flatMap encodeByte)).map spaced ++ rest) =
      bs ++ Percent.decode rest := by
  induction bs with
  | nil => rfl
  | cons b bs ih =>
    rw [List.flatMap_cons, bytes_append, List.map_append, List.append_assoc, decode_encodeByte, ih,
      List.cons_append]

/-- **A name or a value is read as it was.** -/
theorem decode_encode (s : String) : decode (encode s) = s := by
  have hbytes : Percent.decode ((bytes ((utf8 s).flatMap encodeByte)).map spaced) = utf8 s := by
    simpa [Percent.decode] using decode_map_spaced (utf8 s) []
  show ofUtf8Lossy (Percent.decode ((utf8 (String.ofList (encode s))).map spaced)) = s
  rw [utf8_ofList, encode, hbytes, ofUtf8Lossy_utf8]

/-! ### Fields -/

/-- What is not plain, not a plus sign and not in an escape is in no name or value. -/
theorem notMem_encode {c : Char} (hplain : isPlain (UInt8.ofNat c.toNat) = false) (hplus : c ≠ '+')
    (hescape : Percent.NoEscape c) (s : String) : c ∉ encode s := by
  intro h
  obtain ⟨b, -, hc⟩ := List.mem_flatMap.mp h
  rw [encodeByte] at hc
  split at hc
  · next hb =>
    rw [List.mem_singleton.mp hc, toNat_ofNat_byte, UInt8.ofNat_toNat, hb] at hplain
    cases hplain
  · split at hc
    · exact hplus (List.mem_singleton.mp hc)
    · exact hescape.notMem_escape b hc

theorem notMem_encodeField {c : Char} (hplain : isPlain (UInt8.ofNat c.toNat) = false)
    (hplus : c ≠ '+') (hequals : c ≠ '=') (hescape : Percent.NoEscape c)
    (field : String × String) : c ∉ encodeField field := by
  simp [encodeField, notMem_encode hplain hplus hescape, hequals]

theorem decodeField_encodeField (field : String × String) :
    decodeField (encodeField field) = field := by
  have hname : ∀ c ∈ encode field.1, c ≠ '=' := fun _ hc heq =>
    notMem_encode (by decide) (by decide) (by decide) field.1 (heq ▸ hc)
  have hcut := cutFirst?_append_cons hname (encode field.2)
  simp only [decodeField, encodeField, hcut, decode_encode]

/-- **Fields are read as they were written.** -/
theorem decodeFields_encodeFields (fields : List (String × String)) :
    decodeFields (encodeFields fields) = fields := by
  cases fields with
  | nil => rfl
  | cons field fields =>
    -- each `&` is one that was put between two fields, as none is left inside a field
    have hpieces : pieces '&' (encodeFields (field :: fields)) =
        (field :: fields).map encodeField := by
      refine pieces_intercalate (by simp) fun p hp c hc => ?_
      obtain ⟨f, -, rfl⟩ := List.mem_map.mp hp
      rintro rfl
      exact notMem_encodeField (by decide) (by decide) (by decide) (by decide) f hc
    have hne : ∀ p ∈ (field :: fields).map encodeField, (!p.isEmpty) = true := by
      intro p hp
      obtain ⟨f, -, rfl⟩ := List.mem_map.mp hp
      simp [encodeField]
    rw [decodeFields, hpieces, List.filter_eq_self.mpr hne, List.map_map]
    exact (List.map_congr_left fun f _ => decodeField_encodeField f).trans (List.map_id _)

/-- What is not plain, not in an escape and no mark of fields is in no fields. -/
theorem notMem_encodeFields {c : Char} (hplain : isPlain (UInt8.ofNat c.toNat) = false)
    (hmarks : c ∉ ['+', '=', '&']) (hescape : Percent.NoEscape c)
    (fields : List (String × String)) : c ∉ encodeFields fields := by
  simp only [List.mem_cons, List.not_mem_nil, or_false, not_or] at hmarks
  obtain ⟨hplus, hequals, hamp⟩ := hmarks
  have hall : ∀ x ∈ encodeFields fields, x ≠ c := by
    refine forall_mem_intercalate (by simpa using Ne.symm hamp) fun p hp x hx => ?_
    obtain ⟨f, -, rfl⟩ := List.mem_map.mp hp
    rintro rfl
    exact notMem_encodeField hplain hplus hequals hescape f hx
  exact fun h => hall c h rfl

/-- Fields are read behind others. -/
theorem decodeFields_append (s t : List Char) :
    decodeFields (s ++ '&' :: t) = decodeFields s ++ decodeFields t := by
  rw [decodeFields, pieces_append_sep, List.filter_append, List.map_append]
  rfl

end Form

end Gatehouse
