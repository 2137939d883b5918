import Gatehouse.Base64
import Mathlib.Algebra.Group.Nat.Defs

/-!
# Reading what was written in base64

Bytes that are written and read again are the same bytes (`decode?_encode`), under any alphabet
whose characters can be told apart. The digits of three bytes are four numbers below 64, and each
byte is put together again from two of them.

Reading is strict: a text that is read has no character beyond the alphabet
(`isUrlSafe_of_decode?`), and no bit is set in it that is in no byte (`decode?_of_hasSpareBits`).
-/

namespace Gatehouse.Base64

/-- The characters of an alphabet can be told apart. -/
def Alphabet.Legible (a : Alphabet) : Prop :=
  ∀ n < 64, a.value? (a.char n) = some n

instance (a : Alphabet) : Decidable a.Legible :=
  inferInstanceAs (Decidable (∀ n < 64, a.value? (a.char n) = some n))

theorem legible_urlSafe : urlSafe.Legible := by decide

theorem legible_standard : standard.Legible := by decide

/-! ### Bytes out of six bits each -/

private theorem first_byte (x : UInt8) {y : Nat} (hy : y < 16) :
    UInt8.ofNat (x.toNat / 4 * 4 + (x.toNat % 4 * 16 + y) / 16) = x := by
  have hx : x.toNat / 4 * 4 + (x.toNat % 4 * 16 + y) / 16 = x.toNat := by omega
  rw [hx, UInt8.ofNat_toNat]

private theorem second_byte (y : UInt8) (x : Nat) {z : Nat} (hz : z < 4) :
    UInt8.ofNat ((x * 16 + y.toNat / 16) % 16 * 16 + (y.toNat % 16 * 4 + z) / 4) = y := by
  have hlt := y.toNat_lt
  have hy : (x * 16 + y.toNat / 16) % 16 * 16 + (y.toNat % 16 * 4 + z) / 4 = y.toNat := by omega
  rw [hy, UInt8.ofNat_toNat]

private theorem third_byte (z : UInt8) (y : Nat) :
    UInt8.ofNat ((y * 4 + z.toNat / 64) % 4 * 64 + z.toNat % 64) = z := by
  have hlt := z.toNat_lt
  have hz : (y * 4 + z.toNat / 64) % 4 * 64 + z.toNat % 64 = z.toNat := by omega
  rw [hz, UInt8.ofNat_toNat]

variable {a : Alphabet}

theorem valuesOf_char_cons (ha : a.Legible) {n : Nat} (hn : n < 64) (s : List Char) :
    valuesOf a (a.char n :: s) = (valuesOf a s).map (n :: ·) := by
  rw [valuesOf, ha n hn]

/-- What is written has values that read as the bytes. -/
theorem exists_valuesOf_encodeChars (ha : a.Legible) (bytes : Bytes) :
    ∃ values, valuesOf a (encodeChars a bytes) = some values ∧ bytesOf values = some bytes := by
  induction bytes using encodeChars.induct with
  | case1 => exact ⟨[], rfl, rfl⟩
  | case2 x =>
    have hx := x.toNat_lt
    refine ⟨[x.toNat / 4, x.toNat % 4 * 16], ?_, ?_⟩
    · rw [encodeChars, valuesOf_char_cons ha (by omega), valuesOf_char_cons ha (by omega)]
      rfl
    · rw [bytesOf, if_pos (by omega)]
      exact congrArg (some [·]) (first_byte x (Nat.zero_lt_succ 15))
  | case3 x y =>
    have hx := x.toNat_lt
    have hy := y.toNat_lt
    refine ⟨[x.toNat / 4, x.toNat % 4 * 16 + y.toNat / 16, y.toNat % 16 * 4], ?_, ?_⟩
    · rw [encodeChars, valuesOf_char_cons ha (by omega), valuesOf_char_cons ha (by omega),
        valuesOf_char_cons ha (by omega)]
      rfl
    · rw [bytesOf, if_pos (by omega), first_byte x (by omega)]
      exact congrArg (some [x, ·]) (second_byte y _ (Nat.zero_lt_succ 3))
  | case4 x y z rest ih =>
    -- the first three bytes take four characters, and the others follow by induction
    have hx := x.toNat_lt
    have hy := y.toNat_lt
    have hz := z.toNat_lt
    obtain ⟨values, hvalues, hbytes⟩ := ih
    refine ⟨x.toNat / 4 :: (x.toNat % 4 * 16 + y.toNat / 16) ::
      (y.toNat % 16 * 4 + z.toNat / 64) :: (z.toNat % 64) :: values, ?_, ?_⟩
    · rw [encodeChars, valuesOf_char_cons ha (by omega), valuesOf_char_cons ha (by omega),
        valuesOf_char_cons ha (by omega), valuesOf_char_cons ha (by omega), hvalues]
      rfl
    · rw [bytesOf, hbytes, first_byte x (by omega), second_byte y _ (by omega), third_byte z]
      rfl

/-- **Bytes that are written and read again are the same bytes.** -/
theorem decode?_encode (ha : a.Legible) (bytes : Bytes) :
    decode? a (encode a bytes) = some bytes := by
  obtain ⟨values, hvalues, hbytes⟩ := exists_valuesOf_encodeChars ha bytes
  rw [decode?, encode, String.toList_ofList, decodeChars, hvalues, Option.bind_some, hbytes]

theorem encode_injective (ha : a.Legible) : Function.Injective (encode a) := by
  intro bytes bytes' h
  have hdecode := congrArg (decode? a) h
  rw [decode?_encode ha, decode?_encode ha] at hdecode
  exact Option.some.inj hdecode

/-- What is written has only characters of the alphabet. -/
theorem exists_of_mem_encodeChars {bytes : Bytes} {c : Char} (h : c ∈ encodeChars a bytes) :
    ∃ n < 64, c = a.char n := by
  induction bytes using encodeChars.induct with
  | case1 => simp [encodeChars] at h
  | case2 x =>
    have hx := x.toNat_lt
    simp only [encodeChars, List.mem_cons, List.not_mem_nil, or_false] at h
    rcases h with rfl | rfl <;> exact ⟨_, by omega, rfl⟩
  | case3 x y =>
    have hx := x.toNat_lt
    have hy := y.toNat_lt
    simp only [encodeChars, List.mem_cons, List.not_mem_nil, or_false] at h
    rcases h with rfl | rfl | rfl <;> exact ⟨_, by omega, rfl⟩
  | case4 x y z rest ih =>
    have hx := x.toNat_lt
    have hy := y.toNat_lt
    have hz := z.toNat_lt
    simp only [encodeChars, List.mem_cons] at h
    rcases h with rfl | rfl | rfl | rfl | h
    · exact ⟨_, by omega, rfl⟩
    · exact ⟨_, by omega, rfl⟩
    · exact ⟨_, by omega, rfl⟩
    · exact ⟨_, by omega, rfl⟩
    · exact ih h

/-- What holds of all characters of an alphabet holds of what is written. -/
theorem forall_mem_encode {P : Char → Prop} (h : ∀ n < 64, P (a.char n)) (bytes : Bytes) :
    ∀ c ∈ (encode a bytes).toList, P c := by
  intro c hc
  rw [encode, String.toList_ofList] at hc
  obtain ⟨n, hn, rfl⟩ := exists_of_mem_encodeChars hc
  exact h n hn

/-- A dot can be put between two texts that are safe in addresses. -/
theorem ne_dot_of_mem_encode (bytes : Bytes) : ∀ c ∈ (encode urlSafe bytes).toList, c ≠ '.' :=
  forall_mem_encode (by decide) bytes

theorem valuesOf_cons_eq_some_iff {c : Char} {s : List Char} {values : List Nat} :
    valuesOf a (c :: s) = some values ↔
      ∃ v vs, a.value? c = some v ∧ valuesOf a s = some vs ∧ values = v :: vs := by
  rw [valuesOf]
  cases a.value? c with
  | none => simp
  | some v => simp [eq_comm (a := values)]

/-- What is read has only characters that have a value. -/
theorem isSome_value?_of_valuesOf {s : List Char} {values : List Nat}
    (h : valuesOf a s = some values) : ∀ c ∈ s, (a.value? c).isSome = true := by
  induction s generalizing values with
  | nil => exact fun c hc => absurd hc List.not_mem_nil
  | cons c s ih =>
    obtain ⟨v, vs, hc, hvs, -⟩ := valuesOf_cons_eq_some_iff.mp h
    rw [List.forall_mem_cons, hc]
    exact ⟨rfl, ih hvs⟩

/-! ### Texts that are safe in addresses -/

/-- The characters of the alphabet that is safe in addresses. -/
def IsUrlSafe (c : Char) : Prop :=
  ('A' ≤ c ∧ c ≤ 'Z') ∨ ('a' ≤ c ∧ c ≤ 'z') ∨ ('0' ≤ c ∧ c ≤ '9') ∨ c = '-' ∨ c = '_'

instance (c : Char) : Decidable (IsUrlSafe c) := by
  unfold IsUrlSafe
  infer_instance

theorem isUrlSafe_of_isSome_value? {c : Char} (h : (urlSafe.value? c).isSome = true) :
    IsUrlSafe c := by
  rw [← Decidable.not_not (p := IsUrlSafe c)]
  intro hnot
  simp only [IsUrlSafe, not_or] at hnot
  obtain ⟨hupper, hlower, hdigit, hdash, hunderscore⟩ := hnot
  have hvalue : urlSafe.value? c = none := by
    rw [Alphabet.value?, if_neg hupper, if_neg hlower, if_neg hdigit]
    exact (if_neg hdash).trans (if_neg hunderscore)
  rw [hvalue] at h
  cases h

theorem isUrlSafe_of_mem_encode (bytes : Bytes) :
    ∀ c ∈ (encode urlSafe bytes).toList, IsUrlSafe c :=
  forall_mem_encode (by decide) bytes

/-- A text that is read has no other characters, so it has no padding. -/
theorem isUrlSafe_of_decode? {s : String} {bytes : Bytes} (h : decode? urlSafe s = some bytes) :
    ∀ c ∈ s.toList, IsUrlSafe c := by
  obtain ⟨values, hvalues, -⟩ := Option.bind_eq_some_iff.mp h
  exact fun c hc => isUrlSafe_of_isSome_value? (isSome_value?_of_valuesOf hvalues c hc)

/-- No dot is in a text that is safe in addresses. -/
theorem ne_dot_of_decode? {s : String} {bytes : Bytes} (h : decode? urlSafe s = some bytes) :
    ∀ c ∈ s.toList, c ≠ '.' := by
  rintro c hc rfl
  exact absurd (isUrlSafe_of_decode? h '.' hc) (by decide)

/-! ### Spare bits -/

/-- A text whose last character has a bit that is in no byte. Each character stands for six bits,
and the bits that are left over after the last whole byte are the lowest of the last character. -/
def HasSpareBits (a : Alphabet) (s : List Char) : Prop :=
  ∃ front, ∃ v < 64, s = front ++ [a.char v] ∧ v % 2 ^ (6 * s.length % 8) ≠ 0

/-- All bits that are left over in values that are read are zero. -/
theorem spare_of_bytesOf {values : List Nat} {bytes : Bytes} (h : bytesOf values = some bytes) :
    ∀ v ∈ values.getLast?, v % 2 ^ (6 * values.length % 8) = 0 := by
  -- along the groups of four: a whole group leaves the number of spare bits as it is
  induction values using bytesOf.induct generalizing bytes with
  | case1 => simp
  | case2 p => cases h
  | case3 p q hq => simpa using hq
  | case4 p q hq =>
    rw [bytesOf, if_neg hq] at h
    cases h
  | case5 p q r hr => simpa using hr
  | case6 p q r hr =>
    rw [bytesOf, if_neg hr] at h
    cases h
  | case7 p q r s rest ih =>
    rw [bytesOf] at h
    obtain ⟨bytes', hrest, -⟩ := Option.map_eq_some_iff.mp h
    have hlength : 6 * (p :: q :: r :: s :: rest).length % 8 = 6 * rest.length % 8 := by
      simp only [List.length_cons]
      omega
    rw [hlength]
    cases rest with
    | nil => simp [Nat.mod_one]
    | cons v vs => exact ih hrest

/-- The last value that is read is that of the last character. -/
theorem valuesOf_append_singleton {front : List Char} {c : Char} {values : List Nat}
    (h : valuesOf a (front ++ [c]) = some values) :
    ∃ init v, a.value? c = some v ∧ values = init ++ [v] ∧ init.length = front.length := by
  induction front generalizing values with
  | nil =>
    obtain ⟨v, vs, hc, hvs, rfl⟩ := valuesOf_cons_eq_some_iff.mp h
    cases hvs
    exact ⟨[], v, hc, rfl, rfl⟩
  | cons d front ih =>
    obtain ⟨w, vs, -, hvs, rfl⟩ := valuesOf_cons_eq_some_iff.mp h
    obtain ⟨init, v, hc, rfl, hlength⟩ := ih hvs
    exact ⟨w :: init, v, hc, rfl, congrArg Nat.succ hlength⟩

/-- **A text with a bit that is in no byte is not read.** -/
theorem decode?_of_hasSpareBits (ha : a.Legible) {s : String} (h : HasSpareBits a s.toList) :
    decode? a s = none := by
  obtain ⟨front, v, hv, hs, hspare⟩ := h
  rw [Option.eq_none_iff_forall_ne_some]
  intro bytes hread
  obtain ⟨values, hvalues, hbytes⟩ := Option.bind_eq_some_iff.mp hread
  rw [hs] at hvalues
  obtain ⟨init, w, hw, rfl, hlength⟩ := valuesOf_append_singleton hvalues
  obtain rfl : w = v := Option.some.inj (hw.symm.trans (ha v hv))
  have hsize : s.toList.length = (init ++ [w]).length := by
    rw [hs, List.length_append, List.length_append, hlength]
    rfl
  rw [hsize] at hspare
  exact hspare (spare_of_bytesOf hbytes w (by simp))

/-- Three bytes take four characters, and bytes that are left over take one character more. -/
theorem length_encodeChars (a : Alphabet) (bytes : Bytes) :
    (encodeChars a bytes).length = (4 * bytes.length + 2) / 3 := by
  induction bytes using encodeChars.induct with
  | case1 => rfl
  | case2 x => simp [encodeChars]
  | case3 x y => simp [encodeChars]
  | case4 x y z rest ih =>
    rw [encodeChars]
    simp only [List.length_cons, ih]
    omega

end Gatehouse.Base64
