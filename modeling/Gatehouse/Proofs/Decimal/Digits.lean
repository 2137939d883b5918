import Gatehouse.Decimal.Integer
import Gatehouse.Decimal.Shortest
import Mathlib.Data.List.Basic

/-!
# The digits of a number

The text of a natural number is made of decimal digits, at least one, and their value is the
number. With one sign in front of them, or none, digits are a numeral of an integer (`Denotes`), and
these are the texts that are read as an integer, if the integer has 64 bits
(`readInt64_eq_ok_iff`). The text of an integer is one of its numerals (`denotes_intChars`).
-/

namespace Gatehouse.Decimal

theorem digitsValue_append_singleton (digits : List Char) (c : Char) :
    digitsValue (digits ++ [c]) = digitsValue digits * 10 + (digit? c).getD 0 := by
  simp [digitsValue]

theorem digit?_eq_some_iff {c : Char} {d : Nat} :
    digit? c = some d ↔ c.isDigit = true ∧ c.toNat - '0'.toNat = d := by
  have hrange : c.isDigit = true ↔ '0' ≤ c ∧ c ≤ '9' := by simp [Char.isDigit, Char.le_def]
  rw [hrange, digit?]
  split
  · next hc => simp [hc]
  · next hc => simp [hc]

theorem isSome_digit?_iff {c : Char} : (digit? c).isSome = true ↔ c.isDigit = true := by
  simp only [Option.isSome_iff_exists, digit?_eq_some_iff, exists_and_left, exists_eq', and_true]

/-- The character of a digit is one that is read as it. -/
theorem digit?_ofNat {d : Nat} (h : d < 10) : digit? (Char.ofNat ('0'.toNat + d)) = some d := by
  have key : ∀ d : Fin 10, digit? (Char.ofNat ('0'.toNat + d.val)) = some d.val := by decide
  exact key ⟨d, h⟩

theorem natDigits_ne_nil (n : Nat) : natDigits n ≠ [] := by
  rw [natDigits]
  split <;> simp

theorem isSome_digit?_of_mem_natDigits {n : Nat} {c : Char} (h : c ∈ natDigits n) :
    (digit? c).isSome = true := by
  fun_induction natDigits n with
  | case1 n hn =>
    rw [List.mem_singleton.mp h, digit?_ofNat hn]
    rfl
  | case2 n hn ih =>
    rcases List.mem_append.mp h with h | h
    · exact ih h
    · rw [List.mem_singleton.mp h, digit?_ofNat (Nat.mod_lt n (by decide))]
      rfl

/-- The digits of a number have its value. -/
theorem digitsValue_natDigits (n : Nat) : digitsValue (natDigits n) = n := by
  fun_induction natDigits n with
  | case1 n hn =>
    have hvalue := digitsValue_append_singleton [] (Char.ofNat ('0'.toNat + n))
    rw [digit?_ofNat hn] at hvalue
    exact hvalue.trans (Nat.zero_add n)
  | case2 n hn ih =>
    rw [digitsValue_append_singleton, ih, digit?_ofNat (Nat.mod_lt n (by decide)),
      Option.getD_some]
    exact Nat.div_add_mod' n 10

theorem toNat_lt_of_digit? {c : Char} {d : Nat} (h : digit? c = some d) : c.toNat < 128 := by
  have hlast := (Char.isDigit_iff_toNat.mp (digit?_eq_some_iff.mp h).1).2
  exact Nat.lt_of_le_of_lt hlast (by decide)

/-- Only zero is written with a leading zero. -/
theorem head?_natDigits {n : Nat} (h : 0 < n) {c : Char} (hc : (natDigits n).head? = some c) :
    digit? c ≠ some 0 := by
  fun_induction natDigits n with
  | case1 n hn =>
    cases hc
    rw [digit?_ofNat hn]
    exact fun hzero => Nat.ne_of_gt h (Option.some.inj hzero)
  | case2 n hn ih =>
    refine ih (Nat.div_pos (Nat.le_of_not_lt hn) (by decide)) ?_
    obtain ⟨d, s, hdigits⟩ := List.exists_cons_of_ne_nil (natDigits_ne_nil (n / 10))
    rw [hdigits] at hc ⊢
    exact hc

/-- A number below a power of ten has no more digits than the exponent. -/
theorem length_natDigits_le {n k : Nat} (hk : 0 < k) (h : n < Nat.pow 10 k) :
    (natDigits n).length ≤ k := by
  fun_induction natDigits n generalizing k with
  | case1 n hn => exact hk
  | case2 n hn ih =>
    obtain ⟨j, rfl⟩ : ∃ j, k = j + 1 := ⟨k - 1, by omega⟩
    have hj : 0 < j := by
      rcases Nat.eq_zero_or_pos j with rfl | hj
      · exact absurd h hn
      · exact hj
    have hdiv : n / 10 < Nat.pow 10 j := Nat.div_lt_of_lt_mul (Nat.mul_comm _ _ ▸ h)
    rw [List.length_append, List.length_singleton]
    exact Nat.succ_le_succ (ih hj hdiv)

/-! ### Numerals -/

/-- A text is made of digits, at least one. -/
structure IsDigits (s : List Char) : Prop where
  ne_nil : s ≠ []
  isDigit : ∀ c ∈ s, c.isDigit = true

/-- A text is a numeral of an integer: digits, perhaps with one sign in front of them. -/
inductive Denotes : List Char → Int → Prop
  | plain {s : List Char} (h : IsDigits s) : Denotes s (Nat.ofDigitChars 10 s 0)
  | plus {s : List Char} (h : IsDigits s) : Denotes ('+' :: s) (Nat.ofDigitChars 10 s 0)
  | minus {s : List Char} (h : IsDigits s) : Denotes ('-' :: s) (-(Nat.ofDigitChars 10 s 0 : Nat))

/-- What holds of both signs and of every digit holds of all characters of a numeral. -/
theorem Denotes.forall_mem {s : List Char} {n : Int} (h : Denotes s n) {P : Char → Prop}
    (hplus : P '+') (hminus : P '-') (hdigit : ∀ c, c.isDigit = true → P c) : ∀ c ∈ s, P c := by
  cases h with
  | plain h => exact fun c hc => hdigit c (h.isDigit c hc)
  | plus h => exact List.forall_mem_cons.mpr ⟨hplus, fun c hc => hdigit c (h.isDigit c hc)⟩
  | minus h => exact List.forall_mem_cons.mpr ⟨hminus, fun c hc => hdigit c (h.isDigit c hc)⟩

theorem isDigits_natDigits (n : Nat) : IsDigits (natDigits n) :=
  ⟨natDigits_ne_nil n, fun _ hc => isSome_digit?_iff.mp (isSome_digit?_of_mem_natDigits hc)⟩

theorem digitsValue_eq_ofDigitChars {s : List Char} (h : ∀ c ∈ s, c.isDigit = true) :
    digitsValue s = Nat.ofDigitChars 10 s 0 := by
  rw [digitsValue, Nat.ofDigitChars]
  refine List.foldl_ext _ _ 0 fun n c hc => ?_
  rw [digit?_eq_some_iff.mpr ⟨h c hc, rfl⟩, Option.getD_some, Nat.mul_comm]

theorem ofDigitChars_natDigits (n : Nat) : Nat.ofDigitChars 10 (natDigits n) 0 = n := by
  rw [← digitsValue_eq_ofDigitChars (isDigits_natDigits n).isDigit, digitsValue_natDigits]

/-- The text of an integer is a numeral of it. -/
theorem denotes_intChars (n : Int) : Denotes (intChars n) n := by
  have hvalue := ofDigitChars_natDigits n.natAbs
  rw [intChars]
  split
  · next hneg =>
    have h := Denotes.minus (isDigits_natDigits n.natAbs)
    rwa [hvalue, Int.ofNat_natAbs_of_nonpos (Int.le_of_lt hneg), Int.neg_neg] at h
  · next hneg =>
    have h := Denotes.plain (isDigits_natDigits n.natAbs)
    rwa [hvalue, Int.natAbs_of_nonneg (Int.not_lt.mp hneg)] at h

/-! ### Reading numerals -/

/-- Digits behind a value of the range are read exactly if the value that they lead to is in the
range. -/
theorem readDigits_eq_ok_iff {bound held n : Nat} {overflow : IntegerFault} {s : List Char}
    (hheld : held ≤ bound) :
    readDigits bound overflow held s = .ok n ↔
      (∀ c ∈ s, c.isDigit = true) ∧ n = Nat.ofDigitChars 10 s held ∧ n ≤ bound := by
  induction s generalizing held with
  | nil =>
    have hread : readDigits bound overflow held [] = .ok n ↔ n = held :=
      ⟨fun h => by cases h; rfl, fun h => by rw [h, readDigits]⟩
    rw [hread]
    exact ⟨fun h => ⟨List.forall_mem_nil _, h, h ▸ hheld⟩, fun h => h.2.1⟩
  | cons c s ih =>
    rw [List.forall_mem_cons, Nat.ofDigitChars_cons, readDigits]
    cases hd : digit? c with
    | none =>
      refine iff_of_false (fun h => by cases h) fun h => ?_
      rw [digit?_eq_some_iff.mpr ⟨h.1.1, rfl⟩] at hd
      cases hd
    | some d =>
      obtain ⟨hc, rfl⟩ := digit?_eq_some_iff.mp hd
      dsimp only
      rw [Nat.mul_comm 10 held]
      generalize held * 10 + (c.toNat - '0'.toNat) = next
      split
      · next hfits => simp [ih hfits, hc]
      · next hover =>
        -- further digits only make the value greater
        have hle : next ≤ Nat.ofDigitChars 10 s next := by
          rw [Nat.ofDigitChars_eq_ofDigitChars_zero]
          exact Nat.le_add_right_of_le (Nat.le_mul_of_pos_left next (Nat.pow_pos (by decide)))
        refine iff_of_false (fun h => by cases h) fun ⟨_, hn, hbound⟩ => ?_
        omega

theorem readMagnitude_eq_ok_iff {bound n : Nat} {overflow : IntegerFault} {s : List Char} :
    readMagnitude bound overflow s = .ok n ↔
      IsDigits s ∧ n = Nat.ofDigitChars 10 s 0 ∧ n ≤ bound := by
  by_cases hs : s = []
  · subst hs
    exact iff_of_false (fun h => by cases h) fun h => h.1.ne_nil rfl
  · have hread : readMagnitude bound overflow s = readDigits bound overflow 0 s := by
      rw [readMagnitude.eq_def]
      split
      · exact absurd rfl hs
      · rfl
    rw [hread, readDigits_eq_ok_iff (Nat.zero_le bound)]
    exact and_congr_left fun _ => ⟨fun h => ⟨hs, h⟩, IsDigits.isDigit⟩

/-- A magnitude is read, and then taken as an integer. -/
private theorem map_readMagnitude_eq_ok_iff {bound : Nat} {overflow : IntegerFault}
    {s : List Char} {f : Nat → Int} {n : Int} :
    (readMagnitude bound overflow s).map f = .ok n ↔
      IsDigits s ∧ n = f (Nat.ofDigitChars 10 s 0) ∧ Nat.ofDigitChars 10 s 0 ≤ bound := by
  constructor
  · intro h
    cases hread : readMagnitude bound overflow s with
    | error fault =>
      rw [hread] at h
      cases h
    | ok m =>
      rw [hread] at h
      cases h
      obtain ⟨hs, rfl, hle⟩ := readMagnitude_eq_ok_iff.mp hread
      exact ⟨hs, rfl, hle⟩
  · rintro ⟨hs, rfl, hle⟩
    rw [readMagnitude_eq_ok_iff.mpr ⟨hs, rfl, hle⟩]
    rfl

section

variable {s : List Char} {n : Int}

private theorem readInt64_minus (s : List Char) :
    readInt64 ('-' :: s) =
      (readMagnitude (maxInt64 + 1) .tooSmall s).map fun n : Nat => -(n : Int) := by
  rw [readInt64]
  cases readMagnitude (maxInt64 + 1) .tooSmall s <;> rfl

/-- No sign is taken from a text of digits. -/
private theorem readInt64_of_isDigits (h : IsDigits s) :
    readInt64 s = (readMagnitude maxInt64 .tooLarge s).map Int.ofNat := by
  rw [readInt64.eq_def]
  split
  · exact absurd rfl h.ne_nil
  · exact absurd (h.isDigit _ List.mem_cons_self) (by decide)
  · exact absurd (h.isDigit _ List.mem_cons_self) (by decide)
  · rfl

/-- **A text is read as an integer exactly if it is a numeral of the integer and the integer has 64
bits.** -/
theorem readInt64_eq_ok_iff : readInt64 s = .ok n ↔ Denotes s n ∧ IsInt64 n := by
  constructor
  · intro h
    rw [readInt64.eq_def] at h
    split at h
    · cases h
    · next s =>
      have hminus : readInt64 ('-' :: s) = .ok n := h
      rw [readInt64_minus] at hminus
      obtain ⟨hs, rfl, hle⟩ := map_readMagnitude_eq_ok_iff.mp hminus
      exact ⟨.minus hs, by rw [IsInt64]; omega⟩
    · obtain ⟨hs, rfl, hle⟩ := map_readMagnitude_eq_ok_iff.mp h
      exact ⟨.plus hs, by rw [IsInt64, Int.ofNat_eq_natCast]; omega⟩
    · obtain ⟨hs, rfl, hle⟩ := map_readMagnitude_eq_ok_iff.mp h
      exact ⟨.plain hs, by rw [IsInt64, Int.ofNat_eq_natCast]; omega⟩
  · rintro ⟨hs, hlow, hhigh⟩
    cases hs with
    | plain hs =>
      rw [readInt64_of_isDigits hs]
      exact map_readMagnitude_eq_ok_iff.mpr ⟨hs, rfl, by omega⟩
    | plus hs => exact map_readMagnitude_eq_ok_iff.mpr ⟨hs, rfl, by omega⟩
    | minus hs =>
      rw [readInt64_minus]
      exact map_readMagnitude_eq_ok_iff.mpr ⟨hs, rfl, by omega⟩

end

end Gatehouse.Decimal
