import Gatehouse.Json.Number
import Gatehouse.Proofs.Decimal.Digits
import Gatehouse.Proofs.Json.Text

/-!
# Reading integers that were written

An integer of 64 bits, written in decimal and followed by something that is no part of a number, is
read as this integer, with or without a minus before it (`read_natDigits`).
-/

namespace Gatehouse

namespace JsonNumber

open Text Decimal

/-- Whether a number cannot go on here. -/
def Ends (rest : Bytes) : Prop :=
  ∀ b, rest.head? = some b → digit? b = none ∧ sign b ≠ '.' ∧ isExponentMark b = false

/-- The values of written digits. -/
def valuesOf (s : List Char) : List Nat :=
  s.map fun c => (Decimal.digit? c).getD 0

/-- Whether a row of characters is one of digits. -/
def AreDigits (s : List Char) : Prop :=
  ∀ c ∈ s, (Decimal.digit? c).isSome = true

variable {rest : Bytes}

theorem digit?_utf8 {c : Char} {d : Nat} (h : Decimal.digit? c = some d) :
    digit? (UInt8.ofNat c.toNat) = some d := by
  rw [digit?, sign_ofNat (toNat_lt_of_digit? h), h]

theorem bytes_digit_cons {c : Char} {d : Nat} (h : Decimal.digit? c = some d) (s : List Char) :
    bytes (c :: s) = UInt8.ofNat c.toNat :: bytes s := by
  rw [bytes_cons, utf8EncodeChar_of_lt (toNat_lt_of_digit? h)]
  rfl

theorem spanDigits_bytes {s : List Char} (hs : AreDigits s) (hrest : Ends rest) :
    spanDigits (bytes s ++ rest) = (valuesOf s, rest) := by
  induction s with
  | nil =>
    cases rest with
    | nil => rfl
    | cons b rest =>
      rw [bytes_nil, List.nil_append, spanDigits, (hrest b rfl).1]
      rfl
  | cons c s ih =>
    obtain ⟨d, hd⟩ := Option.isSome_iff_exists.mp (hs c List.mem_cons_self)
    rw [bytes_digit_cons hd, List.cons_append, spanDigits, digit?_utf8 hd,
      ih fun e he => hs e (List.mem_cons_of_mem c he)]
    simp [valuesOf, hd]

/-- The value of digits after the value so far. -/
def valueFrom (value : Nat) (ds : List Nat) : Nat :=
  ds.foldl (fun n d => n * 10 + d) value

theorem le_valueFrom (value : Nat) (ds : List Nat) : value ≤ valueFrom value ds := by
  induction ds generalizing value with
  | nil => exact Nat.le_refl value
  | cons d ds ih =>
    refine Nat.le_trans ?_ (ih (value * 10 + d))
    omega

theorem gather_eq {value : Nat} {ds : List Nat} (h : valueFrom value ds ≤ maxUInt64) :
    gather value ds = (valueFrom value ds, 0) := by
  induction ds generalizing value with
  | nil => rfl
  | cons d ds ih =>
    have hle : value * 10 + d ≤ maxUInt64 := Nat.le_trans (le_valueFrom _ ds) h
    rw [gather, if_pos hle]
    exact ih h

theorem valueFrom_natDigits (n : Nat) : valueFrom 0 (valuesOf (natDigits n)) = n := by
  rw [valueFrom, valuesOf, List.foldl_map]
  exact digitsValue_natDigits n

theorem areDigits_natDigits (n : Nat) : AreDigits (natDigits n) :=
  fun _ => isSome_digit?_of_mem_natDigits

/-- Written digits are one digit, or do not begin with zero. -/
theorem valuesOf_natDigits_cases (n : Nat) :
    (∃ d, valuesOf (natDigits n) = [d]) ∨ ∃ d ds, valuesOf (natDigits n) = (d + 1) :: ds := by
  by_cases h : n = 0
  · refine .inl ⟨0, ?_⟩
    rw [h, natDigits, if_pos (by decide)]
    rfl
  · obtain ⟨c, s, hdigits⟩ := List.exists_cons_of_ne_nil (natDigits_ne_nil n)
    have hsome := areDigits_natDigits n
    have hzero := head?_natDigits (Nat.pos_of_ne_zero h) (c := c) (by rw [hdigits]; rfl)
    rw [hdigits] at hsome ⊢
    obtain ⟨d, hd⟩ := Option.isSome_iff_exists.mp (hsome c List.mem_cons_self)
    cases d with
    | zero => exact absurd hd hzero
    | succ d => exact .inr ⟨d, valuesOf s, by simp [valuesOf, hd]⟩

/-- The bytes of a number begin with a digit. -/
theorem exists_bytes_natDigits (n : Nat) (rest : Bytes) :
    ∃ b more, bytes (natDigits n) ++ rest = b :: more ∧ (digit? b).isSome = true := by
  obtain ⟨c, s, hdigits⟩ := List.exists_cons_of_ne_nil (natDigits_ne_nil n)
  have hsome := areDigits_natDigits n
  rw [hdigits] at hsome ⊢
  obtain ⟨d, hd⟩ := Option.isSome_iff_exists.mp (hsome c List.mem_cons_self)
  refine ⟨_, _, by rw [bytes_digit_cons hd, List.cons_append], ?_⟩
  rw [digit?_utf8 hd]
  rfl

theorem readTail_eq {k : Kept} {n : Int} (hrest : Ends rest) (hpower : k.power = 0)
    (hint : k.int? = some n) : readTail k rest = (.ok (.int n), rest) := by
  have hwhole : readTail.readWhole k = .ok (.int n) := by
    rw [readTail.readWhole, if_pos hpower, hint]
  cases rest with
  | nil => rw [readTail, hwhole]
  | cons b rest =>
    obtain ⟨-, hdot, hmark⟩ := hrest b rfl
    rw [readTail, if_neg hdot, hmark, hwhole]
    rfl

/-- Written digits pass the check for a leading zero. -/
private theorem read_of_spanDigits {b : UInt8} {more : Bytes} {n : Nat} (negative : Bool)
    (hspan : spanDigits (b :: more) = (valuesOf (natDigits n), rest)) :
    read negative (b :: more) =
      readTail ⟨negative, (gather 0 (valuesOf (natDigits n))).1,
        (gather 0 (valuesOf (natDigits n))).2⟩ rest := by
  rw [read, hspan]
  rcases valuesOf_natDigits_cases n with ⟨_ | d, hd⟩ | ⟨d, ds, hd⟩ <;> rw [hd] <;> rfl

/-- **A written number of 64 bits is read as this number**, with the sign that stood before it. -/
theorem read_natDigits {n : Nat} {negative : Bool} {value : Int} (hn : n ≤ maxUInt64)
    (hrest : Ends rest) (hvalue : (Kept.mk negative n 0).int? = some value) :
    read negative (bytes (natDigits n) ++ rest) = (.ok (.int value), rest) := by
  have hspan := spanDigits_bytes (areDigits_natDigits n) hrest
  have hgather : gather 0 (valuesOf (natDigits n)) = (n, 0) := by
    have h := valueFrom_natDigits n
    rw [gather_eq (by rw [h]; exact hn), h]
  obtain ⟨b, more, hbytes, -⟩ := exists_bytes_natDigits n rest
  rw [hbytes] at hspan ⊢
  rw [read_of_spanDigits negative hspan, hgather]
  exact readTail_eq hrest rfl hvalue

end JsonNumber

end Gatehouse
