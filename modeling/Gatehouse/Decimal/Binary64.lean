import Gatehouse.Decimal.Integer

/-!
# Binary floating-point numbers of 64 bits

A finite number is a sign, a mantissa below `2 ^ 53` and an exponent; its magnitude is
`mantissa * 2 ^ exponent`. `Binary64.ofRatio` rounds a quotient of natural numbers to the nearest
such number, a tie going to the even mantissa. All arithmetic is on natural numbers, so every
result is exact up to that one rounding.
-/

namespace Gatehouse.Decimal

/-- A binary floating-point number of 64 bits. -/
inductive Binary64 where
  | nan
  | infinite (negative : Bool)
  | finite (negative : Bool) (mantissa : Nat) (exponent : Int)
  deriving DecidableEq, Repr, Inhabited

namespace Binary64

/-- The least exponent of a finite number. -/
def minExponent : Int := -1074

/-- The greatest exponent of a finite number. -/
def maxExponent : Int := 971

/-- Zero. -/
def zero (negative : Bool) : Binary64 :=
  .finite negative 0 minExponent

/-- Whether a number is zero of either sign. -/
def isZero : Binary64 → Bool
  | .finite _ 0 _ => true
  | _ => false

/-- Whether a number is infinite. -/
def isInfinite : Binary64 → Bool
  | .infinite _ => true
  | _ => false

/-- The greatest `e` such that `2 ^ e` is at most `num / den`, for positive `num` and `den`. -/
def floorLog2 (num den : Nat) : Int :=
  let e : Int := (Nat.log2 num : Int) - Nat.log2 den
  let reached := if 0 ≤ e then den * Nat.pow 2 e.toNat ≤ num else den ≤ num * Nat.pow 2 (-e).toNat
  if reached then e else e - 1

/-- A quotient rounded to the nearest natural number, a tie going to the even one. -/
def roundQuotient (num den : Nat) : Nat :=
  let q := num / den
  let r := num % den
  if 2 * r < den then q
  else if den < 2 * r then q + 1
  else if q % 2 = 0 then q else q + 1

/-- The nearest number to `num / den`, a tie going to the even mantissa. -/
def ofRatio (negative : Bool) (num den : Nat) : Binary64 :=
  if num = 0 then zero negative
  else
    let e := max (floorLog2 num den - 52) minExponent
    let m := if 0 ≤ e then roundQuotient num (den * Nat.pow 2 e.toNat)
      else roundQuotient (num * Nat.pow 2 (-e).toNat) den
    let (m, e) := if m = Nat.pow 2 53 then (Nat.pow 2 52, e + 1) else (m, e)
    if maxExponent < e then .infinite negative else .finite negative m e

/-- The nearest number to a natural number. -/
def ofNat (n : Nat) : Binary64 :=
  ofRatio false n 1

/-- The nearest number to `digits * 10 ^ exponent`. -/
def ofDecimal (negative : Bool) (digits : Nat) (exponent : Int) : Binary64 :=
  let size := ((natDigits digits).length : Int)
  if digits = 0 ∨ size + exponent < -330 then zero negative
  else if 320 < size + exponent then .infinite negative
  else if 0 ≤ exponent then ofRatio negative (digits * Nat.pow 10 exponent.toNat) 1
  else ofRatio negative digits (Nat.pow 10 (-exponent).toNat)

/-- The magnitude of a finite number as a quotient. -/
def ratio (mantissa : Nat) (exponent : Int) : Nat × Nat :=
  if 0 ≤ exponent then (mantissa * Nat.pow 2 exponent.toNat, 1)
  else (mantissa, Nat.pow 2 (-exponent).toNat)

/-- Changes the sign. -/
def neg : Binary64 → Binary64
  | .nan => .nan
  | .infinite s => .infinite !s
  | .finite s m e => .finite (!s) m e

/-- The rounded product of a number with a positive power of ten. -/
def timesPowerOfTen (x : Binary64) (k : Nat) : Binary64 :=
  match x with
  | .finite s m e =>
    let (xn, xd) := ratio m e
    match ofNat (Nat.pow 10 k) with
    | .finite _ pm pe =>
      let (pn, pd) := ratio pm pe
      ofRatio s (xn * pn) (xd * pd)
    | _ => .infinite s
  | other => other

/-- The rounded quotient of a number by a positive power of ten. -/
def overPowerOfTen (x : Binary64) (k : Nat) : Binary64 :=
  match x with
  | .finite s m e =>
    let (xn, xd) := ratio m e
    match ofNat (Nat.pow 10 k) with
    | .finite _ pm pe =>
      let (pn, pd) := ratio pm pe
      ofRatio s (xn * pd) (xd * pn)
    | _ => zero s
  | other => other

/-- A magnitude rounded to the nearest natural number, a tie going away from zero. -/
def roundMagnitude (mantissa : Nat) (exponent : Int) : Nat :=
  let (n, d) := ratio mantissa exponent
  (2 * n + d) / (2 * d)

end Binary64

end Gatehouse.Decimal
