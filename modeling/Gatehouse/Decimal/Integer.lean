/-!
# Decimal integers of bounded width

A text is read digit by digit into a bounded range. The first character that is no digit, or the
first digit that leaves the range, decides the fault.
-/

namespace Gatehouse.Decimal

/-- Why a text is no integer of the wanted range. -/
inductive IntegerFault where
  /-- There is no character at all. -/
  | empty
  /-- A character is no decimal digit, or a sign stands alone. -/
  | invalidDigit
  /-- The value lies above the range. -/
  | tooLarge
  /-- The value lies below the range. -/
  | tooSmall
  deriving DecidableEq, Repr

/-- The text of a fault. -/
def IntegerFault.message : IntegerFault → String
  | .empty => "cannot parse integer from empty string"
  | .invalidDigit => "invalid digit found in string"
  | .tooLarge => "number too large to fit in target type"
  | .tooSmall => "number too small to fit in target type"

/-- The largest magnitude of a nonnegative 64-bit integer with sign. -/
def maxInt64 : Nat := 9223372036854775807

/-- The largest 64-bit integer without sign. -/
def maxUInt64 : Nat := 18446744073709551615

/-- The value of a decimal digit. -/
def digit? (c : Char) : Option Nat :=
  if '0' ≤ c ∧ c ≤ '9' then some (c.toNat - '0'.toNat) else none

/-- Reads digits after the value so far; `overflow` is the fault of a value above `bound`. -/
def readDigits (bound : Nat) (overflow : IntegerFault) (value : Nat) :
    List Char → Except IntegerFault Nat
  | [] => .ok value
  | c :: rest =>
    match digit? c with
    | none => .error .invalidDigit
    | some d =>
      if value * 10 + d ≤ bound then readDigits bound overflow (value * 10 + d) rest
      else .error overflow

/-- Reads at least one digit. -/
def readMagnitude (bound : Nat) (overflow : IntegerFault) : List Char → Except IntegerFault Nat
  | [] => .error .invalidDigit
  | s => readDigits bound overflow 0 s

/-- Reads a signed 64-bit integer: an optional sign and digits. -/
def readInt64 : List Char → Except IntegerFault Int
  | [] => .error .empty
  | '-' :: s => (readMagnitude (maxInt64 + 1) .tooSmall s).map fun n => -(n : Int)
  | '+' :: s => (readMagnitude maxInt64 .tooLarge s).map Int.ofNat
  | s => (readMagnitude maxInt64 .tooLarge s).map Int.ofNat

/-- Reads an unsigned 64-bit integer: an optional plus sign and digits. -/
def readUInt64 : List Char → Except IntegerFault Nat
  | [] => .error .empty
  | '+' :: s => readMagnitude maxUInt64 .tooLarge s
  | s => readMagnitude maxUInt64 .tooLarge s

/-- Whether an integer is one of 64 bits with sign. -/
def IsInt64 (n : Int) : Prop :=
  -(maxInt64 : Int) - 1 ≤ n ∧ n ≤ maxInt64

instance (n : Int) : Decidable (IsInt64 n) :=
  inferInstanceAs (Decidable (_ ∧ _))

/-- The sum of two integers of 64 bits with sign, if it is one too. A program that takes the sum of
other integers stops. -/
def addInt64? (a b : Int) : Option Int :=
  if IsInt64 (a + b) then some (a + b) else none

/-- The digits of a natural number, most significant first. -/
def natDigits (n : Nat) : List Char :=
  if n < 10 then [Char.ofNat ('0'.toNat + n)]
  else natDigits (n / 10) ++ [Char.ofNat ('0'.toNat + n % 10)]
termination_by n

/-- The characters of an integer. -/
def intChars (n : Int) : List Char :=
  if n < 0 then '-' :: natDigits n.natAbs else natDigits n.natAbs

/-- The text of an integer. -/
def intText (n : Int) : String :=
  String.ofList (intChars n)

/-- The text of a natural number. -/
def natText (n : Nat) : String :=
  String.ofList (natDigits n)

/-- A number in at least `width` digits, filled up with zeros. -/
def padded (width n : Nat) : String :=
  let ds := natDigits n
  String.ofList (List.replicate (width - ds.length) '0' ++ ds)

end Gatehouse.Decimal
