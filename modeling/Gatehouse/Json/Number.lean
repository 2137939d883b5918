import Gatehouse.Decimal.Shortest
import Gatehouse.Json.Basic
import Gatehouse.Text.Utf8

/-!
# Numbers in JSON texts

A number without point and exponent that fits into 64 bits, with or without a sign, is an integer.
All other numbers are floats. Of a float the leading digits that fit into 64 bits are kept; the
digits after them only move the point. The kept digits are then scaled by a power of ten, and a
number whose magnitude leaves the range of floats is refused.

Reading gives the bytes that follow the number. After a fault these are the bytes behind the place
at which it was noticed.
-/

namespace Gatehouse

/-- What is wrong with a JSON text. -/
inductive JsonFault where
  /-- The text is no JSON. -/
  | syntaxFault
  /-- The text is JSON, but not of a value that was asked for. -/
  | dataFault
  deriving DecidableEq, Repr

/-- What reading gives: a result, and the bytes that have not been read. -/
abbrev JsonReading (α : Type) := Except JsonFault α × Bytes

namespace JsonReading

variable {α β : Type}

/-- A text that is no JSON. -/
def broken (rest : Bytes) : JsonReading α :=
  (.error .syntaxFault, rest)

/-- Changes the result. -/
def map (f : α → β) (r : JsonReading α) : JsonReading β :=
  (r.1.map f, r.2)

end JsonReading

/-- A byte as a character, by which the signs of JSON are told apart. Bytes of characters outside
of ASCII are none of these signs. -/
def sign (b : UInt8) : Char :=
  Char.ofNat b.toNat

namespace JsonNumber

open Decimal JsonReading

/-- The value of a decimal digit. -/
def digit? (b : UInt8) : Option Nat :=
  Decimal.digit? (sign b)

/-- Takes the decimal digits at the start of some bytes. -/
def spanDigits : Bytes → List Nat × Bytes
  | [] => ([], [])
  | b :: rest =>
    match digit? b with
    | some d => (d :: (spanDigits rest).1, (spanDigits rest).2)
    | none => ([], b :: rest)

/-- Takes digits into a significand as long as it stays within 64 bits; gives the significand and
how many digits are left over. -/
def gather (value : Nat) : List Nat → Nat × Nat
  | [] => (value, 0)
  | d :: rest =>
    if value * 10 + d ≤ maxUInt64 then gather (value * 10 + d) rest else (value, rest.length + 1)

/-- Scales a float by a power of ten in steps of at most `10 ^ 308`; none if it leaves the range. -/
def scale : Nat → Binary64 → Int → Option Binary64
  | 0, _, _ => none
  | steps + 1, x, power =>
    if 0 ≤ power then
      if power ≤ 308 then
        let y := x.timesPowerOfTen power.toNat
        if y.isInfinite then none else some y
      else if x.isZero then some x else none
    else if -308 ≤ power then some (x.overPowerOfTen (-power).toNat)
    else if x.isZero then some x
    else scale steps (x.overPowerOfTen 308) (power + 308)

/-- The kept digits of a number and the power of ten that they are scaled by. -/
structure Kept where
  negative : Bool
  significand : Nat
  power : Int

/-- The float of the kept digits. -/
def Kept.float (k : Kept) : Except JsonFault Json :=
  match scale (k.power.natAbs + 2) (Binary64.ofNat k.significand) k.power with
  | none => .error .syntaxFault
  | some x => .ok (.float (if k.negative then x.neg else x))

/-- The integer of the kept digits, if there is one. Minus zero is a float, and so is a negative
number beyond 64 bits. -/
def Kept.int? (k : Kept) : Option Int :=
  if !k.negative then some k.significand
  else if 0 < k.significand ∧ k.significand ≤ maxInt64 + 1 then some (-(k.significand : Int))
  else none

/-- The largest exponent that is looked at. -/
def maxExponent : Nat := 2147483647

/-- Reads the digits of an exponent after the value so far; none if it becomes too large, which is
noticed behind the digit that makes it so. -/
def readPower (value : Nat) : Bytes → Option Nat × Bytes
  | [] => (some value, [])
  | b :: rest =>
    match digit? b with
    | none => (some value, b :: rest)
    | some d =>
      if value * 10 + d ≤ maxExponent then readPower (value * 10 + d) rest else (none, rest)

/-- Reads an exponent after its mark and its sign. A huge one gives zero, unless the number would
be huge itself. -/
def readExponentDigits (k : Kept) (down : Bool) : Bytes → JsonReading Json
  | [] => broken []
  | b :: rest =>
    if (digit? b).isNone then broken rest
    else
      match readPower 0 (b :: rest) with
      | (some e, rest) =>
        (Kept.float { k with power := if down then k.power - e else k.power + e }, rest)
      | (none, rest) =>
        if k.significand ≠ 0 ∧ !down then broken rest
        else (.ok (.float (Binary64.zero k.negative)), (spanDigits rest).2)

/-- Reads an exponent after its mark. -/
def readExponent (k : Kept) : Bytes → JsonReading Json
  | [] => broken []
  | b :: rest =>
    if sign b = '-' then readExponentDigits k true rest
    else if sign b = '+' then readExponentDigits k false rest
    else readExponentDigits k false (b :: rest)

/-- Whether a byte is the mark of an exponent. -/
def isExponentMark (b : UInt8) : Bool :=
  sign b == 'e' || sign b == 'E'

/-- Reads an exponent, if there is one, as the end of a float. -/
def readFloatEnd (k : Kept) : Bytes → JsonReading Json
  | b :: rest => if isExponentMark b then readExponent k rest else (k.float, b :: rest)
  | [] => (k.float, [])

/-- Reads the digits behind the point and an exponent. -/
def readFraction (k : Kept) (s : Bytes) : JsonReading Json :=
  match spanDigits s with
  | ([], rest) => broken rest
  | (ds, rest) =>
    let (significand, unused) := gather k.significand ds
    readFloatEnd ⟨k.negative, significand, k.power - (ds.length - unused : Nat)⟩ rest

/-- Reads what follows the digits before the point. -/
def readTail (k : Kept) : Bytes → JsonReading Json
  | b :: rest =>
    if sign b = '.' then readFraction k rest
    else if isExponentMark b then readExponent k rest
    else (readWhole, b :: rest)
  | [] => (readWhole, [])
where
  /-- The number if it ends with these digits. -/
  readWhole : Except JsonFault Json :=
    match if k.power = 0 then k.int? else none with
    | some n => .ok (.int n)
    | none => k.float

/-- Reads a number after its sign. Its digits before the point start with zero only if there is
one. -/
def read (negative : Bool) : Bytes → JsonReading Json
  | [] => broken []
  | b :: rest =>
    match spanDigits (b :: rest) with
    | ([], _) => broken rest
    | (0 :: _ :: _, _) => broken rest
    | (ds, rest) =>
      let (significand, surplus) := gather 0 ds
      readTail ⟨negative, significand, surplus⟩ rest

/-! ### Passing over numbers -/

/-- Passes over the digits of an exponent. -/
def passExponentDigits : Bytes → JsonReading Unit
  | [] => broken []
  | b :: rest => if (digit? b).isNone then broken rest else (.ok (), (spanDigits rest).2)

/-- Passes over an exponent after its mark. -/
def passExponent : Bytes → JsonReading Unit
  | [] => broken []
  | b :: rest =>
    if sign b = '-' ∨ sign b = '+' then passExponentDigits rest else passExponentDigits (b :: rest)

/-- Passes over an exponent, if there is one. -/
def passFloatEnd : Bytes → JsonReading Unit
  | b :: rest => if isExponentMark b then passExponent rest else (.ok (), b :: rest)
  | [] => (.ok (), [])

/-- Passes over a number after its sign: it only has to be well formed. -/
def pass : Bytes → JsonReading Unit
  | [] => broken []
  | b :: rest =>
    match spanDigits (b :: rest) with
    | ([], _) => broken rest
    | (0 :: _ :: _, _) => broken rest
    | (_, []) => (.ok (), [])
    | (_, c :: rest) =>
      if sign c = '.' then
        match spanDigits rest with
        | ([], rest) => broken rest
        | (_, rest) => passFloatEnd rest
      else passFloatEnd (c :: rest)

end JsonNumber

end Gatehouse
