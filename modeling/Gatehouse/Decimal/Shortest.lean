import Gatehouse.Decimal.Binary64

/-!
# The shortest decimal that reads back

Every positive finite number is the nearest one to all decimals in an interval around it. Of these
decimals `shortest` takes one with the fewest digits, and of those the nearest to the number.
`positional` writes it without an exponent; `scientific` changes to an exponent for very large and
very small magnitudes.
-/

namespace Gatehouse.Decimal

/-- Whether `a * 2 ^ b` is at most `c * 10 ^ d`. -/
def binaryLeDecimal (a : Nat) (b : Int) (c : Nat) (d : Int) : Bool :=
  a * Nat.pow 2 b.toNat * Nat.pow 10 (-d).toNat ≤ c * Nat.pow 10 d.toNat * Nat.pow 2 (-b).toNat

/-- Whether `c * 10 ^ d` is at most `a * 2 ^ b`. -/
def decimalLeBinary (c : Nat) (d : Int) (a : Nat) (b : Int) : Bool :=
  c * Nat.pow 10 d.toNat * Nat.pow 2 (-b).toNat ≤ a * Nat.pow 2 b.toNat * Nat.pow 10 (-d).toNat

/-- The interval of the values that round to a number, in units of a quarter of its last place. -/
structure Neighbourhood where
  /-- Four times the mantissa. -/
  centre : Nat
  lower : Nat
  upper : Nat
  /-- The exponent of the unit. -/
  unit : Int
  /-- Whether the ends belong to the interval. -/
  closed : Bool

/-- The interval of the values that round to `mantissa * 2 ^ exponent`. -/
def Neighbourhood.of (mantissa : Nat) (exponent : Int) : Neighbourhood where
  centre := 4 * mantissa
  lower := 4 * mantissa -
    (if mantissa = Nat.pow 2 52 ∧ Binary64.minExponent < exponent then 1 else 2)
  upper := 4 * mantissa + 2
  unit := exponent - 2
  closed := mantissa % 2 == 0

/-- Whether `digits * 10 ^ place` lies in the interval. -/
def Neighbourhood.holds (v : Neighbourhood) (digits : Nat) (place : Int) : Bool :=
  if v.closed then
    binaryLeDecimal v.lower v.unit digits place && decimalLeBinary digits place v.upper v.unit
  else
    !decimalLeBinary digits place v.lower v.unit && !binaryLeDecimal v.upper v.unit digits place

/-- The number of digits before the decimal point; not positive for a magnitude below a tenth. -/
def wholeDigits (mantissa : Nat) (exponent : Int) : Int :=
  let (num, den) := Binary64.ratio mantissa exponent
  if den ≤ num then ((natDigits (num / den)).length : Int)
  else
    let d := (natDigits (den / num)).length
    if den ≤ num * Nat.pow 10 (d - 1) then 2 - (d : Int) else 1 - (d : Int)

/-- The nearest decimal on the grid of `10 ^ place` that lies in the interval, if there is one. -/
def Neighbourhood.onGrid (v : Neighbourhood) (place : Int) : Option Nat :=
  let num := v.centre * Nat.pow 2 v.unit.toNat * Nat.pow 10 (-place).toNat
  let den := Nat.pow 10 place.toNat * Nat.pow 2 (-v.unit).toNat
  let below := num / den
  let rest := num % den
  match v.holds below place, v.holds (below + 1) place with
  | true, true =>
    some (if 2 * rest < den ∨ (2 * rest = den ∧ below % 2 = 0) then below else below + 1)
  | true, false => some below
  | false, true => some (below + 1)
  | false, false => none

/-- Looks for a decimal in the interval on finer and finer grids. -/
def Neighbourhood.search (v : Neighbourhood) : Nat → Int → Nat × Int
  | 0, place => ((v.onGrid place).getD 0, place)
  | tries + 1, place =>
    match v.onGrid place with
    | some digits => (digits, place)
    | none => v.search tries (place - 1)

/-- The shortest decimal that reads back as `mantissa * 2 ^ exponent`: digits and a power of ten. -/
def shortest (mantissa : Nat) (exponent : Int) : Nat × Int :=
  let v := Neighbourhood.of mantissa exponent
  let (digits, place) := v.search 17 (wholeDigits mantissa exponent - 1)
  if digits % 10 = 0 ∧ digits ≠ 0 then (digits / 10, place + 1) else (digits, place)

/-- A decimal written without an exponent and without a needless fraction. -/
def positional (digits : Nat) (place : Int) : List Char :=
  let ds := natDigits digits
  if 0 ≤ place then ds ++ List.replicate place.toNat '0'
  else
    let behind := (-place).toNat
    if behind < ds.length then ds.take (ds.length - behind) ++ '.' :: ds.drop (ds.length - behind)
    else '0' :: '.' :: List.replicate (behind - ds.length) '0' ++ ds

/-- The text of a number without an exponent. -/
def Binary64.plainText : Binary64 → String
  | .nan => "NaN"
  | .infinite s => if s then "-inf" else "inf"
  | .finite s m e =>
    let body := if m = 0 then ['0'] else
      let (digits, place) := shortest m e
      positional digits place
    String.ofList (if s then '-' :: body else body)

/-- A decimal written with a point or an exponent in every case: positional from `1e-5` up to
below `1e16`, else with an exponent after one leading digit. -/
def scientific (digits : Nat) (place : Int) : List Char :=
  let ds := natDigits digits
  let whole := (ds.length : Int) + place
  if 0 ≤ place ∧ whole ≤ 16 then positional digits place ++ ['.', '0']
  else if -5 < whole ∧ whole ≤ 16 then positional digits place
  else
    let power := whole - 1
    let sign := if power < 0 then ['-'] else []
    let lead := ds.take 1
    let tail := ds.drop 1
    (if tail = [] then lead else lead ++ '.' :: tail) ++ 'e' :: sign ++ natDigits power.natAbs

/-- The text of a finite number with a point or an exponent. -/
def Binary64.pointedText : Binary64 → List Char
  | .finite s m e =>
    let body := if m = 0 then ['0', '.', '0'] else
      let (digits, place) := shortest m e
      scientific digits place
    if s then '-' :: body else body
  | _ => "null".toList

/-! ### Reading -/

/-- Takes the decimal digits at the start of a text. -/
def spanDigits (s : List Char) : List Char × List Char :=
  s.span fun c => (digit? c).isSome

/-- The value of a row of decimal digits. -/
def digitsValue (ds : List Char) : Nat :=
  ds.foldl (fun n c => n * 10 + (digit? c).getD 0) 0

/-- Reads an exponent after its mark: an optional sign and digits up to the end. -/
def readExponent (s : List Char) : Option Int :=
  let (negative, rest) := match s with
    | '-' :: r => (true, r)
    | '+' :: r => (false, r)
    | r => (false, r)
  match spanDigits rest with
  | (d :: ds, []) =>
    let n : Int := digitsValue (d :: ds)
    some (if negative then -n else n)
  | _ => none

/-- Reads an unsigned number: digits with an optional point and an optional exponent, or one of
the names of infinity and of what is no number. -/
def readMagnitude64 (negative : Bool) (s : List Char) : Option Binary64 :=
  let name := String.ofList (s.map Char.toLower)
  if name = "inf" ∨ name = "infinity" then some (.infinite negative)
  else if name = "nan" then some .nan
  else
    let (whole, rest) := spanDigits s
    let (fraction, rest) := match rest with
      | '.' :: r => spanDigits r
      | r => ([], r)
    if whole = [] ∧ fraction = [] then none
    else
      let power := match rest with
        | [] => some 0
        | c :: r => if c = 'e' ∨ c = 'E' then readExponent r else none
      power.map fun p =>
        Binary64.ofDecimal negative (digitsValue (whole ++ fraction)) (p - fraction.length)

/-- Reads the nearest number to a decimal text with an optional sign. -/
def readBinary64 : List Char → Option Binary64
  | '-' :: s => readMagnitude64 true s
  | '+' :: s => readMagnitude64 false s
  | s => readMagnitude64 false s

end Gatehouse.Decimal
