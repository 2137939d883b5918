import Gatehouse.Config.Setting
import Gatehouse.Time.Moment

/-!
# TOML numbers, truth values and times

A value that is not quoted is one word. Underscores may stand between the digits of a number. A
time is kept as a text in one fixed form.
-/

namespace Gatehouse.Toml

open Decimal

/-! ### Numbers -/

/-- The digits of a number, without the underscores between them. -/
def digits? (isDigit : Char → Bool) (s : List Char) : Option (List Char) :=
  let groups := Text.pieces '_' s
  if groups.all fun g => !g.isEmpty && g.all isDigit then some groups.flatten else none

/-- The digits before the point; they do not start with a needless zero. -/
def wholeDigits? (s : List Char) : Option (List Char) :=
  (digits? Char.isDigit s).filter fun ds => ds.length = 1 ∨ ds.head? ≠ some '0'

/-- Takes a sign off. -/
def cutSign : List Char → Bool × List Char
  | '-' :: rest => (true, rest)
  | '+' :: rest => (false, rest)
  | s => (false, s)

/-- The value of digits in a base. -/
def valueIn (base : Nat) (ds : List Char) : Nat :=
  ds.foldl (fun n c => base * n +
    (if c.isDigit then c.toNat - 48 else c.toLower.toNat - 87)) 0

/-- The magnitude of an integer with a mark for its base. -/
def based? (base : Nat) (isDigit : Char → Bool) (s : List Char) : Option Int :=
  ((digits? isDigit s).map fun ds => (valueIn base ds : Int)).filter fun n => n ≤ maxInt64

/-- Whether a character is a hexadecimal digit. -/
def isHexDigit (c : Char) : Bool :=
  c.isDigit || ('a' ≤ c.toLower && c.toLower ≤ 'f')

/-- Reads an integer. -/
def integer? : List Char → Option Int
  | '0' :: 'x' :: rest => based? 16 isHexDigit rest
  | '0' :: 'o' :: rest => based? 8 (fun c => '0' ≤ c && c ≤ '7') rest
  | '0' :: 'b' :: rest => based? 2 (fun c => c == '0' || c == '1') rest
  | s =>
    let (negative, rest) := cutSign s
    match wholeDigits? rest with
    | none => none
    | some ds => (readInt64 (if negative then '-' :: ds else ds)).toOption

/-- The text of a float without underscores. It has a point or an exponent. -/
def plainFloat? (s : List Char) : Option (List Char) :=
  let isMark := fun c : Char => c == 'e' || c == 'E'
  let (significand, exponent) := (s.takeWhile (!isMark ·), s.dropWhile (!isMark ·))
  let body := match Text.cutFirst? '.' significand with
    | none => wholeDigits? significand
    | some (whole, fraction) =>
      match wholeDigits? whole, digits? Char.isDigit fraction with
      | some ws, some fs => some (ws ++ '.' :: fs)
      | _, _ => none
  match body, exponent with
  | some ds, [] => if ds.contains '.' then some ds else none
  | some ds, _ :: power =>
    let (negative, power) := cutSign power
    (digits? Char.isDigit power).map fun ps => ds ++ 'e' :: (if negative then '-' :: ps else ps)
  | none, _ => none

/-- Reads a float. One that is too large is refused. -/
def float? (s : List Char) : Option Binary64 :=
  let (negative, rest) := cutSign s
  if rest = "inf".toList then some (.infinite negative)
  else if rest = "nan".toList then some .nan
  else
    match plainFloat? rest with
    | none => none
    | some ds =>
      (readBinary64 (if negative then '-' :: ds else ds)).filter fun x => !x.isInfinite

/-! ### Times -/

/-- Reads a number of exactly so many digits within bounds. -/
def part? (width low high : Nat) (s : List Char) : Option (List Char × List Char) :=
  let ds := s.take width
  let n := digitsValue ds
  if ds.length = width ∧ ds.all Char.isDigit ∧ low ≤ n ∧ n ≤ high then some (ds, s.drop width)
  else none

/-- Takes one character off. -/
def mark? (isMark : Char → Bool) : List Char → Option (List Char)
  | c :: rest => if isMark c then some rest else none
  | [] => none

/-- Reads a date. -/
def date? (s : List Char) : Option (List Char × List Char) := do
  let (year, s) ← part? 4 0 9999 s
  let (month, s) ← part? 2 1 12 (← mark? (· == '-') s)
  let days := CalendarDay.daysInMonth (digitsValue year) (digitsValue month)
  let (day, s) ← part? 2 1 days (← mark? (· == '-') s)
  pure (year ++ '-' :: month ++ '-' :: day, s)

/-- The fraction of a second: at most nine digits, without needless zeros at the end. -/
def fractionText (ds : List Char) : List Char :=
  match ((ds.take 9).reverse.dropWhile (· == '0')).reverse with
  | [] => ['.', '0']
  | kept => '.' :: kept

/-- Reads the fraction of a second, if there is one. -/
def fraction? : List Char → Option (List Char × List Char)
  | '.' :: rest =>
    let ds := rest.takeWhile Char.isDigit
    if ds.isEmpty then none else some (fractionText ds, rest.dropWhile Char.isDigit)
  | s => some ([], s)

/-- Reads the time of a day. The seconds may be left out. -/
def clock? (s : List Char) : Option (List Char × List Char) := do
  let (hour, s) ← part? 2 0 23 s
  let (minute, s) ← part? 2 0 59 (← mark? (· == ':') s)
  match s with
  | ':' :: rest => do
    let (second, s) ← part? 2 0 60 rest
    let (fraction, s) ← fraction? s
    pure (hour ++ ':' :: minute ++ ':' :: second ++ fraction, s)
  | s => pure (hour ++ ':' :: minute, s)

/-- Reads an offset from universal time, up to the end. No offset at all counts as an offset to the
east. -/
def offset? : List Char → Option (List Char)
  | [] => some []
  | c :: rest =>
    if c = 'Z' ∨ c = 'z' then (if rest.isEmpty then some ['Z'] else none)
    else if c = '+' ∨ c = '-' then do
      let (hour, s) ← part? 2 0 23 rest
      let (minute, s) ← part? 2 0 59 (← mark? (· == ':') s)
      let east := c = '+' ∨ digitsValue hour + digitsValue minute = 0
      if s.isEmpty then pure ((if east then '+' else '-') :: hour ++ ':' :: minute) else none
    else none

/-- Whether a character stands between a date and a time. -/
def isTimeMark (c : Char) : Bool :=
  c == 'T' || c == 't' || c == ' '

/-- Reads a date, a time, or both, the latter also with an offset. -/
def time? (s : List Char) : Option String :=
  match date? s with
  | none => (clock? s).bind fun p => if p.2.isEmpty then some (String.ofList p.1) else none
  | some (date, []) => some (String.ofList date)
  | some (date, rest) => do
    let (clock, rest) ← clock? (← mark? isTimeMark rest)
    let offset ← offset? rest
    pure (String.ofList (date ++ 'T' :: clock ++ offset))

/-! ### Words -/

/-- Whether a character may stand in a word. -/
def isWordChar (c : Char) : Bool :=
  c.isAlphanum || "+-_.:".toList.contains c

/-- Cuts a word off. A date and a time may have one space between them. -/
def cutWord (s : List Char) : List Char × List Char :=
  let (word, rest) := (s.takeWhile isWordChar, s.dropWhile isWordChar)
  match date? word, rest with
  | some (_, []), ' ' :: d :: more =>
    if d.isDigit then
      (word ++ ' ' :: (d :: more).takeWhile isWordChar, (d :: more).dropWhile isWordChar)
    else (word, rest)
  | _, _ => (word, rest)

/-- The value of a word. -/
def scalar? (word : List Char) : Option Setting :=
  if word = "true".toList then some (.bool true)
  else if word = "false".toList then some (.bool false)
  else
    match integer? word with
    | some n => some (.int n)
    | none =>
      match float? word with
      | some x => some (.float x)
      | none => (time? word).map .text

end Gatehouse.Toml
