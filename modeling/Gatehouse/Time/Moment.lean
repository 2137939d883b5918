import Gatehouse.Decimal.Shortest
import Gatehouse.Text.Blank

/-!
# Moments in time

A moment is a number of seconds since 1970 and a number of nanoseconds. A leap second is the second
before it with a whole second of nanoseconds more. `Moment.text` writes a moment in universal time,
and `Moment.read?` reads a date and a time with an offset.
-/

namespace Gatehouse

/-- A moment in time. -/
structure Moment where
  /-- Whole seconds since the start of 1970. -/
  seconds : Int
  /-- Nanoseconds after that; from `10 ^ 9` on in a leap second. -/
  nanos : Nat
  deriving DecidableEq, Repr, Inhabited

/-! ### The calendar -/

/-- A day of the calendar. -/
structure CalendarDay where
  year : Int
  month : Nat
  day : Nat
  deriving DecidableEq, Repr

namespace CalendarDay

/-- Whether a year has a leap day. -/
def isLeapYear (year : Int) : Bool :=
  year % 4 == 0 && (year % 100 != 0 || year % 400 == 0)

/-- The number of days of a month. -/
def daysInMonth (year : Int) (month : Nat) : Nat :=
  if month = 2 then (if isLeapYear year then 29 else 28)
  else if month = 4 ∨ month = 6 ∨ month = 9 ∨ month = 11 then 30
  else 31

/-- The years that dates may have. -/
def yearInRange (year : Int) : Bool :=
  -262143 ≤ year && year ≤ 262142

/-- Whether there is such a day. -/
def isValid (d : CalendarDay) : Bool :=
  yearInRange d.year && 1 ≤ d.month && d.month ≤ 12 && 1 ≤ d.day &&
    d.day ≤ daysInMonth d.year d.month

/-- The days from the start of 1970 to a day. Years are counted from March on, so that the leap
day is the last one. -/
def toDays (d : CalendarDay) : Int :=
  let y := if d.month ≤ 2 then d.year - 1 else d.year
  let era := y / 400
  let yearOfEra := y % 400
  let m : Int := (d.month + 9) % 12
  let dayOfYear := (153 * m + 2) / 5 + d.day - 1
  era * 146097 + (yearOfEra * 365 + yearOfEra / 4 - yearOfEra / 100 + dayOfYear) - 719468

/-- The day that is a number of days after the start of 1970. -/
def ofDays (n : Int) : CalendarDay :=
  let z := n + 719468
  let era := z / 146097
  let dayOfEra := z % 146097
  let yearOfEra := (dayOfEra - dayOfEra / 1460 + dayOfEra / 36524 - dayOfEra / 146096) / 365
  let dayOfYear := dayOfEra - (365 * yearOfEra + yearOfEra / 4 - yearOfEra / 100)
  let m := (5 * dayOfYear + 2) / 153
  let day := dayOfYear - (153 * m + 2) / 5 + 1
  let month := if m < 10 then m + 3 else m - 9
  ⟨yearOfEra + era * 400 + (if month ≤ 2 then 1 else 0), month.toNat, day.toNat⟩

end CalendarDay

namespace Moment

/-- The start of a second. -/
def ofSeconds (seconds : Int) : Moment :=
  ⟨seconds, 0⟩

/-- The microseconds since the start of 1970. -/
def micros (t : Moment) : Int :=
  t.seconds * 1000000 + t.nanos / 1000

/-! ### Writing -/

/-- A year: four digits, or a sign and at least four digits outside of the years 0 to 9999. -/
def yearText (year : Int) : String :=
  if 0 ≤ year ∧ year ≤ 9999 then Decimal.padded 4 year.toNat
  else (if year < 0 then "-" else "+") ++ Decimal.padded 4 year.natAbs

/-- Nanoseconds as a fraction of none, three, six or nine digits. -/
def fractionText (nanos : Nat) : String :=
  if nanos = 0 then ""
  else if nanos % 1000000 = 0 then "." ++ Decimal.padded 3 (nanos / 1000000)
  else if nanos % 1000 = 0 then "." ++ Decimal.padded 6 (nanos / 1000)
  else "." ++ Decimal.padded 9 nanos

/-- A moment in universal time. -/
def text (t : Moment) : String :=
  let date := CalendarDay.ofDays (t.seconds / 86400)
  let clock := (t.seconds % 86400).toNat
  let second := clock % 60 + t.nanos / 1000000000
  let two := Decimal.padded 2
  yearText date.year ++ "-" ++ two date.month ++ "-" ++ two date.day ++ "T" ++
    two (clock / 3600) ++ ":" ++ two (clock / 60 % 60) ++ ":" ++ two second ++
    fractionText (t.nanos % 1000000000) ++ "Z"

/-! ### Reading -/

/-- Reads a number of at most `width` digits after blanks. -/
def readNumber (width : Nat) (s : List Char) : Option (Nat × List Char) :=
  let s := Text.trimStart s
  let ds := (s.take width).takeWhile fun c => (Decimal.digit? c).isSome
  if ds = [] then none else some (Decimal.digitsValue ds, s.drop ds.length)

/-- Reads a number of at most two digits that lies in a range. -/
def readPart (low high : Nat) (s : List Char) : Option (Nat × List Char) :=
  (readNumber 2 s).filter fun r => low ≤ r.1 && r.1 ≤ high

/-- Reads a year: up to four digits, or a sign and any number of digits. -/
def readYear (s : List Char) : Option (Int × List Char) :=
  let signed := fun rest : List Char =>
    let (ds, rest) := Decimal.spanDigits rest
    if ds = [] then none else some ((Decimal.digitsValue ds : Int), rest)
  match Text.trimStart s with
  | '-' :: rest => (signed rest).map fun r => (-r.1, r.2)
  | '+' :: rest => signed rest
  | rest => (readNumber 4 rest).map fun r => ((r.1 : Int), r.2)

/-- Passes over a mark, with blanks before it. -/
def expect (mark : Char) (s : List Char) : Option (List Char) :=
  match Text.trimStart s with
  | c :: rest => if c = mark then some rest else none
  | [] => none

/-- Reads the nanoseconds after a point, if there is one. Digits after the ninth do not count. -/
def readFraction : List Char → Option (Nat × List Char)
  | '.' :: s =>
    let (ds, rest) := Decimal.spanDigits s
    if ds = [] then none
    else
      let used := ds.take 9
      some (Decimal.digitsValue used * Nat.pow 10 (9 - used.length), rest)
  | s => some (0, s)

/-- Reads a number of two digits. -/
def readTwo (s : List Char) : Option (Nat × List Char) :=
  match s with
  | a :: b :: rest =>
    match Decimal.digit? a, Decimal.digit? b with
    | some x, some y => some (x * 10 + y, rest)
    | _, _ => none
  | _ => none

/-- Reads the hours and minutes of an offset, in seconds. -/
def readOffsetParts (s : List Char) : Option (Int × List Char) := do
  let (hours, s) ← readTwo s
  let (minutes, s) ← readTwo (s.dropWhile fun c => c == ':' || Text.isBlank c)
  if minutes < 60 then some (((hours * 3600 + minutes * 60 : Nat) : Int), s) else none

/-- Reads an offset from universal time, in seconds. -/
def readOffset (s : List Char) : Option (Int × List Char) :=
  let s := Text.trimStart s
  if (s.take 3).map Char.toUpper = ['U', 'T', 'C'] then some (0, s.drop 3)
  else
    match s with
    | 'Z' :: rest | 'z' :: rest => some (0, rest)
    | '+' :: rest => readOffsetParts rest
    | '-' :: rest | '\u2212' :: rest => (readOffsetParts rest).map fun r => (-r.1, r.2)
    | _ => none

/-- Reads a date. -/
def readDate (s : List Char) : Option (CalendarDay × List Char) := do
  let (year, s) ← readYear s
  let s ← expect '-' s
  let (month, s) ← readPart 1 12 s
  let s ← expect '-' s
  let (day, s) ← readPart 1 31 s
  let date : CalendarDay := ⟨year, month, day⟩
  if date.isValid then some (date, s) else none

/-- Reads a time of day: its seconds and nanoseconds. The second 60 is a leap second. -/
def readClock (s : List Char) : Option (Nat × Nat × List Char) := do
  let (hour, s) ← readPart 0 23 s
  let s ← expect ':' s
  let (minute, s) ← readPart 0 59 s
  let s ← expect ':' s
  let (second, s) ← readPart 0 60 s
  let (nanos, s) ← readFraction s
  let leap := second / 60
  pure (hour * 3600 + minute * 60 + (second - leap), nanos + leap * 1000000000, s)

/-- Reads a moment: a date, a `T` or one blank, a time of day and an offset from universal time. -/
def readChars (s : List Char) : Option Moment := do
  let (date, s) ← readDate s
  let s ← match s with
    | c :: rest => if c = 't' ∨ c = 'T' ∨ c = ' ' then some rest else none
    | [] => none
  let (clock, nanos, s) ← readClock s
  let (offset, s) ← readOffset s
  if !(Text.trimStart s).isEmpty || 86400 ≤ offset.natAbs then none
  else
    let t : Moment := ⟨date.toDays * 86400 + clock - offset, nanos⟩
    if CalendarDay.yearInRange (CalendarDay.ofDays (t.seconds / 86400)).year then some t else none

/-- Reads a moment from a text. -/
def read? (s : String) : Option Moment :=
  readChars s.toList

end Moment

end Gatehouse
