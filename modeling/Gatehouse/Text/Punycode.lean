import Gatehouse.Text.Blank

/-!
# Punycode

A label of letters beyond ASCII is written in ASCII: first the ASCII characters of the label, then,
after a hyphen, where the others stand. They come in ascending order, each as the distance from the
one before it, counted over all characters and all places. Distances are numbers in a base of 36
whose digits have thresholds, so that no mark is needed between two numbers; the thresholds follow
the size of the latest distance.
-/

namespace Gatehouse.Punycode

/-- The hyphen between the two parts. -/
def mark : Char := '-'

/-- The digit of a value below 36: a letter, then a decimal digit. -/
def digit (n : Nat) : Char :=
  Char.ofNat (if n < 26 then 0x61 + n else 0x16 + n)

/-- The value of a digit. -/
def digitValue? (c : Char) : Option Nat :=
  if c.isDigit then some (c.toNat - 0x16)
  else if c.isAlpha then some (c.toLower.toNat - 0x61)
  else none

/-- The threshold of a digit, by its place, which counts from one. A smaller digit is the last of
its number. -/
def threshold (place bias : Nat) : Nat :=
  min 26 (max 1 (36 * place - bias))

theorem threshold_pos (place bias : Nat) : 0 < threshold place bias := by
  unfold threshold
  omega

theorem threshold_le (place bias : Nat) : threshold place bias ≤ 26 := by
  unfold threshold
  omega

/-- The bias that a distance leads to, after it was scaled down. -/
def biasOf (distance : Nat) : Nat :=
  if 455 < distance then 36 + biasOf (distance / 35) else 36 * distance / (distance + 38)
termination_by distance

/-- The bias after a number of characters, of which the latest has a distance. -/
def adapt (distance count : Nat) (isFirst : Bool) : Nat :=
  let scaled := if isFirst then distance / 700 else distance / 2
  biasOf (scaled + scaled / count)

/-! ### Writing -/

/-- The digits of a number from a place on. -/
def writeNumber (bias place n : Nat) : List Char :=
  let t := threshold place bias
  if n < t then [digit n]
  else digit (t + (n - t) % (36 - t)) :: writeNumber bias (place + 1) ((n - t) / (36 - t))
termination_by n
decreasing_by
  have := threshold_pos place bias
  have := threshold_le place bias
  exact Nat.lt_of_le_of_lt (Nat.div_le_self _ _) (by omega)

/-- What was written so far. -/
structure Progress where
  /-- The distance from the latest character. -/
  distance : Nat
  bias : Nat
  /-- How many characters are written. -/
  count : Nat
  /-- What stands after the hyphen. -/
  written : List Char

/-- Goes over one character of a label while the characters of one value are written. -/
def Progress.step (ascii value : Nat) (p : Progress) (c : Char) : Progress :=
  if c.toNat < value then { p with distance := p.distance + 1 }
  else if c.toNat = value then
    ⟨0, adapt p.distance (p.count + 1) (p.count == ascii), p.count + 1,
      p.written ++ writeNumber p.bias 1 p.distance⟩
  else p

/-- Writes the characters of ascending values; the values below `low` are done. -/
def writeValues (label : List Char) (ascii : Nat) : Nat → List Nat → Progress → List Char
  | _, [], p => p.written
  | low, value :: values, p =>
    let here := { p with distance := p.distance + (value - low) * (p.count + 1) }
    let done := label.foldl (Progress.step ascii value) here
    writeValues label ascii (value + 1) values { done with distance := done.distance + 1 }

/-- Whether a character is beyond ASCII. -/
def isBeyond (c : Char) : Bool :=
  0x80 ≤ c.toNat

/-- The values of the characters beyond ASCII, in ascending order. -/
def values (label : List Char) : List Nat :=
  (((label.filter isBeyond).map (·.toNat)).mergeSort).eraseDups

/-- Writes a label. -/
def encode (label : List Char) : List Char :=
  let ascii := label.filter (!isBeyond ·)
  let start := if ascii.isEmpty then [] else ascii ++ [mark]
  start ++ writeValues label ascii.length 0x80 (values label) ⟨0, 72, ascii.length, []⟩

/-! ### Reading -/

/-- Reads a number from a place on, whose digit has a weight. -/
def readNumber? (bias : Nat) : Nat → Nat → List Char → Option (Nat × List Char)
  | _, _, [] => none
  | place, weight, c :: rest =>
    match digitValue? c with
    | none => none
    | some d =>
      let t := threshold place bias
      if d < t then some (d * weight, rest)
      else (readNumber? bias (place + 1) (weight * (36 - t)) rest).map fun p =>
        (d * weight + p.1, p.2)

/-- Reads what stands after the hyphen and puts it in its places. The search for the next place
starts at `start`, and with characters of `value`. The length of the text bounds the fuel. -/
def readValues? : Nat → Nat → Nat → Nat → List Char → List Char → Option (List Char)
  | _, _, _, _, label, [] => some label
  | 0, _, _, _, _, _ :: _ => none
  | fuel + 1, bias, start, value, label, s =>
    match readNumber? bias 1 1 s with
    | none => none
    | some (distance, rest) =>
      let count := label.length + 1
      let next := value + (start + distance) / count
      let place := (start + distance) % count
      if next.isValidChar then
        readValues? fuel (adapt distance count (start == 0)) (place + 1) next
          (label.insertIdx place (Char.ofNat next)) rest
      else none

/-- Reads a label. -/
def decode? (s : List Char) : Option (List Char) :=
  let (ascii, rest) := (Text.cutLast? mark s).getD ([], s)
  if ascii.isEmpty ∧ s.contains mark then none
  else readValues? rest.length 72 0 0x80 ascii rest

end Gatehouse.Punycode
