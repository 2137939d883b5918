import Gatehouse.Text.Printable
import Gatehouse.Text.Punycode

/-!
# Domain names

A domain name is a row of labels between dots. Its form in ASCII has letters in lower case, and
Punycode after the mark `xn--` for every label with characters beyond ASCII. Such a label has
printable characters only, and does not start with one that extends the character before it. What
has the mark already has to be the Punycode of such a label.
-/

namespace Gatehouse.Domain

/-- The ASCII characters that no name has. -/
def isForbidden (c : Char) : Bool :=
  c ≤ ' ' || c == '\x7f' || "#/:<>?@[\\]^|%".toList.contains c

/-- The ranges of the characters that do not count in a name. -/
def ignoredRanges : List (Nat × Nat) :=
  [(0xad, 0xad), (0x34f, 0x34f), (0x180b, 0x180d), (0x180f, 0x180f), (0x200b, 0x200b),
   (0x2060, 0x2064), (0xfe00, 0xfe0f), (0xfeff, 0xfeff), (0xe0100, 0xe01ef)]

/-- A character as it counts in a name: ASCII characters of full width count as ASCII characters,
and an ideographic full stop as a dot. -/
def fold (c : Char) : List Char :=
  let n := c.toNat
  if 0xff01 ≤ n ∧ n ≤ 0xff5e then [(Char.ofNat (n - 0xfee0)).toLower]
  else if n = 0x3002 ∨ n = 0xff61 then ['.']
  else if Text.inRanges ignoredRanges n then []
  else [c.toLower]

/-- The mark of a label in Punycode. -/
def mark : List Char := "xn--".toList

/-- Whether a label beyond ASCII is one of a name. -/
def isLabel (label : List Char) : Bool :=
  label.any Punycode.isBeyond && label.all Text.isPrintable && !label.head?.any Text.isExtending

/-- The form of a label in ASCII. -/
def labelToAscii? (label : List Char) : Option (List Char) :=
  if mark.isPrefixOf label then
    if (Punycode.decode? (label.drop mark.length)).any isLabel then some label else none
  else if label.all (!Punycode.isBeyond ·) then some label
  else if isLabel label then some (mark ++ Punycode.encode label)
  else none

/-- The form of a name in ASCII. -/
def toAscii? (name : List Char) : Option (List Char) :=
  let labels := Text.pieces '.' (name.flatMap fold)
  ((labels.mapM labelToAscii?).map (List.intercalate ['.'])).filter fun name =>
    !name.any isForbidden

end Gatehouse.Domain
