import Gatehouse.Decimal.Shortest
import Gatehouse.Text.Form
import Gatehouse.Url.Domain

/-!
# Hosts

A host is a name, four numbers, or a text in brackets for an address of 128 bits. On the web a name
is a domain name, and one whose last label is a number has to be four numbers, each of which may be
left out from the right end but for the last, which then fills the rest.
-/

namespace Gatehouse

open Decimal

/-- Why a text is no URL. -/
inductive UrlFault where
  | relative
  | emptyHost
  | hostName
  | hostCharacter
  | port
  | ipv4
  | ipv6
  deriving DecidableEq, Repr

/-- The text of a fault. -/
def UrlFault.message : UrlFault → String
  | .relative => "relative URL without a base"
  | .emptyHost => "empty host"
  | .hostName => "invalid international domain name"
  | .hostCharacter => "invalid domain character"
  | .port => "invalid port number"
  | .ipv4 => "invalid IPv4 address"
  | .ipv6 => "invalid IPv6 address"

namespace Host

/-! ### Four numbers -/

/-- The value of digits in a base; none if one of them is no digit. -/
def valueIn? (base : Nat) (ds : List Char) : Option Nat :=
  ds.foldlM (fun n c =>
    (Percent.digitValue? (UInt8.ofNat c.toNat)).bind fun d =>
      if d.toNat < base ∧ c.toNat < 128 then some (base * n + d.toNat) else none) 0

/-- Reads a number: hexadecimal after `0x`, octal after `0`, else decimal. -/
def number? : List Char → Option Nat
  | '0' :: 'x' :: ds | '0' :: 'X' :: ds => valueIn? 16 ds
  | '0' :: d :: ds => valueIn? 8 (d :: ds)
  | d :: ds => valueIn? 10 (d :: ds)
  | [] => none

/-- The labels of a name; one empty label at the end does not count. -/
def labels (name : List Char) : List (List Char) :=
  let all := Text.pieces '.' name
  if 1 < all.length ∧ all.getLast? = some [] then all.dropLast else all

/-- Whether the last label of a name is a number. -/
def endsInNumber (name : List Char) : Bool :=
  match (labels name).getLast? with
  | none | some [] => false
  | some label => label.all Char.isDigit || (label.take 2 ∈ [['0', 'x'], ['0', 'X']] &&
      (number? label).isSome)

/-- The number of 32 bits that some numbers stand for: each is one byte, but for the last, which
fills what is left. -/
def joinNumbers? : Nat → List Nat → Option Nat
  | _, [] => none
  | room, [n] => if n < Nat.pow 256 room then some n else none
  | room, n :: ns =>
    if n < 256 then (joinNumbers? (room - 1) ns).map (n * Nat.pow 256 (room - 1) + ·) else none

/-- Reads an address of 32 bits. -/
def address32? (name : List Char) : Option Nat :=
  let parts := labels name
  if 4 < parts.length then none else (parts.mapM number?).bind (joinNumbers? 4)

/-- The text of an address of 32 bits. -/
def address32Text (n : Nat) : String :=
  ".".intercalate ([3, 2, 1, 0].map fun i => natText (n / Nat.pow 256 i % 256))

/-! ### Addresses of 128 bits -/

/-- Reads a group of one to four hexadecimal digits. -/
def group? (ds : List Char) : Option Nat :=
  if ds.isEmpty ∨ 4 < ds.length then none else valueIn? 16 ds

/-- Reads four decimal numbers without needless zeros as two groups. -/
def quad? (s : List Char) : Option (List Nat) :=
  let parts := Text.pieces '.' s
  let isPlain := fun ds : List Char =>
    !ds.isEmpty && ds.length ≤ 3 && ds.all Char.isDigit && (ds.length == 1 || ds.head? != some '0')
  if parts.length = 4 ∧ parts.all isPlain then
    match parts.mapM (valueIn? 10) with
    | some [a, b, c, d] =>
      if a < 256 ∧ b < 256 ∧ c < 256 ∧ d < 256 then some [256 * a + b, 256 * c + d] else none
    | _ => none
  else none

/-- Reads groups; the last may be four decimal numbers. -/
def groups? : List (List Char) → Option (List Nat)
  | [] => some []
  | [last] => if last.contains '.' then quad? last else (group? last).map ([·])
  | g :: gs => do pure ((← group? g) :: (← groups? gs))

/-- Cuts a text at the first two colons. -/
def cutGap? : List Char → Option (List Char × List Char)
  | ':' :: ':' :: rest => some ([], rest)
  | c :: rest => (cutGap? rest).map fun p => (c :: p.1, p.2)
  | [] => none

/-- Reads the groups of a text that may be empty. -/
def groupsOf? (s : List Char) : Option (List Nat) :=
  if s.isEmpty then some [] else groups? (Text.pieces ':' s)

/-- Reads an address of 128 bits: eight groups, of which a run of zeros may be left out. -/
def address128? (s : List Char) : Option (List Nat) :=
  match cutGap? s with
  | none => (groupsOf? s).filter fun gs => gs.length = 8
  | some (before, after) => do
    let front ← groupsOf? before
    let back ← groupsOf? after
    if before.contains '.' ∨ 7 < front.length + back.length then none
    else pure (front ++ List.replicate (8 - front.length - back.length) 0 ++ back)

/-- The place and the length of the first longest run of zeros among groups. -/
def longestGap : Nat → List Nat → Nat × Nat
  | _, [] => (0, 0)
  | place, g :: gs =>
    let here := ((g :: gs).takeWhile (· == 0)).length
    let (later, length) := longestGap (place + 1) gs
    if length ≤ here ∧ 0 < here then (place, here) else (later, length)

/-- The hexadecimal text of a group. -/
def groupText (n : Nat) : String :=
  String.ofList (Nat.toDigits 16 n)

/-- The text of an address of 128 bits, with the longest run of two or more zeros left out. -/
def address128Text (gs : List Nat) : String :=
  let join := fun gs : List Nat => ":".intercalate (gs.map groupText)
  let (place, length) := longestGap 0 gs
  if length < 2 then "[" ++ join gs ++ "]"
  else "[" ++ join (gs.take place) ++ "::" ++ join (gs.drop (place + length)) ++ "]"

/-! ### Any host -/

/-- Reads a domain name or four numbers. -/
def readName (s : List Char) : Except UrlFault String :=
  match (Text.ofUtf8? (Percent.decode (Text.utf8 (String.ofList s)))).bind fun name =>
    Domain.toAscii? name.toList with
  | none => .error .hostName
  | some [] => .error .emptyHost
  | some name =>
    if endsInNumber name then
      match address32? name with
      | some n => .ok (address32Text n)
      | none => .error .ipv4
    else .ok (String.ofList name)

/-- Whether no host outside the web has a character. -/
def isForbidden (c : Char) : Bool :=
  "\x00\t\n\r #/:<>?@[\\]^|".toList.contains c

/-- Reads a name outside the web, which is kept but for escapes. -/
def readOpaque (s : List Char) : Except UrlFault String :=
  if s.any isForbidden then .error .hostCharacter else .ok (Percent.escapeControls s)

/-- Reads a host that is not in brackets in a given way. -/
def readWith (readOther : List Char → Except UrlFault String) (s : List Char) :
    Except UrlFault String :=
  match s with
  | '[' :: rest =>
    match (if rest.getLast? = some ']' then address128? rest.dropLast else none) with
    | some gs => .ok (address128Text gs)
    | none => .error .ipv6
  | s => readOther s

end Host

end Gatehouse
