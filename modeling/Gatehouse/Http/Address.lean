import Gatehouse.Text.Blank

/-!
# Addresses of requests

A request is sent to an address: a scheme, an authority, and what is asked for there. The address of
a request is checked apart from what a URL is, and for less: `Address.fault?` says why no request
can be sent to an address, and `Address.localPart` is what is asked for.
-/

namespace Gatehouse

/-- Why no request can be sent to an address. -/
inductive AddressFault where
  | tooLong
  | longScheme
  | badCharacter
  | badAuthority
  | badFormat
  deriving DecidableEq, Repr

/-- The text of a fault. -/
def AddressFault.message : AddressFault → String
  | .tooLong => "uri too long"
  | .longScheme => "scheme too long"
  | .badCharacter => "invalid uri character"
  | .badAuthority => "invalid authority"
  | .badFormat => "invalid format"

namespace Address

/-- Whether a character may stand in the scheme. -/
def isSchemeChar (c : Char) : Bool :=
  c.isAlphanum || "+-.~".toList.contains c

/-- Cuts the scheme from what follows its slashes. Any characters of a scheme will do, and even none
at all. -/
def cutScheme? (s : List Char) : Option (List Char × List Char) :=
  match s.dropWhile isSchemeChar with
  | ':' :: '/' :: '/' :: rest => some (s.takeWhile isSchemeChar, rest)
  | _ => none

/-- Whether a character ends the authority. -/
def endsAuthority (c : Char) : Bool :=
  c == '/' || c == '?' || c == '#'

/-- What is asked for at an address: all but the scheme and the authority. -/
def localPart (s : List Char) : List Char :=
  match cutScheme? s with
  | none => s
  | some (_, rest) =>
    match rest.dropWhile (!endsAuthority ·) with
    | '/' :: path => '/' :: path
    | rest => '/' :: rest

/-! ### Authorities -/

/-- Whether a character may stand in an authority, escapes apart. -/
def isAuthorityChar (c : Char) : Bool :=
  c.isAlphanum || "!$&'()*+,-.:;=@[]_~".toList.contains c

/-- What was seen of an authority. -/
structure AuthoritySeen where
  /-- The colons since the latest user information or bracket. -/
  colons : Nat
  opened : Bool
  closed : Bool
  /-- Whether there is an escape in what may be the host. -/
  escaped : Bool
  /-- Whether the latest character ends user information. -/
  atHost : Bool

/-- Goes over one character of an authority. -/
def AuthoritySeen.step (a : AuthoritySeen) (c : Char) : Except AddressFault AuthoritySeen :=
  let a := { a with atHost := c == '@' }
  if c = '%' then .ok { a with escaped := true }
  else if !isAuthorityChar c then .error .badCharacter
  else if c = ':' then
    if 8 ≤ a.colons then .error .badAuthority else .ok { a with colons := a.colons + 1 }
  else if c = '[' then
    if a.escaped ∨ a.opened then .error .badAuthority else .ok { a with opened := true }
  else if c = ']' then
    if !a.opened ∨ a.closed then .error .badAuthority
    else .ok { a with closed := true, colons := 0, escaped := false }
  else if c = '@' then .ok { a with colons := 0, escaped := false }
  else .ok a

/-- Why a text is no authority. -/
def authorityFault? (s : List Char) : Option AddressFault :=
  match s.foldlM AuthoritySeen.step ⟨0, false, false, false, false⟩ with
  | .error fault => some fault
  | .ok a =>
    if a.opened ≠ a.closed ∨ 1 < a.colons ∨ a.atHost ∨ a.escaped then some .badAuthority else none

/-! ### Whole addresses -/

/-- The characters that the scheme has at most. -/
def maxScheme : Nat := 64

/-- The bytes that an address has at most. -/
def maxBytes : Nat := 65534

/-- Why no request can be sent to an address whose path and query are well formed. -/
def fault? (s : String) : Option AddressFault :=
  if maxBytes < s.utf8ByteSize then some .tooLong
  else
    match cutScheme? s.toList with
    | none =>
      let authority := s.toList.takeWhile (!endsAuthority ·)
      (authorityFault? authority).or
        (if authority.length = s.length then none else some .badFormat)
    | some (scheme, rest) =>
      let authority := rest.takeWhile (!endsAuthority ·)
      if maxScheme < scheme.length then some .longScheme
      else (authorityFault? authority).or (if authority.isEmpty then some .badFormat else none)

end Address

end Gatehouse
