import Gatehouse.Base64
import Gatehouse.Decimal.Integer
import Gatehouse.Password.Argon2
import Gatehouse.Text.Blank

/-!
# Stored password digests

A digest is stored as a text of fields, each after a dollar sign: the name of the method, its
version, named parameters, the salt and the result. All but the name may be missing. A digest
carries everything that is needed to compute it again.
-/

namespace Gatehouse

/-- What is wrong with a value. -/
inductive ValueFault where
  | tooShort
  | tooLong
  | badChar (c : Char)
  | badFormat
  | malformed
  deriving DecidableEq, Repr

/-- The text of a fault. -/
def ValueFault.message : ValueFault → String
  | .tooShort => "value to short"
  | .tooLong => "value to long"
  | .badChar c => "contains invalid character: '" ++ String.ofList [c] ++ "'"
  | .badFormat => "value format is invalid"
  | .malformed => "value malformed"

/-- What is wrong with a stored digest. -/
inductive DigestFault where
  | missingField
  | trailingField
  | name
  | parameter (fault : ValueFault)
  | salt (fault : ValueFault)
  | tooManyParameters
  | base64
  | base64Length
  | resultTooShort
  | method
  | version
  | password
  deriving DecidableEq, Repr

/-- The text of a fault. -/
def DigestFault.message : DigestFault → String
  | .missingField => "password hash string missing field"
  | .trailingField => "password hash string contains trailing characters"
  | .name => "invalid parameter name"
  | .parameter fault => "invalid parameter value: " ++ fault.message
  | .salt fault => "salt invalid: " ++ fault.message
  | .tooManyParameters => "maximum number of parameters reached"
  | .base64 => "invalid Base64 encoding"
  | .base64Length => "invalid Base64 length"
  | .resultTooShort => "output size too short, expected at least 10 bytes"
  | .method => "unsupported algorithm"
  | .version => "invalid algorithm version"
  | .password => "invalid password"

/-- A stored digest. -/
structure PasswordDigest where
  method : String
  version : Option Nat
  parameters : List (String × String)
  salt : Option String
  result : Option Bytes
  deriving DecidableEq, Repr

namespace PasswordDigest

/-! ### Writing -/

/-- The text of a digest. -/
def text (d : PasswordDigest) : String :=
  "$" ++ d.method ++
    (match d.version with
      | none => ""
      | some v => "$v=" ++ Decimal.natText v) ++
    (if d.parameters = [] then ""
      else "$" ++ ",".intercalate (d.parameters.map fun p => p.1 ++ "=" ++ p.2)) ++
    (match d.salt with
      | none => ""
      | some s => "$" ++ s) ++
    (match d.result with
      | none => ""
      | some bytes => "$" ++ Base64.encode Base64.standard bytes)

/-! ### Reading -/

/-- Whether a character may stand in a name. -/
def isNameChar (c : Char) : Bool :=
  c.isLower || c.isDigit || c == '-'

/-- Whether a character may stand in a value. -/
def isValueChar (c : Char) : Bool :=
  c.isAlphanum || c == '/' || c == '+' || c == '.' || c == '-'

/-- The number of bytes of a text. -/
def byteLength (s : List Char) : Nat :=
  (Text.utf8 (String.ofList s)).length

/-- Reads a name. -/
def readName (s : List Char) : Except DigestFault String :=
  if s = [] ∨ 32 < byteLength s ∨ !s.all isNameChar then .error .name
  else .ok (String.ofList s)

/-- Reads a value of up to 64 characters. -/
def readValue (s : List Char) : Except ValueFault String :=
  if 64 < byteLength s then .error .tooLong
  else
    match s.find? fun c => !isValueChar c with
    | some c => .error (.badChar c)
    | none => .ok (String.ofList s)

/-- Reads a value that is a number of 32 bits without leading zeros. -/
def readNumber (s : List Char) : Except ValueFault Nat :=
  if s = [] then .error .malformed
  else
    match s.find? fun c => !c.isDigit with
    | some c => .error (.badChar c)
    | none =>
      if s.head? = some '0' ∧ 1 < s.length then .error .badFormat
      else
        match Decimal.readDigits 4294967295 .tooLarge 0 s with
        | .ok n => .ok n
        | .error _ => .error .badFormat

/-- Reads a parameter: a name and a value around an equals sign. -/
def readParameter (s : List Char) : Except DigestFault (String × String) :=
  match Text.pieces '=' s with
  | [] => .error .name
  | name :: rest => do
    let name ← readName name
    match rest with
    | [] => .error (.parameter .malformed)
    | value :: more =>
      let value ← (readValue value).mapError .parameter
      if more = [] then .ok (name, value) else .error (.parameter .malformed)

/-- Reads parameters one after the other. -/
def readParameters : List (List Char) → Except DigestFault (List (String × String))
  | [] => .ok []
  | p :: rest => do
    let first ← readParameter p
    let others ← readParameters rest
    pure (first :: others)

/-- Reads a salt of 4 to 64 characters. -/
def readSalt (s : List Char) : Except DigestFault String :=
  if byteLength s < 4 then .error (.salt .tooShort)
  else (readValue s).mapError .salt

/-- The bytes of a value in base64 of at most `limit` bytes. -/
def readBytes (limit : Nat) (s : List Char) : Except DigestFault Bytes :=
  let n := byteLength s
  if limit < n / 4 * 3 + n % 4 * 3 / 4 then .error .base64Length
  else
    match Base64.decodeChars Base64.standard s with
    | none => .error .base64
    | some bytes => .ok bytes

/-- Reads the result, of 10 to 64 bytes. -/
def readResult (s : List Char) : Except DigestFault Bytes := do
  let bytes ← readBytes 64 s
  if bytes.length < 10 then .error .resultTooShort else .ok bytes

/-- Reads the salt and the result, which end a digest. -/
def readEnd : List (List Char) → Except DigestFault (Option String × Option Bytes)
  | [] => .ok (none, none)
  | salt :: rest => do
    let salt ← readSalt salt
    match rest with
    | [] => .ok (some salt, none)
    | result :: more =>
      let result ← readResult result
      if more = [] then .ok (some salt, some result) else .error .trailingField

/-- Reads the parameters, if there are any, and what follows. -/
def readTail (method : String) (version : Option Nat) :
    List (List Char) → Except DigestFault PasswordDigest
  | [] => .ok ⟨method, version, [], none, none⟩
  | field :: rest =>
    if '=' ∈ field then
      if 127 < byteLength field then .error .tooManyParameters
      else do
        let parameters ← readParameters (Text.pieces ',' field)
        let (salt, result) ← readEnd rest
        pure ⟨method, version, parameters, salt, result⟩
    else do
      let (salt, result) ← readEnd (field :: rest)
      pure ⟨method, version, [], salt, result⟩

/-- Reads a digest. -/
def read (s : String) : Except DigestFault PasswordDigest :=
  match Text.pieces '$' s.toList with
  | [] :: method :: rest => do
    let method ← readName method
    match rest with
    | ('v' :: '=' :: version) :: rest' =>
      if ',' ∈ version then readTail method none rest
      else
        let text ← (readValue version).mapError .parameter
        let version ← (readNumber text.toList).mapError .parameter
        readTail method (some version) rest'
    | rest => readTail method none rest
  | _ => .error .missingField

end PasswordDigest

end Gatehouse
