import Gatehouse.Base64
import Gatehouse.Hash.Sha256
import Gatehouse.Json.Decode
import Gatehouse.Text.Blank
import Gatehouse.Json.Printer

/-!
# Signed tokens

A signed token is a header, a payload and a signature, all in base64 and separated by dots. The
signature is the keyed digest of everything before the last dot. `open?` checks a token in a fixed
order: its three parts, the header, the algorithm, the signature, and the text of the payload.

The registered claims of a payload are read leniently: after a claim that cannot be read, reading
goes on where it stopped. The token is refused only if that is in the middle of something.
-/

namespace Gatehouse.Envelope

open Decoder

/-- Why a signed token was not opened. -/
inductive Fault where
  /-- There are no three parts. -/
  | parts
  | base64
  | json
  | algorithm
  | signature
  deriving DecidableEq, Repr

/-- The text of a fault. -/
def Fault.message : Fault → String
  | .parts => "InvalidToken"
  | .base64 => "Base64 error"
  | .json => "JSON error"
  | .algorithm => "InvalidAlgorithm"
  | .signature => "InvalidSignature"

/-- The algorithm that tokens are signed with. -/
def algorithm : String := "HS256"

/-- The names of all algorithms that a header may carry. -/
def algorithms : List String :=
  ["HS256", "HS384", "HS512", "ES256", "ES384", "RS256", "RS384", "RS512", "PS256", "PS384",
    "PS512", "EdDSA"]

/-- A name from a list. -/
def oneOf (names : List String) : Decoder String :=
  choice fun s => if s ∈ names then some s else none

/-! ### Keys in a header -/

/-- The names of the elliptic curves. -/
def curves : List String :=
  ["P-256", "P-384", "P-521", "Ed25519"]

/-- A member that a key may have: its name, and whether a value fits. -/
structure KeyMember where
  name : String
  fits : Json → Bool

/-- Whether a value is a text. -/
def isText : Json → Bool
  | .str _ => true
  | _ => false

/-- Whether a value is a list of texts. -/
def isTextList : Json → Bool
  | .arr items => items.all isText
  | _ => false

/-- Whether a value is a known name: the name, or an object of the name and a value that says
nothing. -/
def isName (isKnown : String → Bool) (isNothing : Json → Bool) : Json → Bool
  | .str s => isKnown s
  | .obj [(s, j)] => isKnown s && isNothing j
  | _ => false

/-- Whether a value is `null`. -/
def isNull : Json → Bool
  | .null => true
  | _ => false

/-- Whether a value is `null` or an object without members. -/
def isNullOrEmpty : Json → Bool
  | .null => true
  | .obj [] => true
  | _ => false

/-- A member whose value may also be `null`. -/
def orNull (name : String) (fits : Json → Bool) : KeyMember :=
  ⟨name, fun j => isNull j || fits j⟩

/-- The members that every key may have. A key may be meant for any algorithm. -/
def commonMembers : List KeyMember :=
  [orNull "use" isText, orNull "key_ops" isTextList,
    orNull "alg" (isName (fun _ => true) isNullOrEmpty), orNull "kid" isText, orNull "x5u" isText,
    orNull "x5c" isTextList, orNull "x5t" isText, orNull "x5t#S256" isText]

/-- A member that holds a name from a list. -/
def named (name : String) (names : List String) : KeyMember :=
  ⟨name, isName (· ∈ names) isNull⟩

/-- The kinds of keys with the members that they need. -/
def keyKinds : List (List KeyMember) :=
  [[named "kty" ["EC"], named "crv" curves, ⟨"x", isText⟩, ⟨"y", isText⟩],
    [named "kty" ["RSA"], ⟨"n", isText⟩, ⟨"e", isText⟩],
    [named "kty" ["oct"], ⟨"k", isText⟩],
    [named "kty" ["OKP"], named "crv" curves, ⟨"x", isText⟩]]

/-- The values that a key has for a member. -/
def valuesOf (members : List (String × Json)) (m : KeyMember) : List Json :=
  (members.filter (·.1 == m.name)).map (·.2)

/-- Whether a key has a member at most once, and then with a fitting value. -/
def mayHave (members : List (String × Json)) (m : KeyMember) : Bool :=
  match valuesOf members m with
  | [] => true
  | [j] => m.fits j
  | _ => false

/-- Whether a key has a member once, with a fitting value. -/
def has (members : List (String × Json)) (m : KeyMember) : Bool :=
  match valuesOf members m with
  | [j] => m.fits j
  | _ => false

/-- Whether the members of an object are those of a key: the common ones and all of one kind. -/
def isKey (members : List (String × Json)) : Bool :=
  commonMembers.all (mayHave members) && keyKinds.any fun kind => kind.all (has members)

/-- Reads a key. -/
def key : Decoder Unit := do
  match ← peek with
  | some '\x7b' =>
    match ← raw with
    | .obj members => if isKey members then pure () else unfit
    | _ => unfit
  | _ => mismatch

/-! ### Headers -/

/-- The members of a header. -/
def headerShape : List Member :=
  [member "typ" (option text), member "alg" (oneOf algorithms), member "cty" (option text),
    member "jku" (option text), member "jwk" (option key), member "kid" (option text),
    member "x5u" (option text), member "x5c" (option (list text)), member "x5t" (option text),
    member "x5t#S256" (option text)]

/-- Reads the algorithm of a header. -/
def headerAlgorithm : Decoder String := do
  let found ← entries headerShape 10
  found.needed "alg" (oneOf algorithms)

/-- The header of the tokens that are issued. -/
def header : Json :=
  .obj [("typ", .str "JWT"), ("alg", .str algorithm)]

/-! ### Registered claims -/

/-- Passes over a claim, and minds no fault in it. -/
def lenient {α : Type} (decode : Decoder α) : Decoder Unit := do
  let _ ← settle decode
  pure ()

/-- Reads a time: anything but an array or an object with something in it. -/
def time : Decoder Unit := do
  match ← peek with
  | some '[' => enclosed ']' unfit
  | some '\x7b' => enclosed '\x7d' unfit
  | _ => mismatch

/-- The registered claims. -/
def registeredShape : List Member :=
  [⟨"exp", lenient time⟩, ⟨"nbf", lenient time⟩, ⟨"sub", lenient (option text)⟩,
    ⟨"iss", lenient raw⟩, ⟨"aud", lenient raw⟩]

/-- Checks that the registered claims of a payload can be passed over. -/
def registered : Decoder Unit := do
  let _ ← entries registeredShape 5
  pure ()

/-! ### Tokens -/

/-- The base64 text of a JSON value. -/
def encodeJson (j : Json) : String :=
  Base64.encode Base64.urlSafe (Text.utf8 j.render)

/-- The signature of a text. -/
def signature (secret : Bytes) (message : String) : String :=
  Base64.encode Base64.urlSafe (Sha256.keyed secret (Text.utf8 message))

/-- The signed token of a payload. -/
def sign (secret : Bytes) (payload : Json) : String :=
  let message := encodeJson header ++ "." ++ encodeJson payload
  message ++ "." ++ signature secret message

/-- Reads a value out of a base64 text. -/
def decodePart {α : Type} (decode : Decoder α) (part : String) : Except Fault α :=
  match Base64.decode? Base64.urlSafe part with
  | none => .error .base64
  | some bytes => (decode.runBytes bytes).mapError fun _ => .json

/-- The header, the payload and the signature of a token. -/
def parts? (token : String) : Option (String × String × String) :=
  match Text.cutLast? '.' token.toList with
  | none => none
  | some (message, sig) =>
    match Text.cutLast? '.' message with
    | none => none
    | some (head, payload) => some (String.ofList head, String.ofList payload, String.ofList sig)

/-- Opens a token: its payload if the signature is right. -/
def open? {α : Type} (secret : Bytes) (decode : Decoder α) (token : String) : Except Fault α :=
  match parts? token with
  | none => .error .parts
  | some (head, payload, sig) => do
    let named ← decodePart headerAlgorithm head
    if named ≠ algorithm then .error .algorithm
    else if sig ≠ signature secret (head ++ "." ++ payload) then .error .signature
    else
      let claims ← decodePart decode payload
      let _ ← decodePart registered payload
      pure claims

end Gatehouse.Envelope
