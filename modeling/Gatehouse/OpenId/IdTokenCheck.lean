import Gatehouse.Federation.Provider
import Gatehouse.OpenId.KeySet
import Gatehouse.Token.Envelope
import Gatehouse.Url.Basic

/-!
# Checking ID tokens

An ID token is accepted if its provider issued it for this client, it is signed with a key of the
provider, it has not expired, and it carries the nonce of the sign-in. The claims that it has
besides are taken over as they are.
-/

namespace Gatehouse

/-- Why an ID token was refused. -/
inductive IdTokenFault where
  | malformed
  | unsupported (what : String)
  | issuer (found : String)
  | audience (found : String)
  | signature
  | expired
  | nonce (reason : String)
  deriving DecidableEq, Repr

/-- The text of a fault. -/
def IdTokenFault.message : IdTokenFault → String
  | .malformed => "malformed ID token"
  | .unsupported what => "Unsupported: " ++ what
  | .issuer found => "Invalid issuer: unexpected issuer `" ++ found ++ "`"
  | .audience found => "Invalid audiences: `" ++ found ++ "` is not a trusted audience"
  | .signature => "Signature verification failed"
  | .expired => "Expired"
  | .nonce reason => "Invalid nonce: " ++ reason

/-- What an ID token has to agree with. -/
structure IdTokenPolicy where
  issuer : String
  clientId : String
  keys : List ProviderKey
  deriving DecidableEq, Repr

/-- The parts of an ID token. -/
structure RawIdToken where
  header : Json
  payload : Json
  /-- What was signed. -/
  message : Bytes
  signature : Bytes

namespace RawIdToken

/-- A part of a token that is an object. -/
def objectPart? (part : String) : Option Json :=
  match Envelope.decodePart Decoder.any part with
  | .ok (.obj ms) => some (.obj ms)
  | _ => none

/-- Reads the parts of an ID token. -/
def read? (raw : String) : Option RawIdToken :=
  match Text.splitAt '.' raw with
  | [head, payload, sig] => do
    let signature ← Base64.decode? Base64.urlSafe sig
    pure ⟨← objectPart? head, ← objectPart? payload, Text.utf8 (head ++ "." ++ payload), signature⟩
  | _ => none

/-- The audiences of a token: one text, or a list of texts. -/
def audiences? (t : RawIdToken) : Option (List String) :=
  match t.payload.member? "aud" with
  | some (.str s) => some [s]
  | some (.arr items) => items.mapM Json.text?
  | _ => none

/-- The moment at which a token expires, in seconds. -/
def expiry? (t : RawIdToken) : Option Int :=
  match t.payload.member? "exp" with
  | some (.int n) => some n
  | _ => none

/-- Whether a token has the claims that every ID token has. -/
def isComplete (t : RawIdToken) : Bool :=
  (t.payload.textMember? "iss").isSome && (t.payload.textMember? "sub").isSome &&
    t.audiences?.isSome && t.expiry?.isSome &&
    match t.payload.member? "iat" with
    | some (.int _) => true
    | _ => false

end RawIdToken

namespace IdTokenPolicy

/-- The algorithm that ID tokens are signed with. -/
def algorithm : String := "RS256"

/-- Checks the header. -/
def checkHeader (t : RawIdToken) : Except IdTokenFault Unit :=
  match t.header.textMember? "typ" with
  | some kind =>
    if Text.sameLetters kind "JWT" then .ok ()
    else .error (.unsupported ("unexpected token type `" ++ kind ++ "`"))
  | none => .ok ()

/-- Checks who issued a token and for whom. -/
def checkParties (p : IdTokenPolicy) (t : RawIdToken) : Except IdTokenFault Unit :=
  let issuer := (t.payload.textMember? "iss").getD ""
  let audiences := t.audiences?.getD []
  if issuer ≠ p.issuer then .error (.issuer issuer)
  else if p.clientId ∉ audiences then .error (.audience (audiences.headD ""))
  else
    match audiences.find? (· ≠ p.clientId) with
    | some other => .error (.audience other)
    | none => .ok ()

/-- Checks the signature: there is exactly one key that may have made it. -/
def checkSignature (p : IdTokenPolicy) (t : RawIdToken) : Except IdTokenFault Unit :=
  match p.keys.filter (·.mayHaveSigned (t.header.textMember? "kid")) with
  | [key] =>
    if t.header.textMember? "alg" = some algorithm ∧ key.verifies t.message t.signature then .ok ()
    else .error .signature
  | _ => .error .signature

/-- Checks the time and the nonce. -/
def checkUse (now : Int) (nonce : String) (t : RawIdToken) : Except IdTokenFault Unit :=
  if (t.expiry?.getD 0) ≤ now then .error .expired
  else
    match t.payload.textMember? "nonce" with
    | none => .error (.nonce "missing nonce claim")
    | some found => if found = nonce then .ok () else .error (.nonce "nonce mismatch")

/-- The parts of an ID token that may be used. -/
def check (p : IdTokenPolicy) (now : Int) (raw nonce : String) :
    Except IdTokenFault RawIdToken :=
  match (RawIdToken.read? raw).filter RawIdToken.isComplete with
  | none => .error .malformed
  | some t => do
    checkHeader t
    p.checkParties t
    p.checkSignature t
    checkUse now nonce t
    pure t

/-- The claims of an ID token that may be used. -/
def verify (p : IdTokenPolicy) (now : Int) (raw nonce : String) : Except ProviderError IdToken :=
  match p.check now raw nonce with
  | .error fault => .error (.idTokenInvalid fault.message)
  | .ok t =>
    match t.payload with
    | .obj claims => IdToken.ofClaims claims
    | _ => .error (.claimsUnreadable "payload is not a JSON object")

end IdTokenPolicy

end Gatehouse
