import Gatehouse.Token.Claims
import Gatehouse.Token.Envelope
import Gatehouse.Token.Error
import Gatehouse.Token.Settings

/-!
# Issuing and checking session tokens

A codec issues pairs of an access and a refresh token under one key, and checks tokens of the same
key and issuer. Time is counted in whole seconds, and an expiry is kept in 64 bits. That it fits
there is checked only when the pair is issued, and there is no error for it: the program stops.

Of a refresh token only a digest is stored, so that a leaked table of users opens no session.
-/

namespace Gatehouse

/-- A pair of tokens. -/
structure TokenPair where
  access : String
  refresh : String
  deriving DecidableEq, Repr

/-- When a pair is issued, and the ids drawn for its halves. -/
structure Issuance where
  now : Int
  accessId : String
  refreshId : String
  deriving DecidableEq, Repr

/-- A text of 26 characters for a time in milliseconds and 80 drawn bits. -/
def tokenIdText (millis drawn : Nat) : String :=
  let symbols := "0123456789ABCDEFGHJKMNPQRSTVWXYZ".toList
  let n := millis % Nat.pow 2 48 * Nat.pow 2 80 + drawn % Nat.pow 2 80
  String.ofList ((List.range 26).map fun i => symbols.getD (n / Nat.pow 32 (25 - i) % 32) '0')

/-- A signing key, an issuer and the times that tokens are valid. -/
structure TokenCodec where
  secret : Bytes
  issuer : String
  accessTtl : Nat
  refreshTtl : Nat
  deriving DecidableEq, Repr

namespace TokenCodec

/-- The least length of a key in bytes. -/
def minSecretLength : Nat := 32

/-- The codec of some settings. -/
def ofSettings (s : TokenSettings) : Except TokenError TokenCodec :=
  let secret := Text.utf8 s.secret
  let ttlFault := fun ttl : Nat =>
    TokenError.settings ("token ttl out of range: " ++ Decimal.natText ttl)
  if secret.length < minSecretLength then
    .error (.settings ("signing secret must be at least " ++ Decimal.natText minSecretLength ++
      " bytes, got " ++ Decimal.natText secret.length))
  else if Decimal.maxInt64 < s.accessTtl then .error (ttlFault s.accessTtl)
  else if Decimal.maxInt64 < s.refreshTtl then .error (ttlFault s.refreshTtl)
  else .ok ⟨secret, s.issuer, s.accessTtl, s.refreshTtl⟩

/-- How long tokens of a kind are valid. -/
def ttl (codec : TokenCodec) : TokenKind → Nat
  | .access => codec.accessTtl
  | .refresh => codec.refreshTtl

/-- The claims of a token that is issued. There are none if its expiry does not fit into 64 bits. -/
def claimsFor (codec : TokenCodec) (now : Int) (tokenId : String) (kind : TokenKind)
    (userId : UserId) (username : String) (method : SignInMethod) (roles : Option (List String)) :
    Option Claims :=
  (Decimal.addInt64? now (codec.ttl kind)).map fun expiresAt =>
    { userId := userId
      username := username
      kind := kind
      method := method
      roles := roles
      tokenId := tokenId
      issuedAt := now
      expiresAt := expiresAt
      issuer := codec.issuer }

/-- The token of some claims. -/
def sign (codec : TokenCodec) (claims : Claims) : String :=
  Envelope.sign codec.secret claims.toJson

/-- Issues a pair for a user. None if the program stops, as an expiry does not fit. -/
def issuePair (codec : TokenCodec) (at_ : Issuance) (userId : UserId) (username : String)
    (method : SignInMethod) (roles : Option (List String)) : Option TokenPair := do
  let access ← codec.claimsFor at_.now at_.accessId .access userId username method roles
  let refresh ← codec.claimsFor at_.now at_.refreshId .refresh userId username method roles
  pure ⟨codec.sign access, codec.sign refresh⟩

/-- Checks the claims of a token whose signature is right. -/
def checkClaims (codec : TokenCodec) (now : Int) (claims : Claims) : Except TokenError Claims :=
  if claims.expiresAt < 0 then .error (.invalid "Missing required claim: exp")
  else if claims.expiresAt < now then .error .expired
  else if claims.issuer ≠ codec.issuer then .error (.invalid "InvalidIssuer")
  else .ok claims

/-- Checks a token at a time and gives its claims. -/
def verify (codec : TokenCodec) (now : Int) (token : String) : Except TokenError Claims :=
  match Envelope.open? codec.secret Claims.decode token with
  | .error fault => .error (.invalid fault.message)
  | .ok claims => codec.checkClaims now claims

/-- The digest under which a refresh token is stored. -/
def refreshDigest (token : String) : String :=
  Base64.encode Base64.urlSafe (Sha256.digest (Text.utf8 token))

/-- The codec as shown to people, without the key. -/
def shown (codec : TokenCodec) : String :=
  Text.shownRecord "TokenCodec"
    [("issuer", Text.quoted codec.issuer), ("access_ttl", Decimal.natText codec.accessTtl),
      ("refresh_ttl", Decimal.natText codec.refreshTtl)] true

end TokenCodec

end Gatehouse
