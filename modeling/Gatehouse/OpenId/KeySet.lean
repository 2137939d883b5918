import Gatehouse.Base64
import Gatehouse.Hash.Sha256
import Gatehouse.Json.Basic

/-!
# Keys of a provider

A provider publishes the keys that its ID tokens are signed with. A signature under such a key is a
number whose power, modulo the key, is the padded digest of what was signed. Keys of other kinds
are left out.
-/

namespace Gatehouse

/-- A key of a provider. -/
structure ProviderKey where
  id : Option String
  /-- What the key is for, if it is limited to that. -/
  use : Option String
  modulus : Nat
  exponent : Nat
  /-- The length of signatures in bytes. -/
  size : Nat
  deriving DecidableEq, Repr

namespace ProviderKey

/-- The number that bytes write, the most significant first. -/
def ofBytes (bytes : Bytes) : Nat :=
  bytes.foldl (fun n b => 256 * n + b.toNat) 0

/-- The bytes of a member in base64. -/
def bytesMember? (name : String) (j : Json) : Option Bytes :=
  (j.textMember? name).bind (Base64.decode? Base64.urlSafe)

/-- Reads a key. -/
def ofJson? (j : Json) : Option ProviderKey := do
  let kind ← j.textMember? "kty"
  let modulus ← bytesMember? "n" j
  let exponent ← bytesMember? "e" j
  let bytes := modulus.dropWhile (· == 0)
  if kind = "RSA" then
    pure ⟨j.textMember? "kid", j.textMember? "use", ofBytes bytes, ofBytes exponent, bytes.length⟩
  else none

/-- Reads the keys of a set; none if it is no set of keys. -/
def readSet? (j : Json) : Option (List ProviderKey) :=
  match j.member? "keys" with
  | some (.arr items) => some (items.filterMap ofJson?)
  | _ => none

/-- A power modulo a number, by squaring. The fuel bounds the binary digits of the exponent. -/
def powMod (modulus : Nat) : Nat → Nat → Nat → Nat
  | 0, _, _ => 1 % modulus
  | fuel + 1, base, exponent =>
    if exponent = 0 then 1 % modulus
    else
      let half := powMod modulus fuel (base * base % modulus) (exponent / 2)
      if exponent % 2 = 1 then base * half % modulus else half

/-- What stands before the digest in a padded digest: the name of the hash function. -/
def digestName : Bytes :=
  [0x30, 0x31, 0x30, 0x0D, 0x06, 0x09, 0x60, 0x86, 0x48, 0x01, 0x65, 0x03, 0x04, 0x02, 0x01, 0x05,
    0x00, 0x04, 0x20]

/-- The padded digest of a message, in so many bytes. -/
def padded? (size : Nat) (message : Bytes) : Option Bytes :=
  let tail := digestName ++ Sha256.digest message
  if size < tail.length + 11 then none
  else some ([0x00, 0x01] ++ List.replicate (size - tail.length - 3) 0xFF ++ [0x00] ++ tail)

/-- Whether a text is the signature of a message. -/
def verifies (k : ProviderKey) (message : Bytes) (sig : Bytes) : Bool :=
  let n := ofBytes sig
  sig.length == k.size && decide (n < k.modulus) &&
    match padded? k.size message with
    | none => false
    | some expected =>
      powMod k.modulus (Nat.log2 k.exponent + 1) n k.exponent == ofBytes expected

/-- Whether a key may have signed a token that names a key. -/
def mayHaveSigned (named : Option String) (k : ProviderKey) : Bool :=
  k.use.all (· == "sig") && (named.isNone || k.id == named)

end ProviderKey

end Gatehouse
