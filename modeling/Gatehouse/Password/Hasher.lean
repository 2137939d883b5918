import Gatehouse.Password.Digest
import Gatehouse.Password.Error

/-!
# Hashing and checking passwords

A hasher has a cost: memory, passes and lanes. New digests are made in the context of the hasher,
which has that cost. To check a password, the context is customized by the stored digest: the digest
says how it was made, and only the secret, which no digest carries, is left of the hasher's context.
So the cost of a hasher may be raised at any time.
-/

namespace Gatehouse

/-- What is wrong with a cost. -/
inductive CostFault where
  | memoryTooSmall
  | passesTooFew
  | lanesTooFew
  | lanesTooMany
  deriving DecidableEq, Repr

/-- The text of a fault. -/
def CostFault.message : CostFault → String
  | .memoryTooSmall => "memory cost is too small"
  | .passesTooFew => "time cost is too small"
  | .lanesTooFew => "not enough threads"
  | .lanesTooMany => "too many threads"

/-- What is wrong with a digest of such a cost. -/
def CostFault.inDigest : CostFault → DigestFault
  | .lanesTooMany => .parameter .tooLong
  | _ => .parameter .tooShort

/-- The cost of a digest. -/
structure PasswordCost where
  /-- The memory in units of 1024 bytes. -/
  memory : Nat
  passes : Nat
  lanes : Nat
  deriving DecidableEq, Repr

namespace PasswordCost

/-- The cost that is used if none is given. -/
def usual : PasswordCost := ⟨19456, 2, 1⟩

/-- The least memory for some lanes: eight blocks for each, counted in 32 bits. -/
def leastMemory (lanes : Nat) : Nat :=
  max 8 (8 * lanes % Nat.pow 2 32)

/-- What is wrong with a cost, if anything. -/
def fault? (c : PasswordCost) : Option CostFault :=
  if c.memory < leastMemory c.lanes then some .memoryTooSmall
  else if c.passes < 1 then some .passesTooFew
  else if c.lanes < 1 then some .lanesTooFew
  else if 0xFFFFFF < c.lanes then some .lanesTooMany
  else none

/-- The parameters of a digest of this cost. -/
def parameters (c : PasswordCost) : List (String × String) :=
  [("m", Decimal.natText c.memory), ("t", Decimal.natText c.passes),
    ("p", Decimal.natText c.lanes)]

end PasswordCost

/-- The cost and the further data that a digest carries. -/
structure DigestSettings where
  cost : PasswordCost
  data : Bytes
  deriving DecidableEq, Repr

namespace PasswordDigest

/-- Takes a parameter into the settings. Of parameters of one name the last counts. -/
def takeParameter (s : DigestSettings) (p : String × String) : Except DigestFault DigestSettings :=
  let number := (readNumber p.2.toList).mapError .parameter
  match p.1 with
  | "m" => number.map fun n => { s with cost := { s.cost with memory := n } }
  | "t" => number.map fun n => { s with cost := { s.cost with passes := n } }
  | "p" => number.map fun n => { s with cost := { s.cost with lanes := n } }
  | "keyid" => (readBytes 8 p.2.toList).map fun _ => s
  | "data" => (readBytes 32 p.2.toList).map fun bytes => { s with data := bytes }
  | _ => .error .name

/-- Takes parameters into the settings. -/
def takeParameters : DigestSettings → List (String × String) → Except DigestFault DigestSettings
  | s, [] => .ok s
  | s, p :: rest => do takeParameters (← takeParameter s p) rest

/-- The settings of a digest. -/
def settings (d : PasswordDigest) : Except DigestFault DigestSettings := do
  let s ← takeParameters ⟨.usual, []⟩ d.parameters
  match s.cost.fault? with
  | some fault => .error fault.inDigest
  | none => .ok s

/-- The bytes of a salt. -/
def saltBytes (salt : String) : Except DigestFault Bytes :=
  match Base64.decode? Base64.standard salt with
  | none => .error .base64
  | some bytes => .ok bytes

/-- Whether a digest can be made: a password has less than 2³² bytes, and a salt at least eight. -/
def checkInputs (password salt : Bytes) : Except DigestFault Unit :=
  if 0xFFFFFFFF < password.length then .error .password
  else if salt.length < 8 then .error (.salt .tooShort)
  else .ok ()

end PasswordDigest

/-- What results are computed with, besides passwords and salts. -/
structure DigestContext where
  /-- A secret that goes into all results and into no digest; empty if there is none. -/
  secret : Bytes
  variant : Argon2.Variant
  version : Argon2.Version
  settings : DigestSettings
  /-- The length of results. -/
  length : Nat
  deriving DecidableEq, Repr

namespace DigestContext

/-- What goes into the result of a password under a salt. -/
def input (ctx : DigestContext) (salt : Bytes) (password : String) : Argon2.Input where
  variant := ctx.variant
  version := ctx.version
  memory := ctx.settings.cost.memory
  passes := ctx.settings.cost.passes
  lanes := ctx.settings.cost.lanes
  outputLength := ctx.length
  password := Text.utf8 password
  salt := salt
  secret := ctx.secret
  data := ctx.settings.data

/-- The result of a password under a salt. -/
def result (ctx : DigestContext) (salt : Bytes) (password : String) : Except DigestFault Bytes := do
  PasswordDigest.checkInputs (Text.utf8 password) salt
  pure (Argon2.digest (ctx.input salt password))

/-- The context in which a digest was made: the secret is kept, all else is as the digest says. A
digest that does not say a version has the latest. -/
def customize (ctx : DigestContext) (d : PasswordDigest) (length : Nat) :
    Except DigestFault DigestContext := do
  let settings ← d.settings
  let variant ← match Argon2.Variant.ofName? d.method with
    | some v => .ok v
    | none => .error .method
  let version ← match (d.version.map Argon2.Version.ofNumber?).getD (some .v19) with
    | some v => .ok v
    | none => .error .version
  pure { ctx with variant, version, settings, length }

/-- Computes the result of a digest anew for a password. -/
def recompute (ctx : DigestContext) (d : PasswordDigest) (salt : String) (length : Nat)
    (password : String) : Except DigestFault Bytes := do
  let own ← ctx.customize d length
  let salt ← PasswordDigest.saltBytes salt
  own.result salt password

/-- Whether a password has a digest. A digest without a salt or a result fits no password, and a
password that is too long has no digest. -/
def accepts (ctx : DigestContext) (d : PasswordDigest) (password : String) :
    Except DigestFault Bool :=
  match d.salt, d.result with
  | some salt, some result =>
    match ctx.recompute d salt result.length password with
    | .error .password => .ok false
    | computed => computed.map (· == result)
  | _, _ => .ok false

end DigestContext

/-- Makes and checks digests. -/
structure PasswordHasher where
  cost : PasswordCost
  cost_ok : cost.fault? = none
  deriving DecidableEq, Repr

namespace PasswordHasher

/-- The hasher of a cost. -/
def ofCost (cost : PasswordCost) : Except PasswordError PasswordHasher :=
  match h : cost.fault? with
  | some fault => .error (.digest ("invalid argon2 parameters: " ++ fault.message))
  | none => .ok ⟨cost, h⟩

/-- The length of the results that are made. -/
def resultLength : Nat := 32

/-- The context of a hasher. It has no secret. -/
def context (hasher : PasswordHasher) : DigestContext where
  secret := []
  variant := .hybrid
  version := .v19
  settings := ⟨hasher.cost, []⟩
  length := resultLength

/-- The digest of a password under a salt of sixteen bytes or so. -/
def digest (hasher : PasswordHasher) (salt : Bytes) (password : String) : PasswordDigest :=
  let ctx := hasher.context
  { method := ctx.variant.name
    version := some ctx.version.number
    parameters := ctx.settings.cost.parameters
    salt := some (Base64.encode Base64.standard salt)
    result := some (Argon2.digest (ctx.input salt password)) }

/-- The text of the digest of a password under a salt. -/
def hash (hasher : PasswordHasher) (salt : Bytes) (password : String) : String :=
  (hasher.digest salt password).text

/-- Makes the digest of a password for storing. -/
def make (hasher : PasswordHasher) (salt : Bytes) (password : String) :
    Except PasswordError String :=
  match PasswordDigest.checkInputs (Text.utf8 password) salt with
  | .error fault => .error (.digest fault.message)
  | .ok () => .ok (hasher.hash salt password)

/-- Whether a password has a stored digest. -/
def verify (hasher : PasswordHasher) (password stored : String) : Except PasswordError Bool :=
  match PasswordDigest.read stored with
  | .error fault => .error (.digest ("malformed digest: " ++ fault.message))
  | .ok d => (hasher.context.accepts d password).mapError fun fault => .digest fault.message

end PasswordHasher

end Gatehouse
