import Gatehouse.Password.Hasher
import Gatehouse.Proofs.Password.Digest

/-!
# Digests that carry their cost

A digest is computed from a password, a salt and a context, and the text that is stored says all of
the context but its secret (`HoldsDigest`). Whoever checks a password customizes the own context by
the text, so contexts with the same secret accept the same (`DigestContext.accepts_congr`). No
hasher has a secret: a text that holds the digest of a password is accepted for it by every hasher
(`verify_of_holdsDigest`), and the cost of new digests can be raised without locking anybody out
(`make_verify_any_cost`).
-/

namespace Gatehouse

open Text Decimal

/-- Whether a stored text holds the digest of an input, and says what it was made of. -/
structure HoldsDigest (stored : String) (input : Argon2.Input) (d : PasswordDigest) : Prop where
  read : PasswordDigest.read stored = .ok d
  method : d.method = input.variant.name
  version : d.version = some input.version.number
  settings : d.settings = .ok ⟨⟨input.memory, input.passes, input.lanes⟩, input.data⟩
  salt : ∃ salt, d.salt = some salt ∧ PasswordDigest.saltBytes salt = .ok input.salt
  result : d.result = some (Argon2.digest input)

theorem Argon2.Variant.ofName?_name (v : Argon2.Variant) :
    Argon2.Variant.ofName? v.name = some v := by
  cases v <;> decide

theorem Argon2.Version.ofNumber?_number (v : Argon2.Version) :
    Argon2.Version.ofNumber? v.number = some v := by
  cases v <;> rfl

/-! ### What a digest overrides -/

namespace DigestContext

variable {ctx ctx' : DigestContext}

/-- A digest overrides everything of a context but the secret. -/
theorem customize_congr (h : ctx.secret = ctx'.secret) (d : PasswordDigest) (length : Nat) :
    ctx.customize d length = ctx'.customize d length := by
  rw [customize, customize, h]

/-- **Only the secret of a context counts when a password is checked.** -/
theorem accepts_congr (h : ctx.secret = ctx'.secret) (d : PasswordDigest) (password : String) :
    ctx.accepts d password = ctx'.accepts d password := by
  simp only [accepts, recompute, customize_congr h]

/-- A digest that says what it was made of gives this back, but for the password and the salt. -/
theorem customize_of_says {d : PasswordDigest} {input : Argon2.Input}
    (hmethod : d.method = input.variant.name) (hversion : d.version = some input.version.number)
    (hsettings : d.settings = .ok ⟨⟨input.memory, input.passes, input.lanes⟩, input.data⟩)
    (ctx : DigestContext) (length : Nat) :
    ctx.customize d length = .ok ⟨ctx.secret, input.variant, input.version,
      ⟨⟨input.memory, input.passes, input.lanes⟩, input.data⟩, length⟩ := by
  rw [customize, hsettings, hmethod, hversion]
  simp only [Argon2.Variant.ofName?_name, Option.map_some, Option.getD_some,
    Argon2.Version.ofNumber?_number, bind, Except.bind]
  rfl

end DigestContext

namespace PasswordHasher

/-- Whether passwords have digests under a salt. -/
structure CanDigest (password : String) (salt : Bytes) : Prop where
  password_le : (utf8 password).length ≤ 0xFFFFFFFF
  le_salt : 8 ≤ salt.length

theorem CanDigest.checkInputs {password : String} {salt : Bytes} (h : CanDigest password salt) :
    PasswordDigest.checkInputs (utf8 password) salt = .ok () := by
  rw [PasswordDigest.checkInputs, if_neg (Nat.not_lt_of_le h.password_le),
    if_neg (Nat.not_lt_of_le h.le_salt)]

/-- A context of the right secret recomputes the result of a digest. -/
theorem recompute_of_holdsDigest {stored password : String} {input : Argon2.Input}
    {d : PasswordDigest} (h : HoldsDigest stored input d)
    (hpassword : input.password = utf8 password) (hinput : CanDigest password input.salt)
    {ctx : DigestContext} (hsecret : input.secret = ctx.secret)
    {salt : String} (hsalt : PasswordDigest.saltBytes salt = .ok input.salt) :
    ctx.recompute d salt input.outputLength password = .ok (Argon2.digest input) := by
  have hchecked : PasswordDigest.checkInputs input.password input.salt = .ok () :=
    hpassword ▸ hinput.checkInputs
  rw [DigestContext.recompute, DigestContext.customize_of_says h.method h.version h.settings, hsalt]
  simp only [bind, Except.bind, DigestContext.result, DigestContext.input, ← hpassword, ← hsecret,
    hchecked]
  rfl

/-- **A password is accepted for its digest by every hasher.** -/
theorem verify_of_holdsDigest {stored password : String} {input : Argon2.Input}
    {d : PasswordDigest} (h : HoldsDigest stored input d)
    (hpassword : input.password = utf8 password) (hinput : CanDigest password input.salt)
    (hsecret : input.secret = [])
    (hlength : input.outputLength ≤ 64) (hasher : PasswordHasher) :
    hasher.verify password stored = .ok true := by
  obtain ⟨salt, hsalt, hbytes⟩ := h.salt
  have hrecompute := recompute_of_holdsDigest h hpassword hinput
    (show input.secret = hasher.context.secret from hsecret) hbytes
  rw [verify, h.read]
  simp only [DigestContext.accepts, hsalt, h.result, Argon2.length_digest hlength, hrecompute,
    Except.map, beq_self_eq_true]
  rfl

/-- All hashers check in the same way. -/
theorem verify_eq (hasher hasher' : PasswordHasher) (password stored : String) :
    hasher.verify password stored = hasher'.verify password stored := by
  have hsecret : hasher.context.secret = hasher'.context.secret := rfl
  simp only [verify, DigestContext.accepts_congr hsecret]

/-! ### The digests that are made -/

/-- A cost of 32 bits in each part. -/
structure IsNarrow (c : PasswordCost) : Prop where
  memory : c.memory ≤ 4294967295
  passes : c.passes ≤ 4294967295
  lanes : c.lanes ≤ 4294967295

variable {hasher : PasswordHasher} {salt : Bytes} {password : String}

theorem settings_digest (h : IsNarrow hasher.cost) :
    (hasher.digest salt password).settings = .ok ⟨hasher.cost, []⟩ := by
  have hread : ∀ {n : Nat}, n ≤ 4294967295 →
      PasswordDigest.readNumber (natText n).toList = .ok n := fun hn => by
    rw [natText, String.toList_ofList, PasswordDigest.readNumber_natDigits hn]
  rw [PasswordDigest.settings, digest, context, PasswordCost.parameters]
  simp only [PasswordDigest.takeParameters, PasswordDigest.takeParameter, hread h.memory,
    hread h.passes, hread h.lanes, bind, Except.bind, Except.map, Except.mapError]
  rw [hasher.cost_ok]

theorem length_parameters_le {c : PasswordCost} (h : IsNarrow c) :
    (PasswordDigest.parametersChars c.parameters).length ≤ 127 := by
  have hmemory := PasswordDigest.length_natDigits_le_ten h.memory
  have hpasses := PasswordDigest.length_natDigits_le_ten h.passes
  have hlanes := PasswordDigest.length_natDigits_le_ten h.lanes
  simp only [PasswordDigest.parametersChars, PasswordDigest.parameterChars, PasswordCost.parameters,
    List.map_cons, List.map_nil, List.intercalate_cons_cons, List.intercalate_singleton, natText,
    String.toList_ofList, List.length_append, List.length_cons, List.length_nil,
    String.length_toList]
  have hm : "m".length = 1 := rfl
  have ht : "t".length = 1 := rfl
  have hp : "p".length = 1 := rfl
  omega

theorem isWritable_digest (h : IsNarrow hasher.cost) (hshort : 3 ≤ salt.length)
    (hlong : salt.length ≤ 48) : (hasher.digest salt password).IsWritable where
  method := show PasswordDigest.IsName "argon2id" from
    ⟨by decide, by decide, List.all_eq_true.mp (by decide)⟩
  version := by
    rintro _ ⟨⟩
    exact show Argon2.Version.v19.number ≤ 4294967295 by decide
  parameters := by
    have hname : ∀ name ∈ ["m", "t", "p"], PasswordDigest.IsName name := by
      intro name hname
      simp only [List.mem_cons, List.not_mem_nil, or_false] at hname
      rcases hname with rfl | rfl | rfl <;>
        exact ⟨by decide, by decide, List.all_eq_true.mp (by decide)⟩
    rintro p hp
    simp only [digest, PasswordCost.parameters, List.mem_cons, List.not_mem_nil, or_false] at hp
    rcases hp with rfl | rfl | rfl
    · exact ⟨hname "m" (by simp), PasswordDigest.isValue_natText h.memory⟩
    · exact ⟨hname "t" (by simp), PasswordDigest.isValue_natText h.passes⟩
    · exact ⟨hname "p" (by simp), PasswordDigest.isValue_natText h.lanes⟩
  length_parameters := length_parameters_le h
  unversioned hnone := nomatch hnone
  salt := by
    rintro _ ⟨⟩
    refine ⟨PasswordDigest.isValue_encode hlong, ?_⟩
    rw [Base64.encode, String.toList_ofList, Base64.length_encodeChars]
    omega
  result := by
    intro bytes hbytes
    obtain rfl : Argon2.digest (hasher.context.input salt password) = bytes :=
      Option.some.inj hbytes
    have hlength : (Argon2.digest (hasher.context.input salt password)).length = resultLength :=
      Argon2.length_digest (show resultLength ≤ 64 by decide)
    rw [hlength]
    exact ⟨Option.some_ne_none _, by decide, by decide⟩

/-- The text that is made holds the digest. -/
theorem holdsDigest_hash (h : IsNarrow hasher.cost) (hshort : 3 ≤ salt.length)
    (hlong : salt.length ≤ 48) :
    HoldsDigest (hasher.hash salt password) (hasher.context.input salt password)
      (hasher.digest salt password) where
  read := (isWritable_digest h hshort hlong).read_text
  method := rfl
  version := rfl
  settings := settings_digest h
  salt := by
    refine ⟨_, rfl, ?_⟩
    rw [PasswordDigest.saltBytes, Base64.decode?_encode Base64.legible_standard]
    rfl
  result := rfl

theorem cost_of_ofCost {c : PasswordCost} (h : ofCost c = .ok hasher) : hasher.cost = c := by
  unfold ofCost at h
  split at h
  · cases h
  · cases h
    rfl

/-- **Digests carry their cost.** What a hasher makes of a password says how it was made, and the
password is accepted for it by every other hasher, whatever its cost; no hasher's own cost counts
when a password is checked. -/
theorem make_verify_any_cost {m t p : UInt32} {hasher : PasswordHasher}
    (h : ofCost ⟨m.toNat, t.toNat, p.toNat⟩ = .ok hasher) {password : String} {salt : Bytes}
    (hinput : CanDigest password salt) (hsalt : salt.length ≤ 48) (hasher' : PasswordHasher) :
    (∃ stored d, hasher.make salt password = .ok stored ∧
      HoldsDigest stored
        ⟨.hybrid, .v19, m.toNat, t.toNat, p.toNat, 32, utf8 password, salt, [], []⟩ d ∧
      hasher'.verify password stored = .ok true) ∧
    ∀ plaintext text, hasher.verify plaintext text = hasher'.verify plaintext text := by
  have hnarrow : IsNarrow hasher.cost := by
    rw [cost_of_ofCost h]
    exact ⟨Nat.le_of_lt_succ m.toNat_lt, Nat.le_of_lt_succ t.toNat_lt, Nat.le_of_lt_succ p.toNat_lt⟩
  have hholds : HoldsDigest (hasher.hash salt password) (hasher.context.input salt password)
      (hasher.digest salt password) :=
    holdsDigest_hash hnarrow (Nat.le_trans (by decide) hinput.le_salt) hsalt
  have hmake : hasher.make salt password = .ok (hasher.hash salt password) := by
    rw [make, hinput.checkInputs]
  refine ⟨⟨hasher.hash salt password, hasher.digest salt password, hmake, ?_, ?_⟩, ?_⟩
  · rw [DigestContext.input, context, cost_of_ofCost h] at hholds
    exact hholds
  · exact verify_of_holdsDigest hholds rfl hinput rfl (show resultLength ≤ 64 by decide) hasher'
  · exact verify_eq hasher hasher'

/-- A digest at the least cost is checked by a hasher of the usual cost. -/
theorem make_verify_any_cost_raised :
    let least : PasswordHasher := ⟨⟨8, 1, 1⟩, by decide⟩
    let raised : PasswordHasher := ⟨.usual, by decide⟩
    let salt : Bytes := List.replicate 16 0
    ofCost ⟨(8 : UInt32).toNat, (1 : UInt32).toNat, (1 : UInt32).toNat⟩ = .ok least ∧
      CanDigest "hunter2" salt ∧ salt.length ≤ 48 ∧
      ∃ stored d, least.make salt "hunter2" = .ok stored ∧
        HoldsDigest stored ⟨.hybrid, .v19, 8, 1, 1, 32, utf8 "hunter2", salt, [], []⟩ d ∧
        raised.verify "hunter2" stored = .ok true := by
  intro least raised salt
  have hleast : ofCost ⟨(8 : UInt32).toNat, (1 : UInt32).toNat, (1 : UInt32).toNat⟩ = .ok least :=
    rfl
  have hinput : CanDigest "hunter2" salt := ⟨by decide, by decide⟩
  exact ⟨hleast, hinput, by decide, (make_verify_any_cost hleast hinput (by decide) raised).1⟩

end PasswordHasher

end Gatehouse
