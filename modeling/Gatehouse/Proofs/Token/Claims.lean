import Gatehouse.Proofs.Json.Record
import Gatehouse.Proofs.Token.Envelope

/-!
# Reading back the claims of a token

The record of some claims is read as the claims (`reads_toJson`), also where roles were left out,
and the registered claims among its members do not stop the opening of a token
(`reads_registered`).
-/

namespace Gatehouse

open Decoder

theorem Decoder.reads_texts (texts : List String) :
    Reads (list text) 1 (Json.ofTexts texts) texts :=
  reads_list (fun s _ => reads_text s) fun _ _ =>
    (begins_scalar (j := .str _) trivial).imp fun _ h => h.toOpens

theorem UserId.reads_toJson {id : UserId} (h : Decimal.IsInt64 id.value) :
    Reads UserId.decode 0 id.toJson id :=
  (reads_int64 h).map UserId.mk

theorem TokenKind.ofName?_name (kind : TokenKind) : ofName? kind.name = some kind := by
  cases kind <;> decide

theorem SignInMethod.ofName?_name (method : SignInMethod) : ofName? method.name = some method := by
  cases method <;> decide

namespace Claims

/-- Whether the numbers of some claims fit into 64 bits. -/
structure Fits (c : Claims) : Prop where
  userId : Decimal.IsInt64 c.userId.value
  issuedAt : Decimal.IsInt64 c.issuedAt
  expiresAt : Decimal.IsInt64 c.expiresAt

theorem reads_roles (roles : List String) :
    Reads decodeRoles 1 (Json.ofTexts roles) (some roles) := by
  refine reads_option_some (reads_texts roles) ?_
  exact (begins_arr _).imp fun b hb => by rw [hb]; decide

/-- The members of the record of claims. -/
def members (c : Claims) : List (String × Json) :=
  [("user_id", c.userId.toJson), ("username", .str c.username), ("token_type", .str c.kind.name),
    ("auth_type", .str c.method.name)] ++
  (c.roles.toList.map fun roles => ("roles", Json.ofTexts roles)) ++
  [("jti", .str c.tokenId), ("iat", .int c.issuedAt), ("exp", .int c.expiresAt),
    ("iss", .str c.issuer)]

theorem toJson_eq (c : Claims) : c.toJson = .obj c.members := by
  cases h : c.roles <;> simp [toJson, members, h]

theorem nodup_members (c : Claims) : (c.members.map (·.1)).Nodup := by
  cases h : c.roles with
  | none => simp [members, h]
  | some roles => simp [members, h]

/-- A property holds of all members of the record if it holds of each. -/
private theorem forall_members {c : Claims} {P : String × Json → Prop}
    (huser : P ("user_id", c.userId.toJson)) (hname : P ("username", .str c.username))
    (hkind : P ("token_type", .str c.kind.name)) (hmethod : P ("auth_type", .str c.method.name))
    (hroles : ∀ roles, P ("roles", Json.ofTexts roles)) (hid : P ("jti", .str c.tokenId))
    (hissued : P ("iat", .int c.issuedAt)) (hexpires : P ("exp", .int c.expiresAt))
    (hissuer : P ("iss", .str c.issuer)) : ∀ m ∈ c.members, P m := by
  simp only [members, List.forall_mem_append, List.forall_mem_cons, List.forall_mem_map]
  exact ⟨⟨⟨huser, hname, hkind, hmethod, List.forall_mem_nil P⟩, fun roles _ => hroles roles⟩,
    hid, hissued, hexpires, hissuer, List.forall_mem_nil P⟩

variable {c : Claims}

/-- **The record of claims is read as the claims.** -/
theorem reads_toJson (h : c.Fits) : Reads decode 2 c.toJson c := by
  intro depth rest hdepth _
  have huser := (UserId.reads_toJson h.userId).mono (Nat.zero_le 1)
  have hname := (reads_text c.username).mono (Nat.zero_le 1)
  have hkind := (reads_choice c.kind.ofName?_name).mono (Nat.zero_le 1)
  have hmethod := (reads_choice c.method.ofName?_name).mono (Nat.zero_le 1)
  have hid := (reads_text c.tokenId).mono (Nat.zero_le 1)
  have hissued := (reads_int64 h.issuedAt).mono (Nat.zero_le 1)
  have hexpires := (reads_int64 h.expiresAt).mono (Nat.zero_le 1)
  have hissuer := (reads_text c.issuer).mono (Nat.zero_le 1)
  have hfits : ∀ m ∈ c.members, Decoder.Fits shape 1 m :=
    forall_members (fits_member rfl huser) (fits_member rfl hname) (fits_member rfl hkind)
      (fits_member rfl hmethod) (fun roles => fits_member rfl (reads_roles roles))
      (fits_member rfl hid) (fits_member rfl hissued) (fits_member rfl hexpires)
      (fits_member rfl hissuer)
  obtain ⟨found, hentries, hfound⟩ := exists_entries 9 hfits (nodup_members c) hdepth rest
  -- the roles are the one member that may not be written, and are then read as left out
  have hroles : found.orElse "roles" decodeRoles none = pure c.roles := by
    cases hc : c.roles with
    | none => exact orElse_eq_default hfound (by simp [members, hc]) _ _
    | some roles =>
      exact orElse_eq hfound (by simp [members, hc]) rfl (reads_roles roles) none
  rw [toJson_eq, decode, bind_ok hentries,
    needed_eq hfound (by simp [members]) rfl huser,
    needed_eq hfound (by simp [members]) rfl hname,
    needed_eq hfound (by simp [members]) rfl hkind,
    needed_eq hfound (by simp [members]) rfl hmethod, hroles,
    needed_eq hfound (by simp [members]) rfl hid,
    needed_eq hfound (by simp [members]) rfl hissued,
    needed_eq hfound (by simp [members]) rfl hexpires,
    needed_eq hfound (by simp [members]) rfl hissuer]
  rfl

end Claims

namespace Envelope

variable {α : Type}

/-- A claim is passed over whatever a lenient reader makes of it. -/
theorem reads_lenient {decode : Decoder α} {least : Nat} {j : Json}
    (h : ∀ depth rest, least ≤ depth → Ends rest →
      (decode depth (Text.bytes j.chars ++ rest)).2 = rest) :
    Reads (lenient decode) least j () := by
  intro depth rest hdepth hrest
  have hsettle : settle decode depth (Text.bytes j.chars ++ rest) =
      (.ok (decode depth (Text.bytes j.chars ++ rest)).1, rest) := by
    rw [settle, h depth rest hdepth hrest]
  exact (bind_ok hsettle).trans rfl

/-- A scalar is taken up to its end where a time is asked for. -/
theorem time_of_scalar {kind : Json → Option α} {a : α} {depth : Nat} {s rest : Bytes}
    (h : ofScalar kind depth s = (.ok a, rest)) : (time depth s).2 = rest := by
  obtain ⟨hopen, hopen', j, hj, -⟩ := ofScalar_eq_ok h
  have hmismatch : (mismatch : Decoder Unit) depth (skipSpace s) = (.error .dataFault, rest) := by
    rw [mismatch, ofScalar, peek_apply, nextSign_skipSpace, skipSpace_skipSpace]
    generalize nextSign s = c at hopen hopen' ⊢
    split
    · exact absurd rfl hopen
    · exact absurd rfl hopen'
    · exact bind_ok hj
  rw [time, peek_apply]
  generalize nextSign s = c at hopen hopen' ⊢
  split
  · exact absurd rfl hopen
  · exact absurd rfl hopen'
  · rw [hmismatch]

theorem reads_lenient_time {j : Json} (h : j.IsScalar) : Reads (lenient time) 0 j () := by
  have hread : Reads (ofScalar some) 0 j j := reads_ofScalar h rfl
  exact reads_lenient fun depth rest hdepth hrest => time_of_scalar (hread depth rest hdepth hrest)

theorem reads_lenient_raw {j : Json} (h : j.IsScalar) : Reads (lenient raw) 0 j () :=
  reads_lenient fun depth rest hdepth hrest => by rw [reads_raw h depth rest hdepth hrest]

private theorem isScalar_texts (texts : List String) : ∀ j ∈ texts.map Json.str, j.IsScalar := by
  simp [Json.IsScalar]

/-- **The registered claims of a record of claims are passed over.** -/
theorem reads_registered {c : Claims} (h : c.Fits) : Reads registered 1 c.toJson () := by
  intro depth rest hdepth _
  have hissued := isScalar_int h.issuedAt
  have hexpires := isScalar_int h.expiresAt
  have hfits : ∀ m ∈ c.members, Decoder.Fits registeredShape 0 m :=
    Claims.forall_members (passes_scalar (isScalar_int h.userId)) (passes_scalar trivial)
      (passes_scalar trivial) (passes_scalar trivial)
      (fun roles => passes_list (isScalar_texts roles))
      (passes_scalar trivial) (passes_scalar hissued) (reads_lenient_time hexpires)
      (reads_lenient_raw trivial)
  obtain ⟨found, hentries, -⟩ := exists_entries 5 hfits c.nodup_members hdepth rest
  rw [c.toJson_eq, registered, bind_ok hentries]
  rfl

end Envelope

end Gatehouse
