import Gatehouse.Token.Codec

/-!
# Pairs that are issued

A pair is issued at the times that leave room for the expiries of both its halves
(`TokenCodec.HasRoom`), and at all others the program stops. Each half is the signature of claims
whose expiry is the exact sum (`TokenCodec.halfClaims`), so nothing else has to look at how that sum
is taken.
-/

namespace Gatehouse

/-- One half of a pair. -/
def TokenPair.half (pair : TokenPair) : TokenKind → String
  | .access => pair.access
  | .refresh => pair.refresh

/-- The id drawn for one half of a pair. -/
def Issuance.tokenId (at_ : Issuance) : TokenKind → String
  | .access => at_.accessId
  | .refresh => at_.refreshId

namespace TokenCodec

/-- Whether a time leaves room for the expiries of both halves of a pair: they fit into 64 bits. -/
def HasRoom (codec : TokenCodec) (now : Int) : Prop :=
  ∀ kind, Decimal.IsInt64 (now + codec.ttl kind)

theorem hasRoom_iff {codec : TokenCodec} {now : Int} :
    codec.HasRoom now ↔
      Decimal.IsInt64 (now + codec.accessTtl) ∧ Decimal.IsInt64 (now + codec.refreshTtl) := by
  refine ⟨fun h => ⟨h .access, h .refresh⟩, fun h kind => ?_⟩
  cases kind with
  | access => exact h.1
  | refresh => exact h.2

instance (codec : TokenCodec) (now : Int) : Decidable (codec.HasRoom now) :=
  decidable_of_iff _ hasRoom_iff.symm

/-- At a time that is not negative, there is room if no expiry passes the greatest number. -/
theorem hasRoom_iff_of_nonneg {codec : TokenCodec} {now : Int} (hnow : 0 ≤ now) :
    codec.HasRoom now ↔ ∀ kind, now + codec.ttl kind ≤ Decimal.maxInt64 := by
  refine forall_congr' fun kind => ⟨And.right, fun h => ⟨?_, h⟩⟩
  have hexpiry : 0 ≤ now + codec.ttl kind := Int.add_nonneg hnow (Int.natCast_nonneg _)
  omega

section

variable (codec : TokenCodec) (at_ : Issuance) (userId : UserId) (username : String)
  (method : SignInMethod) (roles : Option (List String))

/-- The claims of one half of a pair that is issued. -/
def halfClaims (kind : TokenKind) : Claims :=
  ⟨userId, username, kind, method, roles, at_.tokenId kind, at_.now, at_.now + codec.ttl kind,
    codec.issuer⟩

/-- The claims of a token are issued if its own expiry fits. -/
theorem claimsFor_eq (kind : TokenKind) :
    codec.claimsFor at_.now (at_.tokenId kind) kind userId username method roles =
      if Decimal.IsInt64 (at_.now + codec.ttl kind) then
        some (codec.halfClaims at_ userId username method roles kind)
      else none := by
  rw [claimsFor, Decimal.addInt64?]
  split <;> rfl

/-- **A pair is issued if there is room for it.** -/
theorem issuePair_eq :
    codec.issuePair at_ userId username method roles =
      if codec.HasRoom at_.now then
        some ⟨codec.sign (codec.halfClaims at_ userId username method roles .access),
          codec.sign (codec.halfClaims at_ userId username method roles .refresh)⟩
      else none := by
  have haccess := codec.claimsFor_eq at_ userId username method roles .access
  have hrefresh := codec.claimsFor_eq at_ userId username method roles .refresh
  simp only [Issuance.tokenId] at haccess hrefresh
  rw [issuePair, haccess, hrefresh]
  by_cases ha : Decimal.IsInt64 (at_.now + codec.ttl .access)
  · by_cases hr : Decimal.IsInt64 (at_.now + codec.ttl .refresh)
    · rw [if_pos ha, if_pos hr, if_pos (hasRoom_iff.mpr ⟨ha, hr⟩)]
      rfl
    · have hroom : ¬ codec.HasRoom at_.now := fun h => hr (h .refresh)
      rw [if_pos ha, if_neg hr, if_neg hroom]
      rfl
  · have hroom : ¬ codec.HasRoom at_.now := fun h => ha (h .access)
    rw [if_neg ha, if_neg hroom]
    rfl

end

variable {codec : TokenCodec} {at_ : Issuance} {userId : UserId} {username : String}
  {method : SignInMethod} {roles : Option (List String)} {pair : TokenPair}

/-- A pair was issued at a time that has room for it. -/
theorem hasRoom_of_issuePair (h : codec.issuePair at_ userId username method roles = some pair) :
    codec.HasRoom at_.now := by
  by_cases hroom : codec.HasRoom at_.now
  · exact hroom
  · rw [issuePair_eq, if_neg hroom] at h
    cases h

/-- Each half of a pair is the signature of its claims. -/
theorem half_of_issuePair (h : codec.issuePair at_ userId username method roles = some pair)
    (kind : TokenKind) :
    pair.half kind = codec.sign (codec.halfClaims at_ userId username method roles kind) := by
  have hroom := hasRoom_of_issuePair h
  rw [issuePair_eq, if_pos hroom] at h
  cases h
  cases kind <;> rfl

theorem exists_issuePair (h : codec.HasRoom at_.now) (userId : UserId) (username : String)
    (method : SignInMethod) (roles : Option (List String)) :
    ∃ pair, codec.issuePair at_ userId username method roles = some pair :=
  ⟨_, (codec.issuePair_eq at_ userId username method roles).trans (if_pos h)⟩

theorem issuePair_of_not_hasRoom (h : ¬ codec.HasRoom at_.now) (userId : UserId)
    (username : String) (method : SignInMethod) (roles : Option (List String)) :
    codec.issuePair at_ userId username method roles = none :=
  (codec.issuePair_eq at_ userId username method roles).trans (if_neg h)

end TokenCodec

end Gatehouse
