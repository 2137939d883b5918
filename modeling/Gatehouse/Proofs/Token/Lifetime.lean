import Gatehouse.Proofs.Token.Nodes

/-!
# How long tokens live

A token is to live for the seconds that the settings give to its kind. Its expiry is kept in 64
bits, and settings are refused if the seconds alone do not fit there; that their sum with the time
of issue fits is not checked. So a pair of tokens that live as long as they should is issued if both
sums fit, and else the program stops (`TokenCodec.expiry_and_verify_iff`). Settings are safe to use
up to the end of the year 9999 if they leave enough room for the time
(`TokenCodec.verifies_until_last_iff`).
-/

namespace Gatehouse

/-- For how many seconds tokens of a kind are to live. -/
def TokenSettings.ttl (s : TokenSettings) : TokenKind → Nat
  | .access => s.accessTtl
  | .refresh => s.refreshTtl

namespace TokenCodec

/-- The last second of the year 9999. -/
def lastSecond : Nat := 253402300799

/-- The expiry that is written in a token of a codec. -/
def expiry? (codec : TokenCodec) (token : String) : Option Int :=
  (Envelope.open? codec.secret Claims.decode token).toOption.map (·.expiresAt)

variable {s : TokenSettings} {codec : TokenCodec}

/-- A codec keeps the seconds of its settings, which fit into 64 bits. -/
theorem ttl_of_ofSettings (hs : ofSettings s = .ok codec) (kind : TokenKind) :
    codec.ttl kind = s.ttl kind ∧ s.ttl kind ≤ Decimal.maxInt64 := by
  unfold ofSettings at hs
  dsimp only at hs
  split at hs
  · cases hs
  · split at hs
    · cases hs
    · next haccess =>
      split at hs
      · cases hs
      · next hrefresh =>
        cases hs
        cases kind with
        | access => exact ⟨rfl, Nat.not_lt.mp haccess⟩
        | refresh => exact ⟨rfl, Nat.not_lt.mp hrefresh⟩

/-- Whether a pair keeps the times of its settings: the expiry written in each half is the time of
issue and the seconds for its kind, and the half is valid when it is issued. -/
def KeepsTimes (codec : TokenCodec) (s : TokenSettings) (now : Int) (pair : TokenPair) : Prop :=
  ∀ kind, codec.expiry? (pair.half kind) = some (now + s.ttl kind) ∧
    ∃ claims, codec.verify now (pair.half kind) = .ok claims

section

variable {at_ : Issuance} {userId : UserId} {username : String} {method : SignInMethod}
  {roles : Option (List String)}

/-- **A pair that is issued lives as long as it should.** -/
theorem keepsTimes_of_issuePair (hs : ofSettings s = .ok codec) {pair : TokenPair}
    (hpair : codec.issuePair at_ userId username method roles = some pair) (hlow : 0 ≤ at_.now)
    (hlast : at_.now ≤ Decimal.maxInt64) (huser : Decimal.IsInt64 userId.value) :
    codec.KeepsTimes s at_.now pair := by
  intro kind
  obtain ⟨hkept, -⟩ := ttl_of_ofSettings hs kind
  have hnow : Decimal.IsInt64 at_.now := ⟨by omega, hlast⟩
  have hopen := open?_half_of_issuePair hpair hnow huser kind
  have hvalid := verify_half_of_secret_eq (rfl : codec.secret = codec.secret) hpair hlow huser kind
    at_.now
  have hstarts : at_.now ≤ at_.now + codec.ttl kind :=
    Int.le_add_of_nonneg_right (Int.natCast_nonneg _)
  rw [if_pos hstarts, if_pos rfl] at hvalid
  rw [← hkept]
  exact ⟨by rw [expiry?, hopen]; rfl, _, hvalid⟩

/-- There is room for a pair if the seconds of the settings fit after the time of issue. -/
theorem hasRoom_iff_of_ofSettings (hs : ofSettings s = .ok codec) {now : Int} (hlow : 0 ≤ now) :
    codec.HasRoom now ↔ ∀ kind, now + s.ttl kind ≤ Decimal.maxInt64 := by
  rw [hasRoom_iff_of_nonneg hlow]
  exact forall_congr' fun kind => by rw [(ttl_of_ofSettings hs kind).1]

theorem exists_keepsTimes_iff (hs : ofSettings s = .ok codec) (hlow : 0 ≤ at_.now)
    (hlast : at_.now ≤ Decimal.maxInt64) (huser : Decimal.IsInt64 userId.value) (username : String)
    (method : SignInMethod) (roles : Option (List String)) :
    (∃ pair, codec.issuePair at_ userId username method roles = some pair ∧
      codec.KeepsTimes s at_.now pair) ↔ codec.HasRoom at_.now := by
  constructor
  · rintro ⟨pair, hpair, -⟩
    exact hasRoom_of_issuePair hpair
  · intro h
    obtain ⟨pair, hpair⟩ := exists_issuePair h userId username method roles
    exact ⟨pair, hpair, keepsTimes_of_issuePair hs hpair hlow hlast huser⟩

/-- **A pair lives as long as it should if its expiries fit into 64 bits.** Under settings that were
accepted, a pair whose halves have the expiries that they should have and are valid at the time of
issue is issued if and only if these expiries fit. Otherwise no pair is issued, as the program
stops. -/
theorem expiry_and_verify_iff (hs : ofSettings s = .ok codec) (hlow : 0 ≤ at_.now)
    (hlast : at_.now ≤ Decimal.maxInt64) (huser : Decimal.IsInt64 userId.value)
    (username : String) (method : SignInMethod) (roles : Option (List String)) :
    ((∃ pair, codec.issuePair at_ userId username method roles = some pair ∧
        codec.KeepsTimes s at_.now pair) ↔ ∀ kind, at_.now + s.ttl kind ≤ Decimal.maxInt64) ∧
      ((∀ kind, at_.now + s.ttl kind ≤ Decimal.maxInt64) ∨
        codec.issuePair at_ userId username method roles = none) := by
  rw [← hasRoom_iff_of_ofSettings hs hlow]
  refine ⟨exists_keepsTimes_iff hs hlow hlast huser username method roles, ?_⟩
  by_cases h : codec.HasRoom at_.now
  · exact .inl h
  · exact .inr (issuePair_of_not_hasRoom h userId username method roles)

/-- Seconds that fit, but leave no room for the time of issue, stop the program. -/
theorem issuePair_overlong :
    let overlong : TokenSettings :=
      ⟨"0123456789abcdef0123456789abcdef", "waymark", 9223372036854775807, 604800, "Authorization"⟩
    ∃ codec, ofSettings overlong = .ok codec ∧
      codec.issuePair ⟨1790000000, "A1", "R1"⟩ ⟨7⟩ "ada" .password none = none :=
  ⟨_, rfl, issuePair_of_not_hasRoom (by decide) ⟨7⟩ "ada" .password none⟩

/-- Seconds that leave just enough room for the time 1000 give a pair then, and stop the program one
second later. -/
theorem expiry_and_verify_iff_longest :
    let longest : TokenSettings :=
      ⟨"0123456789abcdef0123456789abcdef", "waymark", 9223372036854774807, 9223372036854774807,
        "Authorization"⟩
    ∃ codec, ofSettings longest = .ok codec ∧
      (∃ pair, codec.issuePair ⟨1000, "A1", "R1"⟩ ⟨7⟩ "ada" .password none = some pair ∧
        codec.KeepsTimes longest 1000 pair) ∧
      codec.issuePair ⟨1001, "A2", "R2"⟩ ⟨7⟩ "ada" .password none = none := by
  intro longest
  obtain ⟨codec, hcodec⟩ : ∃ codec, ofSettings longest = .ok codec := ⟨_, rfl⟩
  have huser : Decimal.IsInt64 (UserId.mk 7).value := by decide
  have hfirst : 0 ≤ (Issuance.mk 1000 "A1" "R1").now := by decide
  have hsecond : 0 ≤ (Issuance.mk 1001 "A2" "R2").now := by decide
  obtain ⟨hissued, -⟩ :=
    expiry_and_verify_iff hcodec hfirst (by decide) huser "ada" .password none
  obtain ⟨-, hstopped⟩ :=
    expiry_and_verify_iff hcodec hsecond (by decide) huser "ada" .password none
  refine ⟨codec, hcodec, hissued.mpr fun kind => ?_, hstopped.resolve_left fun h => ?_⟩
  · cases kind with
    | access => decide
    | refresh => decide
  · exact absurd (h .access) (by decide)

/-- **Which settings are safe to use.** A pair that lives as long as it should is issued at all
times up to the end of the year 9999 if and only if the seconds of both kinds leave room for that
time. -/
theorem verifies_until_last_iff (hs : ofSettings s = .ok codec) :
    (∀ (at_ : Issuance) (userId : UserId) (username : String) (method : SignInMethod)
        (roles : Option (List String)), 0 ≤ at_.now → at_.now ≤ lastSecond →
        Decimal.IsInt64 userId.value →
        ∃ pair, codec.issuePair at_ userId username method roles = some pair ∧
          codec.KeepsTimes s at_.now pair) ↔
      ∀ kind, lastSecond + s.ttl kind ≤ Decimal.maxInt64 := by
  have hyears : (lastSecond : Int) ≤ Decimal.maxInt64 := by decide
  constructor
  · intro h kind
    -- the time for which there is the least room is the last one
    let last : Issuance := ⟨lastSecond, "", ""⟩
    have hlow : 0 ≤ last.now := Int.natCast_nonneg _
    obtain ⟨pair, hpair, -⟩ := h last ⟨0⟩ "" .password none hlow (Int.le_refl _) (by decide)
    exact Int.ofNat_le.mp ((hasRoom_iff_of_ofSettings hs hlow).mp (hasRoom_of_issuePair hpair) kind)
  · intro h at_ userId username method roles hlow hlast huser
    refine
      (exists_keepsTimes_iff hs hlow (Int.le_trans hlast hyears) huser username method roles).mpr
      ((hasRoom_iff_of_ofSettings hs hlow).mpr fun kind => ?_)
    have hkind := h kind
    omega

end

end TokenCodec

end Gatehouse
