import Gatehouse.Proofs.Token.Claims
import Gatehouse.Proofs.Token.Pair

/-!
# Tokens that travel between nodes

A token that one codec has issued is shown to another. Under the same key the other codec reads
exactly the claims that were issued, and what it says depends on the second of the check and on its
issuer. Under another key it refuses the signature, unless the keyed digests of what was signed
happen to be the same.
-/

namespace Gatehouse

namespace Envelope

/-- What is signed of a token: its header and its payload. -/
def signingInput (payload : Json) : String :=
  encodeJson header ++ "." ++ encodeJson payload

/-- **A token does not open under a key that signs it otherwise.** -/
theorem open?_sign_of_ne {α : Type} {secret secret' : Bytes} (decode : Decoder α) (payload : Json)
    (h : Sha256.keyed secret (Text.utf8 (signingInput payload)) ≠
      Sha256.keyed secret' (Text.utf8 (signingInput payload))) :
    open? secret' decode (sign secret payload) = .error .signature := by
  have hne : signature secret (signingInput payload) ≠ signature secret' (signingInput payload) :=
    fun heq => h (Base64.encode_injective Base64.legible_urlSafe heq)
  have hparts : parts? (sign secret payload) =
      some (encodeJson header, encodeJson payload, signature secret (signingInput payload)) :=
    parts?_sign secret payload
  rw [open?, hparts]
  simp only [decodePart_encodeJson, headerAlgorithm_header]
  show (if algorithm ≠ algorithm then Except.error Fault.algorithm
    else if signature secret (signingInput payload) ≠ signature secret' (signingInput payload) then
      .error .signature
    else _) = _
  rw [if_neg (not_not_intro rfl), if_pos hne]

end Envelope

namespace TokenCodec

variable {codec other : TokenCodec} {claims : Claims}

/-- A token is opened under its key as the claims that were signed. -/
theorem open?_sign_of_fits (h : claims.Fits) :
    Envelope.open? codec.secret Claims.decode (codec.sign claims) = .ok claims := by
  have hread : Claims.decode.run claims.toJson.render = .ok claims :=
    Decoder.run_of_reads (Claims.reads_toJson h) (by decide)
  have hregistered : Envelope.registered.run claims.toJson.render = .ok () :=
    Decoder.run_of_reads (Envelope.reads_registered h) (by decide)
  rw [sign, Envelope.open?_sign, hread, hregistered]
  rfl

/-- A codec of the same key reads the claims that were signed. -/
theorem verify_sign_of_fits (h : claims.Fits) (hsecret : codec.secret = other.secret) (t : Int) :
    other.verify t (codec.sign claims) = other.checkClaims t claims := by
  rw [verify, ← hsecret, open?_sign_of_fits h]

/-- A codec of another key refuses the signature. -/
theorem verify_sign_of_ne {t : Int}
    (h : Sha256.keyed codec.secret (Text.utf8 (Envelope.signingInput claims.toJson)) ≠
      Sha256.keyed other.secret (Text.utf8 (Envelope.signingInput claims.toJson))) :
    other.verify t (codec.sign claims) = .error (.invalid "InvalidSignature") := by
  rw [verify, sign, Envelope.open?_sign_of_ne _ _ h]
  rfl

/-- The claims of a pair that is issued fit into 64 bits if its time and its user do. -/
theorem fits_halfClaims {at_ : Issuance} {userId : UserId} (hroom : codec.HasRoom at_.now)
    (hnow : Decimal.IsInt64 at_.now) (huser : Decimal.IsInt64 userId.value) (username : String)
    (method : SignInMethod) (roles : Option (List String)) (kind : TokenKind) :
    (codec.halfClaims at_ userId username method roles kind).Fits where
  userId := huser
  issuedAt := hnow
  expiresAt := hroom kind

theorem eq_of_ofSettings {s : TokenSettings} (h : ofSettings s = .ok codec) :
    codec.secret = Text.utf8 s.secret ∧ codec.issuer = s.issuer := by
  unfold ofSettings at h
  dsimp only at h
  split at h
  · cases h
  · split at h
    · cases h
    · split at h
      · cases h
      · cases h
        exact ⟨rfl, rfl⟩

/-- Half a pair is opened under its key as the claims that it was issued with. -/
theorem open?_half_of_issuePair {at_ : Issuance} {userId : UserId} {username : String}
    {method : SignInMethod} {roles : Option (List String)} {pair : TokenPair}
    (hpair : codec.issuePair at_ userId username method roles = some pair)
    (hnow : Decimal.IsInt64 at_.now) (huser : Decimal.IsInt64 userId.value) (kind : TokenKind) :
    Envelope.open? codec.secret Claims.decode (pair.half kind) =
      .ok (codec.halfClaims at_ userId username method roles kind) := by
  rw [half_of_issuePair hpair, open?_sign_of_fits
    (fits_halfClaims (hasRoom_of_issuePair hpair) hnow huser username method roles kind)]

/-- Claims that have not been tampered with are refused for their expiry before their issuer. -/
theorem checkClaims_of_nonneg (codec : TokenCodec) (t : Int) {claims : Claims}
    (h : 0 ≤ claims.expiresAt) :
    codec.checkClaims t claims =
      if t ≤ claims.expiresAt then
        if claims.issuer = codec.issuer then .ok claims else .error (.invalid "InvalidIssuer")
      else .error .expired := by
  rw [checkClaims, if_neg (Int.not_lt.mpr h)]
  by_cases ht : t ≤ claims.expiresAt
  · rw [if_neg (Int.not_lt.mpr ht), if_pos ht, ite_not]
  · rw [if_pos (Int.not_le.mp ht), if_neg ht]

/-- What a codec of the same key says about half a pair. -/
theorem verify_half_of_secret_eq (hsecret : codec.secret = other.secret) {at_ : Issuance}
    {userId : UserId} {username : String} {method : SignInMethod} {roles : Option (List String)}
    {pair : TokenPair} (hpair : codec.issuePair at_ userId username method roles = some pair)
    (hlow : 0 ≤ at_.now) (huser : Decimal.IsInt64 userId.value) (kind : TokenKind) (t : Int) :
    other.verify t (pair.half kind) =
      if t ≤ at_.now + codec.ttl kind then
        if codec.issuer = other.issuer then
          .ok (codec.halfClaims at_ userId username method roles kind)
        else .error (.invalid "InvalidIssuer")
      else .error .expired := by
  have hroom := hasRoom_of_issuePair hpair
  have hexpiry : 0 ≤ at_.now + codec.ttl kind := Int.add_nonneg hlow (Int.natCast_nonneg _)
  have hnow : Decimal.IsInt64 at_.now := by
    -- the time of issue comes before the expiry, which fits
    have hlast := (hroom kind).2
    simp only [Decimal.IsInt64, Decimal.maxInt64] at *
    omega
  rw [half_of_issuePair hpair,
    verify_sign_of_fits (fits_halfClaims hroom hnow huser username method roles kind) hsecret,
    checkClaims_of_nonneg other t hexpiry]
  rfl

/-- **Tokens travel between nodes.** Of two codecs that were made from settings, the first one
issues a pair at a time that leaves room for its expiries, and the second one checks a half of it.
With the same key and the same issuer it gives the claims as issued up to the second of their
expiry, and says that they expired from then on; with the same key and another issuer it never gives
them; and with another key it refuses the signature, unless the two keys happen to sign the token
alike. -/
theorem verify_half_issuePair {a b : TokenSettings} {A B : TokenCodec}
    (hA : ofSettings a = .ok A) (hB : ofSettings b = .ok B) {at_ : Issuance} (hnow : 0 ≤ at_.now)
    (hfit : ∀ kind, at_.now + A.ttl kind ≤ Decimal.maxInt64) {userId : UserId}
    (huser : Decimal.IsInt64 userId.value) (username : String) (method : SignInMethod)
    (roles : Option (List String)) :
    ∃ pair, A.issuePair at_ userId username method roles = some pair ∧
      ∀ (kind : TokenKind) (t : Int),
        let token := pair.half kind
        let issued : Claims := ⟨userId, username, kind, method, roles, at_.tokenId kind, at_.now,
          at_.now + A.ttl kind, a.issuer⟩
        (a.secret = b.secret → a.issuer = b.issuer →
          B.verify t token = if t ≤ at_.now + A.ttl kind then .ok issued else .error .expired) ∧
        (a.secret = b.secret → a.issuer ≠ b.issuer →
          B.verify t token =
            if t ≤ at_.now + A.ttl kind then .error (.invalid "InvalidIssuer")
            else .error .expired) ∧
        (Sha256.keyed (Text.utf8 a.secret) (Text.utf8 (Envelope.signingInput issued.toJson)) ≠
            Sha256.keyed (Text.utf8 b.secret) (Text.utf8 (Envelope.signingInput issued.toJson)) →
          B.verify t token = .error (.invalid "InvalidSignature")) := by
  obtain ⟨hsecretA, hissuerA⟩ := eq_of_ofSettings hA
  obtain ⟨hsecretB, hissuerB⟩ := eq_of_ofSettings hB
  obtain ⟨pair, hpair⟩ :=
    exists_issuePair ((hasRoom_iff_of_nonneg hnow).mpr hfit) userId username method roles
  refine ⟨pair, hpair, fun kind t => ?_⟩
  intro token issued
  have hissued : A.halfClaims at_ userId username method roles kind = issued :=
    congrArg (Claims.mk userId username kind method roles _ _ _) hissuerA
  refine ⟨fun hsecret hissuer => ?_, fun hsecret hissuer => ?_, fun hkeyed => ?_⟩
  · have hkey : A.secret = B.secret := by rw [hsecretA, hsecretB, hsecret]
    have hsame : A.issuer = B.issuer := by rw [hissuerA, hissuerB, hissuer]
    rw [verify_half_of_secret_eq hkey hpair hnow huser, if_pos hsame, hissued]
  · have hkey : A.secret = B.secret := by rw [hsecretA, hsecretB, hsecret]
    have hother : A.issuer ≠ B.issuer := by rwa [hissuerA, hissuerB]
    rw [verify_half_of_secret_eq hkey hpair hnow huser, if_neg hother]
  · have htoken : token = A.sign issued := by
      rw [← hissued]
      exact half_of_issuePair hpair kind
    rw [← hsecretA, ← hsecretB] at hkeyed
    rw [htoken, verify_sign_of_ne hkeyed]

/-- A node that lets its own tokens live for a minute takes the access token of another node in its
last second, and takes it no more in the next one. -/
theorem verify_half_issuePair_minute :
    let codec : TokenCodec := ⟨Text.utf8 "0123456789abcdef0123456789abcdef", "waymark", 900, 604800⟩
    let other : TokenCodec := ⟨Text.utf8 "0123456789abcdef0123456789abcdef", "waymark", 60, 60⟩
    ∃ pair, codec.issuePair ⟨1000, "A1", "R1"⟩ ⟨7⟩ "ada" .password (some ["editor", ""]) =
        some pair ∧
      other.verify 1900 pair.access =
        .ok ⟨⟨7⟩, "ada", .access, .password, some ["editor", ""], "A1", 1000, 1900, "waymark"⟩ ∧
      other.verify 1901 pair.access = .error .expired := by
  intro codec other
  have hcodec : ofSettings (TokenSettings.ofSecret "0123456789abcdef0123456789abcdef") =
      .ok codec := rfl
  have hother :
      ofSettings ⟨"0123456789abcdef0123456789abcdef", "waymark", 60, 60, "Authorization"⟩ =
        .ok other := rfl
  have hnow : 0 ≤ (Issuance.mk 1000 "A1" "R1").now := by decide
  have hfit : ∀ kind, (Issuance.mk 1000 "A1" "R1").now + codec.ttl kind ≤ Decimal.maxInt64 :=
    (hasRoom_iff_of_nonneg hnow).mp (by decide)
  have huser : Decimal.IsInt64 (UserId.mk 7).value := by decide
  obtain ⟨pair, hpair, hcheck⟩ := verify_half_issuePair hcodec hother hnow hfit huser "ada"
    .password (some ["editor", ""])
  exact ⟨pair, hpair, (hcheck .access 1900).1 rfl rfl, (hcheck .access 1901).1 rfl rfl⟩

end TokenCodec

end Gatehouse
