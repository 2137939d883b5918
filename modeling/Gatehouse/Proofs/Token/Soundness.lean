import Gatehouse.Proofs.Token.Nodes
import Gatehouse.Proofs.Token.Parts

/-!
# Which tokens are taken

A token is genuine for a codec and some claims if it is a header and a payload, joined by a dot,
with the keyed digest of the two behind another dot; if the header names the algorithm; and if the
claims are read from the payload, which has their expiry as its only one (`Genuine`). For every
text, codec and second, `verify_sound` says what becomes of it: claims are given exactly for genuine
tokens of the issuer that have not expired, expiry is told exactly of genuine ones that have, and
all else is invalid.

That a text is not genuine can often be seen without the key (`Flawed`): by its segments, by another
algorithm in its header, or by an expiry that is missing, negative, no integer, or there twice.
-/

namespace Gatehouse

open Decoder

namespace Envelope

variable {α : Type} {secret : Bytes} {decode : Decoder α} {token head payload sig : String}

theorem decodePart_eq_ok_iff {part : String} {a : α} :
    decodePart decode part = .ok a ↔
      ∃ bytes, Base64.decode? Base64.urlSafe part = some bytes ∧ decode.runBytes bytes = .ok a := by
  rw [decodePart]
  cases Base64.decode? Base64.urlSafe part with
  | none => simp
  | some bytes => cases h : decode.runBytes bytes <;> simp [h, Except.mapError]

/-- No dot is in a part that was read. -/
theorem ne_dot_of_decodePart {part : String} {a : α} (h : decodePart decode part = .ok a) :
    ∀ c ∈ part.toList, c ≠ '.' := by
  obtain ⟨bytes, hbytes, -⟩ := decodePart_eq_ok_iff.mp h
  exact Base64.ne_dot_of_decode? hbytes

theorem toList_token (head payload sig : String) :
    (head ++ "." ++ payload ++ "." ++ sig).toList =
      (head.toList ++ '.' :: payload.toList) ++ '.' :: sig.toList := by
  simp

/-- The last two dots part a token. -/
theorem parts?_eq_some_iff :
    parts? token = some (head, payload, sig) ↔
      token = head ++ "." ++ payload ++ "." ++ sig ∧
        (∀ c ∈ payload.toList, c ≠ '.') ∧ ∀ c ∈ sig.toList, c ≠ '.' := by
  constructor
  · intro h
    rw [parts?] at h
    split at h
    · cases h
    · next message sig' hcut =>
      split at h
      · cases h
      · next head' payload' hcut' =>
        cases h
        obtain ⟨htoken, hsig⟩ := Text.cutLast?_eq_some_iff.mp hcut
        obtain ⟨rfl, hpayload⟩ := Text.cutLast?_eq_some_iff.mp hcut'
        refine ⟨String.toList_injective ?_, by simpa using hpayload, by simpa using hsig⟩
        rw [htoken, toList_token]
        simp
  · rintro ⟨rfl, hpayload, hsig⟩
    simp only [parts?, toList_token, Text.cutLast?_append_cons hsig,
      Text.cutLast?_append_cons hpayload, String.ofList_toList]

/-- What is asked of the parts of a token. -/
theorem open?_eq_ok_iff_of_parts? {a : α} (h : parts? token = some (head, payload, sig)) :
    open? secret decode token = .ok a ↔
      decodePart headerAlgorithm head = .ok algorithm ∧
        sig = signature secret (head ++ "." ++ payload) ∧
          decodePart decode payload = .ok a ∧ decodePart registered payload = .ok () := by
  rw [open?, h]
  dsimp only
  rw [except_bind_eq_ok_iff]
  constructor
  · rintro ⟨named, hhead, hopen⟩
    split at hopen
    · cases hopen
    · next hnamed =>
      split at hopen
      · cases hopen
      · next hsig =>
        obtain ⟨b, hpayload, hopen⟩ := except_bind_eq_ok_iff.mp hopen
        obtain ⟨_, hregistered, ⟨⟩⟩ := except_bind_eq_ok_iff.mp hopen
        exact ⟨by rw [hhead, Decidable.not_not.mp hnamed], Decidable.not_not.mp hsig, hpayload,
          hregistered⟩
  · rintro ⟨hhead, hsig, hpayload, hregistered⟩
    refine ⟨algorithm, hhead, ?_⟩
    rw [if_neg (not_not_intro rfl), if_neg (not_not_intro hsig), hpayload, hregistered]
    rfl

/-- **A token opens exactly if it was put together from a header that names the algorithm, a payload
that can be read, and the signature of these two.** -/
theorem open?_eq_ok_iff {a : α} :
    open? secret decode token = .ok a ↔
      ∃ head payload,
        token = head ++ "." ++ payload ++ "." ++ signature secret (head ++ "." ++ payload) ∧
          decodePart headerAlgorithm head = .ok algorithm ∧ decodePart decode payload = .ok a ∧
            decodePart registered payload = .ok () := by
  constructor
  · intro h
    cases hparts : parts? token with
    | none =>
      rw [open?, hparts] at h
      cases h
    | some parts =>
      obtain ⟨head, payload, sig⟩ := parts
      obtain ⟨hhead, rfl, hpayload, hregistered⟩ := (open?_eq_ok_iff_of_parts? hparts).mp h
      exact ⟨head, payload, (parts?_eq_some_iff.mp hparts).1, hhead, hpayload, hregistered⟩
  · rintro ⟨head, payload, rfl, hhead, hpayload, hregistered⟩
    have hsig : ∀ c ∈ (signature secret (head ++ "." ++ payload)).toList, c ≠ '.' :=
      Base64.ne_dot_of_mem_encode _
    have hparts := parts?_eq_some_iff.mpr
      ⟨Eq.refl (head ++ "." ++ payload ++ "." ++ signature secret (head ++ "." ++ payload)),
        ne_dot_of_decodePart hpayload, hsig⟩
    exact (open?_eq_ok_iff_of_parts? hparts).mpr ⟨hhead, rfl, hpayload, hregistered⟩

end Envelope

namespace TokenCodec

open Envelope

variable {codec : TokenCodec} {token : String} {claims : Claims}

/-- Everything that makes two texts the header and the payload of a token of a codec with some
claims. -/
structure Carries (codec : TokenCodec) (head payload token : String) (claims : Claims) : Prop where
  /-- The token ends with the signature of all that stands before its last dot. -/
  token_eq : token = head ++ "." ++ payload ++ "." ++
    Base64.encode Base64.urlSafe (Sha256.keyed codec.secret (Text.utf8 (head ++ "." ++ payload)))
  names_algorithm : ∃ bytes, Base64.decode? Base64.urlSafe head = some bytes ∧
    headerAlgorithm.runBytes bytes = .ok "HS256"
  /-- The claims are read from the payload, whose one expiry is theirs; the registered claims stop
  nothing. -/
  holds_claims : ∃ bytes, Base64.decode? Base64.urlSafe payload = some bytes ∧
    Claims.decode.runBytes bytes = .ok claims ∧ registered.runBytes bytes = .ok () ∧
      (memberValues "exp").runBytes bytes = .ok [.int claims.expiresAt]
  expiry_nonneg : 0 ≤ claims.expiresAt

/-- Whether a token is genuine for some claims: it carries them under the key of the codec. -/
def Genuine (codec : TokenCodec) (token : String) (claims : Claims) : Prop :=
  ∃ head payload, codec.Carries head payload token claims

/-- Faults that a token shows without its key being known. -/
inductive Flawed (token : String) : Prop where
  /-- There are not three segments. -/
  | segments (h : (Text.splitAt '.' token).length ≠ 3)
  /-- The header is an object, and does not name the algorithm once. -/
  | algorithm {head payload sig : String} {bytes : Bytes} {values : List Json}
    (hsegments : Text.splitAt '.' token = [head, payload, sig])
    (hbytes : Base64.decode? Base64.urlSafe head = some bytes)
    (hvalues : (memberValues "alg").runBytes bytes = .ok values)
    (hname : values ≠ [.str "HS256"]) (hobject : values ≠ [.obj [("HS256", .null)]])
  /-- The payload is no object that has a natural number once as its expiry. -/
  | expiry {head payload sig : String} {bytes : Bytes}
    (hsegments : Text.splitAt '.' token = [head, payload, sig])
    (hbytes : Base64.decode? Base64.urlSafe payload = some bytes)
    (hexpiry : ∀ n : Nat, (memberValues "exp").runBytes bytes ≠ .ok [.int n])

theorem genuine_iff :
    codec.Genuine token claims ↔
      open? codec.secret Claims.decode token = .ok claims ∧ 0 ≤ claims.expiresAt := by
  rw [open?_eq_ok_iff]
  constructor
  · rintro ⟨head, payload, htoken, hheader, ⟨bytes, hbytes, hclaims, hregistered, -⟩, hexpiry⟩
    exact ⟨⟨head, payload, htoken, decodePart_eq_ok_iff.mpr hheader,
      decodePart_eq_ok_iff.mpr ⟨bytes, hbytes, hclaims⟩,
      decodePart_eq_ok_iff.mpr ⟨bytes, hbytes, hregistered⟩⟩, hexpiry⟩
  · rintro ⟨⟨head, payload, htoken, hheader, hpayload, hregistered⟩, hexpiry⟩
    obtain ⟨bytes, hbytes, hclaims⟩ := decodePart_eq_ok_iff.mp hpayload
    obtain ⟨bytes', hbytes', hregistered⟩ := decodePart_eq_ok_iff.mp hregistered
    rw [hbytes] at hbytes'
    cases hbytes'
    exact ⟨head, payload, htoken, decodePart_eq_ok_iff.mp hheader,
      ⟨bytes, hbytes, hclaims, hregistered, exists_expiry hclaims hregistered⟩, hexpiry⟩

/-- The dots of a genuine token are those between its parts. -/
theorem Carries.splitAt_eq {head payload : String} (h : codec.Carries head payload token claims) :
    ∃ sig, Text.splitAt '.' token = [head, payload, sig] := by
  obtain ⟨bytes, hbytes, -⟩ := h.names_algorithm
  obtain ⟨bytes', hbytes', -⟩ := h.holds_claims
  refine ⟨Base64.encode Base64.urlSafe
    (Sha256.keyed codec.secret (Text.utf8 (head ++ "." ++ payload))), ?_⟩
  rw [h.token_eq, Text.splitAt, toList_token, Text.pieces_append_sep, Text.pieces_append_sep,
    Text.pieces_of_forall_ne (Base64.ne_dot_of_decode? hbytes),
    Text.pieces_of_forall_ne (Base64.ne_dot_of_decode? hbytes'),
    Text.pieces_of_forall_ne (Base64.ne_dot_of_mem_encode _)]
  simp

/-- **A token with a fault is not genuine.** -/
theorem Flawed.not_genuine (h : Flawed token) : ¬ codec.Genuine token claims := by
  rintro ⟨head, payload, hcarries⟩
  obtain ⟨sig, hsplit⟩ := hcarries.splitAt_eq
  cases h with
  | segments hlength => exact hlength (congrArg List.length hsplit)
  | algorithm hsegments hbytes hvalues hname hobject =>
    rw [hsplit] at hsegments
    cases hsegments
    obtain ⟨bytes, hbytes', halgorithm⟩ := hcarries.names_algorithm
    rw [hbytes] at hbytes'
    cases hbytes'
    obtain heq | heq := exists_algorithm halgorithm hvalues
    · exact hname heq
    · exact hobject heq
  | expiry hsegments hbytes hexpiry =>
    rw [hsplit] at hsegments
    cases hsegments
    obtain ⟨bytes, hbytes', -, -, hvalues⟩ := hcarries.holds_claims
    rw [hbytes] at hbytes'
    cases hbytes'
    obtain ⟨n, hn⟩ := Int.eq_ofNat_of_zero_le hcarries.expiry_nonneg
    rw [hn] at hvalues
    exact hexpiry n hvalues

/-- A genuine token is judged by its expiry first, and by its issuer then. -/
theorem verify_of_genuine (h : codec.Genuine token claims) (now : Int) :
    codec.verify now token =
      if claims.expiresAt < now then .error .expired
      else if claims.issuer ≠ codec.issuer then .error (.invalid "InvalidIssuer")
      else .ok claims := by
  obtain ⟨hopen, hexpiry⟩ := genuine_iff.mp h
  rw [verify, hopen]
  show codec.checkClaims now claims = _
  rw [checkClaims, if_neg (Int.not_lt.mpr hexpiry)]

/-- What is not genuine is invalid. -/
theorem exists_invalid_of_not_genuine (h : ∀ claims, ¬ codec.Genuine token claims) (now : Int) :
    ∃ reason, codec.verify now token = .error (.invalid reason) := by
  rw [verify]
  cases hopen : open? codec.secret Claims.decode token with
  | error fault => exact ⟨fault.message, rfl⟩
  | ok claims =>
    have hexpiry : claims.expiresAt < 0 := by
      refine Int.not_le.mp fun hexpiry => ?_
      exact h claims (genuine_iff.mpr ⟨hopen, hexpiry⟩)
    refine ⟨"Missing required claim: exp", ?_⟩
    show codec.checkClaims now claims = _
    rw [checkClaims, if_pos hexpiry]

theorem verify_eq_ok_iff (codec : TokenCodec) (now : Int) (token : String) (claims : Claims) :
    codec.verify now token = .ok claims ↔
      codec.Genuine token claims ∧ now ≤ claims.expiresAt ∧ claims.issuer = codec.issuer := by
  constructor
  · intro h
    by_cases hgenuine : ∃ claims, codec.Genuine token claims
    · obtain ⟨claims', hgenuine⟩ := hgenuine
      rw [verify_of_genuine hgenuine] at h
      split at h
      · cases h
      · next hlate =>
        split at h
        · cases h
        · next hissuer =>
          cases h
          exact ⟨hgenuine, Int.not_lt.mp hlate, Decidable.not_not.mp hissuer⟩
    · obtain ⟨reason, hreason⟩ := exists_invalid_of_not_genuine (not_exists.mp hgenuine) now
      rw [hreason] at h
      cases h
  · rintro ⟨hgenuine, hlate, hissuer⟩
    rw [verify_of_genuine hgenuine, if_neg (Int.not_lt.mpr hlate), if_neg (not_not_intro hissuer)]

theorem verify_eq_expired_iff (codec : TokenCodec) (now : Int) (token : String) :
    codec.verify now token = .error .expired ↔
      ∃ claims, codec.Genuine token claims ∧ claims.expiresAt < now := by
  constructor
  · intro h
    by_cases hgenuine : ∃ claims, codec.Genuine token claims
    · obtain ⟨claims, hgenuine⟩ := hgenuine
      rw [verify_of_genuine hgenuine] at h
      split at h
      · next hlate => exact ⟨claims, hgenuine, hlate⟩
      · split at h <;> cases h
    · obtain ⟨reason, hreason⟩ := exists_invalid_of_not_genuine (not_exists.mp hgenuine) now
      rw [hreason] at h
      cases h
  · rintro ⟨claims, hgenuine, hlate⟩
    rw [verify_of_genuine hgenuine, if_pos hlate]

theorem exists_verify_eq_invalid_iff (codec : TokenCodec) (now : Int) (token : String) :
    (∃ reason, codec.verify now token = .error (.invalid reason)) ↔
      ∀ claims, codec.Genuine token claims →
        now ≤ claims.expiresAt ∧ claims.issuer ≠ codec.issuer := by
  constructor
  · rintro ⟨reason, h⟩ claims hgenuine
    rw [verify_of_genuine hgenuine] at h
    split at h
    · cases h
    · next hlate =>
      split at h
      · next hissuer => exact ⟨Int.not_lt.mp hlate, hissuer⟩
      · cases h
  · intro h
    by_cases hgenuine : ∃ claims, codec.Genuine token claims
    · obtain ⟨claims, hgenuine⟩ := hgenuine
      obtain ⟨hlate, hissuer⟩ := h claims hgenuine
      refine ⟨"InvalidIssuer", ?_⟩
      rw [verify_of_genuine hgenuine, if_neg (Int.not_lt.mpr hlate), if_pos hissuer]
    · exact exists_invalid_of_not_genuine (not_exists.mp hgenuine) now

/-- **A codec takes the genuine tokens of its issuer up to the second of their expiry, says of
genuine ones only that they expired, and refuses all other texts**, among them all in which a fault
shows. -/
theorem verify_sound (codec : TokenCodec) (now : Int) (token : String) :
    (∀ claims, codec.verify now token = .ok claims ↔
      codec.Genuine token claims ∧ now ≤ claims.expiresAt ∧ claims.issuer = codec.issuer) ∧
    (codec.verify now token = .error .expired ↔
      ∃ claims, codec.Genuine token claims ∧ claims.expiresAt < now) ∧
    ((∃ reason, codec.verify now token = .error (.invalid reason)) ↔
      ∀ claims, codec.Genuine token claims →
        now ≤ claims.expiresAt ∧ claims.issuer ≠ codec.issuer) ∧
    (Flawed token → ∃ reason, codec.verify now token = .error (.invalid reason)) := by
  refine ⟨codec.verify_eq_ok_iff now token, codec.verify_eq_expired_iff now token,
    codec.exists_verify_eq_invalid_iff now token, fun hflawed => ?_⟩
  exact exists_invalid_of_not_genuine (fun _ => hflawed.not_genuine) now

/-- A token that was signed is genuine and expires; refused are a text with a segment too many, one
whose header names another algorithm, and one whose payload has no expiry. -/
theorem verify_sound_sample :
    let codec : TokenCodec := ⟨Text.utf8 "0123456789abcdef0123456789abcdef", "waymark", 900, 604800⟩
    let claims : Claims := ⟨⟨7⟩, "ada", .access, .password, none, "A1", 1000, 1900, "waymark"⟩
    (codec.Genuine (codec.sign claims) claims ∧
      codec.verify 1901 (codec.sign claims) = .error .expired) ∧
    ∀ text ∈ ["e30.e30.x.y", "eyJhbGciOiJub25lIn0.e30.x", "e30.e30.x"],
      Flawed text ∧ ∃ reason, codec.verify 0 text = .error (.invalid reason) := by
  intro codec claims
  have hread : codec.verify 1900 (codec.sign claims) = .ok claims :=
    (verify_sign_of_fits ⟨by decide, by decide, by decide⟩ rfl 1900).trans rfl
  have hgenuine := ((verify_sound codec 1900 _).1 claims |>.mp hread).1
  have hrefused : ∀ text, Flawed text →
      Flawed text ∧ ∃ reason, codec.verify 0 text = .error (.invalid reason) :=
    fun text h => ⟨h, (verify_sound codec 0 text).2.2.2 h⟩
  refine ⟨⟨hgenuine, (verify_sound codec 1901 _).2.1.mpr ⟨claims, hgenuine, by decide⟩⟩, ?_⟩
  simp only [List.forall_mem_cons]
  refine ⟨hrefused _ (.segments (by decide)), hrefused _ ?_, hrefused _ ?_, List.forall_mem_nil _⟩
  · have hsegments : Text.splitAt '.' "eyJhbGciOiJub25lIn0.e30.x" =
        ["eyJhbGciOiJub25lIn0", "e30", "x"] := by decide
    have hbytes : Base64.decode? Base64.urlSafe "eyJhbGciOiJub25lIn0" =
        some (Text.utf8 "\x7b\"alg\":\"none\"\x7d") := by decide +kernel
    have hnone : ((memberValues "alg").runBytes
        (Text.utf8 "\x7b\"alg\":\"none\"\x7d")).toOption.map (·.map Json.text?) =
          some [some "none"] := by decide +kernel
    cases hvalues : (memberValues "alg").runBytes (Text.utf8 "\x7b\"alg\":\"none\"\x7d") with
    | error e =>
      rw [hvalues] at hnone
      cases hnone
    | ok values =>
      rw [hvalues] at hnone
      have htexts : values.map Json.text? = [some "none"] := Option.some.inj hnone
      refine .algorithm hsegments hbytes hvalues ?_ ?_
      · rintro rfl
        exact absurd htexts (by decide)
      · rintro rfl
        exact absurd htexts (by decide)
  · have hsegments : Text.splitAt '.' "e30.e30.x" = ["e30", "e30", "x"] := by decide
    have hbytes : Base64.decode? Base64.urlSafe "e30" = some [0x7B, 0x7D] := by decide
    refine .expiry hsegments hbytes fun n hn => ?_
    have hmissing : (memberValues "exp").runBytes [0x7B, 0x7D] = .ok [] := rfl
    rw [hmissing] at hn
    cases hn

end TokenCodec

end Gatehouse
