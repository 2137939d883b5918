import Gatehouse.Proofs.Session.Deactivation
import Gatehouse.Proofs.Text.Trim
import Gatehouse.Proofs.Token.Soundness

/-!
# Whom a request is from

A header presents one text as the access token: what stands behind the scheme `Bearer`, or else the
whole value, without the blanks around it (`Presents`). The request is recognised exactly if this
text is a valid access token (`Grants`) and the directory is available and has an active user of the
number in it; the name of the caller is the one in the directory. Nothing but a directory that is
not available is told apart from a request that is not authenticated (`Outcome`).

A token that is valid under some key has no blanks, and its claims are those that stand in its
payload. So blanks and the scheme make no difference to it, and a text that one service takes as a
refresh token is taken by none as an access token (`callers_recognised`).
-/

namespace Gatehouse

/-! ### What stands in a valid token -/

theorem Base64.not_blank_of_value? {c : Char} (h : (urlSafe.value? c).isSome = true) :
    Text.isBlank c = false := by
  have hle : ∀ {a b : Char}, a ≤ b → a.toNat ≤ b.toNat := id
  simp only [Text.isBlank, Bool.or_eq_false_iff, Bool.and_eq_false_iff, decide_eq_false_iff_not,
    beq_eq_false_iff_ne]
  rw [Alphabet.value?] at h
  split at h
  · next hupper =>
    have hlow : 0x41 ≤ c.toNat := hle hupper.1
    have hhigh : c.toNat ≤ 0x5A := hle hupper.2
    omega
  · split at h
    · next hlower =>
      have hlow : 0x61 ≤ c.toNat := hle hlower.1
      have hhigh : c.toNat ≤ 0x7A := hle hlower.2
      omega
    · split at h
      · next hdigit =>
        have hlow : 0x30 ≤ c.toNat := hle hdigit.1
        have hhigh : c.toNat ≤ 0x39 := hle hdigit.2
        omega
      · split at h
        · next hhyphen =>
          subst hhyphen
          decide
        · split at h
          · next hunderscore =>
            subst hunderscore
            decide
          · cases h

/-- No blank is in a text that is safe in addresses. -/
theorem Base64.solid_of_decode? {s : String} {bytes : Bytes} (h : decode? urlSafe s = some bytes) :
    Text.Solid s := by
  obtain ⟨values, hvalues, -⟩ := Option.bind_eq_some_iff.mp h
  exact fun c hc => not_blank_of_value? (isSome_value?_of_valuesOf hvalues c hc)

namespace TokenCodec

variable {codec other : TokenCodec} {token : String} {claims claims' : Claims}

/-- A token that is genuine under two keys holds the same claims under both. -/
theorem Genuine.claims_eq (h : codec.Genuine token claims) (h' : other.Genuine token claims') :
    claims = claims' := by
  obtain ⟨head, payload, hcarries⟩ := h
  obtain ⟨head', payload', hcarries'⟩ := h'
  obtain ⟨sig, hsplit⟩ := hcarries.splitAt_eq
  obtain ⟨sig', hsplit'⟩ := hcarries'.splitAt_eq
  cases hsplit.symm.trans hsplit'
  obtain ⟨bytes, hbytes, hclaims, -⟩ := hcarries.holds_claims
  obtain ⟨bytes', hbytes', hclaims', -⟩ := hcarries'.holds_claims
  cases hbytes.symm.trans hbytes'
  exact Except.ok.inj (hclaims.symm.trans hclaims')

/-- A genuine token is written in an alphabet without blanks. -/
theorem Genuine.solid (h : codec.Genuine token claims) : Text.Solid token := by
  obtain ⟨head, payload, hcarries⟩ := h
  obtain ⟨_, hhead, -⟩ := hcarries.names_algorithm
  obtain ⟨_, hpayload, -⟩ := hcarries.holds_claims
  intro c hc
  rw [hcarries.token_eq, Envelope.toList_token] at hc
  simp only [List.mem_append, List.mem_cons] at hc
  obtain (hc | rfl | hc) | rfl | hc := hc
  · exact Base64.solid_of_decode? hhead c hc
  · decide
  · exact Base64.solid_of_decode? hpayload c hc
  · decide
  · exact Base64.forall_mem_encode (P := fun c => Text.isBlank c = false) (by decide) _ c hc

end TokenCodec

namespace Authenticator

/-! ### The text that is presented -/

/-- What a header value presents as a token: without the blanks around it, a scheme, a space and the
token, or the token alone. -/
inductive Presents (value : String) : String → Prop where
  | scheme (scheme rest : String) (hvalue : Text.trim value = scheme ++ " " ++ rest)
    (hscheme : Text.sameLetters scheme "bearer" = true) : Presents value (Text.trim rest)
  | bare (hvalue : ∀ scheme rest, Text.trim value = scheme ++ " " ++ rest →
      Text.sameLetters scheme "bearer" = false) : Presents value (Text.trim value)

/-- A scheme in either case has no blanks. -/
theorem solid_scheme {scheme : String} (h : Text.sameLetters scheme "bearer" = true) :
    Text.Solid scheme :=
  Text.solid_of_sameLetters (by decide) h

/-- A value with the scheme is cut behind it, for there is no space in the scheme. -/
theorem cutFirst?_of_scheme {value scheme rest : String}
    (hvalue : Text.trim value = scheme ++ " " ++ rest)
    (hscheme : Text.sameLetters scheme "bearer" = true) :
    Text.cutFirst? ' ' (Text.trim value).toList = some (scheme.toList, rest.toList) := by
  refine Text.cutFirst?_eq_some_iff.mpr ⟨by simp [hvalue], ?_⟩
  rintro c hc rfl
  exact absurd (solid_scheme hscheme ' ' hc) (by decide)

theorem bearerToken_of_presents {value token : String} (h : Presents value token) :
    bearerToken value = token := by
  cases h with
  | scheme scheme rest hvalue hscheme =>
    rw [bearerToken]
    simp only [cutFirst?_of_scheme hvalue hscheme, String.ofList_toList, hscheme, if_true]
  | bare hvalue =>
    rw [bearerToken]
    cases hcut : Text.cutFirst? ' ' (Text.trim value).toList with
    | none => rfl
    | some parts =>
      obtain ⟨scheme, rest⟩ := parts
      obtain ⟨htext, -⟩ := Text.cutFirst?_eq_some_iff.mp hcut
      have hother := hvalue (String.ofList scheme) (String.ofList rest)
        (String.toList_injective (by simp [htext]))
      simp [hother]

theorem presents_iff {value token : String} :
    Presents value token ↔ bearerToken value = token := by
  constructor
  · exact bearerToken_of_presents
  · rintro rfl
    by_cases hscheme : ∃ scheme rest, Text.trim value = scheme ++ " " ++ rest ∧
        Text.sameLetters scheme "bearer" = true
    · obtain ⟨scheme, rest, hvalue, hscheme⟩ := hscheme
      have h := Presents.scheme scheme rest hvalue hscheme
      rwa [bearerToken_of_presents h]
    · have h : Presents value (Text.trim value) := .bare fun scheme rest hvalue =>
        Bool.not_eq_true _ ▸ fun h => hscheme ⟨scheme, rest, hvalue, h⟩
      rwa [bearerToken_of_presents h]

theorem presented_eq_ok_iff {header : Option String} {token : String} :
    presented header = .ok token ↔
      ∃ value, header = some value ∧ Presents value token ∧ token ≠ "" := by
  cases header with
  | none => simp [presented]
  | some value =>
    have hvalue : (∃ value', some value = some value' ∧ Presents value' token ∧ token ≠ "") ↔
        bearerToken value = token ∧ token ≠ "" := by
      simp [presents_iff]
    rw [hvalue, presented, Option.map_some, Option.filter]
    by_cases hempty : bearerToken value = ""
    · simp only [hempty, ne_eq, not_true_eq_false, decide_false, Bool.false_eq_true, if_false]
      exact iff_of_false nofun fun h => h.2 h.1.symm
    · simp only [hempty, ne_eq, not_false_eq_true, decide_true, if_true, Except.ok.injEq]
      exact (and_iff_left_of_imp fun h => h ▸ hempty).symm

/-! ### What a header grants -/

/-- A header carries a valid access token with some claims. -/
def Grants (codec : TokenCodec) (now : Int) (header : Option String) (claims : Claims) : Prop :=
  ∃ value token, header = some value ∧ Presents value token ∧
    codec.verify now token = .ok claims ∧ claims.kind = .access

section

variable {m : Type → Type} {codec : TokenCodec} {users : UserStore m} {headerName : String}
  {now : Int} {header : Option String} {claims : Claims}

theorem granted_eq_ok_iff :
    (presented header >>= checkAccessToken ⟨codec, users, headerName⟩ now) = .ok claims ↔
      Grants codec now header claims := by
  rw [except_bind_eq_ok_iff]
  constructor
  · rintro ⟨token, hpresented, hcheck⟩
    obtain ⟨value, hheader, hpresents, -⟩ := presented_eq_ok_iff.mp hpresented
    exact ⟨value, token, hheader, hpresents, (checkAccessToken_eq_ok_iff codec).mp hcheck⟩
  · rintro ⟨value, token, hheader, hpresents, hverified⟩
    -- the empty text has no parts, so a token that is valid is not empty
    have hne : token ≠ "" := by
      rintro rfl
      cases hverified.1
    exact ⟨token, presented_eq_ok_iff.mpr ⟨value, hheader, hpresents, hne⟩,
      (checkAccessToken_eq_ok_iff codec).mpr hverified⟩

/-- A request without a valid access token is not authenticated. -/
theorem exists_unauthenticated_of_granted {e : AuthError}
    (h : (presented header >>= checkAccessToken ⟨codec, users, headerName⟩ now) = .error e) :
    ∃ reason, e = .unauthenticated reason := by
  rcases except_bind_eq_error_iff.mp h with h | ⟨token, -, h⟩
  · rw [presented] at h
    split at h
    · cases h
      exact ⟨_, rfl⟩
    · cases h
  · rw [checkAccessToken] at h
    split at h
    · cases h
      exact ⟨_, rfl⟩
    · split at h
      · cases h
      · cases h
        exact ⟨_, rfl⟩

end

/-! ### Who is recognised -/

section

variable {codec : TokenCodec} {headerName : String} {setting : Directory.Setting}
  {dir : Directory} {now : Int} {header : Option String} {claims : Claims}

/-- A request whose header grants nothing is refused, and one whose header grants something comes
down to the look-up of its user. -/
theorem run_authenticate_eq :
    (authenticate ⟨codec, Directory.store setting, headerName⟩ now header).run dir =
      match presented header >>=
        checkAccessToken ⟨codec, Directory.store setting, headerName⟩ now with
      | .error e => (.error e, dir)
      | .ok claims =>
        if dir.unavailable then (.error (.ofStore Directory.refusal), dir)
        else match dir.user? claims.userId with
        | none => (.error (.unauthenticated "unknown user"), dir)
        | some user =>
          if !user.active then (.error (.unauthenticated "user is inactive"), dir)
          else (.ok ⟨user.id, user.username, claims.method, claims.roles⟩, dir) := by
  rw [run_authenticate]
  cases presented header with
  | error e => rfl
  | ok token => rfl

/-- What becomes of a request: it leaves the directory, and its caller is recognised, it is not
authenticated, or the directory is not available for a valid access token. -/
structure Outcome (codec : TokenCodec) (now : Int) (header : Option String) (dir : Directory)
    (outcome : Except AuthError Caller × Directory) : Prop where
  unchanged : outcome.2 = dir
  caller_iff : ∀ caller, outcome.1 = .ok caller ↔ ∃ claims user,
    Grants codec now header claims ∧ dir.unavailable = false ∧
      dir.user? claims.userId = some user ∧ user.active = true ∧
      caller = ⟨claims.userId, user.username, claims.method, claims.roles⟩
  error_cases : ∀ e, outcome.1 = .error e →
    (∃ reason, e = .unauthenticated reason) ∨ ∃ reason, e = .storeFailure reason
  storeFailure_iff : ∀ reason, outcome.1 = .error (.storeFailure reason) ↔
    reason = Directory.refusal.message ∧ dir.unavailable = true ∧
      ∃ claims, Grants codec now header claims

theorem Grants.claims_eq {claims' : Claims} (h : Grants codec now header claims)
    (h' : Grants codec now header claims') : claims = claims' := by
  obtain ⟨value, token, rfl, hpresents, hverified, -⟩ := h
  obtain ⟨value', token', ⟨⟩, hpresents', hverified', -⟩ := h'
  cases (presents_iff.mp hpresents).symm.trans (presents_iff.mp hpresents')
  exact Except.ok.inj (hverified.symm.trans hverified')

/-- A request is not authenticated if its access token, should it be valid, is of nobody who is
active. -/
theorem Outcome.of_unauthenticated
    (h : ∀ claims, Grants codec now header claims → dir.unavailable = false ∧
      ∀ user, dir.user? claims.userId = some user → user.active = false) (reason : String) :
    Outcome codec now header dir (.error (.unauthenticated reason), dir) where
  unchanged := rfl
  caller_iff caller := by
    refine iff_of_false nofun ?_
    rintro ⟨claims, user, hgrants, -, huser, hactive, -⟩
    rw [(h claims hgrants).2 user huser] at hactive
    cases hactive
  error_cases := by
    rintro _ ⟨⟩
    exact .inl ⟨reason, rfl⟩
  storeFailure_iff reason' := by
    refine iff_of_false nofun ?_
    rintro ⟨-, hunavailable, claims, hgrants⟩
    rw [(h claims hgrants).1] at hunavailable
    cases hunavailable

theorem Outcome.of_unavailable (hgrants : Grants codec now header claims)
    (hunavailable : dir.unavailable = true) :
    Outcome codec now header dir (.error (.ofStore Directory.refusal), dir) where
  unchanged := rfl
  caller_iff caller := by
    refine iff_of_false nofun ?_
    rintro ⟨_, _, _, havail, -⟩
    rw [hunavailable] at havail
    cases havail
  error_cases := by
    rintro _ ⟨⟩
    exact .inr ⟨_, rfl⟩
  storeFailure_iff reason := by
    constructor
    · rintro ⟨⟩
      exact ⟨rfl, hunavailable, claims, hgrants⟩
    · rintro ⟨rfl, -⟩
      rfl

theorem Outcome.of_user (hgrants : Grants codec now header claims)
    (havail : dir.unavailable = false) {user : User} (huser : dir.user? claims.userId = some user)
    (hactive : user.active = true) :
    Outcome codec now header dir
      (.ok ⟨user.id, user.username, claims.method, claims.roles⟩, dir) where
  unchanged := rfl
  caller_iff caller := by
    rw [Directory.id_of_user? huser]
    constructor
    · rintro ⟨⟩
      exact ⟨claims, user, hgrants, havail, huser, hactive, rfl⟩
    · rintro ⟨claims', user', hgrants', -, huser', -, rfl⟩
      cases hgrants.claims_eq hgrants'
      cases huser.symm.trans huser'
      rfl
  error_cases := nofun
  storeFailure_iff reason := by
    refine iff_of_false nofun ?_
    rintro ⟨-, hunavailable, -⟩
    rw [havail] at hunavailable
    cases hunavailable

/-- **What becomes of a request** is told by its header, the second and the directory. -/
theorem outcome_authenticate (codec : TokenCodec) (headerName : String)
    (setting : Directory.Setting) (dir : Directory) (now : Int) (header : Option String) :
    Outcome codec now header dir
      ((authenticate ⟨codec, Directory.store setting, headerName⟩ now header).run dir) := by
  rw [run_authenticate_eq]
  cases hgranted : presented header >>=
      checkAccessToken ⟨codec, Directory.store setting, headerName⟩ now with
  | error e =>
    obtain ⟨reason, rfl⟩ := exists_unauthenticated_of_granted hgranted
    refine .of_unauthenticated (fun claims hgrants => ?_) reason
    cases hgranted.symm.trans (granted_eq_ok_iff.mpr hgrants)
  | ok claims =>
    have hgrants := granted_eq_ok_iff.mp hgranted
    dsimp only
    split
    · next hunavailable => exact .of_unavailable hgrants hunavailable
    · next havail =>
      have havail : dir.unavailable = false := by simpa using havail
      split
      · next hnobody =>
        refine .of_unauthenticated (fun claims' hgrants' => ⟨havail, fun user huser => ?_⟩) _
        cases hgrants.claims_eq hgrants'
        cases hnobody.symm.trans huser
      · next user huser =>
        split
        · next hinactive =>
          refine .of_unauthenticated (fun claims' hgrants' => ⟨havail, fun user' huser' => ?_⟩) _
          cases hgrants.claims_eq hgrants'
          cases huser.symm.trans huser'
          simpa using hinactive
        · next hactive => exact .of_user hgrants havail huser (by simpa using hactive)

end

/-! ### Blanks and the scheme -/

section

variable {t front back : String}

theorem presents_self (ht : Text.Solid t) : Presents t t := by
  have htrim := ht.trimmed.trim_eq
  have h : Presents t (Text.trim t) := .bare fun scheme rest hvalue => by
    have hspace : ' ' ∈ t.toList := by
      rw [← htrim, hvalue]
      simp
    exact absurd (ht ' ' hspace) (by decide)
  rwa [htrim] at h

theorem presents_pad (ht : Text.Solid t) (hfront : Text.Blank front) (hback : Text.Blank back) :
    Presents (front ++ t ++ back) t := by
  have hsame : bearerToken (front ++ t ++ back) = bearerToken t := by
    rw [bearerToken, bearerToken, Text.trim_pad hfront hback]
  exact presents_iff.mpr (hsame.trans (bearerToken_of_presents (presents_self ht)))

theorem presents_scheme (ht : Text.Solid t) (hne : t ≠ "") (hfront : Text.Blank front)
    (hback : Text.Blank back) {scheme gap : String}
    (hscheme : Text.sameLetters scheme "bearer" = true) (hgap : Text.Blank gap) :
    Presents (front ++ (scheme ++ " " ++ gap ++ t) ++ back) t := by
  have hscheme' : scheme ≠ "" := by
    rintro rfl
    exact absurd hscheme (by decide)
  have hvalue : Text.trim (front ++ (scheme ++ " " ++ gap ++ t) ++ back) =
      scheme ++ " " ++ (gap ++ t) := by
    have hbetween := Text.trim_between (solid_scheme hscheme) hscheme' ht hne (" " ++ gap)
    simp only [String.append_assoc] at hbetween
    rw [Text.trim_pad hfront hback]
    simp only [String.append_assoc, hbetween]
  have hrest : Text.trim (gap ++ t) = t := by
    have hpad := Text.trim_pad hgap (fun c hc => absurd hc List.not_mem_nil : Text.Blank "") t
    rwa [String.append_empty, ht.trimmed.trim_eq] at hpad
  have h := Presents.scheme scheme (gap ++ t) hvalue hscheme
  rwa [hrest] at h

/-- Only the text that is presented counts. -/
theorem authenticate_eq_of_presents {m : Type → Type} [Monad m] (a : Authenticator m) (now : Int)
    {value value' token : String} (h : Presents value token) (h' : Presents value' token) :
    a.authenticate now (some value) = a.authenticate now (some value') := by
  have hsame := (bearerToken_of_presents h).trans (bearerToken_of_presents h').symm
  rw [authenticate, authenticate, presented, presented, Option.map_some, Option.map_some, hsame]

end

/-! ### Access tokens and refresh tokens -/

/-- A refresh token that some service does not refuse is no access token of any. -/
theorem not_grants_of_refresh {codec other : TokenCodec} {setting : Directory.Setting}
    {hasher : PasswordHasher} {at_ : Issuance} {dir dir' : Directory} {opened : Option Session}
    {s : String} (h : (SessionService.refresh ⟨Directory.store setting, other, hasher⟩ at_ s).run
      dir = (.ok opened, dir')) (now : Int) (claims : Claims) :
    ¬ Grants codec now (some s) claims := by
  rintro ⟨_, token, ⟨⟩, hpresents, hverified, haccess⟩
  obtain ⟨claims', user, hex, -⟩ := exchanges_of_run_refresh h
  have hgenuine := ((other.verify_eq_ok_iff _ _ _).mp hex.verified).1
  -- the text has no blanks, so it is itself what the header presents
  have htoken : s = token :=
    (bearerToken_of_presents (presents_self hgenuine.solid)).symm.trans
      (bearerToken_of_presents hpresents)
  subst htoken
  have hgenuine' := ((codec.verify_eq_ok_iff _ _ _).mp hverified).1
  rw [hgenuine'.claims_eq hgenuine, hex.kind] at haccess
  cases haccess

/-- **Whom a request is from.** The caller is the active user whom a valid access token in the
header is for, under the name of now. All other requests are not authenticated, but for those with a
valid access token while the directory is not available. Blanks around a token and the scheme before
it, in letters of either case, make no difference; and no text is taken both as an access token and
as a refresh token. -/
theorem callers_recognised :
    (∀ (codec : TokenCodec) (headerName : String) (setting : Directory.Setting) (dir : Directory)
      (now : Int) (header : Option String), Outcome codec now header dir
        ((authenticate ⟨codec, Directory.store setting, headerName⟩ now header).run dir)) ∧
    (∀ {m : Type → Type} [Monad m] (a : Authenticator m) (now : Int) {t front back : String},
      Text.Solid t → t ≠ "" → Text.Blank front → Text.Blank back →
        a.authenticate now (some (front ++ t ++ back)) = a.authenticate now (some t) ∧
        ∀ {scheme gap : String}, Text.sameLetters scheme "bearer" = true → Text.Blank gap →
          a.authenticate now (some (front ++ (scheme ++ " " ++ gap ++ t) ++ back)) =
            a.authenticate now (some t)) ∧
    ∀ (s : String) (codec other : TokenCodec) (headerName : String)
      (setting setting' : Directory.Setting) (hasher : PasswordHasher) (now : Int) (at_ : Issuance)
      (dir dir' : Directory),
      (∃ caller after, (authenticate ⟨codec, Directory.store setting, headerName⟩ now
        (some s)).run dir = (.ok caller, after)) →
      ¬ ∃ opened after, (SessionService.refresh ⟨Directory.store setting', other, hasher⟩ at_
        s).run dir' = (.ok opened, after) := by
  refine ⟨outcome_authenticate, fun a now t front back ht hne hfront hback => ⟨?_, ?_⟩, ?_⟩
  · exact authenticate_eq_of_presents a now (presents_pad ht hfront hback) (presents_self ht)
  · intro scheme gap hscheme hgap
    exact authenticate_eq_of_presents a now
      (presents_scheme ht hne hfront hback hscheme hgap) (presents_self ht)
  · rintro s codec other headerName setting setting' hasher now at_ dir dir' ⟨caller, after, hok⟩
      ⟨opened, after', hrefresh⟩
    have houtcome := outcome_authenticate codec headerName setting dir now (some s)
    obtain ⟨claims, -, hgrants, -⟩ := (houtcome.caller_iff caller).mp (congrArg Prod.fst hok)
    exact not_grants_of_refresh hrefresh now claims hgrants

/-- An access token that was issued under an older name of the user is taken behind a scheme in odd
letters, with blanks around it, and it is not exchanged for another. -/
theorem callers_recognised_renamed :
    let claims := Sample.codec.halfClaims ⟨0, "a", "b"⟩ ⟨1⟩ "v" .openId (some ["r"]) .access
    let token := Sample.codec.sign claims
    let a : Authenticator (StateM Directory) :=
      ⟨Sample.codec, Directory.store Sample.setting, "Authorization"⟩
    (a.authenticate 1 (some ("\t" ++ ("bEARER" ++ " " ++ "  " ++ token) ++ "\r\n"))).run
        Sample.directory = (.ok ⟨⟨1⟩, "u", .openId, some ["r"]⟩, Sample.directory) ∧
      ¬ ∃ opened after, (SessionService.refresh
        ⟨Directory.store Sample.setting, Sample.codec, Sample.setting.hasher⟩ ⟨1, "c", "d"⟩
          token).run Sample.directory = (.ok opened, after) := by
  intro claims token a
  obtain ⟨hcaller, hblanks, hapart⟩ := callers_recognised
  have hfits : claims.Fits :=
    TokenCodec.fits_halfClaims (by decide) (by decide) (by decide) "v" .openId _ .access
  have hverified : Sample.codec.verify 1 token = .ok claims :=
    (TokenCodec.verify_sign_of_fits hfits rfl 1).trans rfl
  have hsolid : Text.Solid token := ((TokenCodec.verify_eq_ok_iff _ _ _ _).mp hverified).1.solid
  have hne : token ≠ "" := fun hempty => by
    rw [hempty] at hverified
    cases hverified
  have houtcome :=
    hcaller Sample.codec "Authorization" Sample.setting Sample.directory 1 (some token)
  have htoken : (a.authenticate 1 (some token)).run Sample.directory =
      (.ok ⟨⟨1⟩, "u", .openId, some ["r"]⟩, Sample.directory) :=
    Prod.ext ((houtcome.caller_iff _).mpr ⟨claims, Sample.user,
      ⟨token, token, rfl, presents_self hsolid, hverified, rfl⟩, rfl, rfl, rfl, rfl⟩)
      houtcome.unchanged
  have hfront : Text.Blank "\t" := by decide
  have hback : Text.Blank "\r\n" := by decide
  have hgap : Text.Blank "  " := by decide
  have hscheme : Text.sameLetters "bEARER" "bearer" = true := by decide
  have hheader := (hblanks a 1 hsolid hne hfront hback).2 hscheme hgap
  exact ⟨by rw [hheader, htoken], hapart token Sample.codec Sample.codec "Authorization"
    Sample.setting Sample.setting _ 1 _ Sample.directory _ ⟨_, _, htoken⟩⟩

end Authenticator

end Gatehouse
