import Gatehouse.Proofs.Session.LastWrite

/-!
# What is passed on from session to session

A refresh makes a new session out of nothing but the token of the one before: how the user signed
in and the roles that a provider named are kept nowhere else. `Session.IsOf` says what the two
tokens of a session carry. A session that a sign-in opens carries what the sign-in says
(`SessionRequest.SignsIn`), and a session that came out of it by refreshes, however many and
whatever else happened in between, carries the same (`Course.isOf_of_descends`).

Tokens keep their numbers in 64 bits, so the times at which they are issued and the number of the
user have to be such numbers. The time of expiry is one of every pair that is issued.
-/

namespace Gatehouse

/-! ### What a session carries -/

/-- A session is one of a user who signed in by a method and with some roles: both of its tokens
can be opened and say so. -/
structure Session.IsOf (s : Session) (codec : TokenCodec) (id : UserId) (method : SignInMethod)
    (roles : Option (List String)) : Prop where
  user : s.user.id = id
  claims : ∀ kind, ∃ claims : Claims,
    Envelope.open? codec.secret Claims.decode (s.tokens.half kind) = .ok claims ∧
      claims.userId = id ∧ claims.kind = kind ∧ claims.method = method ∧ claims.roles = roles

/-- A session has the pair that is issued for its user with a method and some roles. -/
def Session.IssuedAs (s : Session) (codec : TokenCodec) (at_ : Issuance) (method : SignInMethod)
    (roles : Option (List String)) : Prop :=
  ∃ username, codec.issuePair at_ s.user.id username method roles = some s.tokens

section

variable {codec : TokenCodec} {at_ : Issuance} {id : UserId} {method : SignInMethod}
  {roles : Option (List String)} {s : Session}

/-- What a session was issued with can be read off its tokens. -/
theorem Session.IssuedAs.isOf (h : s.IssuedAs codec at_ method roles)
    (hnow : Decimal.IsInt64 at_.now) (hid : Decimal.IsInt64 s.user.id.value) :
    s.IsOf codec s.user.id method roles where
  user := rfl
  claims kind := by
    obtain ⟨username, htokens⟩ := h
    exact ⟨codec.halfClaims at_ s.user.id username method roles kind,
      TokenCodec.open?_half_of_issuePair htokens hnow hid kind, rfl, rfl, rfl, rfl⟩

/-- Claims that pass their check are given as they are. -/
theorem TokenCodec.eq_of_checkClaims {now : Int} {carried claims : Claims}
    (h : codec.checkClaims now carried = .ok claims) : carried = claims := by
  unfold checkClaims at h
  split at h
  · cases h
  · split at h
    · cases h
    · split at h
      · cases h
      · exact Except.ok.inj h

/-- What is verified of the refresh token of a session is what the session carries. -/
theorem Session.IsOf.of_verify (h : s.IsOf codec id method roles) {now : Int} {claims : Claims}
    (hverified : codec.verify now s.tokens.refresh = .ok claims) :
    claims.userId = id ∧ claims.method = method ∧ claims.roles = roles := by
  obtain ⟨carried, hopen, hid, -, hmethod, hroles⟩ := h.claims .refresh
  have hrefresh : Envelope.open? codec.secret Claims.decode s.tokens.refresh = .ok carried := hopen
  rw [TokenCodec.verify, hrefresh] at hverified
  cases TokenCodec.eq_of_checkClaims hverified
  exact ⟨hid, hmethod, hroles⟩

theorem Opens.issuedAs {now : Moment} {user : User} {dir dir' : Directory}
    (h : Opens codec at_ now user method roles dir s dir') :
    s.user.id = user.id ∧ s.IssuedAs codec at_ method roles := by
  have hid : s.user.id = user.id := by
    rw [h.user_eq]
    rfl
  exact ⟨hid, user.username, hid ▸ h.issued⟩

end

/-! ### Sign-ins -/

/-- A request signs in by a method and with some roles: with a password without any, and by a
provider with those in the profile that the provider gives. -/
inductive SessionRequest.SignsIn :
    SessionRequest → SignInMethod → Option (List String) → Prop where
  | password (at_ : Issuance) (username password : String) :
    SignsIn (.login at_ username password) .password none
  | openId (at_ : Issuance) (provider : IdentityProvider Id) (code received : String)
    (binding : LoginBinding) (profile : Profile)
    (hprofile : profileFor provider code received binding = .ok profile) :
    SignsIn (.complete at_ provider code received binding) .openId profile.roles

/-- Whether a request is a sign-in. -/
def SessionRequest.isSignIn : SessionRequest → Bool
  | .login _ _ _ | .complete _ _ _ _ _ => true
  | .refresh _ _ | .logout _ => false

section

variable {codec : TokenCodec} {hasher : PasswordHasher} {setting : Directory.Setting}
  {dir dir' : Directory} {s : Session}

/-- A sign-in with a password that succeeds is one of a user of the name. -/
theorem exists_opens_of_run_login {at_ : Issuance} {username password : String}
    (h : (SessionService.login ⟨Directory.store setting, codec, hasher⟩ at_ username password).run
      dir = (.ok (some s), dir')) :
    ∃ user, dir.unavailable = false ∧ dir.named? username = some user ∧
      Opens codec at_ setting.now user .password none dir s dir' := by
  rw [run_login] at h
  split at h
  · cases h
  · next havail =>
    split at h
    · cases h
    · next user hnamed =>
      split at h
      · cases h
      · exact ⟨user, by simpa using havail, hnamed, opens_of_openSession h⟩

/-- A sign-in by a provider that succeeds is one of the user of a profile. -/
theorem exists_opens_of_run_complete {at_ : Issuance} {provider : IdentityProvider Id}
    {code received : String} {binding : LoginBinding}
    (h : (FederationService.complete ⟨provider.inside, Directory.store setting, codec⟩ at_ code
      received binding).run dir = (.ok (some s), dir')) :
    ∃ profile user dir₁, profileFor provider code received binding = .ok profile ∧
      dir.findOrCreate (FederationService.template profile) setting.now = (.ok user, dir₁) ∧
      Opens codec at_ setting.now user .openId profile.roles dir₁ s dir' := by
  rw [run_complete] at h
  split at h
  · cases h
  · next profile hprofile =>
    split at h
    · cases h
    · next user dir₁ hfound =>
      split at h
      · cases h
      · exact ⟨profile, user, dir₁, hprofile, hfound, opens_of_openSession h⟩

/-- A session that a sign-in opens is issued with what the sign-in says. -/
theorem exists_signsIn_of_opened {r : SessionRequest} (hr : r.isSignIn = true)
    (h : r.serve (Directory.store setting) codec hasher dir = (.opened s, dir')) :
    ∃ at_ method roles, r.issuance? = some at_ ∧ r.SignsIn method roles ∧
      s.IssuedAs codec at_ method roles := by
  cases r with
  | login at_ username password =>
    obtain ⟨user, -, -, hopens⟩ := exists_opens_of_run_login (run_eq_of_opened h)
    exact ⟨at_, _, _, rfl, .password at_ username password, hopens.issuedAs.2⟩
  | complete at_ provider code received binding =>
    obtain ⟨profile, user, dir₁, hprofile, -, hopens⟩ :=
      exists_opens_of_run_complete (run_eq_of_opened h)
    exact ⟨at_, _, _, rfl, .openId at_ provider code received binding profile hprofile,
      hopens.issuedAs.2⟩
  | refresh at_ token => cases hr
  | logout id => cases hr

/-- A refresh passes on what the session before carries. -/
theorem isOf_of_refresh {at_ : Issuance} {id : UserId} {method : SignInMethod}
    {roles : Option (List String)} (hs : s.IsOf codec id method roles)
    (hnow : Decimal.IsInt64 at_.now) (hid : Decimal.IsInt64 id.value) {s' : Session}
    (h : (SessionRequest.refresh at_ s.tokens.refresh).serve (Directory.store setting) codec hasher
      dir = (.opened s', dir')) : s'.IsOf codec id method roles := by
  obtain ⟨claims, user, hex, hopens⟩ := opens_of_run_refresh (run_eq_of_opened h)
  obtain ⟨rfl, rfl, rfl⟩ := hs.of_verify hex.verified
  obtain ⟨huser, hissued⟩ := hopens.issuedAs
  have hsame : s'.user.id = claims.userId := huser.trans hex.id_eq
  exact hsame ▸ hissued.isOf hnow (hsame ▸ hid)

end

/-! ### Descent -/

namespace Course

/-- A session comes out of another by refreshes of a course, each with the refresh token of the
session before. -/
inductive Descends (c : Course) (first : Session) : Session → Prop where
  | self : Descends c first first
  | refresh {s s' : Session} (at_ : Issuance) (h : Descends c first s)
    (hlog : (.refresh at_ s.tokens.refresh, .opened s') ∈ c.log) : Descends c first s'

variable {codec : TokenCodec}

/-- Each reply of a course was given by some directory. -/
theorem exists_serve_of_mem_log {dir : Directory} {events : List SessionEvent}
    {r : SessionRequest} {reply : SessionReply}
    (h : (r, reply) ∈ ((start dir).follow codec events).log) :
    ∃ setting dir₁ dir₂,
      r.serve (Directory.store setting) codec setting.hasher dir₁ = (reply, dir₂) := by
  induction events using List.reverseRecOn with
  | nil => cases h
  | append_singleton events e ih =>
    rw [follow_concat] at h
    cases e with
    | change setting change => exact ih h
    | request setting r' =>
      rcases List.mem_append.mp h with h | h
      · exact ih h
      · cases List.mem_singleton.mp h
        exact ⟨setting, _, _, rfl⟩

/-- **What a session carries is passed on by refreshes.** In any course, take a session that was
opened by a sign-in, and one that came out of it by any number of refreshes. The tokens of both can
be opened, and say of both sessions the same user, the method of the sign-in and exactly its
roles. -/
theorem isOf_of_descends (dir : Directory) (events : List SessionEvent) :
    let c := (start dir).follow codec events
    (∀ entry ∈ c.log, ∀ at_, entry.1.issuance? = some at_ → Decimal.IsInt64 at_.now) →
    ∀ (r : SessionRequest) (first last : Session), r.isSignIn = true →
      (r, .opened first) ∈ c.log → Decimal.IsInt64 first.user.id.value → c.Descends first last →
      ∃ method roles, r.SignsIn method roles ∧ first.IsOf codec first.user.id method roles ∧
        last.IsOf codec first.user.id method roles := by
  intro c htimes r first last hr hlog hid hdescends
  obtain ⟨_, _, _, hserve⟩ := exists_serve_of_mem_log hlog
  obtain ⟨at_, method, roles, hissuance, hsigns, hissued⟩ := exists_signsIn_of_opened hr hserve
  have hfirst : first.IsOf codec first.user.id method roles :=
    hissued.isOf (htimes _ hlog at_ hissuance) hid
  refine ⟨method, roles, hsigns, hfirst, ?_⟩
  -- each session of the chain carries what the one before it does
  induction hdescends with
  | self => exact hfirst
  | refresh at_ _ hrefresh ih =>
    obtain ⟨_, _, _, hserve⟩ := exists_serve_of_mem_log hrefresh
    exact isOf_of_refresh ih (htimes _ hrefresh at_ rfl) hid hserve

end Course

namespace Sample

/-- A provider that vouches for the user and names roles, one of them twice. -/
def rolesProvider : IdentityProvider Id :=
  { provider with profile := fun _ _ => .ok ⟨"u", "", "", "", "", some ["b", "a", "b"]⟩ }

/-- A sign-in by this provider. -/
def rolesSignIn (at_ : Issuance) : SessionRequest :=
  .complete at_ rolesProvider "c" "s" ⟨"s", "n", "v"⟩

/-- What a token says that the user gets. -/
def rolesClaims (at_ : Issuance) : TokenKind → Claims :=
  codec.halfClaims at_ ⟨1⟩ "u" .openId (some ["b", "a", "b"])

/-- The session that the user gets, or gets by a refresh. -/
def rolesSession (at_ : Issuance) (found : User) : Session :=
  let tokens : TokenPair :=
    ⟨codec.sign (rolesClaims at_ .access), codec.sign (rolesClaims at_ .refresh)⟩
  ⟨found.setRefreshDigest (some (TokenCodec.refreshDigest tokens.refresh)) (.ofSeconds at_.now),
    tokens⟩

end Sample

namespace Course

/-- A user signs in by a provider that names roles, and refreshes. -/
theorem isOf_of_descends_roles :
    let first := Sample.rolesSession ⟨0, "a", "b"⟩ Sample.user
    let last := Sample.rolesSession ⟨1, "c", "d"⟩ (Sample.holder first.tokens.refresh)
    let c := (start Sample.directory).follow Sample.codec
      [.request Sample.setting (Sample.rolesSignIn ⟨0, "a", "b"⟩),
        .request Sample.setting (.refresh ⟨1, "c", "d"⟩ first.tokens.refresh)]
    c.Descends first last ∧ last.IsOf Sample.codec ⟨1⟩ .openId (some ["b", "a", "b"]) := by
  intro first last c
  let before : Directory := ⟨[Sample.holder first.tokens.refresh], 1, false⟩
  have hfits : (Sample.rolesClaims ⟨0, "a", "b"⟩ .refresh).Fits :=
    TokenCodec.fits_halfClaims (by decide) (by decide) (by decide) "u" .openId _ .refresh
  have hex : Exchanges Sample.codec 1 first.tokens.refresh before
      (Sample.rolesClaims ⟨0, "a", "b"⟩ .refresh) (Sample.holder first.tokens.refresh) :=
    ⟨(TokenCodec.verify_sign_of_fits hfits rfl 1).trans rfl, rfl, rfl, rfl, rfl,
      storedDigest_refreshDigest _⟩
  have hstart : next Sample.codec (start Sample.directory)
      (.request Sample.setting (Sample.rolesSignIn ⟨0, "a", "b"⟩)) =
        ⟨[(Sample.rolesSignIn ⟨0, "a", "b"⟩, .opened first)], before⟩ := rfl
  have hreply : ((SessionRequest.refresh ⟨1, "c", "d"⟩ first.tokens.refresh).serve
      (Directory.store Sample.setting) Sample.codec Sample.setting.hasher before).1 =
        .opened last := by
    have hrun : (SessionService.refresh
        ⟨Directory.store Sample.setting, Sample.codec, Sample.setting.hasher⟩ ⟨1, "c", "d"⟩
          first.tokens.refresh).run before = _ := hex.run_refresh
    exact congrArg Prod.fst (reply_of_run hrun)
  have hlog : c.log = [(Sample.rolesSignIn ⟨0, "a", "b"⟩, .opened first),
      (.refresh ⟨1, "c", "d"⟩ first.tokens.refresh, .opened last)] := by
    simp only [c, follow, List.foldl_cons, List.foldl_nil, hstart]
    rw [next, hreply]
    rfl
  have hdescends : c.Descends first last :=
    .refresh ⟨1, "c", "d"⟩ .self (by rw [hlog]; simp)
  have htimes : ∀ entry ∈ c.log, ∀ at_, entry.1.issuance? = some at_ →
      Decimal.IsInt64 at_.now := by
    rw [hlog]
    intro entry hentry at_ hat
    rcases List.mem_pair.mp hentry with rfl | rfl <;> cases hat <;> decide
  obtain ⟨method, roles, hsigns, -, hlast⟩ := isOf_of_descends Sample.directory _ htimes
    (Sample.rolesSignIn ⟨0, "a", "b"⟩) first last rfl (by rw [hlog]; simp) (by decide) hdescends
  cases hsigns with
  | openId _ _ _ _ _ profile hprofile =>
    cases hprofile
    exact ⟨hdescends, hlast⟩

end Course

end Gatehouse
