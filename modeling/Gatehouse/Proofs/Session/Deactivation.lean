import Gatehouse.Proofs.User.Numbers
import Gatehouse.Session.Authenticator

/-!
# A user who is not active gets in nowhere

There are four ways in, and each finds the user by something else: signing in with a password by
the name, refreshing and calling by the number in a token, and signing in by a provider by the name
in a profile. Each of them checks on its own that the user is active. `inactive_refused` says that
all of them refuse a user who is not, with whatever token was issued before, and leave the directory
as it is.

What is found has to be the user in question, which takes names that are different, and numbers that
are; the latter is so in every course that begins without users.
-/

namespace Gatehouse

/-- An operation fails and leaves the directory as it is. -/
def Refused {α : Type} (dir : Directory) (p : ExceptT AuthError (StateM Directory) α) : Prop :=
  ∃ e, p.run dir = (.error e, dir)

section

variable {setting : Directory.Setting} {dir : Directory} {user : User}

/-- Recognising a caller: the token is checked, and its user is found and has to be active. -/
theorem run_authenticate (codec : TokenCodec) (headerName : String) (now : Int)
    (header : Option String) :
    (Authenticator.authenticate ⟨codec, Directory.store setting, headerName⟩ now header).run dir =
      match Authenticator.presented header with
      | .error e => (.error e, dir)
      | .ok token =>
        match Authenticator.checkAccessToken ⟨codec, Directory.store setting, headerName⟩ now
          token with
        | .error e => (.error e, dir)
        | .ok claims =>
          if dir.unavailable then (.error (.ofStore Directory.refusal), dir)
          else match dir.user? claims.userId with
          | none => (.error (.unauthenticated "unknown user"), dir)
          | some user =>
            if !user.active then (.error (.unauthenticated "user is inactive"), dir)
            else (.ok ⟨user.id, user.username, claims.method, claims.roles⟩, dir) := by
  rw [Authenticator.authenticate]
  refine (run_check _ _).trans ?_
  cases Authenticator.presented header with
  | error e => rfl
  | ok token =>
    refine (run_check _ _).trans ?_
    dsimp only
    cases Authenticator.checkAccessToken ⟨codec, Directory.store setting, headerName⟩ now token with
    | error e => rfl
    | ok claims =>
      refine (run_call (fun dir => dir.findById claims.userId) _).trans ?_
      simp only [Directory.findById, Directory.guarded]
      cases dir.unavailable with
      | true => rfl
      | false =>
        rw [if_neg (by decide), if_neg (by decide)]
        cases dir.user? claims.userId with
        | none => rfl
        | some user =>
          dsimp only
          split <;> rfl

/-! ### Signing in with a password -/

section Password

variable (hasher : PasswordHasher) (user : User) (username password : String)

/-- Why a user who is not active is not signed in. The password decides first: only who knows it
hears that the user is not active. -/
def passwordRefusal : AuthError :=
  match user.passwordDigest.filter fun digest => !digest.isEmpty with
  | none => .invalidCredentials
  | some digest =>
    match hasher.verify password digest with
    | .error e => .internal e.message
    | .ok false => .invalidCredentials
    | .ok true => .userInactive username

/-- Whether a password is the one of a user. -/
def Knows : Prop :=
  ∃ digest, user.passwordDigest = some digest ∧ digest ≠ "" ∧
    hasher.verify password digest = .ok true

/-- Whether a password is not the one of a user, who may have none. -/
def Mistaken : Prop :=
  ∀ digest, user.passwordDigest = some digest → digest ≠ "" →
    hasher.verify password digest = .ok false

variable {user}

theorem checkPassword_of_inactive {m : Type → Type} {users : UserStore m} {codec : TokenCodec}
    (hinactive : user.active = false) :
    SessionService.checkPassword ⟨users, codec, hasher⟩ user username password =
      .error (passwordRefusal hasher user username password) := by
  rw [SessionService.checkPassword, passwordRefusal]
  cases user.passwordDigest.filter fun digest => !digest.isEmpty with
  | none => rfl
  | some digest =>
    dsimp only
    rcases hasher.verify password digest with _ | _ | _
    · rfl
    · rfl
    · simp [hinactive]

/-- The digest that counts is one that is not empty. -/
theorem filter_eq_some_iff {stored : Option String} {digest : String} :
    (stored.filter fun digest => !digest.isEmpty) = some digest ↔
      stored = some digest ∧ digest ≠ "" := by
  rw [Option.filter_eq_some_iff, Bool.not_eq_true', ← Bool.not_eq_true, String.isEmpty_iff]

theorem passwordRefusal_eq_userInactive_iff {name : String} :
    passwordRefusal hasher user username password = .userInactive name ↔
      name = username ∧ Knows hasher user password := by
  rw [passwordRefusal, Knows]
  simp only [← and_assoc, ← filter_eq_some_iff]
  cases user.passwordDigest.filter fun digest => !digest.isEmpty with
  | none => simp
  | some digest =>
    rcases hverify : hasher.verify password digest with _ | _ | _ <;> simp [hverify, eq_comm]

variable {hasher username password} in
/-- The digest that counts is not the one of a mistaken password. -/
theorem Mistaken.verify_eq (h : Mistaken hasher user password) {digest : String}
    (hdigest : (user.passwordDigest.filter fun digest => !digest.isEmpty) = some digest) :
    hasher.verify password digest = .ok false :=
  let ⟨hstored, hne⟩ := filter_eq_some_iff.mp hdigest
  h digest hstored hne

theorem passwordRefusal_of_mistaken (h : Mistaken hasher user password) :
    passwordRefusal hasher user username password = .invalidCredentials := by
  rw [passwordRefusal]
  cases hdigest : user.passwordDigest.filter fun digest => !digest.isEmpty with
  | none => rfl
  | some digest => simp only [h.verify_eq hdigest]

end Password

/-! ### The four ways in -/

variable (codec : TokenCodec) (hasher : PasswordHasher) (at_ : Issuance)

theorem run_login_of_inactive (hnamed : dir.named? user.username = some user)
    (hinactive : user.active = false) (password : String) :
    (SessionService.login ⟨Directory.store setting, codec, hasher⟩ at_ user.username password).run
        dir =
      (.error (if dir.unavailable then .ofStore Directory.refusal
        else passwordRefusal hasher user user.username password), dir) := by
  rw [run_login, hnamed]
  simp only [checkPassword_of_inactive hasher user.username password hinactive]
  split <;> rfl

/-- A refresh token is refused if it cannot be read, or if it is for a user who is not active. -/
theorem refused_refresh (hfound : dir.user? user.id = some user) (hinactive : user.active = false)
    {token : String}
    (htoken : ∀ claims, codec.verify at_.now token = .ok claims → claims.userId = user.id) :
    Refused dir
      (SessionService.refresh ⟨Directory.store setting, codec, hasher⟩ at_ token) := by
  rw [Refused, run_refresh]
  cases hcheck : SessionService.checkRefreshToken ⟨Directory.store setting, codec, hasher⟩ at_.now
    token with
  | error e => exact ⟨e, rfl⟩
  | ok claims =>
    dsimp only
    rw [htoken claims (checkRefreshToken_eq_ok_iff.mp hcheck).1, hfound]
    dsimp only
    cases dir.unavailable with
    | true => exact ⟨_, rfl⟩
    | false =>
      rw [SessionService.checkOutstanding, hinactive]
      exact ⟨_, rfl⟩

theorem checkAccessToken_eq_ok_iff {m : Type → Type} {users : UserStore m} {headerName : String}
    {now : Int} {token : String} {claims : Claims} :
    Authenticator.checkAccessToken ⟨codec, users, headerName⟩ now token = .ok claims ↔
      codec.verify now token = .ok claims ∧ claims.kind = .access := by
  rw [Authenticator.checkAccessToken]
  cases codec.verify now token with
  | error e => simp
  | ok c =>
    dsimp only
    split
    · next hkind =>
      constructor
      · rintro ⟨⟩
        exact ⟨rfl, hkind⟩
      · rintro ⟨⟨⟩, -⟩
        rfl
    · next hkind =>
      constructor
      · rintro ⟨⟩
      · rintro ⟨⟨⟩, haccess⟩
        exact absurd haccess hkind

/-- A header is refused if no token can be read in it, or one for a user who is not active. -/
theorem refused_authenticate (hfound : dir.user? user.id = some user)
    (hinactive : user.active = false) {headerName : String} {now : Int} {header : Option String}
    (htoken : ∀ token claims, Authenticator.presented header = .ok token →
      codec.verify now token = .ok claims → claims.userId = user.id) :
    Refused dir
      (Authenticator.authenticate ⟨codec, Directory.store setting, headerName⟩ now header) := by
  rw [Refused, run_authenticate]
  cases hpresented : Authenticator.presented header with
  | error e => exact ⟨e, rfl⟩
  | ok token =>
    dsimp only
    cases hcheck : Authenticator.checkAccessToken ⟨codec, Directory.store setting, headerName⟩ now
      token with
    | error e => exact ⟨e, rfl⟩
    | ok claims =>
      dsimp only
      rw [htoken token claims hpresented ((checkAccessToken_eq_ok_iff codec).mp hcheck).1, hfound]
      dsimp only
      cases dir.unavailable with
      | true => exact ⟨_, rfl⟩
      | false =>
        rw [hinactive]
        exact ⟨_, rfl⟩

/-- A sign-in by a provider is refused if the provider does not vouch, or for a user who is not
active. -/
theorem refused_complete (hnamed : dir.named? user.username = some user)
    (hinactive : user.active = false) {provider : IdentityProvider Id} {code received : String}
    {binding : LoginBinding}
    (hprofile : ∀ profile, profileFor provider code received binding = .ok profile →
      profile.username = user.username) :
    Refused dir
      (FederationService.complete ⟨provider.inside, Directory.store setting, codec⟩ at_ code
        received binding) := by
  rw [Refused, run_complete]
  cases hvouched : profileFor provider code received binding with
  | error e => exact ⟨e, rfl⟩
  | ok profile =>
    have hfound : dir.named? (FederationService.template profile).username = some user :=
      (congrArg dir.named? (hprofile profile hvouched)).trans hnamed
    dsimp only
    rw [Directory.findOrCreate, Directory.guarded, hfound]
    cases dir.unavailable with
    | true => exact ⟨_, rfl⟩
    | false =>
      simp only [Bool.false_eq_true, if_false, hinactive]
      exact ⟨_, rfl⟩

end

/-! ### In every course -/

namespace Course

/-- **A user who is not active gets in nowhere.** Take any state of a course that begins without
users, in which all names are different, and a user who is not active there. Signing in with a
password under the name of the user, refreshing with and calling with a token that is for the user,
and signing in by a provider that vouches for the name of the user are all refused, and leave the
directory as it is. Signing in with a password tells that the user is not active exactly to who
knows the password, and a mistaken password is answered as one of an active user would be. -/
theorem inactive_refused (issuer : TokenCodec) (events : List SessionEvent) (user : User) :
    let dir := ((start .empty).follow issuer events).dir
    user ∈ dir.users → user.active = false → (dir.users.map (·.username)).Nodup →
      ∀ (setting : Directory.Setting) (codec : TokenCodec) (hasher : PasswordHasher)
        (at_ : Issuance),
      let service : SessionService (StateM Directory) := ⟨Directory.store setting, codec, hasher⟩
      (∀ password, Refused dir (service.login at_ user.username password)) ∧
        (∀ token, (∀ claims, codec.verify at_.now token = .ok claims → claims.userId = user.id) →
          Refused dir (service.refresh at_ token)) ∧
        (∀ headerName header, (∀ token claims, Authenticator.presented header = .ok token →
            codec.verify at_.now token = .ok claims → claims.userId = user.id) →
          Refused dir (Authenticator.authenticate ⟨codec, Directory.store setting, headerName⟩
            at_.now header)) ∧
        (∀ provider code received binding,
          (∀ profile, profileFor provider code received binding = .ok profile →
            profile.username = user.username) →
          Refused dir (FederationService.complete
            ⟨provider.inside, Directory.store setting, codec⟩ at_ code received binding)) ∧
        (∀ password, (∃ name, ((service.login at_ user.username password).run dir).1 =
            .error (.userInactive name)) ↔
          dir.unavailable = false ∧ Knows hasher user password) ∧
        ∀ password, dir.unavailable = false → Mistaken hasher user password →
          ((service.login at_ user.username password).run dir).1 =
            .error .invalidCredentials := by
  intro dir hmem hinactive hnames setting codec hasher at_ service
  have hfound : dir.user? user.id = some user :=
    Directory.user?_of_mem (numbered_follow issuer events) hmem
  have hnamed : dir.named? user.username = some user := Directory.named?_of_mem hnames hmem
  have hlogin : ∀ password, ((service.login at_ user.username password).run dir) = _ :=
    run_login_of_inactive codec hasher at_ hnamed hinactive
  refine ⟨fun password => ⟨_, hlogin password⟩,
    fun token htoken => refused_refresh codec hasher at_ hfound hinactive htoken,
    fun headerName header htoken => refused_authenticate codec hfound hinactive htoken,
    fun provider code received binding hprofile =>
      refused_complete codec at_ hnamed hinactive hprofile,
    fun password => ?_, fun password havail hmistaken => ?_⟩
  · rw [hlogin password]
    cases havail : dir.unavailable with
    | true => simp [AuthError.ofStore]
    | false => simp [passwordRefusal_eq_userInactive_iff]
  · rw [hlogin password, havail, if_neg (by decide),
      passwordRefusal_of_mistaken hasher user.username password hmistaken]

/-- A user signs in by a provider and is deactivated. The refresh token of the session is refused
from then on, and so are another sign-in and any password. -/
theorem inactive_refused_leaver :
    let dir := ((start .empty).follow Sample.codec
      [.change Sample.setting (.findOrCreate (.ofUsername "u")),
        .request Sample.setting (Sample.signIn ⟨0, "a", "b"⟩),
        .change Sample.setting (.setActive ⟨1⟩ false)]).dir
    let service : SessionService (StateM Directory) :=
      ⟨Directory.store Sample.setting, Sample.codec, Sample.setting.hasher⟩
    Refused dir (service.refresh ⟨1, "c", "d"⟩ (Sample.token ⟨0, "a", "b"⟩)) ∧
      Refused dir (FederationService.complete
        ⟨Sample.provider.inside, Directory.store Sample.setting, Sample.codec⟩ ⟨1, "c", "d"⟩ "c" "s"
          ⟨"s", "n", "v"⟩) ∧
      ((service.login ⟨1, "c", "d"⟩ "u" "p").run dir).1 = .error .invalidCredentials := by
  intro dir service
  let leaver := (Sample.holder (Sample.token ⟨0, "a", "b"⟩)).setActive false (.ofSeconds 0)
  have hdir : dir = ⟨[leaver], 1, false⟩ := rfl
  have hmem : leaver ∈ dir.users := List.mem_singleton_self _
  have hnames : (dir.users.map (·.username)).Nodup := by
    rw [hdir]
    exact List.nodup_cons.mpr ⟨List.not_mem_nil, List.nodup_nil⟩
  obtain ⟨-, hrefresh, -, hcomplete, -, hlogin⟩ := inactive_refused Sample.codec
    [.change Sample.setting (.findOrCreate (.ofUsername "u")),
      .request Sample.setting (Sample.signIn ⟨0, "a", "b"⟩),
      .change Sample.setting (.setActive ⟨1⟩ false)]
    leaver hmem rfl hnames Sample.setting Sample.codec Sample.setting.hasher ⟨1, "c", "d"⟩
  refine ⟨hrefresh _ fun claims hverified => ?_, hcomplete _ _ _ _ fun profile hprofile => ?_,
    hlogin "p" rfl fun digest hdigest => ?_⟩
  · cases (Sample.verify_first 1).symm.trans hverified
    rfl
  · cases hprofile
    rfl
  · cases hdigest

end Course

end Gatehouse
