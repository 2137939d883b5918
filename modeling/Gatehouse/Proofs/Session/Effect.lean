import Gatehouse.Proofs.Session.History
import Gatehouse.Proofs.Token.Pair
import Gatehouse.Proofs.User.Directory

/-!
# What requests do to a directory

Over a directory in memory each request comes down to a few lookups, a check and at most one write.
The `run_` lemmas say for each of them what it gives and which directory it leaves, with all of its
failures: these leave the directory as it was, and a success puts one digest in the place of
another. A request in which the program stops gets that far only after all checks, and stores
nothing.
-/

namespace Gatehouse

section

variable {α β : Type} {dir dir' : Directory} {setting : Directory.Setting}

/-! ### Operations one after the other -/

section

variable {σ : Type} {s s' : σ}

theorem run_bind_ok {p : ExceptT AuthError (StateM σ) α} {f : α → ExceptT AuthError (StateM σ) β}
    {a : α} (h : p.run s = (.ok a, s')) : (p >>= f).run s = (f a).run s' := by
  have hp : StateT.run p.run s = pure (.ok a, s') := h
  rw [ExceptT.run_bind]
  show StateT.run _ _ = _
  rw [StateT.run_bind, hp, pure_bind]
  rfl

theorem run_bind_error {p : ExceptT AuthError (StateM σ) α}
    {f : α → ExceptT AuthError (StateM σ) β} {e : AuthError} (h : p.run s = (.error e, s')) :
    (p >>= f).run s = (.error e, s') := by
  have hp : StateT.run p.run s = pure (.error e, s') := h
  rw [ExceptT.run_bind]
  show StateT.run _ _ = _
  rw [StateT.run_bind, hp, pure_bind]
  rfl

/-- A check that does not look at the state, and what follows on it. -/
theorem run_check (r : Except AuthError α) (f : α → ExceptT AuthError (StateM σ) β) :
    ((liftM r : ExceptT AuthError (StateM σ) α) >>= f).run s =
      match r with
      | .ok a => (f a).run s
      | .error e => (.error e, s) := by
  cases r with
  | ok a => exact run_bind_ok rfl
  | error e => exact run_bind_error rfl

end

/-- A call of the directory, and what follows on it. -/
theorem run_call (call : Directory → Directory.Outcome α)
    (f : α → ExceptT AuthError (StateM Directory) β) :
    (fromStore (Directory.act call) >>= f).run dir =
      match call dir with
      | (.ok a, dir') => (f a).run dir'
      | (.error e, dir') => (.error (.ofStore e), dir') := by
  have hcall : (fromStore (Directory.act call)).run dir =
      ((call dir).1.mapError AuthError.ofStore, (call dir).2) := rfl
  rcases h : call dir with ⟨_ | a, dir'⟩
  · rw [h] at hcall
    exact run_bind_error hcall
  · rw [h] at hcall
    exact run_bind_ok hcall

/-! ### Opening and closing a session -/

/-- A session that is opened for a user: what it is, and the directory after its digest is
stored. -/
def openSession (codec : TokenCodec) (at_ : Issuance) (now : Moment) (user : User)
    (method : SignInMethod) (roles : Option (List String)) (dir : Directory) :
    Except AuthError (Option Session) × Directory :=
  match codec.issuePair at_ user.id user.username method roles with
  | none => (.ok none, dir)
  | some tokens =>
    let digest := TokenCodec.refreshDigest tokens.refresh
    (.ok (some ⟨user.setRefreshDigest (some digest) (.ofSeconds at_.now), tokens⟩),
      dir.putDigest user.id (some digest) now)

/-- The session of a pair that is issued. -/
theorem openSession_of_issuePair {codec : TokenCodec} {at_ : Issuance} {user : User}
    {method : SignInMethod} {roles : Option (List String)} {tokens : TokenPair}
    (h : codec.issuePair at_ user.id user.username method roles = some tokens) (now : Moment)
    (dir : Directory) :
    let digest := TokenCodec.refreshDigest tokens.refresh
    openSession codec at_ now user method roles dir =
      (.ok (some ⟨user.setRefreshDigest (some digest) (.ofSeconds at_.now), tokens⟩),
        dir.putDigest user.id (some digest) now) := by
  simp only [openSession, h]

/-- At a time that has no room for the tokens of a session, none is opened. -/
theorem openSession_eq_none_iff {codec : TokenCodec} {at_ : Issuance} {now : Moment} {user : User}
    {method : SignInMethod} {roles : Option (List String)} {dir : Directory} :
    openSession codec at_ now user method roles dir = (.ok none, dir) ↔
      ¬ codec.HasRoom at_.now := by
  constructor
  · intro h hroom
    obtain ⟨tokens, htokens⟩ :=
      TokenCodec.exists_issuePair hroom user.id user.username method roles
    rw [openSession_of_issuePair htokens] at h
    cases h
  · intro h
    rw [openSession, TokenCodec.issuePair_of_not_hasRoom h]

/-- Once all checks are passed there is no error. -/
theorem openSession_ne_error (codec : TokenCodec) (at_ : Issuance) (now : Moment) (user : User)
    (method : SignInMethod) (roles : Option (List String)) (dir : Directory) (e : AuthError) :
    (openSession codec at_ now user method roles dir).1 ≠ .error e := by
  rw [openSession]
  cases codec.issuePair at_ user.id user.username method roles with
  | none => nofun
  | some tokens => nofun

/-- A session that was opened has the pair that was issued, and only its digest was stored. -/
structure Opens (codec : TokenCodec) (at_ : Issuance) (now : Moment) (user : User)
    (method : SignInMethod) (roles : Option (List String)) (dir : Directory) (session : Session)
    (dir' : Directory) : Prop where
  issued : codec.issuePair at_ user.id user.username method roles = some session.tokens
  user_eq : session.user =
    user.setRefreshDigest (some (TokenCodec.refreshDigest session.tokens.refresh))
      (.ofSeconds at_.now)
  dir_eq : dir' =
    dir.putDigest user.id (some (TokenCodec.refreshDigest session.tokens.refresh)) now

theorem opens_of_openSession {codec : TokenCodec} {at_ : Issuance} {now : Moment} {user : User}
    {method : SignInMethod} {roles : Option (List String)} {session : Session}
    (h : openSession codec at_ now user method roles dir = (.ok (some session), dir')) :
    Opens codec at_ now user method roles dir session dir' := by
  rw [openSession] at h
  split at h
  · cases h
  · next tokens htokens =>
    cases h
    exact ⟨htokens, rfl, rfl⟩

theorem run_establish (codec : TokenCodec) (at_ : Issuance) {user : User} (method : SignInMethod)
    (roles : Option (List String)) (havail : dir.unavailable = false)
    (huser : (dir.user? user.id).isSome = true) :
    (establish (Directory.store setting) codec at_ user method roles).run dir =
      openSession codec at_ setting.now user method roles dir := by
  rw [establish, openSession]
  cases codec.issuePair at_ user.id user.username method roles with
  | none => rfl
  | some tokens =>
    refine (run_call (fun dir => dir.updateRefreshDigest user.id _ setting.now) _).trans ?_
    rw [Directory.updateRefreshDigest_eq, havail, if_neg (by decide), if_pos huser]
    rfl

/-- Signing out takes the digest of a user away. -/
theorem run_logout (codec : TokenCodec) (hasher : PasswordHasher) (id : UserId)
    (dir : Directory) :
    (SessionService.logout ⟨Directory.store setting, codec, hasher⟩ id).run dir =
      if dir.unavailable then (.error (.ofStore Directory.refusal), dir)
      else if (dir.user? id).isSome then (.ok (), dir.putDigest id none setting.now)
      else (.error (.ofStore (Directory.noUser id)), dir) := by
  have hwrite := dir.updateRefreshDigest_eq id none setting.now
  show ((dir.updateRefreshDigest id none setting.now).1.mapError AuthError.ofStore,
    (dir.updateRefreshDigest id none setting.now).2) = _
  rw [hwrite]
  split
  · rfl
  · split <;> rfl

/-! ### The operations -/

variable (codec : TokenCodec) (hasher : PasswordHasher) (at_ : Issuance)

/-- Signing in with a password: the user is found by its name and the password is checked. -/
theorem run_login (username password : String) :
    (SessionService.login ⟨Directory.store setting, codec, hasher⟩ at_ username password).run dir =
      if dir.unavailable then (.error (.ofStore Directory.refusal), dir)
      else match dir.named? username with
      | none => (.error (.userNotFound username), dir)
      | some user =>
        match SessionService.checkPassword ⟨Directory.store setting, codec, hasher⟩ user username
          password with
        | .error e => (.error e, dir)
        | .ok () => openSession codec at_ setting.now user .password none dir := by
  rw [SessionService.login]
  refine (run_call (fun dir => dir.findByUsername username) _).trans ?_
  simp only [Directory.findByUsername, Directory.guarded]
  cases havail : dir.unavailable with
  | true => rfl
  | false =>
    rw [if_neg (by decide), if_neg (by decide)]
    cases hnamed : dir.named? username with
    | none => rfl
    | some user =>
      refine (run_check _ _).trans ?_
      dsimp only
      cases SessionService.checkPassword ⟨Directory.store setting, codec, hasher⟩ user username
        password with
      | error e => rfl
      | ok _ =>
        exact run_establish codec at_ .password none havail
          (Directory.isSome_user?_of_mem (Directory.mem_of_named? hnamed))

/-- Refreshing: the token is checked, its user is found, and the token has to be the one that is
out. -/
theorem run_refresh (token : String) :
    (SessionService.refresh ⟨Directory.store setting, codec, hasher⟩ at_ token).run dir =
      match SessionService.checkRefreshToken ⟨Directory.store setting, codec, hasher⟩ at_.now
        token with
      | .error e => (.error e, dir)
      | .ok claims =>
        if dir.unavailable then (.error (.ofStore Directory.refusal), dir)
        else match dir.user? claims.userId with
        | none => (.error (.userNotFound claims.username), dir)
        | some user =>
          match SessionService.checkOutstanding user token with
          | .error e => (.error e, dir)
          | .ok () => openSession codec at_ setting.now user claims.method claims.roles dir := by
  rw [SessionService.refresh]
  refine (run_check _ _).trans ?_
  cases SessionService.checkRefreshToken ⟨Directory.store setting, codec, hasher⟩ at_.now token with
  | error e => rfl
  | ok claims =>
    refine (run_call (fun dir => dir.findById claims.userId) _).trans ?_
    simp only [Directory.findById, Directory.guarded]
    cases havail : dir.unavailable with
    | true => rfl
    | false =>
      rw [if_neg (by decide)]
      cases huser : dir.user? claims.userId with
      | none => rfl
      | some user =>
        refine (run_check _ _).trans ?_
        rw [if_neg (by decide)]
        dsimp only
        cases SessionService.checkOutstanding user token with
        | error e => rfl
        | ok _ =>
          refine run_establish codec at_ claims.method claims.roles havail ?_
          rw [Directory.id_of_user? huser, huser]
          rfl

/-- The part of a sign-in by a provider that comes after its answers: the user of a profile is found
or created, and has to be active. -/
def welcome {m : Type → Type} [Monad m] (users : UserStore m) (codec : TokenCodec) (at_ : Issuance)
    (profile : Profile) : ExceptT AuthError m (Option Session) := do
  let user ← fromStore (users.findOrCreate (FederationService.template profile))
  if !user.active then throw (.userInactive user.username)
  else establish users codec at_ user .openId profile.roles

/-- A profile names a user, who is created if need be, and who has to be active. -/
theorem run_welcome (profile : Profile) :
    (welcome (Directory.store setting) codec at_ profile).run dir =
      match dir.findOrCreate (FederationService.template profile) setting.now with
      | (.error e, dir') => (.error (.ofStore e), dir')
      | (.ok user, dir') =>
        if !user.active then (.error (.userInactive user.username), dir')
        else openSession codec at_ setting.now user .openId profile.roles dir' := by
  rw [welcome]
  refine (run_call (fun dir => dir.findOrCreate (FederationService.template profile)
    setting.now) _).trans ?_
  rcases hfound : dir.findOrCreate (FederationService.template profile) setting.now with
    ⟨_ | user, dir'⟩
  · rfl
  · obtain ⟨havail, huser⟩ := Directory.findOrCreate_ok hfound
    dsimp only
    split
    · rfl
    · exact run_establish codec at_ .openId profile.roles havail huser

/-- The profile that a provider gives for a code, and that a user may be found or created by. -/
def profileFor (provider : IdentityProvider Id) (code received : String) (binding : LoginBinding) :
    Except AuthError Profile := do
  FederationService.checkState received binding
  let tokens ← (provider.exchange code binding.verifier).mapError (.providerFailed ·.message)
  let raw ← FederationService.presentIdToken tokens
  let idToken ← (provider.verifyIdToken raw binding.nonce).mapError (.idTokenInvalid ·.message)
  (provider.profile tokens idToken).mapError (.idTokenInvalid ·.message)

section

variable {γ : Type} {m : Type → Type} [Monad m] [LawfulMonad m]

/-- A provider whose answers are known is asked as if a value were checked. -/
theorem fromProvider_pure (wrap : String → AuthError) (answer : Except ProviderError γ) :
    FederationService.fromProvider wrap (pure answer : m (Except ProviderError γ)) =
      liftM (answer.mapError fun e => wrap e.message) := by
  rw [FederationService.fromProvider, pure_bind]
  rfl

private theorem liftM_bind (r : Except AuthError α) (f : α → Except AuthError γ) :
    (liftM (r >>= f) : ExceptT AuthError m γ) = liftM r >>= fun a => liftM (f a) := by
  cases r with
  | ok a => exact (pure_bind (m := ExceptT AuthError m) a fun a => liftM (f a)).symm
  | error e =>
    have hrun : (liftM (Except.error e : Except AuthError α) : ExceptT AuthError m α).run =
        pure (.error e) := rfl
    refine ExceptT.ext ?_
    rw [ExceptT.run_bind, hrun, pure_bind]
    rfl

/-- Completing a sign-in by a provider, the provider's part first. -/
theorem complete_eq (users : UserStore m) (codec : TokenCodec) (at_ : Issuance)
    (provider : IdentityProvider Id) (code received : String) (binding : LoginBinding) :
    FederationService.complete ⟨provider.inside, users, codec⟩ at_ code received binding =
      liftM (profileFor provider code received binding) >>= welcome users codec at_ := by
  simp only [FederationService.complete, profileFor, IdentityProvider.inside, fromProvider_pure,
    liftM_bind, bind_assoc]
  rfl

end

/-- Completing a sign-in by a provider: the profile names a user, who is created if need be, and
who has to be active. -/
theorem run_complete (provider : IdentityProvider Id) (code received : String)
    (binding : LoginBinding) :
    (FederationService.complete ⟨provider.inside, Directory.store setting, codec⟩ at_ code received
        binding).run dir =
      match profileFor provider code received binding with
      | .error e => (.error e, dir)
      | .ok profile =>
        match dir.findOrCreate (FederationService.template profile) setting.now with
        | (.error e, dir') => (.error (.ofStore e), dir')
        | (.ok user, dir') =>
          if !user.active then (.error (.userInactive user.username), dir')
          else openSession codec at_ setting.now user .openId profile.roles dir' := by
  rw [complete_eq]
  refine (run_check _ _).trans ?_
  cases profileFor provider code received binding with
  | error e => rfl
  | ok profile => exact run_welcome codec at_ profile

/-! ### What becomes of the digests -/

/-- The digest of a refresh token is not the empty text, so it is stored as it is. -/
theorem storedDigest_refreshDigest (token : String) :
    User.storedDigest (some (TokenCodec.refreshDigest token)) =
      some (TokenCodec.refreshDigest token) := by
  have hne : TokenCodec.refreshDigest token ≠ "" := by
    -- 32 bytes are enough for a first group of three, which is written in four characters
    obtain ⟨x, y, z, rest, hbytes⟩ : ∃ x y z rest,
        Sha256.digest (Text.utf8 token) = x :: y :: z :: rest := by
      have hlength := Sha256.length_digest (Text.utf8 token)
      match h : Sha256.digest (Text.utf8 token) with
      | [] | [_] | [_, _] => simp [h] at hlength
      | x :: y :: z :: rest => exact ⟨x, y, z, rest, rfl⟩
    rw [TokenCodec.refreshDigest, Base64.encode, hbytes, ← String.toList_inj.ne]
    simp [Base64.encodeChars]
  simp [User.storedDigest, Option.filter, hne]

/-- The digests after a request: the reply tells the one that is new, and for which user. -/
def Accounts (dir : Directory) (reply : SessionReply) (dir' : Directory) : Prop :=
  ∀ id, dir'.digest? id =
    if reply.user? = some id then reply.token?.map TokenCodec.refreshDigest else dir.digest? id

/-- A reply that is about no user leaves all digests as they were. -/
theorem accounts_of_user?_eq_none {reply : SessionReply} (hreply : reply.user? = none)
    (h : ∀ id, dir'.digest? id = dir.digest? id) : Accounts dir reply dir' := by
  intro id
  rw [hreply, if_neg (Option.some_ne_none id).symm]
  exact h id

theorem accounts_failed {e : AuthError} (h : ∀ id, dir'.digest? id = dir.digest? id) :
    Accounts dir (.failed e) dir' :=
  accounts_of_user?_eq_none rfl h

/-- The digest of a session is stored. -/
theorem accounts_stored {now : Moment} {user : User} (tokens : TokenPair)
    (huser : (dir.user? user.id).isSome = true) :
    let digest := TokenCodec.refreshDigest tokens.refresh
    Accounts dir
      (.opened ⟨user.setRefreshDigest (some digest) (.ofSeconds at_.now), tokens⟩)
      (dir.putDigest user.id (some digest) now) := by
  intro digest id
  refine (Directory.digest?_putDigest huser _ now).trans ?_
  rw [storedDigest_refreshDigest]
  simp [SessionReply.user?, SessionReply.token?, User.setRefreshDigest, digest, eq_comm]

theorem accounts_openSession {now : Moment} {user : User} {method : SignInMethod}
    {roles : Option (List String)} {start : Directory}
    (hstart : ∀ id, dir.digest? id = start.digest? id)
    (huser : (dir.user? user.id).isSome = true) :
    Accounts start (.ofSession (openSession codec at_ now user method roles dir).1)
      (openSession codec at_ now user method roles dir).2 := by
  rw [openSession]
  cases codec.issuePair at_ user.id user.username method roles with
  | none => exact accounts_of_user?_eq_none rfl hstart
  | some tokens =>
    intro id
    rw [← hstart]
    exact accounts_stored at_ tokens huser id

theorem accounts_putDigest_none {now : Moment} {id : UserId}
    (huser : (dir.user? id).isSome = true) :
    Accounts dir (.closed id) (dir.putDigest id none now) := by
  intro id'
  refine (Directory.digest?_putDigest huser none now).trans ?_
  simp [SessionReply.user?, SessionReply.token?, User.storedDigest, eq_comm]

private theorem accounts_of_run {p : ExceptT AuthError (StateM Directory) (Option Session)}
    {out : Except AuthError (Option Session) × Directory} (hrun : p.run dir = out)
    (h : Accounts dir (.ofSession out.1) out.2) :
    Accounts dir ((SessionReply.ofSession <$> p.run : StateM Directory SessionReply) dir).1
      ((SessionReply.ofSession <$> p.run : StateM Directory SessionReply) dir).2 := by
  subst hrun
  exact h

/-- **A request changes a digest exactly as its reply says.** -/
theorem accounts_serve (setting : Directory.Setting) (r : SessionRequest) (dir : Directory) :
    Accounts dir (r.serve (Directory.store setting) codec hasher dir).1
      (r.serve (Directory.store setting) codec hasher dir).2 := by
  cases r with
  | login at_ username password =>
    refine accounts_of_run (run_login codec hasher at_ username password) ?_
    split
    · exact accounts_failed fun _ => rfl
    · split
      · exact accounts_failed fun _ => rfl
      · next user hnamed =>
        split
        · exact accounts_failed fun _ => rfl
        · exact accounts_openSession codec at_ (fun _ => rfl)
            (Directory.isSome_user?_of_mem (Directory.mem_of_named? hnamed))
  | refresh at_ token =>
    refine accounts_of_run (run_refresh codec hasher at_ token) ?_
    split
    · exact accounts_failed fun _ => rfl
    · split
      · exact accounts_failed fun _ => rfl
      · split
        · exact accounts_failed fun _ => rfl
        · next user huser =>
          split
          · exact accounts_failed fun _ => rfl
          · refine accounts_openSession codec at_ (fun _ => rfl) ?_
            rw [Directory.id_of_user? huser, huser]
            rfl
  | complete at_ provider code received binding =>
    refine accounts_of_run (run_complete codec at_ provider code received binding) ?_
    split
    · exact accounts_failed fun _ => rfl
    · next profile _ =>
      -- a user who is created has no digest, so no digest changes before the session is opened
      have hdigests : ∀ id, (dir.findOrCreate (FederationService.template profile)
          setting.now).2.digest? id = dir.digest? id :=
        fun id => Directory.digest?_findOrCreate _ _
      split
      · next hfound => rw [hfound] at hdigests; exact accounts_failed hdigests
      · next hfound =>
        rw [hfound] at hdigests
        split
        · exact accounts_failed hdigests
        · exact accounts_openSession codec at_ hdigests (Directory.findOrCreate_ok hfound).2
  | logout id =>
    show Accounts dir
      (.ofLogout id ((SessionService.logout ⟨Directory.store setting, codec, hasher⟩ id).run dir).1)
      ((SessionService.logout ⟨Directory.store setting, codec, hasher⟩ id).run dir).2
    rw [run_logout]
    split
    · exact accounts_failed fun _ => rfl
    · split
      · next huser => exact accounts_putDigest_none huser
      · exact accounts_failed fun _ => rfl

/-- The stored digests are those of the tokens that are out. -/
def Tracks (replies : List SessionReply) (dir : Directory) : Prop :=
  ∀ id, dir.digest? id = (outstanding? replies id).map TokenCodec.refreshDigest

/-- What accounts for the digests keeps track of them. -/
theorem Tracks.concat {replies : List SessionReply} {reply : SessionReply}
    (h : Tracks replies dir) (hreply : Accounts dir reply dir') :
    Tracks (replies ++ [reply]) dir' := by
  intro id
  rw [hreply id, outstanding?_concat, h id]
  split <;> rfl

/-- A directory without digests has no token out. -/
theorem tracks_nil (h : ∀ u ∈ dir.users, u.refreshDigest = none) : Tracks [] dir := by
  intro id
  have hnone : dir.digest? id = none :=
    Option.bind_eq_none_iff.mpr fun u hu => h u (List.mem_of_find?_eq_some hu)
  rw [hnone]
  rfl

end

end Gatehouse
