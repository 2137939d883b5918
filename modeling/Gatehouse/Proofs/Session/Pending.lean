import Gatehouse.Proofs.Session.Outstanding

/-!
# Requests as rows of calls

The operations are written for any store of users. Over a store that only notes down its calls they
become `Pending` programs: rows of calls, each of which goes on with its answer. Between two calls
of one program calls of others may be made, so this is the form in which requests run at the same
time.

The programs are short. Each makes one lookup, checks what it found and then, with nothing in
between that looks at the store again, makes one write (`serve_` lemmas); signing out is the write
alone. `run_serve` says that a program that is not interrupted does what its request does.
-/

namespace Gatehouse

/-! ### Calls -/

/-- A call of a store of users. -/
inductive StoreCall where
  | findById (id : UserId)
  | findByUsername (username : String)
  | findOrCreate (t : UserTemplate)
  | updatePassword (id : UserId) (password : String)
  | updateRefreshDigest (id : UserId) (digest : Option String)

/-- What a call is answered with. -/
abbrev StoreCall.Answer : StoreCall → Type
  | .findById _ => Except StoreError (Option User)
  | .findByUsername _ => Except StoreError (Option User)
  | .findOrCreate _ => Except StoreError User
  | .updatePassword _ _ => Except StoreError Unit
  | .updateRefreshDigest _ _ => Except StoreError Unit

/-- Makes a call. -/
def StoreCall.make {m : Type → Type} (users : UserStore m) : (c : StoreCall) → m c.Answer
  | .findById id => users.findById id
  | .findByUsername username => users.findByUsername username
  | .findOrCreate t => users.findOrCreate t
  | .updatePassword id password => users.updatePassword id password
  | .updateRefreshDigest id digest => users.updateRefreshDigest id digest

/-- A program that still has calls to make, or is done. -/
inductive Pending (α : Type) : Type where
  | done (a : α)
  | call (c : StoreCall) (next : c.Answer → Pending α)

namespace Pending

variable {α β : Type}

/-- One program after the other. -/
def bind : Pending α → (α → Pending β) → Pending β
  | .done a, f => f a
  | .call c next, f => .call c fun answer => (next answer).bind f

instance : Monad Pending where
  pure := .done
  bind := bind

instance : LawfulMonad Pending :=
  LawfulMonad.mk' Pending
    (fun p => by
      show p.bind .done = p
      induction p with
      | done a => rfl
      | call c next ih => exact congrArg (Pending.call c) (funext ih))
    (fun _ _ => rfl)
    (fun p f g => by
      show (p.bind f).bind g = p.bind fun a => (f a).bind g
      induction p with
      | done a => rfl
      | call c next ih => exact congrArg (Pending.call c) (funext ih))

/-- The store whose calls are noted down. -/
def store : UserStore Pending where
  findById id := .call (.findById id) .done
  findByUsername username := .call (.findByUsername username) .done
  findOrCreate t := .call (.findOrCreate t) .done
  updatePassword id password := .call (.updatePassword id password) .done
  updateRefreshDigest id digest := .call (.updateRefreshDigest id digest) .done

/-- Makes the calls of a program one after the other. -/
def run {m : Type → Type} [Monad m] (users : UserStore m) : Pending α → m α
  | .done a => pure a
  | .call c next => do
    let answer ← c.make users
    (next answer).run users

end Pending

/-! ### The programs of the requests -/

section

variable (codec : TokenCodec) (hasher : PasswordHasher) (at_ : Issuance)

/-- What opening a session does after the write. -/
def afterOpening (session : Session) : Except StoreError Unit → Pending SessionReply
  | .ok () => .done (.opened session)
  | .error e => .done (.failed (.ofStore e))

/-- The tokens of a session are issued: the digest is about to be stored. -/
def storing (user : User) (tokens : TokenPair) : Pending SessionReply :=
  let digest := TokenCodec.refreshDigest tokens.refresh
  .call (.updateRefreshDigest user.id (some digest))
    (afterOpening ⟨user.setRefreshDigest (some digest) (.ofSeconds at_.now), tokens⟩)

/-- All checks are passed and a session is to be opened. -/
def opening (user : User) (method : SignInMethod) (roles : Option (List String)) :
    Pending SessionReply :=
  match codec.issuePair at_ user.id user.username method roles with
  | none => .done .stopped
  | some tokens => storing at_ user tokens

/-- What a sign-in with a password does with the user that was found. -/
def afterLogin (username password : String) :
    Except StoreError (Option User) → Pending SessionReply
  | .error e => .done (.failed (.ofStore e))
  | .ok none => .done (.failed (.userNotFound username))
  | .ok (some user) =>
    match SessionService.checkPassword ⟨Pending.store, codec, hasher⟩ user username password with
    | .error e => .done (.failed e)
    | .ok () => opening codec at_ user .password none

/-- What a refresh does with the user that was found. -/
def afterRefresh (token : String) (claims : Claims) :
    Except StoreError (Option User) → Pending SessionReply
  | .error e => .done (.failed (.ofStore e))
  | .ok none => .done (.failed (.userNotFound claims.username))
  | .ok (some user) =>
    match SessionService.checkOutstanding user token with
    | .error e => .done (.failed e)
    | .ok () => opening codec at_ user claims.method claims.roles

/-- What a sign-in by a provider does with the user that was found or created. -/
def afterComplete (profile : Profile) : Except StoreError User → Pending SessionReply
  | .error e => .done (.failed (.ofStore e))
  | .ok user =>
    if !user.active then .done (.failed (.userInactive user.username))
    else opening codec at_ user .openId profile.roles

private theorem check_bind {α β : Type} (r : Except AuthError α)
    (f : α → ExceptT AuthError Pending β) :
    ((liftM r : ExceptT AuthError Pending α) >>= f).run =
      match r with
      | .ok a => (f a).run
      | .error e => .done (.error e) := by
  cases r <;> rfl

private theorem establish_eq (user : User) (method : SignInMethod) (roles : Option (List String)) :
    SessionReply.ofSession <$> (establish Pending.store codec at_ user method roles).run =
      opening codec at_ user method roles := by
  rw [establish, opening]
  cases codec.issuePair at_ user.id user.username method roles with
  | none => rfl
  | some tokens =>
    show Pending.call _ _ = Pending.call _ _
    congr 1
    funext answer
    cases answer with
    | ok => rfl
    | error e => rfl

theorem serve_login (username password : String) :
    (SessionRequest.login at_ username password).serve Pending.store codec hasher =
      .call (.findByUsername username) (afterLogin codec hasher at_ username password) := by
  show Pending.call _ _ = _
  congr 1
  funext answer
  match answer with
  | .error e => rfl
  | .ok none => rfl
  | .ok (some user) =>
    rw [afterLogin, ← establish_eq]
    refine (congrArg (SessionReply.ofSession <$> ·) (check_bind _ _)).trans ?_
    cases SessionService.checkPassword ⟨Pending.store, codec, hasher⟩ user username password <;> rfl

theorem serve_refresh (token : String) :
    (SessionRequest.refresh at_ token).serve Pending.store codec hasher =
      match SessionService.checkRefreshToken ⟨Pending.store, codec, hasher⟩ at_.now token with
      | .error e => .done (.failed e)
      | .ok claims => .call (.findById claims.userId) (afterRefresh codec at_ token claims) := by
  refine (congrArg (SessionReply.ofSession <$> ·) (check_bind _ _)).trans ?_
  cases SessionService.checkRefreshToken ⟨Pending.store, codec, hasher⟩ at_.now token with
  | error e => rfl
  | ok claims =>
    show Pending.call _ _ = Pending.call _ _
    congr 1
    funext answer
    match answer with
    | .error e => rfl
    | .ok none => rfl
    | .ok (some user) =>
      rw [afterRefresh, ← establish_eq]
      refine (congrArg (SessionReply.ofSession <$> ·) (check_bind _ _)).trans ?_
      cases SessionService.checkOutstanding user token <;> rfl

theorem serve_complete (provider : IdentityProvider Id) (code received : String)
    (binding : LoginBinding) :
    (SessionRequest.complete at_ provider code received binding).serve Pending.store codec hasher =
      match profileFor provider code received binding with
      | .error e => .done (.failed e)
      | .ok profile =>
        .call (.findOrCreate (FederationService.template profile))
          (afterComplete codec at_ profile) := by
  refine (congrArg (SessionReply.ofSession <$> ExceptT.run ·) (complete_eq _ _ _ _ _ _ _)).trans ?_
  refine (congrArg (SessionReply.ofSession <$> ·) (check_bind _ _)).trans ?_
  cases profileFor provider code received binding with
  | error e => rfl
  | ok profile =>
    show Pending.call _ _ = Pending.call _ _
    congr 1
    funext answer
    match answer with
    | .error e => rfl
    | .ok user =>
      rw [afterComplete, ← establish_eq]
      show SessionReply.ofSession <$> ExceptT.run (m := Pending)
        (if !user.active then throw (.userInactive user.username)
          else establish Pending.store codec at_ user .openId profile.roles) = _
      split <;> rfl

/-- What signing out does after the write. -/
def afterLogout (id : UserId) : Except StoreError Unit → Pending SessionReply
  | .ok () => .done (.closed id)
  | .error e => .done (.failed (.ofStore e))

/-- Signing out is one write. -/
theorem serve_logout (id : UserId) :
    (SessionRequest.logout id).serve Pending.store codec hasher =
      .call (.updateRefreshDigest id none) (afterLogout id) := by
  show Pending.call _ _ = _
  congr 1
  funext answer
  match answer with
  | .ok () => rfl
  | .error e => rfl

end

/-! ### Without interruption -/

section

variable {m : Type → Type} [Monad m] [LawfulMonad m] {α β : Type} (users : UserStore m)

theorem Pending.run_bind (p : Pending α) (f : α → Pending β) :
    (p >>= f).run users = p.run users >>= fun a => (f a).run users := by
  show (p.bind f).run users = _
  -- the calls of the first program are the first calls of both together
  induction p with
  | done a => rw [Pending.run, pure_bind]; rfl
  | call c next ih =>
    simp only [Pending.bind, Pending.run, bind_assoc]
    exact congrArg _ (funext ih)

theorem Pending.run_map (f : α → β) (p : Pending α) :
    (f <$> p).run users = f <$> p.run users := by
  rw [← bind_pure_comp, Pending.run_bind, ← bind_pure_comp]
  rfl

/-- An operation over the noted calls, with the calls made. -/
private def carried (p : ExceptT AuthError Pending α) : ExceptT AuthError m α :=
  ExceptT.mk (p.run.run users)

private theorem carried_bind (p : ExceptT AuthError Pending α)
    (f : α → ExceptT AuthError Pending β) :
    carried users (p >>= f) = carried users p >>= fun a => carried users (f a) := by
  refine ExceptT.ext ?_
  rw [ExceptT.run_bind]
  refine (Pending.run_bind users _ _).trans (congrArg _ (funext fun r => ?_))
  cases r <;> rfl

private theorem carried_check (r : Except AuthError α) (f : α → ExceptT AuthError Pending β) :
    carried users (liftM r >>= f) = liftM r >>= fun a => carried users (f a) := by
  rw [carried_bind]
  cases r <;> rfl

private theorem carried_call {p : Pending (Except StoreError α)} {q : m (Except StoreError α)}
    (hp : p.run users = q) (f : α → ExceptT AuthError Pending β) :
    carried users (fromStore p >>= f) = fromStore q >>= fun a => carried users (f a) := by
  subst hp
  rw [carried_bind]
  exact congrArg (· >>= _) (ExceptT.ext (Pending.run_bind users p _))

private theorem carried_establish (codec : TokenCodec) (at_ : Issuance) (user : User)
    (method : SignInMethod) (roles : Option (List String)) :
    carried users (establish Pending.store codec at_ user method roles) =
      establish users codec at_ user method roles := by
  rw [establish, establish]
  cases codec.issuePair at_ user.id user.username method roles with
  | none => rfl
  | some tokens => exact carried_call users (bind_pure _) _

private theorem carried_serve {p : ExceptT AuthError Pending (Option Session)}
    {q : ExceptT AuthError m (Option Session)} (h : carried users p = q) :
    (SessionReply.ofSession <$> p.run).run users = SessionReply.ofSession <$> q.run := by
  subst h
  exact Pending.run_map users _ _

/-- **A program that is not interrupted does what its request does.** -/
theorem run_serve (codec : TokenCodec) (hasher : PasswordHasher) (r : SessionRequest) :
    (r.serve Pending.store codec hasher).run users = r.serve users codec hasher := by
  cases r with
  | login at_ username password =>
    refine carried_serve users ?_
    rw [SessionService.login, SessionService.login]
    refine (carried_call users (bind_pure _) _).trans (congrArg _ (funext fun found => ?_))
    rcases found with _ | user
    · rfl
    · refine (carried_check users _ _).trans (congrArg _ (funext fun _ => ?_))
      exact carried_establish users codec at_ user _ _
  | refresh at_ token =>
    refine carried_serve users ?_
    rw [SessionService.refresh, SessionService.refresh]
    refine (carried_check users _ _).trans (congrArg _ (funext fun claims => ?_))
    refine (carried_call users (bind_pure _) _).trans (congrArg _ (funext fun found => ?_))
    rcases found with _ | user
    · rfl
    · refine (carried_check users _ _).trans (congrArg _ (funext fun _ => ?_))
      exact carried_establish users codec at_ user _ _
  | complete at_ provider code received binding =>
    refine carried_serve users ?_
    rw [complete_eq, complete_eq]
    refine (carried_check users _ _).trans (congrArg _ (funext fun profile => ?_))
    rw [welcome, welcome]
    refine (carried_call users (bind_pure _) _).trans (congrArg _ (funext fun user => ?_))
    split
    · rfl
    · exact carried_establish users codec at_ user _ _
  | logout id =>
    refine (Pending.run_map users _ _).trans (congrArg (SessionReply.ofLogout id <$> ·) ?_)
    exact (Pending.run_bind users _ _).trans (congrArg (· >>= _) (bind_pure _))

end

end Gatehouse
