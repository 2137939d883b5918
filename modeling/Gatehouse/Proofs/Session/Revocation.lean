import Gatehouse.Proofs.Session.Pool

/-!
# What signing out revokes

Signing out takes the stored digest away in one call. A refresh looks at the digest in one call and
stores another in a later one, without a second look. When signing out comes between the two, the
refresh puts the digest of its new token in the place of none, and the user is signed in again.

`logout_final_iff` says that this is the only way: signing out is final exactly when no refresh of
the user has passed its checks and still has to store its digest. The invariant of what follows is
`Revoked`.
-/

namespace Gatehouse

/-- A request is about to store the digest of a new session of a user. -/
def Flight.IsOpening (f : Flight) (id : UserId) : Prop :=
  ∃ digest next, f.rest = .call (.updateRefreshDigest id (some digest)) next

/-- A reply that gives a session of a user. -/
def LogEntry.Opens (entry : LogEntry) (id : UserId) : Prop :=
  ∃ session, entry.reply = .opened session ∧ session.user.id = id

section

variable {codec : TokenCodec} {id : UserId}

theorem not_isOpening_done (r : SessionRequest) (reply : SessionReply) :
    ¬ Flight.IsOpening ⟨r, .done reply⟩ id := by
  rintro ⟨digest, next, h⟩
  cases h

theorem isOpening_storing_iff (r : SessionRequest) (at_ : Issuance) (user : User)
    (tokens : TokenPair) : Flight.IsOpening ⟨r, storing at_ user tokens⟩ id ↔ user.id = id := by
  constructor
  · rintro ⟨digest, next, h⟩
    injection h with hcall
    injection hcall
  · rintro rfl
    exact ⟨_, _, rfl⟩

/-- What is about to store a digest has the tokens of a session for its user. -/
theorem Stage.exists_eq_storing {r : SessionRequest} {rest : Pending SessionReply}
    (h : Stage codec r rest) (hopening : Flight.IsOpening ⟨r, rest⟩ id) :
    ∃ at_ user tokens, rest = storing at_ user tokens ∧ user.id = id := by
  cases h with
  | opens r at_ user tokens =>
    exact ⟨at_, user, tokens, rfl, (isOpening_storing_iff r at_ user tokens).mp hopening⟩
  | done r reply => exact absurd hopening (not_isOpening_done r reply)
  | login => obtain ⟨_, _, h⟩ := hopening; injection h with hcall; cases hcall
  | refresh => obtain ⟨_, _, h⟩ := hopening; injection h with hcall; cases hcall
  | complete => obtain ⟨_, _, h⟩ := hopening; injection h with hcall; cases hcall
  | logout =>
    obtain ⟨_, _, h⟩ := hopening
    injection h with hcall
    injection hcall with _ hdigest
    cases hdigest

/-- A request that is started does not store a digest first. -/
theorem not_isOpening_serve (codec : TokenCodec) (hasher : PasswordHasher) (r : SessionRequest) :
    ¬ Flight.IsOpening ⟨r, r.serve Pending.store codec hasher⟩ id := by
  rcases serve_cases codec hasher r with ⟨e, hserve⟩ | ⟨c, next, hserve, hcall⟩
  · rw [hserve]
    exact not_isOpening_done r _
  · rw [hserve]
    rintro ⟨digest, next', h⟩
    injection h with hc
    exact hcall id digest hc

namespace LogEntry

variable {i : Nat} {r : SessionRequest}

@[simp] theorem opens_opened_iff {session : Session} :
    Opens ⟨i, r, .opened session⟩ id ↔ session.user.id = id := by
  constructor
  · rintro ⟨session', hreply, hid⟩
    cases hreply
    exact hid
  · exact fun hid => ⟨session, rfl, hid⟩

@[simp] theorem not_opens_closed {id' : UserId} : ¬ Opens ⟨i, r, .closed id'⟩ id := by
  rintro ⟨session, hreply, -⟩
  cases hreply

/-- A reply that is about no user gives no session. -/
theorem not_opens_of_user?_eq_none {reply : SessionReply} (h : reply.user? = none) :
    ¬ Opens ⟨i, r, reply⟩ id := by
  rintro ⟨session, rfl, -⟩
  cases h

@[simp] theorem not_opens_failed {e : AuthError} : ¬ Opens ⟨i, r, .failed e⟩ id :=
  not_opens_of_user?_eq_none rfl

end LogEntry

namespace Pool

/-- A user has no refresh token out, and no refresh is about to put one there. -/
structure Revoked (codec : TokenCodec) (p : Pool) (id : UserId) : Prop where
  sound : p.Sound codec
  digest : p.dir.digest? id = none
  no_opening : ∀ f ∈ p.flights, f.request.isRefresh = true → ¬ f.IsOpening id

/-- A request may be replaced by what is left of it unless that is a refresh about to store. -/
private theorem revoked_set {p : Pool} (h : p.Revoked codec id) {i : Nat} {f : Flight}
    {log : List LogEntry} {dir : Directory} (hf : Stage codec f.request f.rest)
    (hdigest : dir.digest? id = none) (hopening : f.request.isRefresh = true → ¬ f.IsOpening id) :
    Revoked codec ⟨log, dir, p.flights.set i f⟩ id := by
  refine ⟨fun f' hmem => ?_, hdigest, fun f' hmem => ?_⟩
  · rcases List.mem_or_eq_of_mem_set hmem with hmem | rfl
    · exact h.sound f' hmem
    · exact hf
  · rcases List.mem_or_eq_of_mem_set hmem with hmem | rfl
    · exact h.no_opening f' hmem
    · exact hopening

/-- A call opens no session of a user whose token was revoked, unless it is one of a sign-in. -/
theorem revoked_advance {p : Pool} (h : p.Revoked codec id) {i : Nat} {r : SessionRequest}
    {c : StoreCall} {next : c.Answer → Pending SessionReply}
    (hf : p.flights[i]? = some ⟨r, .call c next⟩) (setting : Directory.Setting)
    (hnew : ∀ entry ∈ finished i r (next (c.make (Directory.store setting) p.dir).1),
      entry.Opens id → r.isRefresh = true) :
    (p.move codec (.advance setting i)).Revoked codec id ∧
      ∀ entry ∈ finished i r (next (c.make (Directory.store setting) p.dir).1),
        ¬ entry.Opens id := by
  have hstage := h.sound _ (List.mem_of_getElem? hf)
  have hrest := hstage.next (c.make (Directory.store setting) p.dir).1
  rw [move_advance hf]
  rcases hstage.call_cases setting p.dir with
    ⟨hdigests, ⟨reply, hreply, hnext⟩ | ⟨at_, user, tokens, hnext, hfound⟩⟩ |
    ⟨at_, user, tokens, session, hcall, hnext, hid, haccounts⟩ | ⟨id', -, hnext, hdir, -, huser⟩
  · rw [hnext] at hrest ⊢
    exact ⟨revoked_set h hrest ((hdigests id).trans h.digest) fun _ => not_isOpening_done r _,
      by simp [finished, LogEntry.not_opens_of_user?_eq_none hreply]⟩
  · -- the lookup of a refresh that passes its checks has found a digest, and there is none
    rw [hnext] at hrest ⊢
    have hother : r.isRefresh = true → user.id ≠ id := by
      rintro hr rfl
      exact hfound hr h.digest
    refine ⟨revoked_set h hrest ((hdigests id).trans h.digest) fun hr => ?_,
      by simp [finished, storing]⟩
    rw [isOpening_storing_iff]
    exact hother hr
  · -- a session of the user would be opened by a refresh that was about to, and there is none
    rw [hnext] at hrest hnew ⊢
    have hother : session.user.id ≠ id := by
      intro hsession
      have hr : r.isRefresh = true :=
        hnew _ (List.mem_singleton_self _) (LogEntry.opens_opened_iff.mpr hsession)
      refine h.no_opening _ (List.mem_of_getElem? hf) hr ?_
      rw [hcall]
      exact (isOpening_storing_iff r at_ user tokens).mpr (hid.symm.trans hsession)
    refine ⟨revoked_set h hrest ?_ fun _ => not_isOpening_done r _, by simpa [finished]⟩
    have hreply : (SessionReply.opened session).user? ≠ some id :=
      fun hreply => hother (Option.some.inj hreply)
    rw [haccounts id, if_neg hreply]
    exact h.digest
  · rw [hnext] at hrest ⊢
    refine ⟨revoked_set h hrest ?_ fun _ => not_isOpening_done r _, by simp [finished]⟩
    rw [hdir, Directory.digest?_putDigest huser, h.digest]
    exact ite_self none

/-- **A move opens no session of a user whose token was revoked**, unless a sign-in does. -/
theorem revoked_move {p : Pool} (h : p.Revoked codec id) (m : Move) {new : List LogEntry}
    (hlog : (p.move codec m).log = p.log ++ new)
    (hnew : ∀ entry ∈ new, entry.Opens id → entry.request.isRefresh = true) :
    (p.move codec m).Revoked codec id ∧ ∀ entry ∈ new, ¬ entry.Opens id := by
  cases m with
  | change setting change =>
    obtain rfl : new = [] := by simpa [move] using hlog
    exact ⟨⟨h.sound, (Directory.digest?_apply setting change).trans h.digest, h.no_opening⟩,
      by simp⟩
  | start hasher r =>
    obtain rfl : new = finished p.flights.length r (r.serve Pending.store codec hasher) :=
      (List.append_cancel_left hlog).symm
    refine ⟨⟨sound_move h.sound _, h.digest, fun f hf hr => ?_⟩, ?_⟩
    · rcases List.mem_append.mp hf with hf | hf
      · exact h.no_opening f hf hr
      · rw [List.mem_singleton.mp hf]
        exact not_isOpening_serve codec hasher r
    · rcases serve_cases codec hasher r with ⟨e, hserve⟩ | ⟨c, next, hserve, -⟩
      · simp [hserve, finished]
      · simp [hserve, finished]
  | advance setting i =>
    rcases p.advance_cases codec setting i with hsame | ⟨r, c, next, hf⟩
    · rw [hsame] at hlog ⊢
      obtain rfl : new = [] := by simpa using hlog
      exact ⟨h, by simp⟩
    · obtain rfl : new = finished i r (next (c.make (Directory.store setting) p.dir).1) := by
        rw [move_advance hf] at hlog
        exact (List.append_cancel_left hlog).symm
      refine revoked_advance h hf setting fun entry hentry hopens => ?_
      have hr := hnew entry hentry hopens
      rwa [request_of_mem_finished hentry] at hr

/-- The log only grows. -/
theorem log_follow (codec : TokenCodec) (p : Pool) (moves : List Move) :
    ∃ more, (p.follow codec moves).log = p.log ++ more := by
  induction moves using List.reverseRecOn with
  | nil => exact ⟨[], (List.append_nil _).symm⟩
  | append_singleton moves m ih =>
    obtain ⟨more, hmore⟩ := ih
    obtain ⟨last, hlast⟩ := log_move codec (p.follow codec moves) m
    exact ⟨more ++ last, by rw [follow_concat, hlast, hmore, List.append_assoc]⟩

/-- No session of a user whose token was revoked is opened until a sign-in opens one. -/
theorem revoked_follow {p : Pool} (h : p.Revoked codec id) (moves : List Move)
    {new : List LogEntry} (hlog : (p.follow codec moves).log = p.log ++ new)
    (hnew : ∀ entry ∈ new, entry.Opens id → entry.request.isRefresh = true) :
    (p.follow codec moves).Revoked codec id ∧ ∀ entry ∈ new, ¬ entry.Opens id := by
  induction moves using List.reverseRecOn generalizing new with
  | nil =>
    obtain rfl : new = [] := by simpa [follow] using hlog
    exact ⟨h, by simp⟩
  | append_singleton moves m ih =>
    obtain ⟨more, hmore⟩ := p.log_follow codec moves
    obtain ⟨last, hlast⟩ := log_move codec (p.follow codec moves) m
    rw [follow_concat] at hlog ⊢
    obtain rfl : new = more ++ last := by
      rw [hlast, hmore, List.append_assoc] at hlog
      exact (List.append_cancel_left hlog).symm
    obtain ⟨hbefore, hmoreOpens⟩ :=
      ih hmore fun entry hentry => hnew entry (List.mem_append_left _ hentry)
    obtain ⟨hafter, hlastOpens⟩ :=
      revoked_move hbefore m hlast fun entry hentry => hnew entry (List.mem_append_right _ hentry)
    refine ⟨hafter, fun entry hentry => ?_⟩
    rcases List.mem_append.mp hentry with hentry | hentry
    · exact hmoreOpens entry hentry
    · exact hlastOpens entry hentry

/-! ### When signing out is final -/

/-- From a pool on, a user has no session that a refresh can go on with, until a sign-in opens one:
no refresh opens a session, and a refresh that is served alone is refused. -/
def FinalFor (codec : TokenCodec) (q : Pool) (id : UserId) : Prop :=
  ∀ (after : List Move) (new : List LogEntry), (q.follow codec after).log = q.log ++ new →
    (∀ entry ∈ new, entry.Opens id → entry.request.isRefresh = true) →
    (∀ entry ∈ new, ¬ entry.Opens id) ∧
      ∀ (setting : Directory.Setting) (hasher : PasswordHasher) (at_ : Issuance) (token : String)
        (claims : Claims) (user : User),
        let dir := (q.follow codec after).dir
        dir.unavailable = false → codec.verify at_.now token = .ok claims →
        claims.kind = .refresh → claims.userId = id → dir.user? id = some user →
        user.active = true →
        (SessionService.refresh ⟨Directory.store setting, codec, hasher⟩ at_ token).run dir =
          (.error .invalidCredentials, dir)

theorem Revoked.finalFor {q : Pool} (h : q.Revoked codec id) : q.FinalFor codec id := by
  intro after new hlog hnew
  obtain ⟨hafter, hopens⟩ := revoked_follow h after hlog hnew
  refine ⟨hopens, ?_⟩
  intro setting hasher at_ token claims user dir havail hverified hkind hid hfound hactive
  subst hid
  refine run_refresh_of_digest?_ne hverified hkind havail hfound hactive ?_
  rw [hafter.digest]
  exact Option.some_ne_none _ |>.symm

/-- A refresh that has passed its checks opens its session whatever happened in between, if the
store is available and the user is there. The new token is out then. -/
theorem advance_isOpening {q : Pool} (hsound : q.Sound codec) {j : Nat} {f : Flight}
    (hf : q.flights[j]? = some f) (hopening : f.IsOpening id) (havail : q.dir.unavailable = false)
    (huser : (q.dir.user? id).isSome = true) (setting : Directory.Setting) :
    ∃ session,
      (q.move codec (.advance setting j)).log = q.log ++ [⟨j, f.request, .opened session⟩] ∧
      session.user.id = id ∧
      (q.move codec (.advance setting j)).dir.unavailable = false ∧
      (q.move codec (.advance setting j)).dir.digest? id =
        some (TokenCodec.refreshDigest session.tokens.refresh) := by
  obtain ⟨r, rest⟩ := f
  obtain ⟨at_, user, tokens, rfl, rfl⟩ :=
    (hsound _ (List.mem_of_getElem? hf)).exists_eq_storing hopening
  rw [storing] at hf
  rw [move_advance hf, write_eq havail huser]
  refine ⟨_, rfl, rfl, havail, ?_⟩
  rw [Directory.digest?_putDigest huser, if_pos rfl, storedDigest_refreshDigest]

/-- A refresh that has all that it needs, and whose tokens are issued, gets as far as storing its
digest. -/
theorem follow_refresh {p : Pool} {at_ : Issuance} {token : String} {claims : Claims} {user : User}
    {tokens : TokenPair} (h : Exchanges codec at_.now token p.dir claims user)
    (hissued : codec.issuePair at_ user.id user.username claims.method claims.roles = some tokens)
    (hasher : PasswordHasher) (setting : Directory.Setting) :
    p.follow codec [.start hasher (.refresh at_ token), .advance setting p.flights.length] =
      ⟨p.log, p.dir, p.flights ++ [⟨.refresh at_ token, storing at_ user tokens⟩]⟩ := by
  have hserve : (SessionRequest.refresh at_ token).serve Pending.store codec hasher =
      .call (.findById claims.userId) (afterRefresh codec at_ token claims) := by
    rw [serve_refresh, checkRefreshToken_eq_ok_iff.mpr ⟨h.verified, h.kind⟩]
  have hstart : p.move codec (.start hasher (.refresh at_ token)) =
      ⟨p.log, p.dir, p.flights ++ [⟨.refresh at_ token,
        .call (.findById claims.userId) (afterRefresh codec at_ token claims)⟩]⟩ := by
    rw [move, hserve, finished, List.append_nil]
  have hlookup : StoreCall.make (Directory.store setting) (.findById claims.userId) p.dir =
      (.ok (some user), p.dir) := by
    show p.dir.findById claims.userId = _
    rw [Directory.findById, Directory.guarded, h.available, h.found]
    rfl
  have hafter : afterRefresh codec at_ token claims (.ok (some user)) =
      storing at_ user tokens := by
    rw [afterRefresh, checkOutstanding_eq_ok_iff.mpr ⟨h.active, h.digest⟩]
    simp only [opening, hissued]
  rw [follow_cons, hstart, follow_cons, move_advance List.getElem?_concat_length, hlookup, hafter]
  simp [finished, storing, follow]

/-- The pool after a sign-out that succeeded: the user is there and has no refresh token out. -/
theorem after_logout {p : Pool} (hsound : p.Sound codec) {setting : Directory.Setting} {i : Nat}
    (hlogout : (p.move codec (.advance setting i)).log = p.log ++ [⟨i, .logout id, .closed id⟩]) :
    (p.move codec (.advance setting i)).dir.unavailable = false ∧
      ((p.move codec (.advance setting i)).dir.user? id).isSome = true ∧
      (p.move codec (.advance setting i)).dir.digest? id = none := by
  rcases p.advance_cases codec setting i with hsame | ⟨r, c, next, hf⟩
  · rw [hsame] at hlogout
    simp at hlogout
  rw [move_advance hf] at hlogout ⊢
  have hentry := List.append_cancel_left hlogout
  rcases (hsound _ (List.mem_of_getElem? hf)).call_cases setting p.dir with
    ⟨-, ⟨reply, hreply, hnext⟩ | ⟨at_, user, tokens, hnext, -⟩⟩ |
    ⟨at_, user, tokens, session, -, hnext, -, -⟩ | ⟨id', -, hnext, hdir, havail, huser⟩
  · rw [hnext] at hentry
    cases hentry
    cases hreply
  · rw [hnext] at hentry
    cases hentry
  · rw [hnext] at hentry
    cases hentry
  · rw [hnext] at hentry
    cases hentry
    rw [hdir]
    refine ⟨havail, ?_, ?_⟩
    · rw [Directory.user?_putDigest, if_pos rfl, Option.isSome_map]
      exact huser
    · rw [Directory.digest?_putDigest huser, if_pos rfl]
      rfl

/-- **Signing out is final exactly when no refresh was about to store its digest.** Whatever the
requests of any number of users and the order of their calls before and after, when a sign-out of a
user has succeeded:

* from then on no refresh opens a session of the user and every refresh token of the user is
  refused, until the user signs in again, if and only if no refresh of the user had passed its
  checks by then without having stored its digest,
* such a refresh still opens its session, and the new refresh token is accepted afterwards if it
  verifies, the user is active and there is room for the tokens of the next session. -/
theorem logout_final_iff {dir : Directory} (before : List Move) {setting : Directory.Setting}
    {i : Nat} {id : UserId}
    (hlogout : ((start dir).follow codec (before ++ [.advance setting i])).log =
      ((start dir).follow codec before).log ++ [⟨i, .logout id, .closed id⟩]) :
    let q := (start dir).follow codec (before ++ [.advance setting i])
    (q.FinalFor codec id ↔ ∀ f ∈ q.flights, f.request.isRefresh = true → ¬ f.IsOpening id) ∧
      ∀ (j : Nat) (f : Flight), q.flights[j]? = some f → f.request.isRefresh = true →
        f.IsOpening id → ∀ setting : Directory.Setting, ∃ session,
          let q' := q.move codec (.advance setting j)
          q'.log = q.log ++ [⟨j, f.request, .opened session⟩] ∧ session.user.id = id ∧
            ∀ (setting : Directory.Setting) (hasher : PasswordHasher) (at_ : Issuance)
              (claims : Claims) (user : User),
              codec.verify at_.now session.tokens.refresh = .ok claims → claims.kind = .refresh →
              claims.userId = id → q'.dir.user? id = some user → user.active = true →
              codec.HasRoom at_.now →
              ∃ session' dir', (SessionService.refresh ⟨Directory.store setting, codec, hasher⟩ at_
                session.tokens.refresh).run q'.dir = (.ok (some session'), dir') := by
  intro q
  have hsound : q.Sound codec := sound_follow _
  rw [follow_concat] at hlogout
  obtain ⟨havail, huser, hdigest⟩ := after_logout (sound_follow before) hlogout
  rw [← follow_concat] at havail huser hdigest
  refine ⟨⟨fun hfinal f hf hr hopening => ?_, fun hnone => ?_⟩,
    fun j f hf hr hopening setting => ?_⟩
  · -- the refresh goes on right after the sign-out, and opens its session
    obtain ⟨j, hj⟩ := List.getElem?_of_mem hf
    obtain ⟨session, hlog, hid, -, -⟩ := advance_isOpening hsound hj hopening havail huser setting
    have hopens := (hfinal [.advance setting j] _ hlog fun entry hentry _ => ?_).1
    · exact hopens _ (List.mem_singleton_self _) ⟨session, rfl, hid⟩
    · rw [List.mem_singleton.mp hentry]
      exact hr
  · exact Revoked.finalFor ⟨hsound, hdigest, hnone⟩
  · obtain ⟨session, hlog, hid, havail', hdigest'⟩ :=
      advance_isOpening hsound hf hopening havail huser setting
    refine ⟨session, hlog, hid, ?_⟩
    rintro setting' hasher at_ claims user hverified hkind rfl hfound hactive hroom
    rw [Directory.digest?, hfound] at hdigest'
    have hex : Exchanges codec at_.now session.tokens.refresh _ claims user :=
      ⟨hverified, hkind, havail', hfound, hactive, hdigest'⟩
    obtain ⟨session', dir', hrun, -⟩ := hex.exists_run_refresh hroom
    exact ⟨session', dir', hrun⟩

end Pool

end

/-! ### A race of one user -/

namespace Sample

/-- The pool after a sign-in by the provider. -/
theorem follow_signIn (accessId refreshId : String) :
    let at_ : Issuance := ⟨0, accessId, refreshId⟩
    (Pool.start directory).follow codec
        [.start setting.hasher (signIn at_), .advance setting 0, .advance setting 0] =
      ⟨[⟨0, signIn at_, .opened (session at_ user)⟩], ⟨[holder (token at_)], 1, false⟩,
        [⟨signIn at_, .done (.opened (session at_ user))⟩]⟩ :=
  rfl

/-- A sign-in and a sign-out, one call after the other. -/
def visit : List Move :=
  [.start setting.hasher (signIn ⟨0, "a", "b"⟩), .advance setting 0, .advance setting 0,
    .start setting.hasher (.logout ⟨1⟩), .advance setting 1]

/-- A sign-in, and then a sign-out between the two calls of a refresh. -/
def race : List Move :=
  [.start setting.hasher (signIn ⟨0, "a", "b"⟩), .advance setting 0, .advance setting 0,
    .start setting.hasher (.refresh ⟨1, "c", "d"⟩ (token ⟨0, "a", "b"⟩)), .advance setting 1,
    .start setting.hasher (.logout ⟨1⟩), .advance setting 2]

/-- The user after signing out. -/
def leaver : User :=
  (holder (token ⟨0, "a", "b"⟩)).setRefreshDigest none setting.now

theorem follow_visit : (Pool.start directory).follow codec visit =
    ⟨[⟨0, signIn ⟨0, "a", "b"⟩, .opened (session ⟨0, "a", "b"⟩ user)⟩,
        ⟨1, .logout ⟨1⟩, .closed ⟨1⟩⟩],
      ⟨[leaver], 1, false⟩,
      [⟨signIn ⟨0, "a", "b"⟩, .done (.opened (session ⟨0, "a", "b"⟩ user))⟩,
        ⟨.logout ⟨1⟩, .done (.closed ⟨1⟩)⟩]⟩ := by
  refine (Pool.follow_append codec _ [_, _, _] [_, _]).trans ?_
  rw [follow_signIn]
  rfl

theorem follow_race : (Pool.start directory).follow codec race =
    ⟨[⟨0, signIn ⟨0, "a", "b"⟩, .opened (session ⟨0, "a", "b"⟩ user)⟩,
        ⟨2, .logout ⟨1⟩, .closed ⟨1⟩⟩],
      ⟨[leaver], 1, false⟩,
      [⟨signIn ⟨0, "a", "b"⟩, .done (.opened (session ⟨0, "a", "b"⟩ user))⟩,
        ⟨.refresh ⟨1, "c", "d"⟩ (token ⟨0, "a", "b"⟩),
          storing ⟨1, "c", "d"⟩ (holder (token ⟨0, "a", "b"⟩)) (pair ⟨1, "c", "d"⟩)⟩,
        ⟨.logout ⟨1⟩, .done (.closed ⟨1⟩)⟩]⟩ := by
  have hfirst : Exchanges codec 1 (token ⟨0, "a", "b"⟩) ⟨[holder (token ⟨0, "a", "b"⟩)], 1, false⟩
      (claims ⟨0, "a", "b"⟩) (holder (token ⟨0, "a", "b"⟩)) :=
    ⟨verify_first 1, rfl, rfl, rfl, rfl, storedDigest_refreshDigest _⟩
  refine (Pool.follow_append codec _ [_, _, _] [_, _, _, _]).trans ?_
  rw [follow_signIn]
  refine (Pool.follow_append codec _ [_, _] [_, _]).trans ?_
  refine (congrArg (Pool.follow codec · _) (Pool.follow_refresh hfirst rfl _ _)).trans ?_
  rfl

/-- The token that the user gets by refreshing can be read. -/
theorem verify_second (now : Int) :
    codec.verify now (token ⟨1, "c", "d"⟩) = codec.checkClaims now (claims ⟨1, "c", "d"⟩) :=
  codec.verify_sign now (by decide +kernel) (by decide +kernel)

end Sample

namespace Pool

/-- Signing out is final for the user when nothing races with it. -/
theorem logout_final_iff_visit :
    let q := (start Sample.directory).follow Sample.codec Sample.visit
    q.log = [⟨0, Sample.signIn ⟨0, "a", "b"⟩, .opened (Sample.session ⟨0, "a", "b"⟩ Sample.user)⟩,
        ⟨1, .logout ⟨1⟩, .closed ⟨1⟩⟩] ∧
      q.FinalFor Sample.codec ⟨1⟩ := by
  intro q
  have hq : q = _ := Sample.follow_visit
  refine ⟨congrArg Pool.log hq, ?_⟩
  have hlogout : q.log = ((start Sample.directory).follow Sample.codec
      (Sample.visit.take 4)).log ++ [⟨1, .logout ⟨1⟩, .closed ⟨1⟩⟩] := congrArg Pool.log hq
  refine (logout_final_iff (Sample.visit.take 4) hlogout).1.mpr ?_
  show ∀ f ∈ q.flights, _
  rw [hq]
  intro f hf hr
  simp only [List.mem_cons, List.not_mem_nil, or_false] at hf
  rcases hf with rfl | rfl <;> exact absurd hr Bool.false_ne_true

/-- **Signing out is not final when a refresh is between its two calls.** The refresh opens its
session after the sign-out, and its new token is accepted. -/
theorem logout_not_final :
    let first := Sample.token ⟨0, "a", "b"⟩
    let second := Sample.token ⟨1, "c", "d"⟩
    let q := (start Sample.directory).follow Sample.codec Sample.race
    let q' := q.move Sample.codec (.advance Sample.setting 1)
    (∃ one two, q'.log = [⟨0, Sample.signIn ⟨0, "a", "b"⟩, .opened one⟩,
        ⟨2, .logout ⟨1⟩, .closed ⟨1⟩⟩, ⟨1, .refresh ⟨1, "c", "d"⟩ first, .opened two⟩] ∧
      one.tokens.refresh = first ∧ two.tokens.refresh = second) ∧
    (∃ session dir', (SessionService.refresh
        ⟨Directory.store Sample.setting, Sample.codec, Sample.setting.hasher⟩ ⟨2, "e", "f"⟩
        second).run q'.dir = (.ok (some session), dir')) ∧
    ¬ q.FinalFor Sample.codec ⟨1⟩ := by
  intro first second q q'
  have hq : q = _ := Sample.follow_race
  have hq' : q' = ⟨q.log ++ [⟨1, .refresh ⟨1, "c", "d"⟩ first,
      .opened (Sample.session ⟨1, "c", "d"⟩ (Sample.holder first))⟩],
      ⟨[Sample.leaver.setRefreshDigest (some (TokenCodec.refreshDigest second))
        Sample.setting.now], 1, false⟩, q'.flights⟩ := by
    simp only [q']
    rw [hq]
    rfl
  refine ⟨⟨_, _, (congrArg Pool.log hq').trans (by rw [hq]; rfl), rfl, rfl⟩, ?_, fun hfinal => ?_⟩
  · have hsecond : Exchanges Sample.codec 2 second q'.dir (Sample.claims ⟨1, "c", "d"⟩)
        (Sample.leaver.setRefreshDigest (some (TokenCodec.refreshDigest second))
          Sample.setting.now) := by
      rw [hq']
      exact ⟨Sample.verify_second 2, rfl, rfl, rfl, rfl, storedDigest_refreshDigest _⟩
    have hroom : Sample.codec.HasRoom (Issuance.mk 2 "e" "f").now := by decide
    obtain ⟨session, dir', hrun, -⟩ := Exchanges.exists_run_refresh hsecond hroom
    exact ⟨session, dir', hrun⟩
  · refine (hfinal [.advance Sample.setting 1] _ (congrArg Pool.log hq') ?_).1 _
      (List.mem_singleton_self _) ⟨_, rfl, rfl⟩
    intro entry hentry _
    rw [List.mem_singleton.mp hentry]
    rfl

end Pool

end Gatehouse
