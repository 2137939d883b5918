import Gatehouse.Proofs.Session.Effect
import Gatehouse.Proofs.Token.Envelope

/-!
# One refresh token at a time

A course is a row of requests and other changes, one after the other, with the replies to the
requests. In every state of a course a user has at most one refresh token that can be exchanged:
the one that is out. `refresh_of_course` says this in the three ways in which it is relied upon.

The invariant is `Tracks`: each stored digest is the digest of the token that is out by the
replies. That a token is the one that is out can only be read off its digest, so no two tokens that
are compared may share a digest; and a token that came up twice could be exchanged twice, so no two
sessions may get the same.
-/

namespace Gatehouse

/-! ### What a refresh needs -/

section

variable {codec : TokenCodec} {hasher : PasswordHasher} {setting : Directory.Setting}
  {at_ : Issuance} {token : String} {dir : Directory} {replies : List SessionReply}

theorem checkRefreshToken_eq_ok_iff {m : Type → Type} {users : UserStore m} {now : Int}
    {claims : Claims} :
    SessionService.checkRefreshToken ⟨users, codec, hasher⟩ now token = .ok claims ↔
      codec.verify now token = .ok claims ∧ claims.kind = .refresh := by
  unfold SessionService.checkRefreshToken
  cases codec.verify now token with
  | error e => cases e <;> simp
  | ok c =>
    by_cases hkind : c.kind = .refresh
    · simp only [hkind, if_pos, Except.ok.injEq]
      exact ⟨fun h => ⟨h, h ▸ hkind⟩, And.left⟩
    · simp only [hkind, if_neg, not_false_eq_true, reduceCtorEq, Except.ok.injEq, false_iff]
      rintro ⟨rfl, h⟩
      exact hkind h

theorem checkOutstanding_eq_ok_iff {user : User} :
    SessionService.checkOutstanding user token = .ok () ↔
      user.active = true ∧ user.refreshDigest = some (TokenCodec.refreshDigest token) := by
  unfold SessionService.checkOutstanding
  cases user.active <;> simp

/-- What a refresh token needs for its exchange. -/
structure Exchanges (codec : TokenCodec) (now : Int) (token : String) (dir : Directory)
    (claims : Claims) (user : User) : Prop where
  verified : codec.verify now token = .ok claims
  kind : claims.kind = .refresh
  available : dir.unavailable = false
  found : dir.user? claims.userId = some user
  active : user.active = true
  digest : user.refreshDigest = some (TokenCodec.refreshDigest token)

theorem Exchanges.id_eq {now : Int} {claims : Claims} {user : User}
    (h : Exchanges codec now token dir claims user) : user.id = claims.userId :=
  Directory.id_of_user? h.found

theorem Exchanges.run_refresh {claims : Claims} {user : User}
    (h : Exchanges codec at_.now token dir claims user) :
    (SessionService.refresh ⟨Directory.store setting, codec, hasher⟩ at_ token).run dir =
      openSession codec at_ setting.now user claims.method claims.roles dir := by
  rw [Gatehouse.run_refresh, checkRefreshToken_eq_ok_iff.mpr ⟨h.verified, h.kind⟩]
  simp only [h.available, h.found, checkOutstanding_eq_ok_iff.mpr ⟨h.active, h.digest⟩,
    Bool.false_eq_true, if_false]

/-- A refresh that has all that it needs succeeds at a time that has room for the tokens of the new
session. -/
theorem Exchanges.exists_run_refresh {claims : Claims} {user : User}
    (h : Exchanges codec at_.now token dir claims user) (hroom : codec.HasRoom at_.now) :
    ∃ session dir', (SessionService.refresh ⟨Directory.store setting, codec, hasher⟩ at_ token).run
      dir = (.ok (some session), dir') ∧ session.user.id = claims.userId := by
  obtain ⟨tokens, htokens⟩ :=
    TokenCodec.exists_issuePair hroom user.id user.username claims.method claims.roles
  exact ⟨_, _, h.run_refresh.trans (openSession_of_issuePair htokens _ _), h.id_eq⟩

/-- A refresh that is not refused has all that it needs. -/
theorem exchanges_of_run_refresh {opened : Option Session} {dir' : Directory}
    (h : (SessionService.refresh ⟨Directory.store setting, codec, hasher⟩ at_ token).run dir =
      (.ok opened, dir')) :
    ∃ claims user, Exchanges codec at_.now token dir claims user ∧
      openSession codec at_ setting.now user claims.method claims.roles dir =
        (.ok opened, dir') := by
  rw [run_refresh] at h
  split at h
  · cases h
  · next claims hclaims =>
    split at h
    · cases h
    · next havail =>
      split at h
      · cases h
      · next user huser =>
        split at h
        · cases h
        · next hout =>
          obtain ⟨hverified, hkind⟩ := checkRefreshToken_eq_ok_iff.mp hclaims
          obtain ⟨hactive, hdigest⟩ := checkOutstanding_eq_ok_iff.mp hout
          exact ⟨claims, user,
            ⟨hverified, hkind, by simpa using havail, huser, hactive, hdigest⟩, h⟩

/-- A refresh that succeeds opens a session with what it needs. -/
theorem opens_of_run_refresh {session : Session} {dir' : Directory}
    (h : (SessionService.refresh ⟨Directory.store setting, codec, hasher⟩ at_ token).run dir =
      (.ok (some session), dir')) :
    ∃ claims user, Exchanges codec at_.now token dir claims user ∧
      Opens codec at_ setting.now user claims.method claims.roles dir session dir' := by
  obtain ⟨claims, user, hex, hopen⟩ := exchanges_of_run_refresh h
  exact ⟨claims, user, hex, opens_of_openSession hopen⟩

/-- A token whose digest is not the one that is stored is refused. -/
theorem run_refresh_of_digest?_ne {claims : Claims} {user : User}
    (hverified : codec.verify at_.now token = .ok claims) (hkind : claims.kind = .refresh)
    (havail : dir.unavailable = false) (hfound : dir.user? claims.userId = some user)
    (hactive : user.active = true)
    (hdigest : dir.digest? claims.userId ≠ some (TokenCodec.refreshDigest token)) :
    (SessionService.refresh ⟨Directory.store setting, codec, hasher⟩ at_ token).run dir =
      (.error .invalidCredentials, dir) := by
  rw [Directory.digest?, hfound, Option.bind_some] at hdigest
  have hcheck : SessionService.checkOutstanding user token = .error .invalidCredentials := by
    simp [SessionService.checkOutstanding, hactive, hdigest]
  rw [run_refresh, checkRefreshToken_eq_ok_iff.mpr ⟨hverified, hkind⟩]
  simp only [havail, hfound, hcheck, Bool.false_eq_true, if_false]

/-- No two tokens that are compared with this one share its digest. -/
def Distinguished (token : String) (tokens : List String) : Prop :=
  ∀ other ∈ tokens, TokenCodec.refreshDigest other = TokenCodec.refreshDigest token → other = token

/-- The digest that is stored for a user is that of a token when the token is out. -/
theorem Tracks.digest?_eq_some_iff (h : Tracks replies dir)
    (htoken : Distinguished token (issuedTokens replies)) (id : UserId) :
    dir.digest? id = some (TokenCodec.refreshDigest token) ↔
      outstanding? replies id = some token := by
  rw [h id, Option.map_eq_some_iff]
  constructor
  · rintro ⟨other, hout, hdigest⟩
    rw [hout, htoken other (mem_issuedTokens_of_outstanding? hout) hdigest]
  · intro hout
    exact ⟨token, hout, rfl⟩

/-- Whether a token is out: it verifies as the refresh token of a user who is there and active, and
it came with the last session of the user, which was not closed since. -/
def IsOut (codec : TokenCodec) (now : Int) (token : String) (replies : List SessionReply)
    (dir : Directory) : Prop :=
  ∃ claims user, codec.verify now token = .ok claims ∧ claims.kind = .refresh ∧
    dir.user? claims.userId = some user ∧ user.active = true ∧
    outstanding? replies claims.userId = some token

/-- A token that is out has all that it needs for its exchange, and no other has. -/
theorem Tracks.exists_exchanges_iff {now : Int} (h : Tracks replies dir)
    (htoken : Distinguished token (issuedTokens replies)) (havail : dir.unavailable = false) :
    (∃ claims user, Exchanges codec now token dir claims user) ↔
      IsOut codec now token replies dir := by
  constructor
  · rintro ⟨claims, user, hex⟩
    refine ⟨claims, user, hex.verified, hex.kind, hex.found, hex.active, ?_⟩
    rw [← h.digest?_eq_some_iff htoken, Directory.digest?, hex.found]
    exact hex.digest
  · rintro ⟨claims, user, hverified, hkind, hfound, hactive, hout⟩
    have hdigest := (h.digest?_eq_some_iff htoken claims.userId).mpr hout
    rw [Directory.digest?, hfound] at hdigest
    exact ⟨claims, user, hverified, hkind, havail, hfound, hactive, hdigest⟩

/-- **A refresh succeeds exactly with the token that is out**, if there is room for the tokens of
the new session. -/
theorem refresh_succeeds_iff (h : Tracks replies dir)
    (htoken : Distinguished token (issuedTokens replies)) (havail : dir.unavailable = false) :
    (∃ session dir', (SessionService.refresh ⟨Directory.store setting, codec, hasher⟩ at_ token).run
        dir = (.ok (some session), dir')) ↔
      codec.HasRoom at_.now ∧ IsOut codec at_.now token replies dir := by
  rw [← h.exists_exchanges_iff htoken havail]
  constructor
  · rintro ⟨session, dir', hrun⟩
    obtain ⟨claims, user, hex, hopens⟩ := opens_of_run_refresh hrun
    exact ⟨TokenCodec.hasRoom_of_issuePair hopens.issued, claims, user, hex⟩
  · rintro ⟨hroom, claims, user, hex⟩
    obtain ⟨session, dir', hrun, -⟩ := hex.exists_run_refresh hroom
    exact ⟨session, dir', hrun⟩

/-- The program stops in a refresh exactly with the token that is out, if there is no room for the
tokens of the new session. The directory is left as it was. -/
theorem refresh_stops_iff (h : Tracks replies dir)
    (htoken : Distinguished token (issuedTokens replies)) (havail : dir.unavailable = false) :
    (SessionService.refresh ⟨Directory.store setting, codec, hasher⟩ at_ token).run dir =
        (.ok none, dir) ↔
      ¬ codec.HasRoom at_.now ∧ IsOut codec at_.now token replies dir := by
  rw [← h.exists_exchanges_iff htoken havail]
  constructor
  · intro hrun
    obtain ⟨claims, user, hex, hopen⟩ := exchanges_of_run_refresh hrun
    exact ⟨openSession_eq_none_iff.mp hopen, claims, user, hex⟩
  · rintro ⟨hroom, claims, user, hex⟩
    exact hex.run_refresh.trans (openSession_eq_none_iff.mpr hroom)

/-- A token that is not out is refused. -/
theorem refresh_refused (h : Tracks replies dir)
    (htoken : Distinguished token (issuedTokens replies)) (havail : dir.unavailable = false)
    {claims : Claims} {user : User} (hverified : codec.verify at_.now token = .ok claims)
    (hkind : claims.kind = .refresh) (hfound : dir.user? claims.userId = some user)
    (hactive : user.active = true) (hnot : outstanding? replies claims.userId ≠ some token) :
    (SessionService.refresh ⟨Directory.store setting, codec, hasher⟩ at_ token).run dir =
      (.error .invalidCredentials, dir) := by
  refine run_refresh_of_digest?_ne hverified hkind havail hfound hactive fun hdigest => ?_
  exact hnot ((h.digest?_eq_some_iff htoken _).mp hdigest)

end

/-- The reply to a request is the outcome of its operation. -/
theorem reply_of_run {p : ExceptT AuthError (StateM Directory) (Option Session)} {dir : Directory}
    {out : Except AuthError (Option Session) × Directory} (h : p.run dir = out) :
    (SessionReply.ofSession <$> p.run : StateM Directory SessionReply) dir =
      (.ofSession out.1, out.2) := by
  subst h
  rfl

/-- A request that opened a session was an operation that succeeded. -/
theorem run_eq_of_opened {p : ExceptT AuthError (StateM Directory) (Option Session)}
    {dir dir' : Directory} {session : Session}
    (h : (SessionReply.ofSession <$> p.run : StateM Directory SessionReply) dir =
      (.opened session, dir')) : p.run dir = (.ok (some session), dir') := by
  have hreply : SessionReply.ofSession (p.run dir).1 = .opened session := congrArg Prod.fst h
  have hdir : (p.run dir).2 = dir' := congrArg Prod.snd h
  rcases hrun : p.run dir with ⟨_ | _ | other, dir''⟩
  · rw [hrun] at hreply; cases hreply
  · rw [hrun] at hreply; cases hreply
  · rw [hrun] at hreply hdir; cases hreply; cases hdir; rfl

/-! ### Courses -/

/-- Something that happens to a directory: a request about a session, or another change. -/
inductive SessionEvent where
  | request (setting : Directory.Setting) (r : SessionRequest)
  | change (setting : Directory.Setting) (c : Directory.Change)

/-- The requests so far with the replies to them, and the directory. -/
structure Course where
  log : List (SessionRequest × SessionReply)
  dir : Directory

namespace Course

/-- Nothing has happened to a directory yet. -/
def start (dir : Directory) : Course :=
  ⟨[], dir⟩

/-- The replies so far. -/
def replies (c : Course) : List SessionReply :=
  c.log.map (·.2)

/-- The refresh token that a request exchanged. -/
def exchange? : SessionRequest × SessionReply → Option String
  | (.refresh _ token, .opened _) => some token
  | _ => none

/-- The refresh tokens that were exchanged. -/
def exchanged (c : Course) : List String :=
  c.log.filterMap exchange?

variable (codec : TokenCodec)

/-- What happens next. -/
def next (c : Course) : SessionEvent → Course
  | .request setting r =>
    let out := r.serve (Directory.store setting) codec setting.hasher c.dir
    ⟨c.log ++ [(r, out.1)], out.2⟩
  | .change setting change => { c with dir := change.apply setting c.dir }

/-- One event after the other. -/
def follow (c : Course) (events : List SessionEvent) : Course :=
  events.foldl (next codec) c

theorem follow_concat (c : Course) (events : List SessionEvent) (e : SessionEvent) :
    c.follow codec (events ++ [e]) = (c.follow codec events).next codec e := by
  rw [follow, List.foldl_append]
  rfl

variable {codec}

/-- What is next keeps track of the digests. -/
theorem tracks_next {c : Course} (h : Tracks c.replies c.dir) (e : SessionEvent) :
    Tracks (c.next codec e).replies (c.next codec e).dir := by
  cases e with
  | request setting r =>
    have hnext := h.concat (accounts_serve codec setting.hasher setting r c.dir)
    simpa [replies, next] using hnext
  | change setting change =>
    intro id
    exact (Directory.digest?_apply setting change).trans (h id)

/-- In every state of a course the stored digests are those of the tokens that are out. -/
theorem tracks_follow {dir : Directory} (h : ∀ u ∈ dir.users, u.refreshDigest = none)
    (events : List SessionEvent) :
    Tracks ((start dir).follow codec events).replies ((start dir).follow codec events).dir := by
  induction events using List.reverseRecOn with
  | nil => exact tracks_nil h
  | append_singleton events e ih =>
    rw [follow_concat]
    exact tracks_next ih e

/-- A token that was exchanged was issued and is not out. -/
structure Spent (c : Course) (token : String) : Prop where
  issued : token ∈ issuedTokens c.replies
  not_out : ∀ id, outstanding? c.replies id ≠ some token

/-- A token that is exchanged is out before and not afterwards. -/
theorem spent_of_refresh {c : Course} (h : Tracks c.replies c.dir) {setting : Directory.Setting}
    {at_ : Issuance} {token : String} {session : Session} {dir' : Directory}
    (hrun : (SessionService.refresh ⟨Directory.store setting, codec, setting.hasher⟩ at_ token).run
      c.dir = (.ok (some session), dir'))
    (htoken : Distinguished token (issuedTokens c.replies))
    (hnodup : (issuedTokens (c.replies ++ [.opened session])).Nodup) :
    (∃ id, outstanding? c.replies id = some token) ∧
      ∀ id, outstanding? (c.replies ++ [.opened session]) id ≠ some token := by
  obtain ⟨claims, user, hex, hopens⟩ := opens_of_run_refresh hrun
  have hout : outstanding? c.replies claims.userId = some token := by
    rw [← h.digest?_eq_some_iff htoken, Directory.digest?, hex.found]
    exact hex.digest
  have hissued := mem_issuedTokens_of_outstanding? hout
  have hid : session.user.id = claims.userId := by
    rw [hopens.user_eq]
    exact hex.id_eq
  refine ⟨⟨_, hout⟩, fun id => ?_⟩
  rw [outstanding?_concat]
  split
  · exact token_ne_of_nodup hnodup hissued
  · next hother =>
    -- the token was out for the user of the new session, and for nobody else
    intro hout'
    rw [issuedTokens_append] at hnodup
    obtain ⟨s, hs, hsid, rfl⟩ := exists_opened_of_outstanding? hout
    have hsid' := id_of_outstanding? (List.nodup_append.mp hnodup).1 hs hout'
    exact hother (congrArg some (hid.trans (hsid.symm.trans hsid')))

/-- What is next adds to the replies. -/
theorem replies_next (codec : TokenCodec) (c : Course) (e : SessionEvent) :
    ∃ more, (c.next codec e).replies = c.replies ++ more := by
  cases e with
  | request setting r => exact ⟨_, by rw [replies, next, List.map_append]; rfl⟩
  | change setting change => exact ⟨[], by rw [List.append_nil]; rfl⟩

theorem exists_of_exchange? {entry : SessionRequest × SessionReply} {token : String}
    (h : exchange? entry = some token) :
    ∃ at_ session, entry = (.refresh at_ token, .opened session) := by
  unfold exchange? at h
  split at h
  · next at_ t session => cases h; exact ⟨at_, session, rfl⟩
  · cases h

/-- A token is exchanged once at most, and it is spent then. -/
def AtMostOnce (c : Course) (token : String) : Prop :=
  c.exchanged.count token ≤ 1 ∧ (token ∈ c.exchanged → c.Spent token)

theorem atMostOnce_next {c : Course} (htracks : Tracks c.replies c.dir) {token : String}
    (h : c.AtMostOnce token) (e : SessionEvent)
    (htoken : Distinguished token (issuedTokens c.replies))
    (hnodup : (issuedTokens (c.next codec e).replies).Nodup) :
    (c.next codec e).AtMostOnce token := by
  cases e with
  | change setting change =>
    exact ⟨h.1, fun hmem => ⟨(h.2 hmem).issued, (h.2 hmem).not_out⟩⟩
  | request setting r =>
    generalize hout : r.serve (Directory.store setting) codec setting.hasher c.dir = out
    have hreplies : (c.next codec (.request setting r)).replies = c.replies ++ [out.1] := by
      simp [replies, next, hout]
    have hexchanged : (c.next codec (.request setting r)).exchanged =
        c.exchanged ++ (exchange? (r, out.1)).toList := by
      cases hex : exchange? (r, out.1) <;> simp [exchanged, next, hout, hex]
    rw [hreplies] at hnodup
    rw [AtMostOnce, hexchanged, List.count_append]
    by_cases hnew : exchange? (r, out.1) = some token
    · -- the token is out before the exchange, and a token that was exchanged is not
      obtain ⟨at_, session, hentry⟩ := exists_of_exchange? hnew
      obtain ⟨rfl, hreply⟩ := Prod.mk.inj hentry
      rw [hreply] at hnodup hreplies
      have hrun : (SessionService.refresh ⟨Directory.store setting, codec, setting.hasher⟩ at_
          token).run c.dir = (.ok (some session), out.2) :=
        run_eq_of_opened (hout.trans (Prod.ext hreply rfl))
      obtain ⟨⟨id, hid⟩, hnot⟩ := spent_of_refresh htracks hrun htoken hnodup
      have hfirst : token ∉ c.exchanged := fun hmem => (h.2 hmem).not_out id hid
      refine ⟨by simp [List.count_eq_zero_of_not_mem hfirst, hnew], fun _ => ⟨?_, ?_⟩⟩
      · rw [hreplies, issuedTokens_append]
        exact List.mem_append_left _ (mem_issuedTokens_of_outstanding? hid)
      · rw [hreplies]
        exact hnot
    · -- no session gets the token again, so it stays spent
      have hnone : (exchange? (r, out.1)).toList.count token = 0 :=
        List.count_eq_zero_of_not_mem fun hmem => hnew (Option.mem_toList.mp hmem)
      rw [hnone]
      refine ⟨h.1, fun hmem => ?_⟩
      rcases List.mem_append.mp hmem with hmem | hmem
      · have hspent := h.2 hmem
        refine ⟨?_, ?_⟩
        · rw [hreplies, issuedTokens_append]
          exact List.mem_append_left _ hspent.issued
        · rw [hreplies]
          exact outstanding?_ne_of_issued hspent.issued hspent.not_out hnodup
      · exact absurd (Option.mem_toList.mp hmem) hnew

/-- In a course no token is exchanged twice. -/
theorem atMostOnce_follow {dir : Directory} (h : ∀ u ∈ dir.users, u.refreshDigest = none)
    (events : List SessionEvent) {token : String}
    (htoken : Distinguished token (issuedTokens ((start dir).follow codec events).replies))
    (hnodup : (issuedTokens ((start dir).follow codec events).replies).Nodup) :
    ((start dir).follow codec events).AtMostOnce token := by
  induction events using List.reverseRecOn with
  | nil => exact ⟨Nat.zero_le 1, fun hmem => nomatch hmem⟩
  | append_singleton events e ih =>
    rw [follow_concat] at htoken hnodup ⊢
    obtain ⟨more, hmore⟩ := replies_next codec ((start dir).follow codec events) e
    have hbefore :
        Distinguished token (issuedTokens ((start dir).follow codec events).replies) := by
      intro other hother
      refine htoken other ?_
      rw [hmore, issuedTokens_append]
      exact List.mem_append_left _ hother
    have hprefix : (issuedTokens ((start dir).follow codec events).replies).Nodup := by
      rw [hmore, issuedTokens_append] at hnodup
      exact (List.nodup_append.mp hnodup).1
    exact atMostOnce_next (tracks_follow h events) (ih hbefore hprefix) e hbefore hnodup

/-- A token that was issued to a user who signed out after that is out for nobody. -/
theorem outstanding?_ne_of_closed {before after : List SessionReply} {session : Session}
    (hopened : .opened session ∈ before)
    (hnodup : (issuedTokens (before ++ .closed session.user.id :: after)).Nodup) (id : UserId) :
    outstanding? (before ++ .closed session.user.id :: after) id ≠ some session.tokens.refresh := by
  rw [List.append_cons] at hnodup ⊢
  have hbefore : (issuedTokens before).Nodup := by
    rw [issuedTokens_append, issuedTokens_append, List.append_assoc] at hnodup
    exact (List.nodup_append.mp hnodup).1
  have hissued := mem_issuedTokens_of_opened hopened
  refine outstanding?_ne_of_issued (by simp [hissued]) (fun id hout => ?_) hnodup id
  rw [outstanding?_concat] at hout
  split at hout
  · cases hout
  · next hother =>
    exact hother (congrArg some (id_of_outstanding? hbefore hopened hout))

/-- **A user has one refresh token out at a time.** In every state of a course that starts without
stored digests, with the tokens that are issued all different and none of them sharing the digest
of the token in question:

* a refresh succeeds exactly with a token that verifies as a refresh token of a user who is there
  and active, and that came with the last session of the user, which was not closed since; only at a
  time that has no room for the tokens of a session the program stops with it, and changes nothing,
* the token was exchanged at most once so far,
* if the user it was issued to signed out after that, its exchange is refused. -/
theorem refresh_of_course {dir : Directory} (hdir : ∀ u ∈ dir.users, u.refreshDigest = none)
    (events : List SessionEvent) {token : String}
    (hnodup : (issuedTokens ((start dir).follow codec events).replies).Nodup)
    (htoken : Distinguished token (issuedTokens ((start dir).follow codec events).replies)) :
    let c := (start dir).follow codec events
    (∀ (setting : Directory.Setting) (hasher : PasswordHasher) (at_ : Issuance),
      c.dir.unavailable = false →
      let run :=
        (SessionService.refresh ⟨Directory.store setting, codec, hasher⟩ at_ token).run c.dir
      ((∃ session dir', run = (.ok (some session), dir')) ↔
        codec.HasRoom at_.now ∧ IsOut codec at_.now token c.replies c.dir) ∧
      (run = (.ok none, c.dir) ↔
        ¬ codec.HasRoom at_.now ∧ IsOut codec at_.now token c.replies c.dir)) ∧
    c.exchanged.count token ≤ 1 ∧
    ∀ before after (session : Session),
      c.replies = before ++ .closed session.user.id :: after → .opened session ∈ before →
      session.tokens.refresh = token →
      ∀ (setting : Directory.Setting) (hasher : PasswordHasher) (at_ : Issuance) claims user,
        c.dir.unavailable = false → codec.verify at_.now token = .ok claims →
        claims.kind = .refresh → c.dir.user? claims.userId = some user → user.active = true →
        (SessionService.refresh ⟨Directory.store setting, codec, hasher⟩ at_ token).run c.dir =
          (.error .invalidCredentials, c.dir) := by
  intro c
  have htracks : Tracks c.replies c.dir := tracks_follow hdir events
  refine ⟨fun setting hasher at_ havail => ⟨refresh_succeeds_iff htracks htoken havail,
    refresh_stops_iff htracks htoken havail⟩, (atMostOnce_follow hdir events htoken hnodup).1, ?_⟩
  rintro before after session hreplies hopened rfl setting hasher at_ claims user havail hverified
    hkind hfound hactive
  refine refresh_refused htracks htoken havail hverified hkind hfound hactive ?_
  have hnodup' : (issuedTokens c.replies).Nodup := hnodup
  rw [hreplies] at hnodup' ⊢
  exact outstanding?_ne_of_closed hopened hnodup' claims.userId

end Course

/-! ### One user who signs in and out -/

namespace Sample

/-- A codec with a key of the least length. -/
def codec : TokenCodec :=
  ⟨List.replicate TokenCodec.minSecretLength 7, "w", 900, 604800⟩

/-- A setting at the beginning of time. -/
def setting : Directory.Setting :=
  ⟨.ofSeconds 0, [], ⟨⟨8, 1, 1⟩, by decide⟩⟩

/-- An active user. -/
def user : User :=
  .ofTemplate ⟨1⟩ (.ofUsername "u") (.ofSeconds 0)

/-- A directory with this user. -/
def directory : Directory :=
  ⟨[user], 1, false⟩

/-- A provider that vouches for this user. -/
def provider : IdentityProvider Id where
  authUrl _ := none
  exchange _ _ := .ok ⟨"", none, some "i"⟩
  verifyIdToken _ _ := .ok ⟨"u", [("sub", .str "u")], by decide, rfl⟩
  profile _ _ := .ok ⟨"u", "", "", "", "", none⟩

/-- A sign-in by the provider. -/
def signIn (at_ : Issuance) : SessionRequest :=
  .complete at_ provider "c" "s" ⟨"s", "n", "v"⟩

/-- What the refresh token says that the user gets. -/
def claims (at_ : Issuance) : Claims :=
  codec.halfClaims at_ ⟨1⟩ "u" .openId none .refresh

/-- The refresh token that the user gets. -/
def token (at_ : Issuance) : String :=
  codec.sign (claims at_)

/-- The pair that the user gets. -/
def pair (at_ : Issuance) : TokenPair :=
  ⟨codec.sign (codec.halfClaims at_ ⟨1⟩ "u" .openId none .access), token at_⟩

/-- The session that the user gets, with the user as found before. -/
def session (at_ : Issuance) (found : User) : Session :=
  ⟨found.setRefreshDigest (some (TokenCodec.refreshDigest (token at_))) (.ofSeconds at_.now),
    pair at_⟩

/-- The user with the digest of a token. -/
def holder (token : String) : User :=
  user.setRefreshDigest (some (TokenCodec.refreshDigest token)) setting.now

/-- The token that the user gets first can be read. -/
theorem verify_first (now : Int) :
    codec.verify now (token ⟨0, "a", "b"⟩) = codec.checkClaims now (claims ⟨0, "a", "b"⟩) :=
  codec.verify_sign now (by decide +kernel) (by decide +kernel)

end Sample

namespace Course

/-- The user who signed in can refresh, and after signing out cannot. -/
theorem refresh_of_course_sample :
    let first := Sample.token ⟨0, "a", "b"⟩
    let refresh := SessionService.refresh
      ⟨Directory.store Sample.setting, Sample.codec, Sample.setting.hasher⟩ ⟨1, "c", "d"⟩ first
    let signedIn := (start Sample.directory).follow Sample.codec
      [.request Sample.setting (Sample.signIn ⟨0, "a", "b"⟩)]
    let signedOut := (start Sample.directory).follow Sample.codec
      [.request Sample.setting (Sample.signIn ⟨0, "a", "b"⟩),
        .request Sample.setting (.logout ⟨1⟩)]
    (∃ session dir', refresh.run signedIn.dir = (.ok (some session), dir')) ∧
      refresh.run signedOut.dir = (.error .invalidCredentials, signedOut.dir) := by
  intro first refresh signedIn signedOut
  have hin : signedIn.replies = [.opened (Sample.session ⟨0, "a", "b"⟩ Sample.user)] := rfl
  have hout : signedOut.replies =
      [.opened (Sample.session ⟨0, "a", "b"⟩ Sample.user), .closed ⟨1⟩] := rfl
  have hdir : ∀ u ∈ Sample.directory.users, u.refreshDigest = none := by
    intro u hu
    rw [List.mem_singleton.mp hu]
    rfl
  have hone : ∀ replies, issuedTokens replies = [first] →
      (issuedTokens replies).Nodup ∧ Distinguished first (issuedTokens replies) := by
    intro replies hissued
    rw [hissued]
    exact ⟨List.pairwise_singleton _ _, fun other hother _ => List.mem_singleton.mp hother⟩
  have hverified : Sample.codec.verify 1 first = .ok (Sample.claims ⟨0, "a", "b"⟩) :=
    Sample.verify_first 1
  constructor
  · obtain ⟨hnodup, htoken⟩ := hone signedIn.replies (congrArg issuedTokens hin)
    refine ((refresh_of_course hdir _ hnodup htoken).1 Sample.setting _ ⟨1, "c", "d"⟩ rfl).1.mpr
      ⟨by decide, ?_⟩
    exact ⟨_, Sample.holder first, hverified, rfl, rfl, rfl, congrArg (outstanding? · _) hin⟩
  · obtain ⟨hnodup, htoken⟩ := hone signedOut.replies (congrArg issuedTokens hout)
    exact (refresh_of_course hdir _ hnodup htoken).2.2 _ []
      (Sample.session ⟨0, "a", "b"⟩ Sample.user) hout (List.mem_singleton_self _) rfl
      Sample.setting _ ⟨1, "c", "d"⟩ _ ((Sample.holder first).setRefreshDigest none _) rfl
      hverified rfl rfl rfl

end Course

end Gatehouse
