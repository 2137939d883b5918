import Gatehouse.Proofs.Session.Revocation
import Gatehouse.Proofs.Token.Nodes
import Mathlib.Data.Set.Operations

/-!
# The write that counts

Requests that race write their digests in some order, and each write takes the place of the one
before it. `writes` lists the writes that moves make, as they are made. The digest that is stored
for a user is the one of the last write (`digest?_follow`), so a refresh that is served alone
accepts the token of this write and no other (`refresh_after_writes`).

Which token that is, is told by the request that wrote it: a session that is handed out has the pair
of the issuance of its request (`issuesPairs_follow`).
-/

namespace Gatehouse

/-! ### What a session was issued from -/

/-- Every reply that a program may give has some property. -/
def Pending.Gives {α : Type} (P : α → Prop) : Pending α → Prop
  | .done a => P a
  | .call _ next => ∀ answer, (next answer).Gives P

/-- When and with which ids a request issues a pair. -/
def SessionRequest.issuance? : SessionRequest → Option Issuance
  | .login at_ _ _ => some at_
  | .refresh at_ _ => some at_
  | .complete at_ _ _ _ _ => some at_
  | .logout _ => none

/-- A session has the pair that a codec issues for its user by an issuance. -/
def Session.IssuedBy (codec : TokenCodec) (at_ : Issuance) (session : Session) : Prop :=
  ∃ username method roles,
    codec.issuePair at_ session.user.id username method roles = some session.tokens

/-- A session that a request opens has a pair of its issuance. -/
def IssuedFor (codec : TokenCodec) (r : SessionRequest) (reply : SessionReply) : Prop :=
  ∀ session, reply = .opened session →
    ∃ at_, r.issuance? = some at_ ∧ session.IssuedBy codec at_

section

variable {codec : TokenCodec} {r : SessionRequest} {at_ : Issuance}

theorem issuedFor_failed (e : AuthError) : IssuedFor codec r (.failed e) := by
  rintro session ⟨⟩

theorem issuedFor_stopped : IssuedFor codec r .stopped := by
  rintro session ⟨⟩

theorem gives_opening (hr : r.issuance? = some at_) (user : User) (method : SignInMethod)
    (roles : Option (List String)) :
    (opening codec at_ user method roles).Gives (IssuedFor codec r) := by
  rw [opening]
  cases htokens : codec.issuePair at_ user.id user.username method roles with
  | none => exact issuedFor_stopped
  | some tokens =>
    intro answer
    cases answer with
    | ok =>
      rintro session hsession
      cases hsession
      exact ⟨at_, hr, user.username, method, roles, htokens⟩
    | error e => exact issuedFor_failed _

/-- What a request may still reply at its stages. -/
theorem gives_serve (codec : TokenCodec) (hasher : PasswordHasher) (r : SessionRequest) :
    (r.serve Pending.store codec hasher).Gives (IssuedFor codec r) := by
  cases r with
  | login at_ username password =>
    rw [serve_login]
    intro answer
    rcases afterLogin_cases hasher at_ username password answer with ⟨e, h⟩ | ⟨user, h⟩ <;> rw [h]
    · exact issuedFor_failed e
    · exact gives_opening rfl user _ _
  | refresh at_ token =>
    rw [serve_refresh]
    split
    · exact issuedFor_failed _
    · next claims _ =>
      intro answer
      rcases afterRefresh_cases at_ token claims answer with ⟨e, h⟩ | ⟨user, -, -, h⟩ <;> rw [h]
      · exact issuedFor_failed e
      · exact gives_opening rfl user _ _
  | complete at_ provider code received binding =>
    rw [serve_complete]
    split
    · exact issuedFor_failed _
    · next profile _ =>
      intro answer
      rcases afterComplete_cases at_ profile answer with ⟨e, h⟩ | ⟨user, h⟩ <;> rw [h]
      · exact issuedFor_failed e
      · exact gives_opening rfl user _ _
  | logout id =>
    rw [serve_logout]
    intro answer
    match answer with
    | .ok () => exact fun _ h => nomatch h
    | .error e => exact issuedFor_failed _

end

namespace Pool

variable {codec : TokenCodec}

/-- Every session that was handed out, or may still be, has the pair of its request. -/
structure IssuesPairs (codec : TokenCodec) (p : Pool) : Prop where
  log : ∀ entry ∈ p.log, IssuedFor codec entry.request entry.reply
  flights : ∀ f ∈ p.flights, f.rest.Gives (IssuedFor codec f.request)

theorem issuedFor_of_mem_finished {i : Nat} {r : SessionRequest} {rest : Pending SessionReply}
    (h : rest.Gives (IssuedFor codec r)) :
    ∀ entry ∈ finished i r rest, IssuedFor codec entry.request entry.reply := by
  cases rest with
  | done reply =>
    intro entry hentry
    rw [List.mem_singleton.mp hentry]
    exact h
  | call c next => exact fun entry hentry => nomatch hentry

theorem issuesPairs_move {p : Pool} (h : p.IssuesPairs codec) (m : Move) :
    (p.move codec m).IssuesPairs codec := by
  cases m with
  | change setting change => exact ⟨h.log, h.flights⟩
  | start hasher r =>
    have hserve := gives_serve codec hasher r
    refine ⟨fun entry hentry => ?_, fun f hf => ?_⟩
    · rcases List.mem_append.mp hentry with hentry | hentry
      · exact h.log entry hentry
      · exact issuedFor_of_mem_finished hserve entry hentry
    · rcases List.mem_append.mp hf with hf | hf
      · exact h.flights f hf
      · rw [List.mem_singleton.mp hf]
        exact hserve
  | advance setting i =>
    -- a flight that goes on gives no more than it could give before, whatever it is answered
    rcases p.advance_cases codec setting i with hsame | ⟨r, c, next, hf⟩
    · rw [hsame]
      exact h
    · have hnext := h.flights _ (List.mem_of_getElem? hf) (c.make (Directory.store setting) p.dir).1
      rw [move_advance hf]
      refine ⟨fun entry hentry => ?_, fun f hmem => ?_⟩
      · rcases List.mem_append.mp hentry with hentry | hentry
        · exact h.log entry hentry
        · exact issuedFor_of_mem_finished hnext entry hentry
      · rcases List.mem_or_eq_of_mem_set hmem with hmem | rfl
        · exact h.flights f hmem
        · exact hnext

/-- **A session has the pair that was issued for its request.** -/
theorem issuesPairs_follow (codec : TokenCodec) (dir : Directory) (moves : List Move) :
    ((start dir).follow codec moves).IssuesPairs codec := by
  induction moves using List.reverseRecOn with
  | nil => exact ⟨fun _ h => absurd h List.not_mem_nil, fun _ h => absurd h List.not_mem_nil⟩
  | append_singleton moves m ih =>
    rw [follow_concat]
    exact issuesPairs_move ih m

end Pool

/-! ### Writes -/

/-- A write of a digest: for whom, and the digest that is stored, if any. -/
structure DigestWrite where
  id : UserId
  digest : Option String
  deriving DecidableEq

/-- The write that a call makes when it succeeds. -/
def StoreCall.write? : (c : StoreCall) → c.Answer → Option DigestWrite
  | .updateRefreshDigest id digest, .ok () => some ⟨id, digest⟩
  | .updateRefreshDigest _ _, .error _ => none
  | .findById _, _ => none
  | .findByUsername _, _ => none
  | .findOrCreate _, _ => none
  | .updatePassword _ _, _ => none

/-- The digest of the last write for a user: none at all if there was no write, and no digest if
the write took it away. -/
def lastWrite? (writes : List DigestWrite) (id : UserId) : Option (Option String) :=
  ((writes.filter (·.id = id)).getLast?).map (·.digest)

theorem lastWrite?_concat (writes : List DigestWrite) (w : DigestWrite) (id : UserId) :
    lastWrite? (writes ++ [w]) id = if w.id = id then some w.digest else lastWrite? writes id := by
  by_cases h : w.id = id <;> simp [lastWrite?, List.filter_append, h]

namespace Pool

variable {codec : TokenCodec}

/-- The write that a move makes. -/
def write? (p : Pool) : Move → Option DigestWrite
  | .advance setting i =>
    match p.flights[i]? with
    | some ⟨_, .call c _⟩ => c.write? (c.make (Directory.store setting) p.dir).1
    | _ => none
  | .start _ _ => none
  | .change _ _ => none

/-- The writes that moves make, one after the other. -/
def writes (codec : TokenCodec) : Pool → List Move → List DigestWrite
  | _, [] => []
  | p, m :: moves => (p.write? m).toList ++ writes codec (p.move codec m) moves

theorem writes_concat (codec : TokenCodec) (p : Pool) (moves : List Move) (m : Move) :
    p.writes codec (moves ++ [m]) =
      p.writes codec moves ++ ((p.follow codec moves).write? m).toList := by
  induction moves generalizing p with
  | nil => simp [writes, follow]
  | cons m' moves ih => rw [List.cons_append, writes, writes, ih, List.append_assoc]; rfl

section

variable {setting : Directory.Setting} {dir : Directory} {id : UserId}

/-- A call that writes nothing leaves all digests as they are. -/
theorem digest?_make_of_none {c : StoreCall}
    (h : c.write? (c.make (Directory.store setting) dir).1 = none) :
    (c.make (Directory.store setting) dir).2.digest? id = dir.digest? id := by
  cases c with
  | findById id' => rw [dir_findById]
  | findByUsername username => rw [dir_findByUsername]
  | findOrCreate t => exact Directory.digest?_findOrCreate t _
  | updatePassword id' password =>
    exact Directory.digest?_apply setting (.updatePassword id' password)
  | updateRefreshDigest id' digest =>
    rcases write_cases id' digest with ⟨e, hfailed⟩ | ⟨hdone, -, -⟩
    · rw [hfailed]
    · rw [hdone] at h
      cases h

/-- A write replaces the digest of its user and no other. -/
theorem digest?_make_of_some {c : StoreCall} {w : DigestWrite}
    (h : c.write? (c.make (Directory.store setting) dir).1 = some w) :
    (c.make (Directory.store setting) dir).2.digest? id =
      if w.id = id then User.storedDigest w.digest else dir.digest? id := by
  cases c with
  | findById id' => cases h
  | findByUsername username => cases h
  | findOrCreate t => cases h
  | updatePassword id' password => cases h
  | updateRefreshDigest id' digest =>
    rcases write_cases id' digest with ⟨e, hfailed⟩ | ⟨hdone, -, huser⟩
    · rw [hfailed] at h
      cases h
    · rw [hdone] at h ⊢
      cases h
      rw [Directory.digest?_putDigest huser]
      exact if_congr eq_comm rfl rfl

end

/-- No request writes an empty digest. -/
theorem storedDigest_of_write? {r : SessionRequest} {c : StoreCall}
    {next : c.Answer → Pending SessionReply} (h : Stage codec r (.call c next)) {answer : c.Answer}
    {w : DigestWrite} (hw : c.write? answer = some w) : User.storedDigest w.digest = w.digest := by
  cases h with
  | login => cases hw
  | refresh => cases hw
  | complete => cases hw
  | opens r at_ user tokens =>
    match answer, hw with
    | .ok (), rfl => exact storedDigest_refreshDigest _
  | logout id =>
    match answer, hw with
    | .ok (), rfl => rfl

/-- A move changes the digests as its write says. -/
theorem digest?_move {p : Pool} (hsound : p.Sound codec) (m : Move) (id : UserId) :
    (p.move codec m).dir.digest? id =
      match p.write? m with
      | some w => if w.id = id then w.digest else p.dir.digest? id
      | none => p.dir.digest? id := by
  cases m with
  | start hasher r => rfl
  | change setting change => exact Directory.digest?_apply setting change
  | advance setting i =>
    cases hf : p.flights[i]? with
    | none => simp only [move, write?, hf]
    | some f =>
      obtain ⟨r, rest⟩ := f
      cases rest with
      | done reply => simp only [move, write?, hf]
      | call c next =>
        have hwrite : p.write? (.advance setting i) =
            c.write? (c.make (Directory.store setting) p.dir).1 := by simp only [write?, hf]
        rw [move_advance hf, hwrite]
        cases hw : c.write? (c.make (Directory.store setting) p.dir).1 with
        | none => exact digest?_make_of_none hw
        | some w =>
          -- an empty digest would be stored as none, but no stage writes one
          have hstored := storedDigest_of_write? (hsound _ (List.mem_of_getElem? hf)) hw
          rw [digest?_make_of_some hw, hstored]

/-- **The stored digest is that of the last write.** -/
theorem digest?_follow {dir : Directory} (h : ∀ u ∈ dir.users, u.refreshDigest = none)
    (moves : List Move) (id : UserId) :
    ((start dir).follow codec moves).dir.digest? id =
      (lastWrite? ((start dir).writes codec moves) id).join := by
  induction moves using List.reverseRecOn with
  | nil => exact tracks_nil h id
  | append_singleton moves m ih =>
    rw [follow_concat, writes_concat, digest?_move (sound_follow moves)]
    cases ((start dir).follow codec moves).write? m with
    | none => simpa using ih
    | some w =>
      rw [Option.toList_some, lastWrite?_concat]
      dsimp only
      split
      · rfl
      · exact ih

end Pool

/-! ### A refresh that is served alone -/

section

variable {codec : TokenCodec} {hasher : PasswordHasher} {setting : Directory.Setting}
  {at_ : Issuance} {token : String} {dir : Directory} {id : UserId}

/-- A refresh that is served alone over a directory opens a session of a user. -/
def Accepts (codec : TokenCodec) (hasher : PasswordHasher) (setting : Directory.Setting)
    (dir : Directory) (id : UserId) (at_ : Issuance) (token : String) : Prop :=
  ∃ session dir',
    (SessionService.refresh ⟨Directory.store setting, codec, hasher⟩ at_ token).run dir =
      (.ok (some session), dir') ∧ session.user.id = id

theorem accepts_iff :
    Accepts codec hasher setting dir id at_ token ↔ codec.HasRoom at_.now ∧
      ∃ claims user, Exchanges codec at_.now token dir claims user ∧ claims.userId = id := by
  constructor
  · rintro ⟨session, dir', hrun, rfl⟩
    obtain ⟨claims, user, hex, hopens⟩ := opens_of_run_refresh hrun
    refine ⟨TokenCodec.hasRoom_of_issuePair hopens.issued, claims, user, hex, ?_⟩
    rw [hopens.user_eq]
    exact hex.id_eq.symm
  · rintro ⟨hroom, claims, user, hex, rfl⟩
    exact hex.exists_run_refresh hroom

/-- What is accepted has the digest that is stored. -/
theorem Accepts.digest? (h : Accepts codec hasher setting dir id at_ token) :
    dir.digest? id = some (TokenCodec.refreshDigest token) := by
  obtain ⟨-, claims, user, hex, rfl⟩ := accepts_iff.mp h
  rw [Directory.digest?, hex.found]
  exact hex.digest

/-- What is verified of a refresh token: the claims that it carries for a user, up to the second of
its expiry. -/
structure LivesFor (codec : TokenCodec) (id : UserId) (expiry : Int) (token : String)
    (claims : Claims) : Prop where
  userId : claims.userId = id
  kind : claims.kind = .refresh
  verify : ∀ now,
    codec.verify now token = if now ≤ expiry then .ok claims else .error .expired

/-- The refresh token of a session lives for its user as long as refresh tokens do. -/
theorem Session.IssuedBy.livesFor {session : Session} (h : session.IssuedBy codec at_)
    (hnow : 0 ≤ at_.now) (hid : Decimal.IsInt64 session.user.id.value) :
    ∃ claims, LivesFor codec session.user.id (at_.now + codec.refreshTtl) session.tokens.refresh
      claims := by
  obtain ⟨username, method, roles, htokens⟩ := h
  have hverify := TokenCodec.verify_half_of_secret_eq rfl htokens hnow hid .refresh
  exact ⟨codec.halfClaims at_ session.user.id username method roles .refresh, rfl, rfl,
    fun now => (hverify now).trans (if_congr Iff.rfl (if_pos rfl) rfl)⟩

section

variable {expiry : Int} {claims : Claims} {user : User}

/-- A token whose digest is stored is accepted up to its expiry, at times that have room for the
tokens of a new session. -/
theorem LivesFor.accepts_iff (h : LivesFor codec id expiry token claims)
    (havail : dir.unavailable = false) (hfound : dir.user? id = some user)
    (hactive : user.active = true)
    (hdigest : dir.digest? id = some (TokenCodec.refreshDigest token)) :
    Accepts codec hasher setting dir id at_ token ↔
      at_.now ≤ expiry ∧ codec.HasRoom at_.now := by
  have hverify := h.verify at_.now
  rw [Gatehouse.accepts_iff]
  constructor
  · rintro ⟨hroom, claims', user', hex, -⟩
    refine ⟨?_, hroom⟩
    by_contra hexpired
    rw [if_neg hexpired, hex.verified] at hverify
    cases hverify
  · rintro ⟨hnow, hroom⟩
    rw [if_pos hnow] at hverify
    rw [Directory.digest?, hfound] at hdigest
    obtain rfl := h.userId
    exact ⟨hroom, claims, user, ⟨hverify, h.kind, havail, hfound, hactive, hdigest⟩, rfl⟩

/-- Of tokens with different digests, only the one whose digest is stored is accepted. -/
theorem LivesFor.accepts_iff_eq (h : LivesFor codec id expiry token claims)
    (havail : dir.unavailable = false) (hfound : dir.user? id = some user)
    (hactive : user.active = true)
    (hdigest : dir.digest? id = some (TokenCodec.refreshDigest token)) {involved : Set String}
    (hinj : Set.InjOn TokenCodec.refreshDigest involved) (htoken : token ∈ involved)
    {other : String} (hother : other ∈ involved) :
    Accepts codec hasher setting dir id at_ other ↔
      other = token ∧ at_.now ≤ expiry ∧ codec.HasRoom at_.now := by
  constructor
  · intro haccepts
    have hsame : other = token :=
      hinj hother htoken (Option.some.inj (haccepts.digest?.symm.trans hdigest))
    subst hsame
    exact ⟨rfl, (h.accepts_iff havail hfound hactive hdigest).mp haccepts⟩
  · rintro ⟨rfl, hnow⟩
    exact (h.accepts_iff havail hfound hactive hdigest).mpr hnow

/-- A token whose digest is not stored is refused, up to its expiry and from then on. -/
theorem LivesFor.run_refresh (h : LivesFor codec id expiry token claims)
    (havail : dir.unavailable = false) (hfound : dir.user? id = some user)
    (hactive : user.active = true)
    (hdigest : dir.digest? id ≠ some (TokenCodec.refreshDigest token)) :
    (SessionService.refresh ⟨Directory.store setting, codec, hasher⟩ at_ token).run dir =
      (.error (if at_.now ≤ expiry then .invalidCredentials
        else .tokenInvalid "refresh token has expired"), dir) := by
  have hverify := h.verify at_.now
  obtain rfl := h.userId
  by_cases hnow : at_.now ≤ expiry
  · rw [if_pos hnow] at hverify ⊢
    exact run_refresh_of_digest?_ne hverify h.kind havail hfound hactive hdigest
  · rw [if_neg hnow] at hverify ⊢
    rw [Gatehouse.run_refresh, SessionService.checkRefreshToken, hverify]

end

/-- A digest that is stored is that of a session that was handed out. -/
theorem Tracks.exists_opened {replies : List SessionReply} (h : Tracks replies dir)
    {digest : String} (hdigest : dir.digest? id = some digest) :
    ∃ session, .opened session ∈ replies ∧ session.user.id = id ∧
      TokenCodec.refreshDigest session.tokens.refresh = digest := by
  obtain ⟨token, hout, htoken⟩ := Option.map_eq_some_iff.mp ((h id).symm.trans hdigest)
  obtain ⟨session, hsession, hid, rfl⟩ := exists_opened_of_outstanding? hout
  exact ⟨session, hsession, hid, htoken⟩

/-- No two sessions that were handed out share their token. -/
theorem eq_of_opened {replies : List SessionReply} (hnodup : (issuedTokens replies).Nodup)
    {s s' : Session} (hs : .opened s ∈ replies) (hs' : .opened s' ∈ replies)
    (h : s.tokens.refresh = s'.tokens.refresh) : s = s' := by
  induction replies with
  | nil => exact absurd hs List.not_mem_nil
  | cons r replies ih =>
    -- the token of the first reply is none of those that come after it
    have hissued : issuedTokens (r :: replies) = r.token?.toList ++ issuedTokens replies := by
      cases hr : r.token? <;> simp [issuedTokens, hr]
    rw [hissued, List.nodup_append] at hnodup
    have hnew : ∀ {x y : Session}, r = .opened x → .opened y ∈ replies →
        x.tokens.refresh ≠ y.tokens.refresh := by
      rintro x y rfl hy
      exact hnodup.2.2 _ (List.mem_singleton_self _) _ (mem_issuedTokens_of_opened hy)
    rcases List.mem_cons.mp hs with hs | hs <;> rcases List.mem_cons.mp hs' with hs' | hs'
    · exact SessionReply.opened.inj (hs.trans hs'.symm)
    · exact absurd h (hnew hs.symm hs')
    · exact absurd h.symm (hnew hs'.symm hs)
    · exact ih hnodup.2.1 hs hs'

end

namespace Pool

variable {codec : TokenCodec} {id : UserId}

/-- The refresh token of a session that was handed out lives as long as its request says. -/
theorem exists_livesFor {q : Pool} (hissues : q.IssuesPairs codec)
    (hrange : ∀ entry ∈ q.log, ∀ at_, entry.request.issuance? = some at_ →
      0 ≤ at_.now)
    (hid : Decimal.IsInt64 id.value) {session : Session} (hopened : .opened session ∈ q.replies)
    (hsession : session.user.id = id) :
    ∃ entry ∈ q.log, entry.reply = .opened session ∧ ∃ at_ claims,
      entry.request.issuance? = some at_ ∧
      LivesFor codec id (at_.now + codec.refreshTtl) session.tokens.refresh claims := by
  obtain ⟨entry, hentry, hreply⟩ := List.mem_map.mp hopened
  obtain ⟨at_, hat, hpair⟩ := hissues.log entry hentry session hreply
  subst hsession
  obtain ⟨claims, hlives⟩ := hpair.livesFor (hrange entry hentry at_ hat) hid
  exact ⟨entry, hentry, hreply, at_, claims, hat, hlives⟩

/-- **The last write wins.** Whatever the requests and the order of their calls, at every point of
a run that started without stored digests, with the issued tokens all different and no two of the
tokens involved sharing a digest:

* while the last write for a user was a sign-out, or there was none, a refresh that is served alone
  opens no session of the user,
* else there is a session of the user that was handed out with the digest of the last write, a
  refresh accepts its token up to the expiry, at times that have room for the tokens of a new
  session, and no other token, and every other session of the user that was handed out is refused,
* so no two tokens of the user are accepted. -/
theorem refresh_after_writes {dir : Directory} (hdir : ∀ u ∈ dir.users, u.refreshDigest = none)
    (moves : List Move) {user : User} {involved : Set String}
    (hnodup : (issuedTokens ((start dir).follow codec moves).replies).Nodup)
    (hissued : ∀ t ∈ issuedTokens ((start dir).follow codec moves).replies, t ∈ involved)
    (hinj : Set.InjOn TokenCodec.refreshDigest involved)
    (hrange : ∀ entry ∈ ((start dir).follow codec moves).log, ∀ at_,
      entry.request.issuance? = some at_ → 0 ≤ at_.now)
    (hid : Decimal.IsInt64 id.value)
    (havail : ((start dir).follow codec moves).dir.unavailable = false)
    (huser : ((start dir).follow codec moves).dir.user? id = some user)
    (hactive : user.active = true) :
    let q := (start dir).follow codec moves
    let last := lastWrite? ((start dir).writes codec moves) id
    (last = none ∨ last = some none →
      ∀ hasher setting at_ token, ¬ Accepts codec hasher setting q.dir id at_ token) ∧
    (∀ digest, last = some (some digest) →
      ∃ entry ∈ q.log, ∃ session issued, entry.reply = .opened session ∧ session.user.id = id ∧
        entry.request.issuance? = some issued ∧
        TokenCodec.refreshDigest session.tokens.refresh = digest ∧
        (∀ hasher setting at_, ∀ token ∈ involved,
          (Accepts codec hasher setting q.dir id at_ token ↔
            token = session.tokens.refresh ∧ at_.now ≤ issued.now + codec.refreshTtl ∧
              codec.HasRoom at_.now)) ∧
        ∀ other, .opened other ∈ q.replies → other.user.id = id → other ≠ session →
          ∀ hasher setting at_, ∃ e,
            (e = .invalidCredentials ∨ e = .tokenInvalid "refresh token has expired") ∧
            (SessionService.refresh ⟨Directory.store setting, codec, hasher⟩ at_
              other.tokens.refresh).run q.dir = (.error e, q.dir)) ∧
    ∀ hasher setting at_ hasher' setting' at_', ∀ token ∈ involved, ∀ token' ∈ involved,
      Accepts codec hasher setting q.dir id at_ token →
      Accepts codec hasher' setting' q.dir id at_' token' → token = token' := by
  intro q last
  have hstored : q.dir.digest? id = last.join := digest?_follow hdir moves id
  have htracks : Tracks q.replies q.dir := tracks_follow hdir moves
  have hlives := fun {session : Session} (hopened : .opened session ∈ q.replies) =>
    exists_livesFor (issuesPairs_follow codec dir moves) hrange hid hopened
  refine ⟨fun hlast hasher setting at_ token haccepts => ?_, fun digest hlast => ?_, ?_⟩
  · have hnone : last.join = none := by rcases hlast with h | h <;> rw [h] <;> rfl
    rw [haccepts.digest?, hnone] at hstored
    cases hstored
  · -- the last write was made for a session, and what its token says is told by its request
    rw [hlast] at hstored
    obtain ⟨session, hsession, hsessionId, hdigest⟩ := htracks.exists_opened hstored
    obtain ⟨entry, hentry, hreply, issued, claims, hat, hlive⟩ := hlives hsession hsessionId
    have hmem := hissued _ (mem_issuedTokens_of_opened hsession)
    rw [Option.join_some, ← hdigest] at hstored
    refine ⟨entry, hentry, session, issued, hreply, hsessionId, hat, hdigest, ?_, ?_⟩
    · intro hasher setting at_ token htoken
      exact hlive.accepts_iff_eq havail huser hactive hstored hinj hmem htoken
    · intro other hother hotherId hne hasher setting at_
      obtain ⟨-, -, -, issued', claims', -, hlive'⟩ := hlives hother hotherId
      have hdigests : q.dir.digest? id ≠
          some (TokenCodec.refreshDigest other.tokens.refresh) := by
        rw [hstored]
        intro h
        have htokens :=
          hinj hmem (hissued _ (mem_issuedTokens_of_opened hother)) (Option.some.inj h)
        exact hne (eq_of_opened hnodup hother hsession htokens.symm)
      refine ⟨_, ?_, hlive'.run_refresh havail huser hactive hdigests⟩
      split
      · exact .inl rfl
      · exact .inr rfl
  · intro hasher setting at_ hasher' setting' at_' token htoken token' htoken' haccepts haccepts'
    exact hinj htoken htoken' (Option.some.inj (haccepts.digest?.symm.trans haccepts'.digest?))

end Pool

/-! ### Two sign-ins that race -/

namespace Sample

/-- Two sign-ins of the user, of which each looks the user up before the other one writes. -/
def twice (at_ at_' : Issuance) : List Move :=
  [.start setting.hasher (signIn at_), .start setting.hasher (signIn at_'), .advance setting 0,
    .advance setting 1, .advance setting 0, .advance setting 1]

theorem follow_twice (a b c d : String) :
    let at_ : Issuance := ⟨0, a, b⟩
    let at_' : Issuance := ⟨1, c, d⟩
    (Pool.start directory).follow codec (twice at_ at_') =
      ⟨[⟨0, signIn at_, .opened (session at_ user)⟩, ⟨1, signIn at_', .opened (session at_' user)⟩],
        ⟨[holder (token at_')], 1, false⟩,
        [⟨signIn at_, .done (.opened (session at_ user))⟩,
          ⟨signIn at_', .done (.opened (session at_' user))⟩]⟩ :=
  rfl

theorem writes_twice (a b c d : String) :
    let at_ : Issuance := ⟨0, a, b⟩
    let at_' : Issuance := ⟨1, c, d⟩
    (Pool.start directory).writes codec (twice at_ at_') =
      [⟨⟨1⟩, some (TokenCodec.refreshDigest (token at_))⟩,
        ⟨⟨1⟩, some (TokenCodec.refreshDigest (token at_'))⟩] :=
  rfl

theorem refreshDigest_token_ne :
    TokenCodec.refreshDigest (token ⟨0, "a", "b"⟩) ≠
      TokenCodec.refreshDigest (token ⟨1, "c", "d"⟩) := by
  decide +kernel

end Sample

namespace Pool

/-- Of two sign-ins that race, the one that wrote last can be refreshed up to its expiry, and the
other cannot. -/
theorem refresh_after_writes_twice :
    let first := Sample.token ⟨0, "a", "b"⟩
    let second := Sample.token ⟨1, "c", "d"⟩
    let q := (start Sample.directory).follow Sample.codec
      (Sample.twice ⟨0, "a", "b"⟩ ⟨1, "c", "d"⟩)
    ∀ hasher setting at_,
      (Accepts Sample.codec hasher setting q.dir ⟨1⟩ at_ second ↔
          at_.now ≤ 604801 ∧ Sample.codec.HasRoom at_.now) ∧
        ¬ Accepts Sample.codec hasher setting q.dir ⟨1⟩ at_ first := by
  intro first second q hasher setting at_
  have hne : first ≠ second := fun h =>
    Sample.refreshDigest_token_ne (congrArg TokenCodec.refreshDigest h)
  have hq : q = _ := Sample.follow_twice "a" "b" "c" "d"
  have hlog : q.log = _ := congrArg Pool.log hq
  have hissued : issuedTokens q.replies = [first, second] := by rw [hq]; rfl
  have hdir : ∀ u ∈ Sample.directory.users, u.refreshDigest = none := by
    intro u hu
    rw [List.mem_singleton.mp hu]
    rfl
  have hnodup : (issuedTokens q.replies).Nodup := by
    rw [hissued]
    simpa using hne
  have hinvolved : ∀ t ∈ issuedTokens q.replies, t ∈ ({first, second} : Set String) := by
    intro t ht
    rw [hissued] at ht
    simp only [List.mem_cons, List.not_mem_nil, or_false] at ht
    exact ht
  have hinj : Set.InjOn TokenCodec.refreshDigest {first, second} := by
    rintro t (rfl | rfl) t' (rfl | rfl) h
    · rfl
    · exact absurd h Sample.refreshDigest_token_ne
    · exact absurd h.symm Sample.refreshDigest_token_ne
    · rfl
  have hrange : ∀ entry ∈ q.log, ∀ at_, entry.request.issuance? = some at_ → 0 ≤ at_.now := by
    rw [hlog]
    intro entry hentry at_ hat
    simp only [List.mem_cons, List.not_mem_nil, or_false] at hentry
    rcases hentry with rfl | rfl <;> cases hat <;> decide
  have hid : Decimal.IsInt64 (UserId.mk 1).value := by decide
  have havail : q.dir.unavailable = false := by rw [hq]
  have huser : q.dir.user? ⟨1⟩ = some (Sample.holder second) := by rw [hq]; rfl
  have hlast : lastWrite? ((start Sample.directory).writes Sample.codec
      (Sample.twice ⟨0, "a", "b"⟩ ⟨1, "c", "d"⟩)) ⟨1⟩ =
      some (some (TokenCodec.refreshDigest second)) := by
    rw [Sample.writes_twice]
    rfl
  obtain ⟨entry, hentry, session, issued, hreply, -, hat, hdigest, haccepts, -⟩ :=
    (refresh_after_writes hdir _ hnodup hinvolved hinj hrange hid havail huser rfl).2.1
      (TokenCodec.refreshDigest second) hlast
  have hentry' : entry = ⟨1, Sample.signIn ⟨1, "c", "d"⟩,
      .opened (Sample.session ⟨1, "c", "d"⟩ Sample.user)⟩ := by
    have hmem : entry ∈ q.log := hentry
    rw [hlog] at hmem
    simp only [List.mem_cons, List.not_mem_nil, or_false] at hmem
    rcases hmem with rfl | rfl
    · cases hreply
      exact absurd hdigest Sample.refreshDigest_token_ne
    · rfl
  subst hentry'
  cases hreply
  cases hat
  have hsecond := haccepts hasher setting at_ second (.inr rfl)
  have hfirst := haccepts hasher setting at_ first (.inl rfl)
  exact ⟨hsecond.trans (and_iff_right rfl), fun h => hne (hfirst.mp h).1⟩

end Pool

end Gatehouse
