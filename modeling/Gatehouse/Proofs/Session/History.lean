import Gatehouse.Federation.SignIn
import Mathlib.Data.List.Induction

/-!
# Histories of sessions

A session is opened by signing in with a password or by a provider and by refreshing, and closed by
signing out. A history is the row of replies to such requests. It tells which refresh token of a
user is out: the one of the session that was opened last, unless a reply about the user came after
it (`outstanding?`).

When every token is issued once, a token that is no longer out never comes back
(`outstanding?_ne_of_issued`), and it is out for the user it was issued to and nobody else
(`id_of_outstanding?`). Nothing here is about how requests are served.
-/

namespace Gatehouse

/-! ### Requests and replies -/

/-- A request about a session. What the provider answers is part of the request. -/
inductive SessionRequest where
  | login (at_ : Issuance) (username password : String)
  | refresh (at_ : Issuance) (token : String)
  | complete (at_ : Issuance) (provider : IdentityProvider Id) (code received : String)
    (binding : LoginBinding)
  | logout (id : UserId)

/-- The reply to such a request. There is none if the program stops. -/
inductive SessionReply where
  | opened (session : Session)
  | closed (id : UserId)
  | failed (e : AuthError)
  | stopped
  deriving DecidableEq

namespace SessionReply

/-- The reply about a session that should be opened. -/
def ofSession : Except AuthError (Option Session) → SessionReply
  | .ok (some session) => .opened session
  | .ok none => .stopped
  | .error e => .failed e

/-- The reply about a session that should be closed. -/
def ofLogout (id : UserId) : Except AuthError Unit → SessionReply
  | .ok () => .closed id
  | .error e => .failed e

/-- The user whose session was opened or closed. -/
def user? : SessionReply → Option UserId
  | .opened session => some session.user.id
  | .closed id => some id
  | .failed _ => none
  | .stopped => none

/-- The refresh token of the session that was opened. -/
def token? : SessionReply → Option String
  | .opened session => some session.tokens.refresh
  | .closed _ => none
  | .failed _ => none
  | .stopped => none

end SessionReply

section

variable {m : Type → Type} [Monad m]

/-- A provider whose answers are known, where something else happens too. -/
def IdentityProvider.inside (p : IdentityProvider Id) : IdentityProvider m where
  authUrl := p.authUrl
  exchange code verifier := pure (p.exchange code verifier)
  verifyIdToken raw nonce := pure (p.verifyIdToken raw nonce)
  profile := p.profile

/-- Serves a request. -/
def SessionRequest.serve (users : UserStore m) (codec : TokenCodec) (hasher : PasswordHasher) :
    SessionRequest → m SessionReply
  | .login at_ username password =>
    SessionReply.ofSession <$>
      (SessionService.login ⟨users, codec, hasher⟩ at_ username password).run
  | .refresh at_ token =>
    SessionReply.ofSession <$> (SessionService.refresh ⟨users, codec, hasher⟩ at_ token).run
  | .complete at_ provider code received binding =>
    SessionReply.ofSession <$>
      (FederationService.complete ⟨provider.inside, users, codec⟩ at_ code received binding).run
  | .logout id => SessionReply.ofLogout id <$> (SessionService.logout ⟨users, codec, hasher⟩ id).run

end

/-! ### The token that is out -/

/-- The refresh tokens that were issued. -/
def issuedTokens (replies : List SessionReply) : List String :=
  replies.filterMap SessionReply.token?

/-- The refresh token of a user that is out: the one of the last session, unless it was closed. -/
def outstanding? (replies : List SessionReply) (id : UserId) : Option String :=
  (replies.filter (·.user? = some id)).getLast?.bind SessionReply.token?

variable {replies more : List SessionReply} {id : UserId} {token : String}

@[simp] theorem issuedTokens_append (replies more : List SessionReply) :
    issuedTokens (replies ++ more) = issuedTokens replies ++ issuedTokens more :=
  List.filterMap_append

/-- The last reply decides for its user, and for no other. -/
theorem outstanding?_concat (replies : List SessionReply) (r : SessionReply) (id : UserId) :
    outstanding? (replies ++ [r]) id =
      if r.user? = some id then r.token? else outstanding? replies id := by
  by_cases h : r.user? = some id <;> simp [outstanding?, List.filter_append, h]

/-- What is out belongs to a session of the user. -/
theorem exists_opened_of_outstanding? (h : outstanding? replies id = some token) :
    ∃ s, .opened s ∈ replies ∧ s.user.id = id ∧ s.tokens.refresh = token := by
  obtain ⟨r, hlast, htoken⟩ := Option.bind_eq_some_iff.mp h
  have hmem := List.mem_of_getLast? hlast
  simp only [List.mem_filter, decide_eq_true_eq] at hmem
  cases r with
  | opened s =>
    exact ⟨s, hmem.1, Option.some.inj hmem.2, Option.some.inj htoken⟩
  | closed _ => simp [SessionReply.token?] at htoken
  | failed _ => simp [SessionReply.token?] at htoken
  | stopped => simp [SessionReply.token?] at htoken

theorem mem_issuedTokens_of_opened {s : Session} (h : .opened s ∈ replies) :
    s.tokens.refresh ∈ issuedTokens replies :=
  List.mem_filterMap.mpr ⟨_, h, rfl⟩

theorem mem_issuedTokens_of_outstanding? (h : outstanding? replies id = some token) :
    token ∈ issuedTokens replies := by
  obtain ⟨s, hs, -, rfl⟩ := exists_opened_of_outstanding? h
  exact mem_issuedTokens_of_opened hs

/-- A token is issued once. -/
theorem token_ne_of_nodup {r : SessionReply} (h : (issuedTokens (replies ++ [r])).Nodup)
    (htoken : token ∈ issuedTokens replies) : r.token? ≠ some token := by
  intro hr
  rw [issuedTokens_append, List.nodup_append] at h
  exact h.2.2 token htoken token (by simp [issuedTokens, hr]) rfl

/-- A token that was issued and is not out never is again. -/
theorem outstanding?_ne_of_issued (hissued : token ∈ issuedTokens replies)
    (hnot : ∀ id, outstanding? replies id ≠ some token)
    (hnodup : (issuedTokens (replies ++ more)).Nodup) :
    ∀ id, outstanding? (replies ++ more) id ≠ some token := by
  -- the replies that follow come one by one, and none of them issues the token again
  induction more generalizing replies with
  | nil => simpa using hnot
  | cons r more ih =>
    rw [List.append_cons] at hnodup ⊢
    have hprefix : (issuedTokens (replies ++ [r])).Nodup := by
      rw [issuedTokens_append] at hnodup
      exact (List.nodup_append.mp hnodup).1
    refine ih (by simp [hissued]) (fun id => ?_) hnodup
    rw [outstanding?_concat]
    split
    · exact token_ne_of_nodup hprefix hissued
    · exact hnot id

/-- A token is out for the user to whom it was issued. -/
theorem id_of_outstanding? (hnodup : (issuedTokens replies).Nodup) {s : Session}
    (hs : .opened s ∈ replies) (h : outstanding? replies id = some s.tokens.refresh) :
    s.user.id = id := by
  induction replies using List.reverseRecOn with
  | nil => simp at hs
  | append_singleton replies r ih =>
    have hprefix : (issuedTokens replies).Nodup := by
      rw [issuedTokens_append] at hnodup
      exact (List.nodup_append.mp hnodup).1
    rw [outstanding?_concat] at h
    rcases List.mem_append.mp hs with hs | hs
    · -- the session was opened before, so the last reply cannot have its token
      have hne := token_ne_of_nodup hnodup (mem_issuedTokens_of_opened hs)
      split at h
      · exact absurd h hne
      · exact ih hprefix hs h
    · rw [List.mem_singleton] at hs
      subst hs
      split at h
      · next huser => exact Option.some.inj huser
      · exact absurd rfl (token_ne_of_nodup hnodup (mem_issuedTokens_of_outstanding? h))

end Gatehouse
