import Gatehouse.Proofs.Session.Pending

/-!
# Requests at the same time

A pool is a directory and the requests that are being served over it, each a program that has still
some calls to make. A move starts a request, makes the next call of one of them, or changes the
directory otherwise. Every order of moves is possible, and a call is the smallest step: nothing
comes between the parts of one call.

`Stage` lists the states in which a request can be between two of its calls. The replies are logged
when they are given. A request that opens or closes a session has its write as the last call, so the
log has the replies in the order of the writes, and the stored digests are those of the tokens that
are out by the log (`tracks_follow`): of all requests of a user that race, the one that writes last
wins.
-/

namespace Gatehouse

/-! ### Stages -/

section

variable (codec : TokenCodec)

/-- How far a request may be served. -/
inductive Stage : SessionRequest → Pending SessionReply → Prop where
  | done (r : SessionRequest) (reply : SessionReply) : Stage r (.done reply)
  | login (hasher : PasswordHasher) (at_ : Issuance) (username password : String) :
    Stage (.login at_ username password)
      (.call (.findByUsername username) (afterLogin codec hasher at_ username password))
  | refresh (at_ : Issuance) (token : String) (claims : Claims) :
    Stage (.refresh at_ token)
      (.call (.findById claims.userId) (afterRefresh codec at_ token claims))
  | complete (at_ : Issuance) (provider : IdentityProvider Id) (code received : String)
    (binding : LoginBinding) (profile : Profile) :
    Stage (.complete at_ provider code received binding)
      (.call (.findOrCreate (FederationService.template profile)) (afterComplete codec at_ profile))
  | opens (r : SessionRequest) (at_ : Issuance) (user : User) (tokens : TokenPair) :
    Stage r (storing at_ user tokens)
  | logout (id : UserId) :
    Stage (.logout id) (.call (.updateRefreshDigest id none) (afterLogout id))

variable {codec}

theorem stage_serve (hasher : PasswordHasher) (r : SessionRequest) :
    Stage codec r (r.serve Pending.store codec hasher) := by
  cases r with
  | login at_ username password =>
    rw [serve_login]
    exact .login hasher at_ username password
  | refresh at_ token =>
    rw [serve_refresh]
    split
    · exact .done _ _
    · exact .refresh at_ token _
  | complete at_ provider code received binding =>
    rw [serve_complete]
    split
    · exact .done _ _
    · exact .complete at_ provider code received binding _
  | logout id =>
    rw [serve_logout]
    exact .logout id

theorem stage_opening (r : SessionRequest) (at_ : Issuance) (user : User) (method : SignInMethod)
    (roles : Option (List String)) : Stage codec r (opening codec at_ user method roles) := by
  rw [opening]
  split
  · exact .done r .stopped
  · exact .opens r at_ user _

/-- After the lookup a request has failed, or it is about to open a session for the user that was
found. -/
theorem afterLogin_cases (hasher : PasswordHasher) (at_ : Issuance) (username password : String)
    (answer : Except StoreError (Option User)) :
    (∃ e, afterLogin codec hasher at_ username password answer = .done (.failed e)) ∨
      ∃ user, afterLogin codec hasher at_ username password answer =
        opening codec at_ user .password none := by
  match answer with
  | .error e => exact .inl ⟨_, rfl⟩
  | .ok none => exact .inl ⟨_, rfl⟩
  | .ok (some user) =>
    rw [afterLogin]
    split
    · exact .inl ⟨_, rfl⟩
    · exact .inr ⟨user, rfl⟩

theorem afterComplete_cases (at_ : Issuance) (profile : Profile)
    (answer : Except StoreError User) :
    (∃ e, afterComplete codec at_ profile answer = .done (.failed e)) ∨
      ∃ user, afterComplete codec at_ profile answer =
        opening codec at_ user .openId profile.roles := by
  match answer with
  | .error e => exact .inl ⟨_, rfl⟩
  | .ok user =>
    rw [afterComplete]
    split
    · exact .inl ⟨_, rfl⟩
    · exact .inr ⟨user, rfl⟩

/-- A refresh is about to open a session only for a user with the digest of its token. -/
theorem afterRefresh_cases (at_ : Issuance) (token : String) (claims : Claims)
    (answer : Except StoreError (Option User)) :
    (∃ e, afterRefresh codec at_ token claims answer = .done (.failed e)) ∨
      ∃ user, answer = .ok (some user) ∧
        user.refreshDigest = some (TokenCodec.refreshDigest token) ∧
        afterRefresh codec at_ token claims answer =
          opening codec at_ user claims.method claims.roles := by
  match answer with
  | .error e => exact .inl ⟨_, rfl⟩
  | .ok none => exact .inl ⟨_, rfl⟩
  | .ok (some user) =>
    rw [afterRefresh]
    split
    · exact .inl ⟨_, rfl⟩
    · next hcheck => exact .inr ⟨user, rfl, (checkOutstanding_eq_ok_iff.mp hcheck).2, rfl⟩

/-- A call leads from stage to stage. -/
theorem Stage.next {r : SessionRequest} {c : StoreCall} {next : c.Answer → Pending SessionReply}
    (h : Stage codec r (.call c next)) (answer : c.Answer) : Stage codec r (next answer) := by
  cases h with
  | login hasher at_ username password =>
    rcases afterLogin_cases hasher at_ username password answer with ⟨e, h⟩ | ⟨user, h⟩
    · rw [h]
      exact .done _ _
    · rw [h]
      exact stage_opening _ at_ user _ _
  | refresh at_ token claims =>
    rcases afterRefresh_cases at_ token claims answer with ⟨e, h⟩ | ⟨user, -, -, h⟩
    · rw [h]
      exact .done _ _
    · rw [h]
      exact stage_opening _ at_ user _ _
  | complete at_ provider code received binding profile =>
    rcases afterComplete_cases at_ profile answer with ⟨e, h⟩ | ⟨user, h⟩
    · rw [h]
      exact .done _ _
    · rw [h]
      exact stage_opening _ at_ user _ _
  | opens r at_ user tokens => rcases answer with e | _ <;> exact .done _ _
  | logout id => rcases answer with e | _ <;> exact .done _ _

/-- A request that is started has failed, or it has a call to make that opens no session yet. -/
theorem serve_cases (codec : TokenCodec) (hasher : PasswordHasher) (r : SessionRequest) :
    (∃ e, r.serve Pending.store codec hasher = .done (.failed e)) ∨
      ∃ c next, r.serve Pending.store codec hasher = .call c next ∧
        ∀ id digest, c ≠ .updateRefreshDigest id (some digest) := by
  cases r with
  | login at_ username password =>
    exact .inr ⟨_, _, serve_login codec hasher at_ username password, by simp⟩
  | refresh at_ token =>
    rw [serve_refresh]
    split
    · exact .inl ⟨_, rfl⟩
    · exact .inr ⟨_, _, rfl, by simp⟩
  | complete at_ provider code received binding =>
    rw [serve_complete]
    split
    · exact .inl ⟨_, rfl⟩
    · exact .inr ⟨_, _, rfl, by simp⟩
  | logout id => exact .inr ⟨_, _, serve_logout codec hasher id, by simp⟩

/-! ### What a call does -/

section

variable {setting : Directory.Setting} {dir : Directory}

theorem dir_findById (id : UserId) :
    (StoreCall.make (Directory.store setting) (.findById id) dir).2 = dir := by
  show (dir.findById id).2 = dir
  unfold Directory.findById Directory.guarded
  split <;> rfl

theorem dir_findByUsername (username : String) :
    (StoreCall.make (Directory.store setting) (.findByUsername username) dir).2 = dir := by
  show (dir.findByUsername username).2 = dir
  unfold Directory.findByUsername Directory.guarded
  split <;> rfl

/-- A lookup is answered with the user that is there. -/
theorem user?_of_findById {id : UserId} {user : User}
    (h : (StoreCall.make (Directory.store setting) (.findById id) dir).1 = .ok (some user)) :
    dir.user? id = some user := by
  have hfound : (dir.findById id).1 = .ok (some user) := h
  unfold Directory.findById Directory.guarded at hfound
  split at hfound
  · cases hfound
  · exact Except.ok.inj hfound

/-- A digest is stored when the store is available and the user is there. -/
theorem write_eq {id : UserId} {digest : Option String} (havail : dir.unavailable = false)
    (huser : (dir.user? id).isSome = true) :
    StoreCall.make (Directory.store setting) (.updateRefreshDigest id digest) dir =
      (.ok (), dir.putDigest id digest setting.now) := by
  show dir.updateRefreshDigest id digest setting.now = _
  rw [Directory.updateRefreshDigest_eq, havail, if_neg Bool.false_ne_true, if_pos huser]

/-- A digest is stored, or the store fails and changes nothing. -/
theorem write_cases (id : UserId) (digest : Option String) :
    (∃ e, StoreCall.make (Directory.store setting) (.updateRefreshDigest id digest) dir =
        (.error e, dir)) ∨
      (StoreCall.make (Directory.store setting) (.updateRefreshDigest id digest) dir =
          (.ok (), dir.putDigest id digest setting.now) ∧
        dir.unavailable = false ∧ (dir.user? id).isSome = true) := by
  show (∃ e, dir.updateRefreshDigest id digest setting.now = (.error e, dir)) ∨
    (dir.updateRefreshDigest id digest setting.now = _ ∧ _)
  rw [Directory.updateRefreshDigest_eq]
  split
  · exact .inl ⟨_, rfl⟩
  · next havail =>
    split
    · next huser => exact .inr ⟨rfl, by simpa using havail, huser⟩
    · exact .inl ⟨_, rfl⟩

/-- Whether a request is a refresh. -/
def SessionRequest.isRefresh : SessionRequest → Bool
  | .refresh _ _ => true
  | _ => false

/-- What is about to open a session is about to store its digest, unless the program stops. -/
theorem opening_cases (codec : TokenCodec) (at_ : Issuance) (user : User) (method : SignInMethod)
    (roles : Option (List String)) :
    opening codec at_ user method roles = .done .stopped ∨
      ∃ tokens, opening codec at_ user method roles = storing at_ user tokens := by
  rw [opening]
  split
  · exact .inl rfl
  · exact .inr ⟨_, rfl⟩

/-- **What a call does.** It opens a session, or closes one, or leaves all digests as they are.
In the last case the request is done without either, or it is about to store the digest of a
session, a refresh only for a user with a digest. -/
theorem Stage.call_cases {r : SessionRequest} {c : StoreCall}
    {next : c.Answer → Pending SessionReply} (h : Stage codec r (.call c next))
    (setting : Directory.Setting) (dir : Directory) :
    ((∀ id, (c.make (Directory.store setting) dir).2.digest? id = dir.digest? id) ∧
      ((∃ reply : SessionReply, reply.user? = none ∧
          next (c.make (Directory.store setting) dir).1 = .done reply) ∨
        ∃ at_ user tokens,
          next (c.make (Directory.store setting) dir).1 = storing at_ user tokens ∧
          (r.isRefresh = true → dir.digest? user.id ≠ none))) ∨
    (∃ at_ user tokens session, .call c next = storing at_ user tokens ∧
      next (c.make (Directory.store setting) dir).1 = .done (.opened session) ∧
      session.user.id = user.id ∧
      Accounts dir (.opened session) (c.make (Directory.store setting) dir).2) ∨
    ∃ id, r = .logout id ∧
      next (c.make (Directory.store setting) dir).1 = .done (.closed id) ∧
      (c.make (Directory.store setting) dir).2 = dir.putDigest id none setting.now ∧
      dir.unavailable = false ∧ (dir.user? id).isSome = true := by
  -- after a lookup that found a user, a session is about to be opened
  have hopening : ∀ {rest : Pending SessionReply} (at_ : Issuance) (user : User)
      (method : SignInMethod) (roles : Option (List String)),
      rest = opening codec at_ user method roles →
      (r.isRefresh = true → dir.digest? user.id ≠ none) →
      (∃ reply : SessionReply, reply.user? = none ∧ rest = .done reply) ∨
        ∃ at_ user tokens, rest = storing at_ user tokens ∧
          (r.isRefresh = true → dir.digest? user.id ≠ none) := by
    rintro _ at_ user method roles rfl hfound
    rcases opening_cases codec at_ user method roles with hstopped | ⟨tokens, hstoring⟩
    · exact .inl ⟨.stopped, rfl, hstopped⟩
    · exact .inr ⟨at_, user, tokens, hstoring, hfound⟩
  cases h with
  -- lookups leave the digests as they are, and each write is of one session
  | login hasher at_ username password =>
    refine .inl ⟨fun id => by rw [dir_findByUsername], ?_⟩
    rcases afterLogin_cases hasher at_ username password _ with ⟨e, hfailed⟩ | ⟨user, huser⟩
    · exact .inl ⟨.failed e, rfl, hfailed⟩
    · exact hopening at_ user _ _ huser fun hr => absurd hr Bool.false_ne_true
  | refresh at_ token claims =>
    refine .inl ⟨fun id => by rw [dir_findById], ?_⟩
    rcases afterRefresh_cases at_ token claims _ with ⟨e, hfailed⟩ | ⟨user, hfound, hdigest, huser⟩
    · exact .inl ⟨.failed e, rfl, hfailed⟩
    · refine hopening at_ user _ _ huser fun _ => ?_
      have hthere := user?_of_findById hfound
      rw [Directory.digest?, Directory.id_of_user? hthere, hthere]
      simp [hdigest]
  | complete at_ provider code received binding profile =>
    refine .inl ⟨fun id => Directory.digest?_findOrCreate _ _, ?_⟩
    rcases afterComplete_cases at_ profile _ with ⟨e, hfailed⟩ | ⟨user, huser⟩
    · exact .inl ⟨.failed e, rfl, hfailed⟩
    · exact hopening at_ user _ _ huser fun hr => absurd hr Bool.false_ne_true
  | opens r at_ user tokens =>
    rcases write_cases user.id _ with ⟨e, hfailed⟩ | ⟨hdone, havail, huser⟩
    · rw [hfailed]
      exact .inl ⟨fun _ => rfl, .inl ⟨_, rfl, rfl⟩⟩
    · rw [hdone]
      exact .inr (.inl ⟨at_, user, tokens, _, rfl, rfl, rfl, accounts_stored at_ tokens huser⟩)
  | logout id =>
    rcases write_cases id none with ⟨e, hfailed⟩ | ⟨hdone, havail, huser⟩
    · rw [hfailed]
      exact .inl ⟨fun _ => rfl, .inl ⟨_, rfl, rfl⟩⟩
    · rw [hdone]
      exact .inr (.inr ⟨id, rfl, rfl, rfl, havail, huser⟩)

end

end

/-! ### Pools -/

/-- A request that is being served, and what is left of its program. -/
structure Flight where
  request : SessionRequest
  rest : Pending SessionReply

/-- A reply that was given: to which of the requests, by its place in the pool. -/
structure LogEntry where
  flight : Nat
  request : SessionRequest
  reply : SessionReply

/-- The replies so far, the directory, and the requests that were started. -/
structure Pool where
  log : List LogEntry
  dir : Directory
  flights : List Flight

/-- A move of a pool. -/
inductive Move where
  /-- Starts a request, up to its first call. -/
  | start (hasher : PasswordHasher) (r : SessionRequest)
  /-- Makes the next call of a request, up to the one after it. -/
  | advance (setting : Directory.Setting) (i : Nat)
  | change (setting : Directory.Setting) (c : Directory.Change)

namespace Pool

/-- A directory over which no request was started. -/
def start (dir : Directory) : Pool :=
  ⟨[], dir, []⟩

/-- The replies so far. -/
def replies (p : Pool) : List SessionReply :=
  p.log.map (·.reply)

/-- The entry for a request that is done. -/
def finished (i : Nat) (r : SessionRequest) : Pending SessionReply → List LogEntry
  | .done reply => [⟨i, r, reply⟩]
  | .call _ _ => []

theorem request_of_mem_finished {i : Nat} {r : SessionRequest} {rest : Pending SessionReply}
    {entry : LogEntry} (h : entry ∈ finished i r rest) : entry.request = r := by
  cases rest with
  | done reply => rw [List.mem_singleton.mp h]
  | call c next => cases h

variable (codec : TokenCodec)

/-- Makes a move. -/
def move (p : Pool) : Move → Pool
  | .start hasher r =>
    let rest := r.serve Pending.store codec hasher
    ⟨p.log ++ finished p.flights.length r rest, p.dir, p.flights ++ [⟨r, rest⟩]⟩
  | .advance setting i =>
    match p.flights[i]? with
    | some ⟨r, .call c next⟩ =>
      let out := c.make (Directory.store setting) p.dir
      ⟨p.log ++ finished i r (next out.1), out.2, p.flights.set i ⟨r, next out.1⟩⟩
    | _ => p
  | .change setting change => { p with dir := change.apply setting p.dir }

/-- Makes moves one after the other. -/
def follow (p : Pool) (moves : List Move) : Pool :=
  moves.foldl (move codec) p

theorem follow_cons (p : Pool) (m : Move) (moves : List Move) :
    p.follow codec (m :: moves) = (p.move codec m).follow codec moves :=
  rfl

theorem follow_concat (p : Pool) (moves : List Move) (m : Move) :
    p.follow codec (moves ++ [m]) = (p.follow codec moves).move codec m := by
  rw [follow, List.foldl_append]
  rfl

theorem follow_append (p : Pool) (moves more : List Move) :
    p.follow codec (moves ++ more) = (p.follow codec moves).follow codec more :=
  List.foldl_append

/-- All requests are at some stage. -/
def Sound (p : Pool) : Prop :=
  ∀ f ∈ p.flights, Stage codec f.request f.rest

variable {codec}

/-- The next call of a request, made. -/
theorem move_advance {p : Pool} {i : Nat} {r : SessionRequest} {c : StoreCall}
    {next : c.Answer → Pending SessionReply} (h : p.flights[i]? = some ⟨r, .call c next⟩)
    (setting : Directory.Setting) :
    p.move codec (.advance setting i) =
      ⟨p.log ++ finished i r (next (c.make (Directory.store setting) p.dir).1),
        (c.make (Directory.store setting) p.dir).2,
        p.flights.set i ⟨r, next (c.make (Directory.store setting) p.dir).1⟩⟩ := by
  simp only [move, h]

/-- A move that advances a request makes its next call, if there is one. -/
theorem advance_cases (codec : TokenCodec) (p : Pool) (setting : Directory.Setting) (i : Nat) :
    p.move codec (.advance setting i) = p ∨
      ∃ r c next, p.flights[i]? = some ⟨r, .call c next⟩ := by
  cases hf : p.flights[i]? with
  | none => exact .inl (by simp only [move, hf])
  | some f =>
    obtain ⟨r, rest⟩ := f
    cases rest with
    | done reply => exact .inl (by simp only [move, hf])
    | call c next => exact .inr ⟨r, c, next, rfl⟩

theorem sound_move {p : Pool} (h : p.Sound codec) (m : Move) : (p.move codec m).Sound codec := by
  cases m with
  | start hasher r =>
    intro f hf
    rcases List.mem_append.mp hf with hf | hf
    · exact h f hf
    · rw [List.mem_singleton.mp hf]
      exact stage_serve hasher r
  | advance setting i =>
    rcases p.advance_cases codec setting i with hsame | ⟨r, c, next, hf⟩
    · rw [hsame]
      exact h
    · rw [move_advance hf]
      intro f hmem
      rcases List.mem_or_eq_of_mem_set hmem with hmem | rfl
      · exact h f hmem
      · exact (h _ (List.mem_of_getElem? hf)).next _
  | change setting change => exact h

theorem sound_follow {dir : Directory} (moves : List Move) :
    ((start dir).follow codec moves).Sound codec := by
  induction moves using List.reverseRecOn with
  | nil => exact fun f hf => nomatch hf
  | append_singleton moves m ih =>
    rw [follow_concat]
    exact sound_move ih m

theorem log_move (codec : TokenCodec) (p : Pool) (m : Move) :
    ∃ more, (p.move codec m).log = p.log ++ more := by
  cases m with
  | start hasher r => exact ⟨_, rfl⟩
  | advance setting i =>
    rcases p.advance_cases codec setting i with hsame | ⟨r, c, next, hf⟩
    · exact ⟨[], by rw [hsame, List.append_nil]⟩
    · exact ⟨_, by rw [move_advance hf]⟩
  | change setting change => exact ⟨[], (List.append_nil _).symm⟩

/-- The stored digests are those of the tokens that are out by the log. -/
theorem tracks_move {p : Pool} (hsound : p.Sound codec) (h : Tracks p.replies p.dir) (m : Move) :
    Tracks (p.move codec m).replies (p.move codec m).dir := by
  have hidle : ∀ (dir' : Directory) (reply : SessionReply), reply.user? = none →
      (∀ id, dir'.digest? id = p.dir.digest? id) → Tracks (p.replies ++ [reply]) dir' :=
    fun _ _ hreply hdigests => h.concat (accounts_of_user?_eq_none hreply hdigests)
  cases m with
  | start hasher r =>
    rcases serve_cases codec hasher r with ⟨e, hserve⟩ | ⟨c, next, hserve, -⟩
    · simpa [replies, move, hserve, finished] using hidle p.dir (.failed e) rfl fun _ => rfl
    · simpa [replies, move, hserve, finished] using h
  | change setting change => exact fun id => (Directory.digest?_apply setting change).trans (h id)
  | advance setting i =>
    rcases p.advance_cases codec setting i with hsame | ⟨r, c, next, hf⟩
    · rw [hsame]
      exact h
    · -- the last call of a request is its write, so its reply is logged when the digest changes
      rw [move_advance hf]
      rcases (hsound _ (List.mem_of_getElem? hf)).call_cases setting p.dir with
        ⟨hdigests, ⟨reply, hreply, hnext⟩ | ⟨at_, user, tokens, hnext, -⟩⟩ |
        ⟨at_, user, tokens, session, -, hnext, -, haccounts⟩ | ⟨id, -, hnext, hdir, -, huser⟩
      · simpa [replies, hnext, finished] using hidle _ reply hreply hdigests
      · rw [hnext]
        intro id
        simpa [replies, storing, finished] using (hdigests id).trans (h id)
      · simpa [replies, hnext, finished] using h.concat haccounts
      · rw [hdir]
        simpa [replies, hnext, finished] using h.concat (accounts_putDigest_none huser)

/-- **The last write wins.** Whatever the order of the moves, the stored digests are those of the
tokens that are out by the log. -/
theorem tracks_follow {dir : Directory} (h : ∀ u ∈ dir.users, u.refreshDigest = none)
    (moves : List Move) :
    Tracks ((start dir).follow codec moves).replies ((start dir).follow codec moves).dir := by
  induction moves using List.reverseRecOn with
  | nil => exact tracks_nil h
  | append_singleton moves m ih =>
    rw [follow_concat]
    exact tracks_move (sound_follow moves) ih m

end Pool

end Gatehouse
