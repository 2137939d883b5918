import Gatehouse.Proofs.Session.Lineage
import Gatehouse.Proofs.User.Names

/-!
# What opening a session writes

A session is opened for a user that was found by its name or by its number, or created. The session
has a copy of this user, and the digest of the new refresh token is written twice: to the copy, and
to the row that has the user's number. Where each user has a number of its own the two stay the same
but for the time of the change (`findById_putDigest`), and no other row is touched
(`Directory.Numbered.putDigest_eq`).

`SessionRequest.Writes` collects what a request that opened a session has written and what it has
left, and `writes_of_opened` proves it for every state that a directory reaches.
-/

namespace Gatehouse

/-! ### The digest of a refresh token -/

/-- The 32 bytes of a digest take 43 characters. -/
theorem length_refreshDigest (token : String) : (TokenCodec.refreshDigest token).length = 43 := by
  rw [TokenCodec.refreshDigest, Base64.encode, String.length_ofList, Base64.length_encodeChars,
    Sha256.length_digest]

theorem mem_refreshDigest (token : String) :
    ∀ c ∈ (TokenCodec.refreshDigest token).toList, c.isAlphanum = true ∨ c = '-' ∨ c = '_' :=
  Base64.forall_mem_encode (by decide) _

/-! ### Rows that are added and rows that are changed -/

namespace Directory

variable {dir : Directory}

/-- A directory with further rows at its end. -/
def adding (dir : Directory) (added : List User) : Directory :=
  { dir with users := dir.users ++ added, lastId := dir.lastId + added.length }

@[simp] theorem adding_nil (dir : Directory) : dir.adding [] = dir := by
  simp [adding]

/-- Where numbers are kept apart, a digest is written to the one row of its user. -/
theorem Numbered.putDigest_eq (h : dir.Numbered) (id : UserId) (digest : Option String)
    (now : Moment) :
    dir.putDigest id digest now = { dir with
      users := dir.users.map fun u =>
        if u.id = id then { u with refreshDigest := User.storedDigest digest, updatedAt := now }
        else u } := by
  rw [putDigest, changeFirst_eq_map h.nodup]
  rfl

/-- Where numbers are kept apart, the row of a user is found, with the digest that was written. -/
theorem Numbered.findById_putDigest (h : dir.Numbered) (havail : dir.unavailable = false)
    {u : User} (hu : u ∈ dir.users) (digest : Option String) (now : Moment) :
    (dir.putDigest u.id digest now).findById u.id =
      (.ok (some (u.setRefreshDigest digest now)), dir.putDigest u.id digest now) := by
  have havail' : (dir.putDigest u.id digest now).unavailable = false := havail
  rw [findById, guarded_of_available havail', user?_putDigest, if_pos rfl, user?_of_mem h hu]
  rfl

end Directory

/-! ### What is written -/

/-- The users that a request creates: none, or the user of the profile that a provider gives, if no
row has the name of the profile. This user is active and has the names of the profile, no password
and no session. -/
inductive SessionRequest.Creates (now : Moment) (dir : Directory) :
    SessionRequest → List User → Prop where
  | nobody (r : SessionRequest) : Creates now dir r []
  | profile (at_ : Issuance) (provider : IdentityProvider Id) (code received : String)
    (binding : LoginBinding) (profile : Profile)
    (hprofile : profileFor provider code received binding = .ok profile)
    (hfree : ∀ u ∈ dir.users, u.username ≠ profile.username) :
    Creates now dir (.complete at_ provider code received binding)
      [⟨⟨dir.lastId + 1⟩, profile.username, none, profile.firstName, profile.lastName, true, none,
        now, now⟩]

/-- What a request has written that opened a session, and what it has left as it was. -/
structure SessionRequest.Writes (codec : TokenCodec) (now : Moment) (r : SessionRequest)
    (dir : Directory) (session : Session) (dir' : Directory) : Prop where
  /-- The row of the user is that of the session but for the time of the change, and has the digest
  of the refresh token. -/
  stored : ∃ row, dir'.findById session.user.id = (.ok (some row), dir') ∧
    { row with updatedAt := session.user.updatedAt } = session.user ∧
    row.refreshDigest = some (TokenCodec.refreshDigest session.tokens.refresh)
  /-- The digest is a text of 43 characters that are safe in addresses. -/
  digest : let digest := TokenCodec.refreshDigest session.tokens.refresh
    digest ≠ "" ∧ digest.length = 43 ∧
      ∀ c ∈ digest.toList, c.isAlphanum = true ∨ c = '-' ∨ c = '_'
  /-- Both tokens name the user, by number and by name; they keep numbers in 64 bits. -/
  claims : ∃ at_, r.issuance? = some at_ ∧
    (Decimal.IsInt64 at_.now → Decimal.IsInt64 session.user.id.value → ∀ kind, ∃ claims : Claims,
      Envelope.open? codec.secret Claims.decode (session.tokens.half kind) = .ok claims ∧
        claims.kind = kind ∧ claims.userId = session.user.id ∧
        claims.username = session.user.username)
  /-- The rows are those from before and that of the user if it was created, and the digest and the
  time of the change are new in the row of the user and in no other. -/
  rows : ∃ added, r.Creates now dir added ∧ (∀ u ∈ added, u.id = session.user.id) ∧
    dir' = { dir with
      users := (dir.users ++ added).map fun u =>
        if u.id = session.user.id then { u with
          refreshDigest := some (TokenCodec.refreshDigest session.tokens.refresh)
          updatedAt := now }
        else u
      lastId := dir.lastId + added.length }

section

variable {codec : TokenCodec} {hasher : PasswordHasher} {setting : Directory.Setting}
  {dir dir' : Directory} {r : SessionRequest} {session : Session} {now : Moment}

/-- Numbers stay apart when a request creates a user. -/
theorem SessionRequest.Creates.numbered {added : List User} (h : r.Creates now dir added)
    (hdir : dir.Numbered) : (dir.adding added).Numbered := by
  cases h with
  | nobody => rwa [Directory.adding_nil]
  | profile at_ provider code received binding profile hprofile hfree =>
    exact hdir.create (FederationService.template profile) now

/-- A request opens a session for a user who was there or whom it creates. -/
theorem exists_opens_of_opened
    (h : r.serve (Directory.store setting) codec hasher dir = (.opened session, dir')) :
    ∃ at_ method roles added user, r.issuance? = some at_ ∧ r.Creates setting.now dir added ∧
      user ∈ dir.users ++ added ∧ (∀ u ∈ added, u = user) ∧ dir.unavailable = false ∧
      Opens codec at_ setting.now user method roles (dir.adding added) session dir' := by
  cases r with
  | login at_ username password =>
    obtain ⟨user, havail, hnamed, hopens⟩ := exists_opens_of_run_login (run_eq_of_opened h)
    have hmem : user ∈ dir.users ++ [] := List.mem_append_left _ (Directory.mem_of_named? hnamed)
    exact ⟨at_, _, _, [], user, rfl, .nobody _, hmem, List.forall_mem_nil _, havail,
      dir.adding_nil.symm ▸ hopens⟩
  | refresh at_ token =>
    obtain ⟨claims, user, hex, hopens⟩ := opens_of_run_refresh (run_eq_of_opened h)
    have hmem : user ∈ dir.users ++ [] :=
      List.mem_append_left _ (List.mem_of_find?_eq_some hex.found)
    exact ⟨at_, _, _, [], user, rfl, .nobody _, hmem, List.forall_mem_nil _, hex.available,
      dir.adding_nil.symm ▸ hopens⟩
  | complete at_ provider code received binding =>
    obtain ⟨profile, user, dir₁, hprofile, hfound, hopens⟩ :=
      exists_opens_of_run_complete (run_eq_of_opened h)
    obtain ⟨havail, ⟨hnamed, rfl⟩ | ⟨hnamed, rfl, rfl⟩⟩ := Directory.findOrCreate_cases hfound
    · have hmem := List.mem_append_left [] (Directory.mem_of_named? hnamed)
      exact ⟨at_, _, _, [], user, rfl, .nobody _, hmem, List.forall_mem_nil _, havail,
        dir₁.adding_nil.symm ▸ hopens⟩
    · have hfree : ∀ u ∈ dir.users, u.username ≠ profile.username := fun u hu hname =>
        Directory.not_mem_names_of_named? hnamed (List.mem_map.mpr ⟨u, hu, hname⟩)
      exact ⟨at_, _, _, _, _, rfl,
        .profile at_ provider code received binding profile hprofile hfree,
        List.mem_append_right _ (List.mem_singleton_self _),
        fun u hu => List.mem_singleton.mp hu, havail, hopens⟩
  | logout id =>
    have hreply : SessionReply.ofLogout id
        ((SessionService.logout ⟨Directory.store setting, codec, hasher⟩ id).run dir).1 =
      .opened session := congrArg Prod.fst h
    generalize ((SessionService.logout ⟨Directory.store setting, codec, hasher⟩ id).run dir).1 =
      outcome at hreply
    cases outcome <;> cases hreply

/-- **What a request writes that opens a session.** In every state of a directory that begins
without users, it leaves a row of the user that is as in the session but for the time of the change
and has the digest of the refresh token. Both tokens name this user. No other row has changed, and
at most one was added: that of the user, active, without a password and with the names of the
profile, if a sign-in by a provider was completed and no row had the name. -/
theorem writes_of_opened (steps : List Directory.Step)
    (h : r.serve (Directory.store setting) codec hasher (Directory.empty.follow steps) =
      (.opened session, dir')) :
    r.Writes codec setting.now (Directory.empty.follow steps) session dir' := by
  have hdir := Directory.numbered_empty.follow steps
  generalize Directory.empty.follow steps = dir at h hdir ⊢
  obtain ⟨at_, method, roles, added, user, hissuance, hcreates, hmem, hadded, havail, hopens⟩ :=
    exists_opens_of_opened h
  have hnumbered := hcreates.numbered hdir
  obtain ⟨sessionUser, tokens⟩ := session
  obtain ⟨hissued, huser, rfl⟩ := hopens
  obtain rfl : sessionUser = user.setRefreshDigest (some (TokenCodec.refreshDigest tokens.refresh))
    (.ofSeconds at_.now) := huser
  have hdigest := storedDigest_refreshDigest tokens.refresh
  have hfound := hnumbered.findById_putDigest havail hmem
    (some (TokenCodec.refreshDigest tokens.refresh)) setting.now
  have hrows := hnumbered.putDigest_eq user.id (some (TokenCodec.refreshDigest tokens.refresh))
    setting.now
  simp only [User.setRefreshDigest, hdigest] at hfound hrows ⊢
  refine ⟨⟨_, hfound, rfl, rfl⟩, ⟨?_, length_refreshDigest _, mem_refreshDigest _⟩,
    ⟨at_, hissuance, fun hnow hid kind =>
      ⟨_, TokenCodec.open?_half_of_issuePair hissued hnow hid kind, rfl, rfl, rfl⟩⟩,
    added, hcreates, fun u hu => hadded u hu ▸ rfl, hrows⟩
  intro hempty
  have hlength := length_refreshDigest tokens.refresh
  rw [hempty] at hlength
  cases hlength

end

/-- A second user signs in for the first time, by a clock that is one second behind. -/
theorem writes_of_opened_second :
    let dir := Directory.empty.follow [.change Sample.setting (.findOrCreate (.ofUsername "w"))]
    let at_ : Issuance := ⟨-1, "a", "b"⟩
    let claims := Sample.codec.halfClaims at_ ⟨2⟩ "u" .openId none
    let tokens : TokenPair :=
      ⟨Sample.codec.sign (claims .access), Sample.codec.sign (claims .refresh)⟩
    let row (now : Moment) : User := ⟨⟨2⟩, "u", none, "", "", true,
      some (TokenCodec.refreshDigest tokens.refresh), .ofSeconds 0, now⟩
    let session : Session := ⟨row (.ofSeconds (-1)), tokens⟩
    let dir' : Directory :=
      ⟨[.ofTemplate ⟨1⟩ (.ofUsername "w") (.ofSeconds 0), row (.ofSeconds 0)], 2, false⟩
    (Sample.signIn at_).serve (Directory.store Sample.setting) Sample.codec Sample.setting.hasher
        dir = (.opened session, dir') ∧
      (Sample.signIn at_).Writes Sample.codec Sample.setting.now dir session dir' := by
  intro dir at_ claims tokens row session dir'
  let new : User := .ofTemplate ⟨2⟩ (.ofUsername "u") (.ofSeconds 0)
  let written := new.setRefreshDigest (some (TokenCodec.refreshDigest tokens.refresh))
  have hwritten : ∀ now, written now = row now := fun now => by
    simp only [written, User.setRefreshDigest, storedDigest_refreshDigest]
    rfl
  have hserve : (Sample.signIn at_).serve (Directory.store Sample.setting) Sample.codec
      Sample.setting.hasher dir = (.opened ⟨written (.ofSeconds (-1)), tokens⟩,
        ⟨[.ofTemplate ⟨1⟩ (.ofUsername "w") (.ofSeconds 0), written (.ofSeconds 0)], 2, false⟩) :=
    rfl
  rw [hwritten, hwritten] at hserve
  exact ⟨hserve, writes_of_opened _ hserve⟩

end Gatehouse
