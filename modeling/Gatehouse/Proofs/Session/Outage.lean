import Gatehouse.Proofs.Session.Deactivation
import Gatehouse.Proofs.User.Names

/-!
# While the directory refuses

A directory that is marked unavailable should refuse whatever it is asked, and be as it was when the
mark is taken away. `Outage` says for each operation, and for each request that needs the directory,
what it answers in the meantime. All operations look at the mark but one: a user is activated or
deactivated all the same, so this operation is refused only for a number of nobody. What is done by
all the others leaves no trace, in whatever order it is tried (`Outage.attempts`).
-/

namespace Gatehouse

namespace Directory

/-- An operation fails because the directory is not available, and leaves it as it is. -/
def Denies {α : Type} (dir : Directory) (out : Outcome α) : Prop :=
  ∃ reason, out = (.error (.unavailable reason), dir)

variable {dir : Directory}

theorem denies_guarded {α : Type} (h : dir.unavailable = true) (run : Outcome α) :
    dir.Denies (dir.guarded run) :=
  ⟨_, guarded_of_unavailable h run⟩

/-- An operation that needs the digest of a password is refused if there is one; else it has failed
before. -/
theorem denies_withDigest_iff {α : Type} (h : dir.unavailable = true) (s : Setting)
    (password : String) (run : String → Directory → Outcome α) :
    dir.Denies (withDigest s password (fun digest dir => dir.guarded (run digest dir)) dir) ↔
      ∃ digest, s.hasher.make s.salt password = .ok digest := by
  rw [withDigest_eq]
  cases s.hasher.make s.salt password with
  | error e => simp [Denies]
  | ok digest =>
    simp only [guarded_of_unavailable h]
    exact iff_of_true ⟨_, rfl⟩ ⟨digest, rfl⟩

/-- A change is refused exactly for a number of nobody. -/
theorem denies_change_iff (id : UserId) (f : User → User) :
    dir.Denies (dir.change id f) ↔ ∀ u ∈ dir.users, u.id ≠ id := by
  rw [change]
  cases huser : dir.user? id with
  | none =>
    refine iff_of_true ⟨_, rfl⟩ fun u hu => ?_
    simpa using List.find?_eq_none.mp huser u hu
  | some u =>
    refine iff_of_false ?_ fun hnone => ?_
    · rintro ⟨reason, h⟩
      cases h
    · exact hnone u (List.mem_of_find?_eq_some huser) (id_of_user? huser)

end Directory

/-! ### What is tried -/

/-- Something that is tried: an operation of the directory, a request about a session, or to
recognise a caller. -/
inductive Attempt where
  | operation (step : Directory.Step)
  | request (s : Directory.Setting) (codec : TokenCodec) (hasher : PasswordHasher)
    (r : SessionRequest)
  | recognition (s : Directory.Setting) (codec : TokenCodec) (headerName : String) (now : Int)
    (header : Option String)

namespace Attempt

/-- The directory after an attempt. -/
def apply (dir : Directory) : Attempt → Directory
  | .operation step => step.apply dir
  | .request s codec hasher r => (r.serve (Directory.store s) codec hasher dir).2
  | .recognition s codec headerName now header =>
    ((Authenticator.authenticate ⟨codec, Directory.store s, headerName⟩ now header).run dir).2

/-- An attempt that should come to nothing: anything but to take the mark away, and to activate or
deactivate a user who is there. -/
def IsIdle (dir : Directory) : Attempt → Prop
  | .operation (.change _ (.setUnavailable value)) => value = true
  | .operation (.change _ (.setActive id _)) => ∀ u ∈ dir.users, u.id ≠ id
  | _ => True

section

variable {dir : Directory} (h : dir.unavailable = true)

include h

theorem make_of_unavailable (s : Directory.Setting) (c : StoreCall) :
    (c.make (Directory.store s) dir).2 = dir := by
  cases c with
  | findById id => exact congrArg Prod.snd (Directory.guarded_of_unavailable h _)
  | findByUsername username => exact congrArg Prod.snd (Directory.guarded_of_unavailable h _)
  | findOrCreate t => exact congrArg Prod.snd (Directory.guarded_of_unavailable h _)
  | updatePassword id password =>
    exact Directory.withDigest_keeps (P := (· = dir)) rfl fun _ =>
      congrArg Prod.snd (Directory.guarded_of_unavailable h _)
  | updateRefreshDigest id digest => exact congrArg Prod.snd (Directory.guarded_of_unavailable h _)

/-- A request is a row of calls, none of which changes anything. -/
theorem serve_of_unavailable (s : Directory.Setting) (codec : TokenCodec) (hasher : PasswordHasher)
    (r : SessionRequest) : (r.serve (Directory.store s) codec hasher dir).2 = dir := by
  rw [← run_serve]
  refine Pending.run_keeps (P := (· = dir)) ?_ _ rfl
  rintro c _ rfl
  exact make_of_unavailable h s c

/-- **One attempt.** -/
theorem apply_of_unavailable {a : Attempt} (ha : a.IsIdle dir) : a.apply dir = dir := by
  cases a with
  | operation step =>
    cases step with
    | call s c => exact make_of_unavailable h s c
    | change s c =>
      cases c with
      | findOrCreate t => exact make_of_unavailable h s (.findOrCreate t)
      | insertWithPassword t password =>
        exact Directory.withDigest_keeps (P := (· = dir)) rfl fun _ =>
          congrArg Prod.snd (Directory.guarded_of_unavailable h _)
      | updatePassword id password => exact make_of_unavailable h s (.updatePassword id password)
      | setActive id active =>
        obtain ⟨reason, hdenied⟩ :=
          (Directory.denies_change_iff id (·.setActive active s.now)).mpr ha
        exact congrArg Prod.snd hdenied
      | setUnavailable value =>
        have hvalue : value = true := ha
        show dir.setUnavailable value = dir
        rw [Directory.setUnavailable, hvalue, ← h]
  | request s codec hasher r => exact serve_of_unavailable h s codec hasher r
  | recognition s codec headerName now header =>
    rw [Attempt.apply, run_authenticate, h]
    split
    · rfl
    · split <;> rfl

/-- **Any number of attempts.** -/
theorem foldl_apply_of_unavailable {attempts : List Attempt} (ha : ∀ a ∈ attempts, a.IsIdle dir) :
    attempts.foldl Attempt.apply dir = dir := by
  induction attempts with
  | nil => rfl
  | cons a attempts ih =>
    rw [List.foldl_cons, apply_of_unavailable h (ha a List.mem_cons_self)]
    exact ih fun b hb => ha b (List.mem_cons_of_mem _ hb)

end

end Attempt

/-! ### What is answered -/

/-- What a directory answers that refuses. -/
structure Outage (dir : Directory) : Prop where
  findById : ∀ s id, dir.Denies ((Directory.store s).findById id dir)
  findByUsername : ∀ s username, dir.Denies ((Directory.store s).findByUsername username dir)
  findOrCreate : ∀ s t, dir.Denies ((Directory.store s).findOrCreate t dir)
  updateRefreshDigest : ∀ s id digest,
    dir.Denies ((Directory.store s).updateRefreshDigest id digest dir)
  /-- A password that has no digest fails before the directory is asked. -/
  updatePassword : ∀ s id password,
    dir.Denies ((Directory.store s).updatePassword id password dir) ↔
      ∃ digest, s.hasher.make s.salt password = .ok digest
  insertWithPassword : ∀ s t password,
    dir.Denies (Directory.insertWithPassword s t password dir) ↔
      ∃ digest, s.hasher.make s.salt password = .ok digest
  /-- A user who is there is activated or deactivated all the same. -/
  setActive : ∀ id active now,
    dir.Denies (dir.setActive id active now) ↔ ∀ u ∈ dir.users, u.id ≠ id
  login : ∀ s codec hasher at_ username password,
    (SessionService.login ⟨Directory.store s, codec, hasher⟩ at_ username password).run dir =
      (.error (.ofStore Directory.refusal), dir)
  logout : ∀ s codec hasher id,
    (SessionService.logout ⟨Directory.store s, codec, hasher⟩ id).run dir =
      (.error (.ofStore Directory.refusal), dir)
  /-- A refresh token that verifies. -/
  refresh : ∀ s (codec : TokenCodec) hasher (at_ : Issuance) token claims,
    codec.verify at_.now token = .ok claims → claims.kind = .refresh →
      (SessionService.refresh ⟨Directory.store s, codec, hasher⟩ at_ token).run dir =
        (.error (.ofStore Directory.refusal), dir)
  /-- A sign-in for which the provider gives a profile. -/
  complete : ∀ s codec at_ (provider : IdentityProvider Id) code received binding profile,
    profileFor provider code received binding = .ok profile →
      (FederationService.complete ⟨provider.inside, Directory.store s, codec⟩ at_ code received
          binding).run dir =
        (.error (.ofStore Directory.refusal), dir)
  /-- An access token that verifies. -/
  authenticate : ∀ s (codec : TokenCodec) headerName now header token claims,
    Authenticator.presented header = .ok token → codec.verify now token = .ok claims →
      claims.kind = .access →
        (Authenticator.authenticate ⟨codec, Directory.store s, headerName⟩ now header).run dir =
          (.error (.ofStore Directory.refusal), dir)
  /-- When the mark is taken away, it is as if nothing had been tried. -/
  attempts : ∀ attempts : List Attempt, (∀ a ∈ attempts, a.IsIdle dir) →
    (attempts.foldl Attempt.apply dir).setUnavailable false = dir.setUnavailable false

/-- **While the directory refuses.** Everything that looks at the mark is refused and leaves no
trace. A user who is there can be activated and deactivated all the same. -/
theorem outage_of_unavailable {dir : Directory} (h : dir.unavailable = true) : Outage dir where
  findById s id := dir.denies_guarded h _
  findByUsername s username := dir.denies_guarded h _
  findOrCreate s t := dir.denies_guarded h _
  updateRefreshDigest s id digest := dir.denies_guarded h _
  updatePassword s id password := dir.denies_withDigest_iff h s password _
  insertWithPassword s t password := dir.denies_withDigest_iff h s password _
  setActive id active now := dir.denies_change_iff id _
  login s codec hasher at_ username password := by
    rw [run_login, h, if_pos rfl]
  logout s codec hasher id := by
    rw [run_logout, h, if_pos rfl]
  refresh s codec hasher at_ token claims hverified hkind := by
    rw [run_refresh, checkRefreshToken_eq_ok_iff.mpr ⟨hverified, hkind⟩]
    simp only [h, if_true]
  complete s codec at_ provider code received binding profile hprofile := by
    rw [run_complete, hprofile]
    simp only [Directory.findOrCreate, Directory.guarded_of_unavailable h]
  authenticate s codec headerName now header token claims hpresented hverified hkind := by
    rw [run_authenticate, hpresented]
    simp only [(checkAccessToken_eq_ok_iff codec).mpr ⟨hverified, hkind⟩, h, if_true]
  attempts attempts ha := by
    rw [Attempt.foldl_apply_of_unavailable h ha]

/-- A user is created, and the directory is marked. -/
def Sample.marked : Directory :=
  Directory.empty.follow
    [.call Sample.setting (.findOrCreate (.ofUsername "u")),
      .change Sample.setting (.setUnavailable true)]

theorem outage_of_unavailable_marked : Sample.marked.unavailable = true ∧ Outage Sample.marked :=
  ⟨by decide, outage_of_unavailable (by decide)⟩

/-- The user is deactivated although the directory is marked. -/
theorem setActive_not_denied :
    Sample.marked.unavailable = true ∧
      ¬ Sample.marked.Denies (Sample.marked.setActive ⟨1⟩ false (.ofSeconds 0)) ∧
      (Sample.marked.setActive ⟨1⟩ false (.ofSeconds 0)).2.users ≠ Sample.marked.users := by
  refine ⟨by decide, fun hdenied => ?_, by decide⟩
  have hnobody : ∀ u ∈ Sample.marked.users, u.id ≠ ⟨1⟩ :=
    (Sample.marked.denies_change_iff ⟨1⟩ _).mp hdenied
  exact absurd hnobody (by decide)

end Gatehouse
