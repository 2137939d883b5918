import Gatehouse.Proofs.Federation.Scene
import Gatehouse.Proofs.Session.Outstanding

/-!
# Failed operations leave no trace

An operation of several calls could fail after one of its calls has written. `LeavesNoTrace` says
that it does not: whenever it fails, what is seen of the state is what was seen before.

Two laws carry most operations. What only looks may come first (`LeavesNoTrace.bind_of_looks`), and
what cannot fail may come last (`LeavesNoTrace.map`). So an operation that looks, checks and then
writes once leaves no trace, over any store that is `Tidy`. Completing a sign-in by a provider
writes twice, with a check between the two writes. There neither law applies, and
`leavesNoTrace_welcome` has to look at what was created: a user who is new is active and there, and
the directory was available, so nothing is left to fail.
-/

namespace Gatehouse

section

variable {σ τ α β ε : Type} {view : σ → τ}

/-- An operation leaves what is seen of the state as it is. -/
def Looks (view : σ → τ) (op : StateM σ α) : Prop :=
  ∀ s, view (op s).2 = view s

/-- An operation that fails leaves what is seen of the state as it was. -/
def LeavesNoTrace (view : σ → τ) (op : StateM σ (Except ε α)) : Prop :=
  ∀ s e, (op s).1 = .error e → view (op s).2 = view s

theorem Looks.leavesNoTrace {op : StateM σ (Except ε α)} (h : Looks view op) :
    LeavesNoTrace view op :=
  fun s _ _ => h s

theorem looks_pure (a : α) : Looks view (pure a : StateM σ α) :=
  fun _ => rfl

/-! ### Operations one after the other -/

variable {p : ExceptT AuthError (StateM σ) α}

theorem looks_check (r : Except AuthError α) :
    Looks view (liftM r : ExceptT AuthError (StateM σ) α).run := by
  cases r with
  | ok a => exact fun _ => rfl
  | error e => exact fun _ => rfl

/-- What only looks may come before anything else. -/
theorem LeavesNoTrace.bind_of_looks {f : α → ExceptT AuthError (StateM σ) β}
    (hp : Looks view p.run) (hf : ∀ a, LeavesNoTrace view (f a).run) :
    LeavesNoTrace view (p >>= f).run := by
  intro s e hfail
  have hlook := hp s
  rcases hrun : p.run s with ⟨e₁ | a, s₁⟩
  · rw [hrun] at hlook
    rw [run_bind_error hrun]
    exact hlook
  · rw [hrun] at hlook
    rw [run_bind_ok hrun] at hfail ⊢
    exact (hf a s₁ e hfail).trans hlook

/-- What cannot fail may come after anything else. -/
theorem LeavesNoTrace.map (hp : LeavesNoTrace view p.run) (f : α → β) :
    LeavesNoTrace view (p >>= fun a => pure (f a)).run := by
  intro s e hfail
  have hclean := hp s
  rcases hrun : p.run s with ⟨e₁ | a, s₁⟩
  · rw [hrun] at hclean
    rw [run_bind_error hrun]
    exact hclean e₁ rfl
  · rw [run_bind_ok hrun] at hfail
    cases hfail

/-! ### Calls of a store -/

variable {call : StateM σ (Except StoreError α)}

theorem Looks.fromStore (h : Looks view call) : Looks view (fromStore call).run :=
  h

theorem LeavesNoTrace.fromStore (h : LeavesNoTrace view call) :
    LeavesNoTrace view (fromStore call).run := by
  intro s e hfail
  have hclean := h s
  have hrun : (Gatehouse.fromStore call).run s =
      ((call s).1.mapError AuthError.ofStore, (call s).2) := rfl
  rw [hrun] at hfail ⊢
  cases hanswer : (call s).1 with
  | error e₁ => exact hclean e₁ hanswer
  | ok a =>
    rw [hanswer] at hfail
    cases hfail

/-- A store whose lookups change nothing, and whose failures leave no trace. -/
structure UserStore.Tidy (view : σ → τ) (users : UserStore (StateM σ)) : Prop where
  findById : ∀ id, Looks view (users.findById id)
  findByUsername : ∀ username, Looks view (users.findByUsername username)
  findOrCreate : ∀ t, LeavesNoTrace view (users.findOrCreate t)
  updatePassword : ∀ id password, LeavesNoTrace view (users.updatePassword id password)
  updateRefreshDigest : ∀ id digest, LeavesNoTrace view (users.updateRefreshDigest id digest)

/-! ### Sessions over a tidy store -/

section Tidy

variable {users : UserStore (StateM σ)} (h : users.Tidy view) (codec : TokenCodec)
  (hasher : PasswordHasher) (at_ : Issuance)

include h

/-- The tokens of a session are issued before its one write. -/
theorem leavesNoTrace_establish (user : User) (method : SignInMethod)
    (roles : Option (List String)) :
    LeavesNoTrace view (establish users codec at_ user method roles).run := by
  rw [establish]
  cases codec.issuePair at_ user.id user.username method roles with
  | none => exact (looks_pure _).leavesNoTrace
  | some tokens => exact .map (.fromStore (h.updateRefreshDigest user.id _)) _

theorem leavesNoTrace_login (username password : String) :
    LeavesNoTrace view
      (SessionService.login ⟨users, codec, hasher⟩ at_ username password).run := by
  rw [SessionService.login]
  refine .bind_of_looks (.fromStore (h.findByUsername username)) fun found => ?_
  cases found with
  | none => exact (looks_pure _).leavesNoTrace
  | some user =>
    exact .bind_of_looks (looks_check _) fun _ => leavesNoTrace_establish h codec at_ user _ _

theorem leavesNoTrace_refresh (token : String) :
    LeavesNoTrace view (SessionService.refresh ⟨users, codec, hasher⟩ at_ token).run := by
  rw [SessionService.refresh]
  refine .bind_of_looks (looks_check _) fun claims => ?_
  refine .bind_of_looks (.fromStore (h.findById claims.userId)) fun found => ?_
  cases found with
  | none => exact (looks_pure _).leavesNoTrace
  | some user =>
    exact .bind_of_looks (looks_check _) fun _ => leavesNoTrace_establish h codec at_ user _ _

theorem leavesNoTrace_logout (id : UserId) :
    LeavesNoTrace view (SessionService.logout ⟨users, codec, hasher⟩ id).run :=
  .fromStore (h.updateRefreshDigest id none)

end Tidy

end

/-! ### The directory is tidy -/

namespace Directory

variable {α : Type} (s : Setting)

theorem looks_guarded (find : Directory → Except StoreError α) :
    Looks id (act fun dir => dir.guarded (find dir, dir)) := by
  intro dir
  rw [act, guarded]
  split <;> rfl

theorem leavesNoTrace_guarded {run : Directory → Outcome α} (h : LeavesNoTrace id (act run)) :
    LeavesNoTrace id (act fun dir => dir.guarded (run dir)) := by
  intro dir e hfail
  rw [act, guarded] at hfail ⊢
  cases havail : dir.unavailable with
  | true => rfl
  | false =>
    rw [havail] at hfail
    exact h dir e hfail

/-- A change fails only for a number that nobody has. -/
theorem leavesNoTrace_change (id' : UserId) (f : User → User) :
    LeavesNoTrace id (act (·.change id' f)) := by
  intro dir e hfail
  rw [act, change] at hfail ⊢
  cases huser : dir.user? id' with
  | none => rfl
  | some user =>
    rw [huser] at hfail
    cases hfail

theorem leavesNoTrace_updateRefreshDigest (id' : UserId) (digest : Option String) (now : Moment) :
    LeavesNoTrace id (act (·.updateRefreshDigest id' digest now)) :=
  leavesNoTrace_guarded (leavesNoTrace_change id' _)

theorem leavesNoTrace_findOrCreate (t : UserTemplate) (now : Moment) :
    LeavesNoTrace id (act (·.findOrCreate t now)) := by
  refine leavesNoTrace_guarded ?_
  intro dir e hfail
  rw [act] at hfail
  split at hfail <;> cases hfail

/-- The digest of a password is made before the directory is touched. -/
theorem leavesNoTrace_withDigest (password : String) {run : String → Directory → Outcome α}
    (h : ∀ digest, LeavesNoTrace id (act (run digest))) :
    LeavesNoTrace id (withDigest s password run) := by
  intro dir e hfail
  rw [withDigest_eq] at hfail ⊢
  cases hmade : s.hasher.make s.salt password with
  | error e₁ => rfl
  | ok digest =>
    rw [hmade] at hfail
    exact h digest dir e hfail

theorem leavesNoTrace_insertWithPassword (t : UserTemplate) (password : String) :
    LeavesNoTrace id (insertWithPassword s t password) := by
  refine leavesNoTrace_withDigest s password fun digest => leavesNoTrace_guarded ?_
  rintro dir e ⟨⟩

theorem tidy_store : (store s).Tidy id where
  findById id' := looks_guarded fun dir => .ok (dir.user? id')
  findByUsername username := looks_guarded fun dir => .ok (dir.named? username)
  findOrCreate t := leavesNoTrace_findOrCreate t s.now
  updatePassword id' password := leavesNoTrace_withDigest s password fun _ =>
    leavesNoTrace_guarded (leavesNoTrace_change id' _)
  updateRefreshDigest id' digest := leavesNoTrace_updateRefreshDigest id' digest s.now

end Directory

/-! ### Signing in by a provider -/

section

variable {σ α : Type} {setting : Directory.Setting} (codec : TokenCodec) (at_ : Issuance)

/-- The user of a profile who is not active was there before. -/
theorem findOrCreate_of_inactive {dir dir' : Directory} {profile : Profile} {now : Moment}
    {user : User}
    (h : dir.findOrCreate (FederationService.template profile) now = (.ok user, dir'))
    (hinactive : user.active = false) : dir' = dir := by
  unfold Directory.findOrCreate Directory.guarded at h
  split at h
  · cases h
  · split at h
    · cases h
      rfl
    · cases h
      cases hinactive

/-- A user who was created can be welcomed; one who was there before may be refused, and then
nothing was written. -/
theorem leavesNoTrace_welcome (profile : Profile) :
    LeavesNoTrace id (welcome (Directory.store setting) codec at_ profile).run := by
  intro dir e hfail
  have hclean := Directory.leavesNoTrace_findOrCreate (FederationService.template profile)
    setting.now dir
  rw [Directory.act] at hclean
  rw [run_welcome] at hfail ⊢
  rcases hfound : dir.findOrCreate (FederationService.template profile) setting.now with
    ⟨e₁ | user, dir₁⟩
  · rw [hfound] at hclean
    exact hclean e₁ rfl
  · rw [hfound] at hfail
    dsimp only at hfail ⊢
    cases hactive : user.active with
    | false => exact findOrCreate_of_inactive hfound hactive
    | true =>
      rw [hactive] at hfail
      exact absurd hfail (openSession_ne_error codec at_ _ user _ _ _ e)

theorem Follows.leavesNoTrace {x : ExceptT AuthError (StateM (Scene σ)) α}
    {y : ExceptT AuthError (StateM Directory) α} (h : Follows x y)
    (hy : LeavesNoTrace id y.run) : LeavesNoTrace Scene.dir x.run := by
  intro scene e hfail
  rw [h scene] at hfail ⊢
  exact hy scene.dir e hfail

/-- A provider does not see the directory. -/
theorem looks_fromProvider (wrap : String → AuthError)
    (call : StateM σ (Except ProviderError α)) (note : Except ProviderError α → ProviderCall) :
    Looks Scene.dir (FederationService.fromProvider wrap (Scene.noted call note)).run :=
  fun _ => rfl

theorem leavesNoTrace_complete (p : IdentityProvider (StateM σ)) (code received : String)
    (binding : LoginBinding) :
    LeavesNoTrace Scene.dir
      (FederationService.complete ⟨Scene.watch p, Scene.store setting, codec⟩ at_ code received
        binding).run := by
  rw [FederationService.complete]
  refine .bind_of_looks (looks_check _) fun _ => ?_
  refine .bind_of_looks (looks_fromProvider _ _ _) fun tokens => ?_
  refine .bind_of_looks (looks_check _) fun raw => ?_
  refine .bind_of_looks (looks_fromProvider _ _ _) fun idToken => ?_
  refine .bind_of_looks (fun _ => rfl) fun profile => ?_
  exact (follows_welcome codec at_ profile).leavesNoTrace (leavesNoTrace_welcome codec at_ profile)

/-- **Failed operations leave no trace.** Over any directory in memory, available or not, whichever
operation fails leaves the directory as it was: its users with all they have, and the last number
that was given out. A sign-in by a provider, whatever the provider answers, that fails has created
nobody. -/
theorem failed_leavesNoTrace (setting : Directory.Setting) (codec : TokenCodec)
    (hasher : PasswordHasher) (p : IdentityProvider (StateM σ)) (at_ : Issuance) :
    let service : SessionService (StateM Directory) := ⟨Directory.store setting, codec, hasher⟩
    (∀ username password, LeavesNoTrace id (service.login at_ username password).run) ∧
      (∀ token, LeavesNoTrace id (service.refresh at_ token).run) ∧
      (∀ user, LeavesNoTrace id (service.logout user).run) ∧
      (∀ code received binding, LeavesNoTrace Scene.dir
        (FederationService.complete ⟨Scene.watch p, Scene.store setting, codec⟩ at_ code received
          binding).run) ∧
      (∀ t, LeavesNoTrace id ((Directory.store setting).findOrCreate t)) ∧
      (∀ t password, LeavesNoTrace id (Directory.insertWithPassword setting t password)) ∧
      (∀ user password, LeavesNoTrace id ((Directory.store setting).updatePassword user password)) ∧
      ∀ user digest, LeavesNoTrace id ((Directory.store setting).updateRefreshDigest user digest) :=
  have htidy := Directory.tidy_store setting
  ⟨leavesNoTrace_login htidy codec hasher at_, leavesNoTrace_refresh htidy codec hasher at_,
    leavesNoTrace_logout htidy codec hasher, leavesNoTrace_complete codec at_ p,
    htidy.findOrCreate, Directory.leavesNoTrace_insertWithPassword setting, htidy.updatePassword,
    htidy.updateRefreshDigest⟩

/-- A user who was deactivated comes back from the provider, and finds the directory as it was. -/
theorem failed_leavesNoTrace_inactive :
    let dir := (Sample.directory.setActive ⟨1⟩ false (.ofSeconds 0)).2
    let out := (FederationService.complete ⟨Scene.watch Sample.provider.inside,
      Scene.store Sample.setting, Sample.codec⟩ ⟨0, "a", "b"⟩ "c" "s" ⟨"s", "n", "v"⟩).run
      ⟨(), [], dir⟩
    out.1 = .error (.userInactive "u") ∧ out.2.dir = dir := by
  intro dir out
  have hfail : out.1 = .error (.userInactive "u") := rfl
  exact ⟨hfail, (failed_leavesNoTrace Sample.setting Sample.codec Sample.setting.hasher
    Sample.provider.inside ⟨0, "a", "b"⟩).2.2.2.1 "c" "s" ⟨"s", "n", "v"⟩ ⟨(), [], dir⟩ _ hfail⟩

end

end Gatehouse
