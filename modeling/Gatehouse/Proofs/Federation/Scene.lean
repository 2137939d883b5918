import Gatehouse.Http.Service
import Gatehouse.Proofs.Session.Effect

/-!
# What a provider is asked

A scene is a provider with a state of its own, the calls that were made of it so far with its
answers, and a directory. A provider that is watched notes its calls down, and is else the provider
that it was; nothing is assumed about what it answers.

`Talk` lists how far the completion of a sign-in may go with its provider, and `SignInEnd` what may
come of it over a directory. `exists_run_complete` says that each completion is one of these, and
`run_complete_of_state_ne` that it does not begin unless the state that came back is the one of the
binding.
-/

namespace Gatehouse

/-- A call of a provider that depends on its state, with the answer. -/
inductive ProviderCall where
  | exchange (code verifier : String) (answer : Except ProviderError ProviderTokens)
  | verifyIdToken (raw nonce : String) (answer : Except ProviderError IdToken)

/-- A provider with the calls made of it, and a directory. -/
structure Scene (σ : Type) where
  provider : σ
  calls : List ProviderCall
  dir : Directory

namespace Scene

variable {σ : Type}

/-- The scene after a call of the provider. -/
def asked (scene : Scene σ) (s : σ) (call : ProviderCall) : Scene σ :=
  { scene with provider := s, calls := scene.calls ++ [call] }

/-- A call of the provider of a scene, noted down with its answer. -/
def noted {α : Type} (call : StateM σ α) (note : α → ProviderCall) : StateM (Scene σ) α :=
  fun scene => ((call scene.provider).1,
    scene.asked (call scene.provider).2 (note (call scene.provider).1))

/-- A provider whose calls are noted down. -/
def watch (p : IdentityProvider (StateM σ)) : IdentityProvider (StateM (Scene σ)) where
  authUrl := p.authUrl
  exchange code verifier := noted (p.exchange code verifier) (.exchange code verifier)
  verifyIdToken raw nonce := noted (p.verifyIdToken raw nonce) (.verifyIdToken raw nonce)
  profile := p.profile

/-- A call of the directory of a scene. -/
def inDirectory {α : Type} (call : StateM Directory α) : StateM (Scene σ) α := fun scene =>
  ((call scene.dir).1, { scene with dir := (call scene.dir).2 })

/-- The directory of a scene as a store. -/
def store (setting : Directory.Setting) : UserStore (StateM (Scene σ)) :=
  (Directory.store setting).lift inDirectory

end Scene

/-- How far the talk with a provider goes for a code and a binding: the calls with their answers,
and the profile if it goes through. -/
inductive Talk (profileOf : ProviderTokens → IdToken → Except ProviderError Profile)
    (code : String) (binding : LoginBinding) : List ProviderCall → Option Profile → Prop where
  | refused (e : ProviderError) :
    Talk profileOf code binding [.exchange code binding.verifier (.error e)] none
  | withoutIdToken (tokens : ProviderTokens)
      (h : tokens.idToken = none ∨ tokens.idToken = some "") :
    Talk profileOf code binding [.exchange code binding.verifier (.ok tokens)] none
  | unverified (tokens : ProviderTokens) (raw : String) (h : tokens.idToken = some raw)
    (hne : raw ≠ "") (e : ProviderError) :
    Talk profileOf code binding [.exchange code binding.verifier (.ok tokens),
      .verifyIdToken raw binding.nonce (.error e)] none
  | verified (tokens : ProviderTokens) (raw : String) (h : tokens.idToken = some raw)
    (hne : raw ≠ "") (idToken : IdToken) :
    Talk profileOf code binding [.exchange code binding.verifier (.ok tokens),
      .verifyIdToken raw binding.nonce (.ok idToken)] (profileOf tokens idToken).toOption

/-- What comes of a sign-in over a directory: a session of the active user that was found or created
by the profile, or a failure that leaves all digests as they were. If there is a profile and a user,
it fails only for a user who is not active. For an active user the program stops, and leaves all
digests as they were too, if the time has no room for the tokens of a session. -/
inductive SignInEnd (setting : Directory.Setting) (codec : TokenCodec) (now : Int)
    (dir : Directory) : Option Profile → Except AuthError (Option Session) × Directory → Prop where
  | failed (found : Option Profile) (e : AuthError) (dir' : Directory)
    (hinactive : ∀ profile ∈ found, ∀ user : User,
      (dir.findOrCreate (FederationService.template profile) setting.now).1 = .ok user →
        user.active = false)
    (h : ∀ id, dir'.digest? id = dir.digest? id) :
    SignInEnd setting codec now dir found (.error e, dir')
  | stopped (profile : Profile) (user : User) (dir' : Directory)
    (hfound : (dir.findOrCreate (FederationService.template profile) setting.now).1 = .ok user)
    (hactive : user.active = true) (hroom : ¬ codec.HasRoom now)
    (h : ∀ id, dir'.digest? id = dir.digest? id) :
    SignInEnd setting codec now dir (some profile) (.ok none, dir')
  | opened (profile : Profile) (user : User) (session : Session) (dir' : Directory)
    (hfound : (dir.findOrCreate (FederationService.template profile) setting.now).1 = .ok user)
    (hactive : user.active = true) (hroom : codec.HasRoom now)
    (huser : session.user.id = user.id) :
    SignInEnd setting codec now dir (some profile) (.ok (some session), dir')

section

variable {σ α β : Type} {setting : Directory.Setting} {codec : TokenCodec} {at_ : Issuance}
  {p : IdentityProvider (StateM σ)} {scene : Scene σ}

/-! ### Calls in a scene -/

theorem Scene.noted_eq {call : StateM σ α} {a : α} {s : σ} (note : α → ProviderCall)
    (h : call scene.provider = (a, s)) :
    Scene.noted call note scene = (a, scene.asked s (note a)) := by
  rw [Scene.noted, h]

/-- A call of a provider, as a part of an operation. -/
theorem run_fromProvider (wrap : String → AuthError)
    {call : StateM (Scene σ) (Except ProviderError α)} {answer : Except ProviderError α}
    {scene' : Scene σ} (h : call scene = (answer, scene')) :
    (FederationService.fromProvider wrap call).run scene =
      (answer.mapError fun e => wrap e.message, scene') := by
  have hrun : (FederationService.fromProvider wrap call).run scene =
      ((call scene).1.mapError fun e => wrap e.message, (call scene).2) := rfl
  rw [hrun, h]

/-! ### Operations on the directory of a scene -/

/-- An operation in a scene does to its directory what another one does to a directory alone, and
leaves all else as it is. -/
def Follows (x : ExceptT AuthError (StateM (Scene σ)) α)
    (y : ExceptT AuthError (StateM Directory) α) : Prop :=
  ∀ scene : Scene σ, x.run scene =
    ((y.run scene.dir).1, { scene with dir := (y.run scene.dir).2 })

theorem follows_pure (a : α) : Follows (σ := σ) (pure a) (pure a) :=
  fun _ => rfl

theorem follows_throw (e : AuthError) : Follows (σ := σ) (α := α) (throw e) (throw e) :=
  fun _ => rfl

theorem follows_fromStore (call : StateM Directory (Except StoreError α)) :
    Follows (σ := σ) (fromStore (Scene.inDirectory call)) (fromStore call) :=
  fun _ => rfl

theorem Follows.bind {x : ExceptT AuthError (StateM (Scene σ)) α}
    {y : ExceptT AuthError (StateM Directory) α}
    {f : α → ExceptT AuthError (StateM (Scene σ)) β}
    {g : α → ExceptT AuthError (StateM Directory) β}
    (h : Follows x y) (hf : ∀ a, Follows (f a) (g a)) : Follows (x >>= f) (y >>= g) := by
  intro scene
  have hx := h scene
  rcases hy : y.run scene.dir with ⟨e | a, dir'⟩
  · rw [hy] at hx
    rw [run_bind_error hx, run_bind_error hy]
  · rw [hy] at hx
    rw [run_bind_ok hx, run_bind_ok hy]
    exact hf a { scene with dir := dir' }

theorem follows_establish (codec : TokenCodec) (at_ : Issuance) (user : User)
    (method : SignInMethod) (roles : Option (List String)) :
    Follows (σ := σ) (establish (Scene.store setting) codec at_ user method roles)
      (establish (Directory.store setting) codec at_ user method roles) := by
  rw [establish, establish]
  cases codec.issuePair at_ user.id user.username method roles with
  | none => exact follows_pure none
  | some tokens => exact (follows_fromStore _).bind fun _ => follows_pure _

theorem follows_welcome (codec : TokenCodec) (at_ : Issuance) (profile : Profile) :
    Follows (σ := σ) (welcome (Scene.store setting) codec at_ profile)
      (welcome (Directory.store setting) codec at_ profile) := by
  rw [welcome, welcome]
  refine (follows_fromStore _).bind fun user => ?_
  split
  · exact follows_throw _
  · exact follows_establish codec at_ user _ _

/-! ### Completing a sign-in -/

/-- Without a profile a sign-in fails. -/
theorem SignInEnd.of_none (setting : Directory.Setting) (codec : TokenCodec) (now : Int)
    (dir : Directory) (e : AuthError) : SignInEnd setting codec now dir none (.error e, dir) :=
  .failed none e dir (fun _ h => absurd h (Option.not_mem_none _)) fun _ => rfl

/-- What comes of welcoming the user of a profile. -/
theorem signInEnd_welcome (setting : Directory.Setting) (codec : TokenCodec) (at_ : Issuance)
    (profile : Profile) (dir : Directory) :
    SignInEnd setting codec at_.now dir (some profile)
      ((welcome (Directory.store setting) codec at_ profile).run dir) := by
  have hdigests : ∀ id, (dir.findOrCreate (FederationService.template profile)
      setting.now).2.digest? id = dir.digest? id :=
    fun id => Directory.digest?_findOrCreate _ _
  rw [run_welcome]
  rcases hfound : dir.findOrCreate (FederationService.template profile) setting.now with
    ⟨e | user, dir'⟩
  · rw [hfound] at hdigests
    refine .failed _ _ _ ?_ hdigests
    rintro _ ⟨⟩ _ huser
    rw [hfound] at huser
    cases huser
  · rw [hfound] at hdigests
    dsimp only
    cases hactive : user.active with
    | false =>
      refine .failed _ _ _ ?_ hdigests
      rintro _ ⟨⟩ _ huser
      rw [hfound] at huser
      cases huser
      exact hactive
    | true =>
      have huser := congrArg Prod.fst hfound
      show SignInEnd setting codec at_.now dir (some profile) (openSession ..)
      rw [openSession]
      cases htokens : codec.issuePair at_ user.id user.username .openId profile.roles with
      | none =>
        refine .stopped profile user dir' huser hactive (fun hroom => ?_) hdigests
        obtain ⟨pair, hpair⟩ :=
          TokenCodec.exists_issuePair hroom user.id user.username .openId profile.roles
        cases htokens.symm.trans hpair
      | some tokens =>
        exact .opened profile user _ _ huser hactive (TokenCodec.hasRoom_of_issuePair htokens) rfl

/-- An unreadable profile ends a sign-in; else its user is welcomed. -/
theorem exists_run_introduced (setting : Directory.Setting) (codec : TokenCodec) (at_ : Issuance)
    (answer : Except ProviderError Profile) (scene : Scene σ) :
    ∃ out, (FederationService.fromProvider .idTokenInvalid (pure answer) >>=
          welcome (Scene.store setting) codec at_).run scene =
        (out.1, { scene with dir := out.2 }) ∧
      SignInEnd setting codec at_.now scene.dir answer.toOption out := by
  have hread : (FederationService.fromProvider (m := StateM (Scene σ)) .idTokenInvalid
      (pure answer)).run scene = _ := run_fromProvider .idTokenInvalid rfl
  cases answer with
  | error e =>
    exact ⟨(.error (.idTokenInvalid e.message), scene.dir), run_bind_error hread, .of_none ..⟩
  | ok profile =>
    rw [run_bind_ok hread]
    exact ⟨_, follows_welcome codec at_ profile scene,
      signInEnd_welcome setting codec at_ profile scene.dir⟩

/-- An ID token is presented if there is one and it is not empty. -/
theorem presentIdToken_cases (tokens : ProviderTokens) :
    ((tokens.idToken = none ∨ tokens.idToken = some "") ∧
        FederationService.presentIdToken tokens = .error .idTokenMissing) ∨
      ∃ raw, tokens.idToken = some raw ∧ raw ≠ "" ∧
        FederationService.presentIdToken tokens = .ok raw := by
  rw [FederationService.presentIdToken]
  cases h : tokens.idToken with
  | none => exact .inl ⟨.inl rfl, rfl⟩
  | some raw =>
    by_cases hempty : raw = ""
    · exact .inl ⟨.inr (hempty ▸ rfl), by rw [Option.filter_some, hempty]; rfl⟩
    · exact .inr ⟨raw, rfl, hempty, by rw [Option.filter_some, if_pos (decide_eq_true hempty)]⟩

/-- A sign-in for a state that is not the one of the binding ends before the provider is asked. -/
theorem run_complete_of_state_ne (p : IdentityProvider (StateM σ)) (setting : Directory.Setting)
    (codec : TokenCodec) (at_ : Issuance) (code : String) {received : String}
    {binding : LoginBinding} (scene : Scene σ) {e : AuthError}
    (hstate : FederationService.checkState received binding = .error e) :
    (FederationService.complete ⟨Scene.watch p, Scene.store setting, codec⟩ at_ code received
      binding).run scene = (.error e, scene) := by
  rw [FederationService.complete, hstate]
  exact run_check _ _

/-- **A sign-in is completed by what its provider answers.** If the state that came back is the one
of the binding, the provider is asked with the code and the binding, and the user it vouches for is
welcomed. -/
theorem exists_run_complete (p : IdentityProvider (StateM σ)) (setting : Directory.Setting)
    (codec : TokenCodec) (at_ : Issuance) (code : String) {received : String}
    {binding : LoginBinding} (scene : Scene σ)
    (hstate : FederationService.checkState received binding = .ok ()) :
    ∃ asked found out s', Talk p.profile code binding asked found ∧
      SignInEnd setting codec at_.now scene.dir found out ∧
      (FederationService.complete ⟨Scene.watch p, Scene.store setting, codec⟩ at_ code received
        binding).run scene = (out.1, ⟨s', scene.calls ++ asked, out.2⟩) := by
  rw [FederationService.complete, hstate, run_check]
  dsimp only
  -- one case split for each answer; the calls add up in the order in which they are noted down
  rcases hexchange : p.exchange code binding.verifier scene.provider with ⟨answer, s₁⟩
  have hask : (FederationService.fromProvider .providerFailed
      ((Scene.watch p).exchange code binding.verifier)).run scene = _ :=
    run_fromProvider .providerFailed (Scene.noted_eq _ hexchange)
  cases answer with
  | error e =>
    exact ⟨_, none, (.error (.providerFailed e.message), scene.dir), s₁, .refused e, .of_none ..,
      run_bind_error hask⟩
  | ok tokens =>
    -- an ID token has to be there before the provider is asked a second time
    rw [run_bind_ok hask, run_check]
    obtain ⟨habsent, hpresent⟩ | ⟨raw, hraw, hne, hpresent⟩ := presentIdToken_cases tokens
    · rw [hpresent]
      exact ⟨_, none, (.error .idTokenMissing, scene.dir), s₁, .withoutIdToken tokens habsent,
        .of_none .., rfl⟩
    · rw [hpresent]
      dsimp only
      rcases hverify : p.verifyIdToken raw binding.nonce s₁ with ⟨verdict, s₂⟩
      have hpresented : (FederationService.fromProvider .idTokenInvalid
          ((Scene.watch p).verifyIdToken raw binding.nonce)).run
          (scene.asked s₁ (.exchange code binding.verifier (.ok tokens))) = _ :=
        run_fromProvider .idTokenInvalid (Scene.noted_eq _ hverify)
      cases verdict with
      | error e =>
        exact ⟨_, none, (.error (.idTokenInvalid e.message), scene.dir), s₂,
          .unverified tokens raw hraw hne e, .of_none ..,
          (run_bind_error hpresented).trans (by simp [Scene.asked])⟩
      | ok idToken =>
        rw [run_bind_ok hpresented]
        obtain ⟨out, hrun, hend⟩ := exists_run_introduced setting codec at_
          (p.profile tokens idToken) ((scene.asked s₁ (.exchange code binding.verifier
            (.ok tokens))).asked s₂ (.verifyIdToken raw binding.nonce (.ok idToken)))
        exact ⟨_, _, out, s₂, .verified tokens raw hraw hne idToken, hend,
          hrun.trans (by simp [Scene.asked])⟩

end

end Gatehouse
