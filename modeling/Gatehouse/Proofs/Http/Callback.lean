import Gatehouse.Proofs.Federation.Scene

/-!
# What a callback leads to

A browser that comes back from a provider brings a query and a cookie, and both may be anything.
`Gate` says what they have to be for the provider to be asked at all.
`Service.exists_respond_callback` says that a callback which does not pass the gate leaves the scene
as it is, and that one which passes it leads to a talk with the provider, from which a session comes
only if everything in it went well. The program stops, and gives no response, only where a session
would come of it but for the time, which has no room for its tokens.
-/

namespace Gatehouse

/-- A request with one of the methods of a route is answered by the handler of the route. -/
theorem Service.respond_of_mem {m : Type → Type} [Monad m] (s : Service m) (o : Occasion)
    {r : Request} {route : Route} (h : Route.ofPath? r.path = some route)
    (hmethod : r.method ∈ route.methods) (hhead : r.method ≠ "HEAD") :
    s.respond o r = s.handle o r route := by
  rw [Service.respond]
  simp only [h]
  rw [if_neg (not_not.mpr hmethod), if_neg hhead]

/-- A request that gets a route which is not posted to is answered by the handler of the route. -/
theorem Service.respond_get {m : Type → Type} [Monad m] (s : Service m) (o : Occasion)
    {path : String} {route : Route} (query : String) (headers : List (String × String))
    (body : String) (h : Route.ofPath? path = some route) (hroute : route.isPosted = false) :
    s.respond o ⟨"GET", path, query, headers, body⟩ =
      s.handle o ⟨"GET", path, query, headers, body⟩ route :=
  s.respond_of_mem o h (by simp [Route.methods, hroute]) (show "GET" ≠ "HEAD" by decide)

/-- What is made of the outcome of a call leaves the state after it alone. -/
theorem mapped_eq {τ α β : Type} (f : α → β) (call : StateM τ α) (s : τ) :
    (do return f (← call) : StateM τ β) s = (f (call s).1, (call s).2) :=
  rfl

/-- An operation on sessions, as a response. -/
theorem Service.attempt_eq {τ α : Type} (write : α → Option Response) {t t' : τ}
    {run : ExceptT AuthError (StateM τ) α} {out : Except AuthError α}
    (h : run.run t = (out, t')) :
    Service.attempt write run t = (Service.answer write (out.mapError .auth), t') := by
  have hrun := mapped_eq (fun out => Service.answer write (out.mapError Problem.auth)) run.run t
  exact hrun.trans (by rw [h])

/-- A callback whose query can be read is answered by completing its sign-in, and by clearing the
cookie in the answer. -/
theorem Service.respond_callback_eq {τ : Type} (s : Service (StateM τ)) (o : Occasion)
    {query : String} {q : CallbackQuery} (hquery : CallbackQuery.read? query = some q)
    (headers : List (String × String)) (body : String) (t : τ) :
    let r : Request := ⟨"GET", "/auth/openid/callback", query, headers, body⟩
    s.respond o r t = ((s.completeSignIn o r q t).1.map (s.withBindingCookie r "" (-1)),
      (s.completeSignIn o r q t).2) := by
  intro r
  have hpath : Route.ofPath? "/auth/openid/callback" = some .openIdCallback := by decide
  rw [respond_get s o query headers body hpath rfl, handle, openIdCallback, hquery]
  exact mapped_eq (Option.map (s.withBindingCookie r "" (-1))) (s.completeSignIn o r q) t

section

variable {σ : Type}

/-- A service with sign-in by a watched provider over the directory of a scene, if one is
offered. -/
def Scene.host (s : Service (StateM (Scene σ))) (setting : Directory.Setting) (codec : TokenCodec)
    (offered : Option (IdentityProvider (StateM σ))) : Service (StateM (Scene σ)) :=
  { s with federation := offered.map fun p => ⟨watch p, store setting, codec⟩ }

/-- What a callback has to be like for its provider to be asked: sign-in is offered, the query has a
code and no error, and its state is the one in the binding of the cookie. -/
structure Gate (offered : Option (IdentityProvider (StateM σ))) (r : Request)
    (p : IdentityProvider (StateM σ)) (q : CallbackQuery) (binding : LoginBinding) : Prop where
  offered_eq : offered = some p
  query_eq : CallbackQuery.read? r.query = some q
  error_eq : q.error = none
  code_ne : q.code ≠ ""
  cookie_eq : ((Cookie.find? (Cookie.ofRequest r) Service.bindingCookieName).bind
    LoginBinding.decode) = some binding
  state_ne : binding.state ≠ ""
  state_eq : q.state = binding.state

/-- A request passes the gate in one way only. -/
theorem Gate.unique {offered : Option (IdentityProvider (StateM σ))} {r : Request}
    {p p' : IdentityProvider (StateM σ)} {q q' : CallbackQuery} {binding binding' : LoginBinding}
    (h : Gate offered r p q binding) (h' : Gate offered r p' q' binding') :
    p = p' ∧ q = q' ∧ binding = binding' :=
  ⟨Option.some.inj (h.offered_eq.symm.trans h'.offered_eq),
    Option.some.inj (h.query_eq.symm.trans h'.query_eq),
    Option.some.inj (h.cookie_eq.symm.trans h'.cookie_eq)⟩

/-- The response to a callback, by what came of the sign-in over a directory: the session of an
active user, or an error and no new digest. There is neither, and no new digest, if the program
stops for an active user, as the time has no room for the tokens of a session. -/
inductive CallbackEnd (setting : Directory.Setting) (codec : TokenCodec) (now : Int)
    (dir : Directory) : Option Profile → Option Response × Directory → Prop where
  | refused (found : Option Profile) (response : Response) (dir' : Directory)
    (hstatus : 400 ≤ response.status)
    (hinactive : ∀ profile ∈ found, ∀ user : User,
      (dir.findOrCreate (FederationService.template profile) setting.now).1 = .ok user →
        user.active = false)
    (h : ∀ id, dir'.digest? id = dir.digest? id) :
    CallbackEnd setting codec now dir found (some response, dir')
  | stopped (profile : Profile) (user : User) (dir' : Directory)
    (hfound : (dir.findOrCreate (FederationService.template profile) setting.now).1 = .ok user)
    (hactive : user.active = true) (hroom : ¬ codec.HasRoom now)
    (h : ∀ id, dir'.digest? id = dir.digest? id) :
    CallbackEnd setting codec now dir (some profile) (none, dir')
  | opened (profile : Profile) (user : User) (session : Session) (response : Response)
    (dir' : Directory)
    (hfound : (dir.findOrCreate (FederationService.template profile) setting.now).1 = .ok user)
    (hactive : user.active = true) (hroom : codec.HasRoom now)
    (huser : session.user.id = user.id) (hstatus : response.status = 200)
    (hbody : response.body = some session.toJson) :
    CallbackEnd setting codec now dir (some profile) (some response, dir')

variable {setting : Directory.Setting} {codec : TokenCodec} {now : Int} {dir dir' : Directory}
  {found : Option Profile} {offered : Option (IdentityProvider (StateM σ))} {r : Request}

/-- Every problem is told as an error. -/
theorem Problem.le_shown (p : Problem) : 400 ≤ p.shown.1 := by
  cases p with
  | auth e => cases e <;> simp [shown]
  | _ => simp [shown]

/-- Without a profile a callback is refused. -/
theorem CallbackEnd.of_none (setting : Directory.Setting) (codec : TokenCodec) (now : Int)
    (dir : Directory) {response : Response} (h : 400 ≤ response.status) :
    CallbackEnd setting codec now dir none (some response, dir) :=
  .refused none response dir h (fun _ h => absurd h (Option.not_mem_none _)) fun _ => rfl

/-- A header changes nothing of what a response says. -/
theorem CallbackEnd.withHeader {response : Option Response} (name value : String)
    (h : CallbackEnd setting codec now dir found (response, dir')) :
    CallbackEnd setting codec now dir found (response.map (·.withHeader name value), dir') := by
  cases h with
  | refused _ _ _ hstatus hinactive h => exact .refused _ _ _ hstatus hinactive h
  | stopped profile user _ hfound hactive hroom h =>
    exact .stopped profile user _ hfound hactive hroom h
  | opened profile user session _ _ hfound hactive hroom huser hstatus hbody =>
    exact .opened profile user session _ _ hfound hactive hroom huser hstatus hbody

/-- The end of a sign-in as a response. -/
theorem SignInEnd.answer {out : Except AuthError (Option Session) × Directory}
    (h : SignInEnd setting codec now dir found out) :
    CallbackEnd setting codec now dir found
      (Service.answer (Option.map Service.sessionResponse) (out.1.mapError .auth), out.2) := by
  cases h with
  | failed _ e _ hinactive h =>
    exact .refused _ _ _ (Problem.le_shown (.auth e)) hinactive h
  | stopped profile user _ hfound hactive hroom h =>
    exact .stopped profile user _ hfound hactive hroom h
  | opened profile user session _ hfound hactive hroom huser =>
    exact .opened profile user session _ _ hfound hactive hroom huser rfl rfl

/-! ### Passing the gate -/

theorem FederationService.checkState_eq_ok {received : String} {binding : LoginBinding} :
    FederationService.checkState received binding = .ok () ↔
      binding.state ≠ "" ∧ received = binding.state := by
  rw [FederationService.checkState]
  split
  · next h => exact ⟨fun h => absurd h (by simp), fun h' => by tauto⟩
  · next h => exact ⟨fun _ => by tauto, fun _ => rfl⟩

theorem FederationService.checkState_eq_error {received : String} {binding : LoginBinding}
    (h : received ≠ binding.state) :
    FederationService.checkState received binding = .error .invalidState :=
  if_pos (.inr h)

theorem Service.requestBinding_eq {binding : LoginBinding}
    (h : ((Cookie.find? (Cookie.ofRequest r) bindingCookieName).bind LoginBinding.decode) =
      some binding) : requestBinding r = binding := by
  rw [requestBinding, h, Option.getD_some]

/-- A state is checked against the binding in the cookie. The binding that stands in for a missing
one has an empty state, which is no match for any. -/
theorem checkState_requestBinding {received : String} :
    FederationService.checkState received (Service.requestBinding r) = .ok () ↔
      ∃ binding, ((Cookie.find? (Cookie.ofRequest r) Service.bindingCookieName).bind
          LoginBinding.decode) = some binding ∧
        binding.state ≠ "" ∧ received = binding.state := by
  rw [FederationService.checkState_eq_ok, Service.requestBinding]
  cases (Cookie.find? (Cookie.ofRequest r) Service.bindingCookieName).bind LoginBinding.decode with
  | none => simp
  | some binding => simp

/-- The outcome of a callback in a scene: the scene is left alone by one that does not pass the
gate, and one that passes it leads to a talk with the provider. -/
inductive CallbackRun (setting : Directory.Setting) (codec : TokenCodec) (now : Int)
    (offered : Option (IdentityProvider (StateM σ))) (r : Request) (scene : Scene σ) :
    Option Response × Scene σ → Prop where
  | turnedAway (response : Response) (hgate : ∀ p q binding, ¬ Gate offered r p q binding)
    (hstatus : 400 ≤ response.status) :
    CallbackRun setting codec now offered r scene (some response, scene)
  | letThrough (p : IdentityProvider (StateM σ)) (q : CallbackQuery) (binding : LoginBinding)
    (hgate : Gate offered r p q binding) (asked : List ProviderCall) (found : Option Profile)
    (htalk : Talk p.profile q.code binding asked found) (s : σ) (out : Option Response × Directory)
    (hend : CallbackEnd setting codec now scene.dir found out) :
    CallbackRun setting codec now offered r scene (out.1, ⟨s, scene.calls ++ asked, out.2⟩)

theorem CallbackRun.withHeader {scene : Scene σ} {out : Option Response × Scene σ}
    (name value : String) (h : CallbackRun setting codec now offered r scene out) :
    CallbackRun setting codec now offered r scene
      (out.1.map (·.withHeader name value), out.2) := by
  cases h with
  | turnedAway response hgate hstatus => exact .turnedAway _ hgate hstatus
  | letThrough p q binding hgate asked found htalk s out hend =>
    exact .letThrough p q binding hgate asked found htalk s (_, out.2) (hend.withHeader name value)

variable (s : Service (StateM (Scene σ))) (o : Occasion) {q : CallbackQuery}

/-- **Completing a sign-in for a callback.** -/
theorem Service.completeSignIn_run (r : Request) (hquery : CallbackQuery.read? r.query = some q)
    (scene : Scene σ) :
    CallbackRun setting codec o.issuance.now offered r scene
      ((Scene.host s setting codec offered).completeSignIn o r q scene) := by
  -- the gate is about the parameters that were read, so each way of failing it speaks of them
  have hread : ∀ {p q' binding}, Gate offered r p q' binding → q' = q := fun h =>
    Option.some.inj (h.query_eq.symm.trans hquery)
  cases offered with
  | none =>
    exact .turnedAway _ (fun _ _ _ h => by cases h.offered_eq)
      (Problem.le_shown .federationDisabled)
  | some p =>
    simp only [completeSignIn, Scene.host, Option.map_some]
    cases herror : q.error with
    | some reason =>
      refine .turnedAway _ (fun _ _ _ h => ?_) (Problem.le_shown (.signInAborted reason))
      cases hread h
      cases herror.symm.trans h.error_eq
    | none =>
      dsimp only
      split
      · next hcode =>
        refine .turnedAway _ (fun _ _ _ h => ?_) (Problem.le_shown (.signInAborted "missing code"))
        cases hread h
        exact h.code_ne hcode
      · next hcode =>
        cases hstate : FederationService.checkState q.state (requestBinding r) with
        | error e =>
          rw [attempt_eq _
            (run_complete_of_state_ne p setting codec o.issuance q.code scene hstate)]
          refine .turnedAway _ (fun _ _ binding h => ?_) (Problem.le_shown (.auth e))
          cases hread h
          cases hstate.symm.trans
            (checkState_requestBinding.mpr ⟨binding, h.cookie_eq, h.state_ne, h.state_eq⟩)
        | ok _ =>
          obtain ⟨binding, hcookie, hne, heq⟩ := checkState_requestBinding.mp hstate
          have hgate : Gate (some p) r p q binding :=
            ⟨rfl, hquery, herror, hcode, hcookie, hne, heq⟩
          rw [requestBinding_eq hcookie] at hstate ⊢
          obtain ⟨asked, found, out, s', htalk, hend, hrun⟩ :=
            exists_run_complete p setting codec o.issuance q.code scene hstate
          rw [attempt_eq _ hrun]
          exact .letThrough p q binding hgate asked found htalk s' (_, out.2) hend.answer

/-- Each request for the path of the callback runs so, whatever its query, headers and body. -/
theorem Service.callbackRun_respond (query : String) (headers : List (String × String))
    (body : String) (scene : Scene σ) :
    CallbackRun setting codec o.issuance.now offered
      ⟨"GET", "/auth/openid/callback", query, headers, body⟩ scene
      ((Scene.host s setting codec offered).respond o
        ⟨"GET", "/auth/openid/callback", query, headers, body⟩ scene) := by
  cases hquery : CallbackQuery.read? query with
  | none =>
    have hpath : Route.ofPath? "/auth/openid/callback" = some .openIdCallback := by decide
    rw [respond_get _ o query headers body hpath rfl, handle, openIdCallback, hquery]
    refine .turnedAway _ (fun _ _ _ h => ?_) (by decide)
    cases hquery.symm.trans h.query_eq
  | some q =>
    rw [respond_callback_eq _ o hquery]
    exact (completeSignIn_run s o ⟨_, _, _, headers, body⟩ hquery scene).withHeader _ _

/-- A callback with a code but for another state than that of its binding is told so. -/
theorem Service.respond_callback_of_state_ne {p : IdentityProvider (StateM σ)}
    (headers : List (String × String)) (body : String) {query : String}
    (hquery : CallbackQuery.read? query = some q) (herror : q.error = none) (hcode : q.code ≠ "")
    (hstate : q.state ≠
      (requestBinding ⟨"GET", "/auth/openid/callback", query, headers, body⟩).state)
    (scene : Scene σ) :
    ∃ headers', (Scene.host s setting codec (some p)).respond o
        ⟨"GET", "/auth/openid/callback", query, headers, body⟩ scene =
      (some ⟨400, headers', some (.obj [("error", .str "Invalid sign-in state")])⟩, scene) := by
  have hcheck := run_complete_of_state_ne p setting codec o.issuance q.code scene
    (FederationService.checkState_eq_error hstate)
  rw [respond_callback_eq _ o hquery]
  simp only [completeSignIn, Scene.host, Option.map_some, herror, if_neg hcode]
  rw [attempt_eq _ hcheck]
  exact ⟨_, rfl⟩

/-- **What a callback leads to.** A callback that does not pass the gate leaves the scene as it is.
One that passes it leads to a talk with the provider for its code and its binding. A session comes
of it only if the talk gave a profile and the user of the profile is active; else the response is an
error, and no digest of a refresh token is another one than before. There is no response only if the
program stops for such a user, at a time that has no room for the tokens of a session. -/
theorem Service.respond_callback (s : Service (StateM (Scene σ))) (setting : Directory.Setting)
    (codec : TokenCodec) (offered : Option (IdentityProvider (StateM σ))) (o : Occasion)
    (query : String) (headers : List (String × String)) (body : String) (scene : Scene σ) :
    let r : Request := ⟨"GET", "/auth/openid/callback", query, headers, body⟩
    ∃ response s' asked dir' found,
      (Scene.host s setting codec offered).respond o r scene =
        (response, ⟨s', scene.calls ++ asked, dir'⟩) ∧
      (asked = [] ∧ found = none ∧ s' = scene.provider ∧ dir' = scene.dir ∧
          (∀ p q binding, ¬ Gate offered r p q binding) ∨
        ∃ p q binding, Gate offered r p q binding ∧ Talk p.profile q.code binding asked found) ∧
      CallbackEnd setting codec o.issuance.now scene.dir found (response, dir') := by
  intro r
  have hrun : CallbackRun setting codec o.issuance.now offered r scene
      ((Scene.host s setting codec offered).respond o r scene) :=
    callbackRun_respond s o query headers body scene
  generalize (Scene.host s setting codec offered).respond o r scene = out at hrun ⊢
  cases hrun with
  | turnedAway response hgate hstatus =>
    exact ⟨some response, scene.provider, [], scene.dir, none, by simp,
      .inl ⟨rfl, rfl, rfl, rfl, hgate⟩, .of_none setting codec _ scene.dir hstatus⟩
  | letThrough p q binding hgate asked found htalk s' out hend =>
    exact ⟨out.1, s', asked, out.2, found, rfl, .inr ⟨p, q, binding, hgate, htalk⟩, hend⟩

end

end Gatehouse
