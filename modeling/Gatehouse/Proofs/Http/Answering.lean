import Gatehouse.Proofs.Http.Callback
import Gatehouse.Proofs.Session.Stopping

/-!
# Every request is answered

The connection of a request is dropped if the program stops in its handler. `Service.Ready` says
what it takes at an occasion that it does not: the tokens of a session have room, and the provider
has an address to send the browser to. Then every request is answered (`Service.isSome_respond`),
whatever the stores and the provider do.
-/

namespace Gatehouse

namespace Service

variable {σ : Type}

/-- The program does not stop at an occasion. -/
structure Ready (s : Service (StateM σ)) (o : Occasion) : Prop where
  sessions : s.sessions.codec.HasRoom o.issuance.now
  federation : ∀ f, s.federation = some f → f.codec.HasRoom o.issuance.now
  address : ∀ f, s.federation = some f →
    (f.provider.authUrl (LoginBinding.ofDraws o.state o.nonce o.verifier)).isSome = true

section

variable {α : Type} {write : α → Option Response}

theorem isSome_answer {out : Except Problem α} (h : ∀ a, out = .ok a → (write a).isSome = true) :
    (answer write out).isSome = true := by
  cases out with
  | ok a => exact h a rfl
  | error p => rfl

/-- An operation on sessions is answered if all its values are. -/
theorem isSome_attempt {run : ExceptT AuthError (StateM σ) α}
    (h : Yields (fun a => (write a).isSome = true) run) (t : σ) :
    (attempt write run t).1.isSome = true := by
  rcases hrun : run.run t with ⟨out, t'⟩
  rw [attempt_eq write hrun]
  refine isSome_answer fun a ha => h t a ?_
  rw [hrun]
  cases out with
  | ok b => exact congrArg Except.ok (Except.ok.inj ha)
  | error e => cases ha

end

theorem yields_sessionResponse {run : ExceptT AuthError (StateM σ) (Option Session)}
    (h : Yields (·.isSome = true) run) :
    Yields (fun opened => (opened.map sessionResponse).isSome = true) run :=
  fun t opened hrun => Option.isSome_map.trans (h t opened hrun)

variable {s : Service (StateM σ)} {o : Occasion}

/-- The completion of a sign-in is answered, if there is room for the tokens of a session. -/
theorem isSome_completeSignIn
    (hroom : ∀ f, s.federation = some f → f.codec.HasRoom o.issuance.now) (r : Request)
    (q : CallbackQuery) (t : σ) : (s.completeSignIn o r q t).1.isSome = true := by
  rw [completeSignIn]
  cases hf : s.federation with
  | none => rfl
  | some f =>
    cases q.error with
    | some reason => rfl
    | none =>
      dsimp only
      split
      · rfl
      · exact isSome_attempt (yields_sessionResponse
          (yields_complete (hroom f hf) f.users f.provider _ _ _)) t

/-- A call is answered if each of its outcomes is. -/
theorem isSome_bind {α : Type} {call : StateM σ α} {next : α → StateM σ (Option Response)}
    (h : ∀ a t, (next a t).1.isSome = true) (t : σ) : ((call >>= next) t).1.isSome = true :=
  h (call t).1 (call t).2

theorem isSome_me (s : Service (StateM σ)) (o : Occasion) (r : Request) (t : σ) :
    (s.me o r t).1.isSome = true := by
  rw [me]
  refine isSome_bind (fun outcome t => ?_) t
  cases outcome with
  | error e => rfl
  | ok c => exact isSome_bind (fun held _ => isSome_answer fun _ _ => rfl) t

/-- Every route is answered. -/
theorem isSome_handle (h : s.Ready o) (r : Request) (route : Route) (t : σ) :
    (s.handle o r route t).1.isSome = true := by
  cases route with
  | login =>
    rw [handle, login]
    cases r.readBody decodeCredentials with
    | error refusal => rfl
    | ok credentials =>
      exact isSome_attempt (yields_sessionResponse
        (yields_login h.sessions s.sessions.users s.sessions.hasher _ _)) t
  | refresh =>
    rw [handle, refresh]
    cases r.readBody decodeRefreshToken with
    | error refusal => rfl
    | ok token =>
      exact isSome_attempt (yields_sessionResponse
        (yields_refresh h.sessions s.sessions.users s.sessions.hasher _)) t
  | logout => exact isSome_attempt (fun _ _ _ => rfl) t
  | me => exact s.isSome_me o r t
  | openId => rfl
  | openIdLogin =>
    rw [handle, openIdLogin]
    cases hf : s.federation with
    | none => rfl
    | some f =>
      have haddress := h.address f hf
      simp only [FederationService.beginSignIn, Option.map_map]
      exact Option.isSome_map.trans haddress
  | openIdCallback =>
    rw [handle, openIdCallback]
    cases CallbackQuery.read? r.query with
    | none => rfl
    | some q =>
      exact Option.isSome_map.trans (isSome_completeSignIn h.federation r q t)

/-- **Every request is answered**, at an occasion for which the service is ready. -/
theorem isSome_respond (h : s.Ready o) (r : Request) (t : σ) :
    (s.respond o r t).1.isSome = true := by
  rw [respond]
  cases Route.ofPath? r.path with
  | none => rfl
  | some route =>
    dsimp only
    split
    · rfl
    · split
      · exact Option.isSome_map.trans (isSome_handle h r route t)
      · exact isSome_handle h r route t

end Service

end Gatehouse
