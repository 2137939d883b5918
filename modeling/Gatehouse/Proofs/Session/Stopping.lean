import Gatehouse.Proofs.Session.Effect

/-!
# Where the program does not stop

An operation that opens a session does one of three things: it fails, it opens the session, or the
program stops in it. Over every store of users and for every provider, the last happens only at a
time that has no room for the tokens of the session (`yields_login`, `yields_refresh`,
`yields_complete`).
-/

namespace Gatehouse

variable {σ α β : Type}

/-- Every value that an operation gives has some property. -/
def Yields (P : α → Prop) (p : ExceptT AuthError (StateM σ) α) : Prop :=
  ∀ s a, (p.run s).1 = .ok a → P a

variable {P : α → Prop}

theorem yields_pure {a : α} (h : P a) : Yields (σ := σ) P (pure a) := by
  intro s b hb
  cases hb
  exact h

theorem yields_throw (e : AuthError) : Yields (σ := σ) P (throw e) :=
  fun _ _ h => nomatch h

/-- What an operation yields at its end is told by its last part. -/
theorem Yields.bind {p : ExceptT AuthError (StateM σ) β} {f : β → ExceptT AuthError (StateM σ) α}
    (h : ∀ b, Yields P (f b)) : Yields P (p >>= f) := by
  intro s a hrun
  rcases hp : p.run s with ⟨e | b, s'⟩
  · rw [run_bind_error hp] at hrun
    cases hrun
  · rw [run_bind_ok hp] at hrun
    exact h b s' a hrun

section

variable {codec : TokenCodec} {at_ : Issuance} (hroom : codec.HasRoom at_.now)
  (users : UserStore (StateM σ)) (hasher : PasswordHasher)

include hroom

theorem yields_establish (user : User) (method : SignInMethod) (roles : Option (List String)) :
    Yields (·.isSome = true) (establish users codec at_ user method roles) := by
  obtain ⟨tokens, htokens⟩ :=
    TokenCodec.exists_issuePair hroom user.id user.username method roles
  simp only [establish, htokens]
  exact .bind fun _ => yields_pure rfl

/-- A sign-in with a password opens a session if it does not fail. -/
theorem yields_login (username password : String) :
    Yields (·.isSome = true)
      (SessionService.login ⟨users, codec, hasher⟩ at_ username password) := by
  rw [SessionService.login]
  refine .bind fun found => ?_
  cases found with
  | none => exact yields_throw _
  | some user => exact .bind fun _ => yields_establish hroom users user _ _

/-- A refresh opens a session if it does not fail. -/
theorem yields_refresh (token : String) :
    Yields (·.isSome = true) (SessionService.refresh ⟨users, codec, hasher⟩ at_ token) := by
  rw [SessionService.refresh]
  refine .bind fun claims => .bind fun found => ?_
  cases found with
  | none => exact yields_throw _
  | some user => exact .bind fun _ => yields_establish hroom users user _ _

/-- A sign-in by a provider opens a session if it does not fail, whatever the provider answers. -/
theorem yields_complete (provider : IdentityProvider (StateM σ)) (code received : String)
    (binding : LoginBinding) :
    Yields (·.isSome = true)
      (FederationService.complete ⟨provider, users, codec⟩ at_ code received binding) := by
  rw [FederationService.complete]
  refine .bind fun _ => .bind fun tokens => .bind fun raw => .bind fun idToken =>
    .bind fun profile => .bind fun user => ?_
  split
  · exact yields_throw _
  · exact yields_establish hroom users user _ _

end

end Gatehouse
