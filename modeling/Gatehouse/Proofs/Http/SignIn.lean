import Gatehouse.Proofs.Http.Callback
import Gatehouse.Proofs.Http.Cookie
import Gatehouse.Proofs.OpenId.AuthUrl

/-!
# Through the browser and back

A sign-in leaves its binding in two places: the state goes into the address to which the browser is
sent, and the whole binding into a cookie. `Service.signIn_round_trip` says that the callback finds
in the cookie the binding that was drawn, so that it is let through with the state of the address,
and is turned away with every other state.
-/

namespace Gatehouse

/-! ### The address -/

/-- The state in an address to which a browser is sent. The last field of the name counts, as it is
the one that was added. -/
def Url.sentState? (u : Url) : Option String :=
  (Form.decodeFields (u.query.getD "").toList).reverse.lookup "state"

namespace OpenIdClient

/-- The state of a binding is in the address to which the browser is sent. -/
theorem sentState?_addFields (endpoint : Url) (settings : OpenIdSettings) (b : LoginBinding) :
    (endpoint.addFields (authFields settings b)).sentState? = some b.state := by
  rw [Url.sentState?, endpoint.decodeFields_addFields, List.reverse_append]
  rfl

end OpenIdClient

/-! ### The cookie -/

theorem LoginBinding.bare_encode (b : LoginBinding) : Cookie.Bare b.encode :=
  Base64.forall_mem_encode (by decide) _

/-- A binding is found in the cookie that it was put into, when that is sent back. -/
theorem LoginBinding.find?_sentBack {b : LoginBinding} {secure : Bool} {maxAge : Int}
    {r : Request} {before after : List (String × String)}
    (hafter : ∀ h ∈ after, Text.sameLetters h.1 "cookie" = false)
    (hr : r.headers = before ++
      ("cookie", SetCookie.sentBack
        (SetCookie.text ⟨Service.bindingCookieName, b.encode, secure, maxAge⟩)) :: after) :
    (Cookie.find? (Cookie.ofRequest r) Service.bindingCookieName).bind decode = some b := by
  have hname : Cookie.Bare Service.bindingCookieName := by decide
  have hne : Service.bindingCookieName ≠ "" := by decide
  have hfind : Cookie.find? (Cookie.ofRequest r) Service.bindingCookieName = some b.encode :=
    Cookie.find?_sentBack (c := ⟨Service.bindingCookieName, b.encode, secure, maxAge⟩) hname hne
      b.bare_encode (by decide) hafter hr
  rw [hfind, Option.bind_some, b.decode_encode]

/-! ### From the sign-in page to the callback -/

/-- The parameters of a callback are read as a provider writes them. -/
theorem CallbackQuery.read?_encodeFields (code state : String) :
    CallbackQuery.read? (String.ofList (Form.encodeFields [("code", code), ("state", state)])) =
      some ⟨code, state, none⟩ := by
  rw [CallbackQuery.read?, String.toList_ofList, Form.decodeFields_encodeFields]
  rfl

namespace Service

/-- Sign-in begins with the address in one header and the cookie in another. -/
theorem respond_openIdLogin {m : Type → Type} [Monad m] {s : Service m} {f : FederationService m}
    (hf : s.federation = some f) (o : Occasion) {address : String}
    (haddress : f.provider.authUrl (LoginBinding.ofDraws o.state o.nonce o.verifier) = some address)
    (query : String) (headers : List (String × String)) (body : String) :
    s.respond o ⟨"GET", "/auth/openid/login", query, headers, body⟩ =
      pure (some ⟨303, [("location", address), ("set-cookie", SetCookie.text ⟨bindingCookieName,
        (LoginBinding.ofDraws o.state o.nonce o.verifier).encode,
        s.isSecure ⟨"GET", "/auth/openid/login", query, headers, body⟩, bindingMaxAge⟩)],
        none⟩) := by
  have hpath : Route.ofPath? "/auth/openid/login" = some .openIdLogin := by decide
  rw [respond_get s o query headers body hpath rfl, handle, openIdLogin, hf]
  dsimp only
  rw [FederationService.beginSignIn, haddress]
  rfl

section

variable {σ : Type} {settings : ServiceSettings} {p : IdentityProvider (StateM σ)}
  {setting : Directory.Setting} {permissions : PermissionStore (StateM (Scene σ))}
  {hasher : PasswordHasher} {s : Service (StateM (Scene σ))}

/-- A service whose settings enable sign-in by a provider offers it. -/
theorem exists_eq_host (henabled : settings.openId.enabled = true)
    (hs : ofSettings settings (Scene.store setting) permissions hasher (some (Scene.watch p)) =
      .ok s) : ∃ codec, s = Scene.host s setting codec (some p) := by
  rw [ofSettings] at hs
  cases hcodec : TokenCodec.ofSettings settings.token with
  | error e =>
    rw [hcodec] at hs
    cases hs
  | ok codec =>
    rw [hcodec] at hs
    cases hs
    refine ⟨codec, ?_⟩
    simp [Scene.host, henabled]

/-- A callback that passes the gate leads to a talk with the provider. -/
theorem exists_talk_of_gate {q : CallbackQuery} {binding : LoginBinding}
    {query body : String} {headers : List (String × String)}
    (hgate : Gate (some p) ⟨"GET", "/auth/openid/callback", query, headers, body⟩ p q binding)
    (s : Service (StateM (Scene σ))) (setting : Directory.Setting) (codec : TokenCodec)
    (o : Occasion) (scene : Scene σ) :
    ∃ response s' asked dir' found, (Scene.host s setting codec (some p)).respond o
        ⟨"GET", "/auth/openid/callback", query, headers, body⟩ scene =
        (response, ⟨s', scene.calls ++ asked, dir'⟩) ∧
      Talk p.profile q.code binding asked found := by
  have hrun : CallbackRun setting codec o.issuance.now (some p) _ scene
      ((Scene.host s setting codec (some p)).respond o _ scene) :=
    callbackRun_respond s o query headers body scene
  generalize (Scene.host s setting codec (some p)).respond o _ scene = out at hrun ⊢
  cases hrun with
  | turnedAway response hnot hstatus => exact absurd hgate (hnot p q binding)
  | letThrough p' q' binding' hgate' asked found htalk s' out hend =>
    obtain ⟨rfl, rfl, rfl⟩ := hgate.unique hgate'
    exact ⟨out.1, s', asked, out.2, found, rfl, htalk⟩

/-- **A sign-in comes back to where it began.** Whatever is drawn, a service that offers sign-in
sends the browser to an address with the drawn state, and with a cookie. If that cookie comes back
with a code and without an error, the callback finds the binding that was drawn. With the state of
the address the provider is asked with the drawn verifier, and for an ID token with the drawn nonce.
With every other state the callback is turned away, and the scene stays as it is. -/
theorem signIn_round_trip {metadata : ProviderMetadata} {keys : List ProviderKey}
    (hp : p.authUrl = (OpenIdClient.mk settings.openId metadata keys).authUrl)
    (henabled : settings.openId.enabled = true)
    (hs : ofSettings settings (Scene.store setting) permissions hasher (some (Scene.watch p)) =
      .ok s)
    (o : Occasion) (query : String) (headers : List (String × String)) (body : String)
    (scene : Scene σ) :
    let binding := LoginBinding.ofDraws o.state o.nonce o.verifier
    let url := metadata.authorizationEndpoint.addFields
      (OpenIdClient.authFields settings.openId binding)
    ∃ cookie,
      s.respond o ⟨"GET", "/auth/openid/login", query, headers, body⟩ scene =
        (some ⟨303, [("location", url.text), ("set-cookie", cookie)], none⟩, scene) ∧
      url.sentState? = some binding.state ∧
      ∀ (o' : Occasion) (query' : String) (before after : List (String × String)) (body' : String)
        (scene' : Scene σ) (q : CallbackQuery), CallbackQuery.read? query' = some q →
        q.error = none → q.code ≠ "" →
        (∀ h ∈ after, Text.sameLetters h.1 "cookie" = false) →
        let r : Request := ⟨"GET", "/auth/openid/callback", query',
          before ++ ("cookie", SetCookie.sentBack cookie) :: after, body'⟩
        requestBinding r = binding ∧
        (some q.state = url.sentState? → ∃ response s' asked dir' found,
          s.respond o' r scene' = (response, ⟨s', scene'.calls ++ asked, dir'⟩) ∧
          Talk p.profile q.code binding asked found) ∧
        (some q.state ≠ url.sentState? → ∃ headers', s.respond o' r scene' =
          (some ⟨400, headers', some (.obj [("error", .str "Invalid sign-in state")])⟩,
            scene')) := by
  intro binding url
  obtain ⟨codec, hhost⟩ := exists_eq_host henabled hs
  have hfederation : s.federation = some ⟨Scene.watch p, Scene.store setting, codec⟩ := by
    rw [hhost]
    rfl
  have haddress : (Scene.watch p).authUrl binding = some url.text := by
    show p.authUrl binding = _
    rw [hp]
    exact OpenIdClient.authUrl_ofDraws ..
  have hstate : url.sentState? = some binding.state := OpenIdClient.sentState?_addFields ..
  have hlogin := congrFun (respond_openIdLogin hfederation o haddress query headers body) scene
  refine ⟨_, hlogin, hstate, ?_⟩
  -- from here on the browser is back, at another occasion and with headers of its own
  intro o' query' before after body' scene' q hquery herror hcode hafter r
  have hcookie : (Cookie.find? (Cookie.ofRequest r) bindingCookieName).bind LoginBinding.decode =
      some binding := LoginBinding.find?_sentBack hafter rfl
  have hbinding : requestBinding r = binding := requestBinding_eq hcookie
  rw [hstate, hhost]
  refine ⟨hbinding, fun heq => ?_, fun hne => ?_⟩
  · have hgate : Gate (some p) r p q binding :=
      ⟨rfl, hquery, herror, hcode, hcookie, LoginBinding.drawnText_ne o.state, Option.some.inj heq⟩
    exact exists_talk_of_gate hgate s setting codec o' scene'
  · refine respond_callback_of_state_ne s o' _ body' hquery herror hcode ?_ scene'
    rw [hbinding]
    exact fun h => hne (congrArg some h)

end

namespace Offline

/-- The settings of a provider. -/
def openId : OpenIdSettings :=
  .ofProvider "https://id.example" "waymark" "secret" "https://app.example/auth/openid/callback" []

/-- A sign-in page whose address has a state of its own. -/
def page : Url :=
  ⟨"https", some ⟨"", "id.example", none⟩, "/authorize", some "state=old", none⟩

/-- A client of the provider. -/
def client : OpenIdClient :=
  ⟨openId, ⟨"https://id.example", page, none, page⟩, []⟩

/-- The settings of a service with this provider. -/
def settings : ServiceSettings :=
  ⟨"", "", true, .ofSecret "0123456789abcdef0123456789abcdef", openId⟩

/-- A setting at the beginning of time. -/
def setting : Directory.Setting :=
  ⟨.ofSeconds 0, [], ⟨⟨16, 2, 1⟩, by decide⟩⟩

/-- A draw of zeros. -/
def draw : Draw :=
  ⟨List.replicate 32 0, rfl⟩

/-- An occasion at which only zeros are drawn. -/
def occasion : Occasion :=
  ⟨⟨0, "A1", "R1"⟩, draw, draw, draw⟩

/-- A callback for a state with a cookie that was set. -/
def callback (state cookie : String) : Request :=
  ⟨"GET", "/auth/openid/callback",
    String.ofList (Form.encodeFields [("code", "c0de"), ("state", state)]),
    [("cookie", SetCookie.sentBack cookie)], ""⟩

end Offline

/-- A sign-in at a provider that is out of reach: with the drawn state its callback leads to an
exchange, and with the state that the address of the page had before it is turned away. -/
theorem signIn_round_trip_offline :
    let p : IdentityProvider (StateM Unit) := Offline.client.provider .offline 0
    let binding := LoginBinding.ofDraws Offline.draw Offline.draw Offline.draw
    let nobody : PermissionStore (StateM (Scene Unit)) :=
      ⟨fun _ => pure (.ok ⟨[], []⟩), fun _ => pure (.ok ⟨[], []⟩)⟩
    let scene : Scene Unit := ⟨(), [], ⟨[], 0, false⟩⟩
    ∃ s login cookie, ofSettings Offline.settings (Scene.store Offline.setting) nobody
        Offline.setting.hasher (some (Scene.watch p)) = .ok s ∧
      (s.respond Offline.occasion ⟨"GET", "/auth/openid/login", "", [], ""⟩ scene).1 =
        some login ∧ ("set-cookie", cookie) ∈ login.headers ∧
      (∃ response s' asked dir' found,
        s.respond Offline.occasion (Offline.callback binding.state cookie) scene =
          (response, ⟨s', asked, dir'⟩) ∧ Talk p.profile "c0de" binding asked found) ∧
      ∃ headers, s.respond Offline.occasion (Offline.callback "old" cookie) scene =
        (some ⟨400, headers, some (.obj [("error", .str "Invalid sign-in state")])⟩, scene) := by
  intro p binding nobody scene
  have hquery := CallbackQuery.read?_encodeFields "c0de"
  have hnone : ∀ h ∈ ([] : List (String × String)), Text.sameLetters h.1 "cookie" = false :=
    List.forall_mem_nil _
  have hold : "old" ≠ binding.state := by decide
  obtain ⟨s, hs⟩ : ∃ s, ofSettings Offline.settings (Scene.store Offline.setting) nobody
      Offline.setting.hasher (some (Scene.watch p)) = .ok s := ⟨_, rfl⟩
  have hp : p.authUrl =
      (OpenIdClient.mk Offline.settings.openId Offline.client.metadata []).authUrl := rfl
  obtain ⟨cookie, hlogin, hstate, hback⟩ :=
    signIn_round_trip hp rfl hs Offline.occasion "" [] "" scene
  obtain ⟨-, hsame, -⟩ := hback Offline.occasion _ [] [] "" scene _ (hquery binding.state) rfl
    (by decide) hnone
  obtain ⟨-, -, hother⟩ := hback Offline.occasion _ [] [] "" scene _ (hquery "old") rfl
    (by decide) hnone
  refine ⟨s, _, cookie, hs, congrArg Prod.fst hlogin, by simp, hsame hstate.symm, hother ?_⟩
  · rw [hstate]
    exact fun h => hold (Option.some.inj h)

end Service

end Gatehouse
