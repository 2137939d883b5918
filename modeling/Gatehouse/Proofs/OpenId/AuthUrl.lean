import Gatehouse.Federation.SignIn
import Gatehouse.OpenId.Client
import Gatehouse.Proofs.Federation.Binding
import Gatehouse.Proofs.Url.Query

/-!
# The address of a sign-in

A client sends the browser to the sign-in page that its provider has named, with eight fields in the
query of the address. What is read out of the text of that address are these fields, whatever the
texts in them are (`OpenIdClient.authUrl_fields`): nothing in a state or a nonce can end the query,
or pass for another field.
-/

namespace Gatehouse

/-- The sign-in page that a provider names is an address that was read. -/
theorem ProviderMetadata.exists_read_of_ofJson? {document : Json} {metadata : ProviderMetadata}
    (h : ofJson? document = some metadata) :
    ∃ address, Url.read address = .ok metadata.authorizationEndpoint := by
  rw [ofJson?] at h
  obtain ⟨issuer, -, h⟩ := Option.bind_eq_some_iff.mp h
  obtain ⟨page, hpage, h⟩ := Option.bind_eq_some_iff.mp h
  obtain ⟨keysUrl, -, h⟩ := Option.bind_eq_some_iff.mp h
  obtain ⟨tokenEndpoint, -, h⟩ := Option.bind_eq_some_iff.mp h
  obtain ⟨address, -, hread⟩ := Option.bind_eq_some_iff.mp hpage
  split at h
  · cases h
    refine ⟨address, ?_⟩
    cases hurl : Url.read address with
    | error fault =>
      rw [hurl] at hread
      cases hread
    | ok url =>
      rw [hurl] at hread
      cases hread
      rfl
  · cases h

namespace OpenIdClient

/-! ### Verifiers -/

/-- A verifier of a length that providers accept. -/
def InRange (verifier : String) : Prop :=
  43 ≤ (Text.utf8 verifier).length ∧ (Text.utf8 verifier).length ≤ 128

instance (verifier : String) : Decidable (InRange verifier) :=
  inferInstanceAs (Decidable (_ ∧ _))

theorem acceptsVerifier_iff {verifier : String} :
    acceptsVerifier verifier = true ↔ InRange verifier := by
  simp [acceptsVerifier, InRange]

theorem inRange_drawnText (draw : Draw) : InRange (LoginBinding.drawnText draw) := by
  simp [InRange, LoginBinding.length_utf8_drawnText]

theorem authUrl_of_inRange (c : OpenIdClient) {b : LoginBinding} (h : InRange b.verifier) :
    c.authUrl b =
      some (c.metadata.authorizationEndpoint.addFields (authFields c.settings b)).text :=
  if_pos (acceptsVerifier_iff.mpr h)

/-- There is an address for each binding that was drawn. -/
theorem authUrl_ofDraws (c : OpenIdClient) (state nonce verifier : Draw) :
    c.authUrl (LoginBinding.ofDraws state nonce verifier) =
      some (c.metadata.authorizationEndpoint.addFields
        (authFields c.settings (LoginBinding.ofDraws state nonce verifier))).text :=
  c.authUrl_of_inRange (inRange_drawnText verifier)

/-- Only the challenge of a verifier goes into the address. -/
theorem exists_address (c : OpenIdClient) (state nonce : String) :
    ∃ address : String → String, ∀ verifier, InRange verifier →
      c.authUrl ⟨state, nonce, verifier⟩ = some (address (challenge verifier)) := by
  let fields := fun code : String =>
    [("response_type", "code"), ("client_id", c.settings.clientId), ("state", state),
      ("code_challenge", code), ("code_challenge_method", "S256"),
      ("redirect_uri", c.settings.redirectUrl),
      ("scope", " ".intercalate (requestedScopes c.settings)), ("nonce", nonce)]
  exact ⟨fun code => (c.metadata.authorizationEndpoint.addFields (fields code)).text,
    fun verifier h => c.authUrl_of_inRange h⟩

/-! ### Fields -/

/-- The scopes of a request, out of the text in the settings. -/
theorem requestedScopes_eq (settings : OpenIdSettings) : requestedScopes settings =
    "openid" :: ((Text.splitAt ',' settings.scopeText).map Text.trim).filter
      fun scope => scope ≠ "" ∧ scope ≠ "openid" := by
  rw [requestedScopes, OpenIdSettings.scopes, OpenIdSettings.parseScopes, List.filter_filter]
  refine congrArg (List.cons _) (List.filter_congr fun scope _ => ?_)
  show (decide (scope ≠ "openid") && decide (scope ≠ "")) = _
  rw [Bool.and_comm, Bool.decide_and]

/-- The fields that are read out of the address behind a page without a query. -/
theorem exists_query_authUrl {c : OpenIdClient} {b : LoginBinding}
    (hmarks : c.metadata.authorizationEndpoint.MarksApart)
    (hquery : c.metadata.authorizationEndpoint.query.getD "" = "")
    (hverifier : InRange b.verifier) :
    ∃ url query, c.authUrl b = some url ∧ Url.queryIn? url = some query ∧
      Form.decodeFields query.toList = authFields c.settings b := by
  let endpoint := c.metadata.authorizationEndpoint
  let fields := authFields c.settings b
  have hfields := endpoint.decodeFields_addFields fields
  rw [hquery] at hfields
  exact ⟨_, _, c.authUrl_of_inRange hverifier, Url.queryIn?_text (hmarks.addFields fields), hfields⟩

/-- **The address of a sign-in carries its fields, and nothing else.** If the page that a provider
names has no query, the query of the address is read as eight fields: the client and where it wants
the browser back, the state and the nonce as they are, the challenge for the verifier, and the
scopes, that for an ID token before the others of the settings. The verifier is not in it, other
than in its challenge. A drawn verifier always has a length for which there is an address, so that
all sign-ins can begin. -/
theorem authUrl_fields :
    (∀ (settings : OpenIdSettings) (document : Json) (metadata : ProviderMetadata)
      (keys : List ProviderKey) (b : LoginBinding),
      ProviderMetadata.ofJson? document = some metadata →
      metadata.authorizationEndpoint.query.getD "" = "" → InRange b.verifier →
      ∃ url query, (OpenIdClient.mk settings metadata keys).authUrl b = some url ∧
        Url.queryIn? url = some query ∧
        (Form.decodeFields query.toList).Perm [("response_type", "code"),
          ("client_id", settings.clientId), ("redirect_uri", settings.redirectUrl),
          ("state", b.state), ("nonce", b.nonce),
          ("code_challenge",
            Base64.encode Base64.urlSafe (Sha256.digest (Text.utf8 b.verifier))),
          ("code_challenge_method", "S256"),
          ("scope", " ".intercalate ("openid" ::
            ((Text.splitAt ',' settings.scopeText).map Text.trim).filter
              fun scope => scope ≠ "" ∧ scope ≠ "openid"))]) ∧
      (∀ (c : OpenIdClient) (state nonce : String), ∃ address : String → String,
        ∀ verifier, InRange verifier →
          c.authUrl ⟨state, nonce, verifier⟩ = some (address (challenge verifier))) ∧
      ∀ state nonce verifier : Draw,
        (LoginBinding.ofDraws state nonce verifier).verifier.toList.length = 43 ∧
        ∀ {m : Type → Type} [Monad m] (c : OpenIdClient) (t : Transport m) (now : Int)
          (users : UserStore m) (codec : TokenCodec),
          ∃ url, (FederationService.mk (c.provider t now) users codec).beginSignIn
            state nonce verifier = some ⟨url, LoginBinding.ofDraws state nonce verifier⟩ := by
  refine ⟨?_, exists_address, fun state nonce verifier => ?_⟩
  · intro settings document metadata keys b hdocument hquery hverifier
    obtain ⟨address, hread⟩ := ProviderMetadata.exists_read_of_ofJson? hdocument
    obtain ⟨url, query, hurl, hin, hfields⟩ := exists_query_authUrl
      (c := ⟨settings, metadata, keys⟩) (Url.marksApart_of_read hread) hquery hverifier
    refine ⟨url, query, hurl, hin, ?_⟩
    rw [hfields, authFields, requestedScopes_eq]
    -- the fields are written in another order
    refine .cons _ (.cons _ ?_)
    refine (List.perm_middle : ([_, _, _] ++ _ :: [_, _]).Perm _).trans (.cons _ (.cons _ ?_))
    exact (List.perm_append_comm : ([_, _, _] ++ [_]).Perm _)
  · refine ⟨LoginBinding.length_drawnText verifier, fun c t now users codec => ?_⟩
    have hurl := c.authUrl_ofDraws state nonce verifier
    exact ⟨_, congrArg (Option.map fun url => LoginStart.mk url _) hurl⟩

/-- The address for a state that looks like the end of a query with fields, and for a verifier whose
challenge is known. -/
theorem authUrl_fields_sample :
    let settings : OpenIdSettings := { OpenIdSettings.disabled with
      clientId := "way mark", redirectUrl := "https://app.example/back?to=1"
      scopeText := " profile,openid,,roles " }
    let document : Json := .obj [("issuer", .str "https://id.example"),
      ("authorization_endpoint", .str "https://id.example/authorize#top"),
      ("jwks_uri", .str "https://id.example/keys"), ("response_types_supported", .arr []),
      ("subject_types_supported", .arr []), ("id_token_signing_alg_values_supported", .arr [])]
    let verifier := "dBjftJeZ4CVP-mB92K27uhbUJU1p1r_wW1gFWFOEjXk"
    ∃ metadata url query, ProviderMetadata.ofJson? document = some metadata ∧
      (OpenIdClient.mk settings metadata []).authUrl ⟨"a&nonce=b#?", "é +%26", verifier⟩ =
        some url ∧
      Url.queryIn? url = some query ∧
      (Form.decodeFields query.toList).Perm [("response_type", "code"), ("client_id", "way mark"),
        ("redirect_uri", "https://app.example/back?to=1"), ("state", "a&nonce=b#?"),
        ("nonce", "é +%26"), ("code_challenge", "E9Melhoa2OwvFrEMTJguCHaoeK1t8URWbuGJSstw-cM"),
        ("code_challenge_method", "S256"), ("scope", "openid profile roles")] := by
  intro settings document verifier
  have hdocument : (ProviderMetadata.ofJson? document).isSome = true := by decide +kernel
  obtain ⟨metadata, hmetadata⟩ := Option.isSome_iff_exists.mp hdocument
  have hquery : metadata.authorizationEndpoint.query.getD "" = "" := by
    have hall : (ProviderMetadata.ofJson? document).all
        (fun found => found.authorizationEndpoint.query.getD "" = "") = true := by decide +kernel
    simpa [hmetadata] using hall
  have hchallenge : Base64.encode Base64.urlSafe (Sha256.digest (Text.utf8 verifier)) =
      "E9Melhoa2OwvFrEMTJguCHaoeK1t8URWbuGJSstw-cM" := by decide +kernel
  have hscopes : " ".intercalate ("openid" ::
      ((Text.splitAt ',' settings.scopeText).map Text.trim).filter
        fun scope => scope ≠ "" ∧ scope ≠ "openid") = "openid profile roles" := by decide +kernel
  have hrange : InRange verifier := by decide +kernel
  obtain ⟨url, query, hurl, hin, hfields⟩ := authUrl_fields.1 settings document metadata []
    ⟨"a&nonce=b#?", "é +%26", verifier⟩ hmetadata hquery hrange
  rw [hscopes, hchallenge] at hfields
  exact ⟨metadata, url, query, hmetadata, hurl, hin, hfields⟩

end OpenIdClient

end Gatehouse
