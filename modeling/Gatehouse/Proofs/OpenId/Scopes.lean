import Gatehouse.OpenId.Settings
import Gatehouse.Proofs.Json.Record
import Gatehouse.Proofs.Permission.Union
import Gatehouse.Proofs.Text.Cut
import Gatehouse.Proofs.Text.Trim

/-!
# The list of scopes

The scopes of a provider are kept as one text with commas between them, and are cut out of it
whenever they are asked for. Whatever the text is, what comes out are scopes (`IsScope`), and these
come out of the text that they make up together (`parseScopes_intercalate`). So the scopes that were
added to the usual ones are the scopes that are asked for, also after the settings were written down
and read again (`scopes_round_trip`).
-/

namespace Gatehouse.OpenIdSettings

open Decoder

/-- A text can be told apart from others in a list of scopes: it is not empty, has no comma, and
neither begins nor ends with a blank. -/
structure IsScope (s : String) : Prop where
  ne_empty : s ≠ ""
  comma_notMem : ',' ∉ s.toList
  trimmed : Text.Trimmed s

instance (s : String) : Decidable (IsScope s) :=
  decidable_of_iff (s ≠ "" ∧ ',' ∉ s.toList ∧ Text.Trimmed s)
    ⟨fun ⟨hne, hcomma, htrimmed⟩ => ⟨hne, hcomma, htrimmed⟩,
      fun h => ⟨h.ne_empty, h.comma_notMem, h.trimmed⟩⟩

/-! ### The text of a list -/

/-- Scopes are cut out of the text that they make up. -/
theorem parseScopes_intercalate {names : List String} (h : ∀ name ∈ names, IsScope name) :
    parseScopes (",".intercalate names) = names := by
  by_cases hne : names = []
  · subst hne
    decide
  · have hcut : Text.splitAt ',' (",".intercalate names) = names :=
      Text.splitAt_eq_iff.mpr ⟨hne, fun name hname => (h name hname).comma_notMem, rfl⟩
    have htrim : names.map Text.trim = names :=
      (List.map_congr_left fun name hname => (h name hname).trimmed.trim_eq).trans
        (List.map_id' names)
    have hfilter : (names.filter fun name => name ≠ "") = names :=
      List.filter_eq_self.mpr fun name hname => decide_eq_true (h name hname).ne_empty
    rw [parseScopes, hcut, htrim, hfilter]

/-- What is cut out of any text are scopes. -/
theorem isScope_of_mem_parseScopes {s name : String} (h : name ∈ parseScopes s) : IsScope name := by
  obtain ⟨hmem, hne⟩ := List.mem_filter.mp h
  obtain ⟨part, hpart, rfl⟩ := List.mem_map.mp hmem
  obtain ⟨htrimmed, front, back, -, -, hpadded⟩ := Text.isTrimOf_trim part
  refine ⟨of_decide_eq_true hne, fun hcomma => ?_, htrimmed⟩
  -- a comma in what is left would be one in the part
  have hcut := Text.splitAt_eq_iff.mp (rfl : Text.splitAt ',' s = _)
  refine hcut.sep_notMem part hpart ?_
  rw [hpadded]
  simp [hcomma]

/-! ### Adding scopes -/

/-- Scopes are added as permissions are: what is there stays, and what is new comes behind it. -/
theorem foldl_addScope (held added : List String) :
    added.foldl addScope held = extendUnique held added := by
  induction added generalizing held with
  | nil => rfl
  | cons scope added ih => rw [List.foldl_cons, ih, extendUnique_cons, addScope]

/-! ### The record of the settings -/

/-- **The record of settings is read as the settings.** -/
theorem reads_toJson (s : OpenIdSettings) : Reads decode 1 s.toJson s := by
  intro depth rest hdepth _
  have henabled : Reads bool 0 (.bool s.enabled) s.enabled :=
    reads_ofScalar (j := .bool s.enabled) trivial rfl
  have hurl := reads_text s.providerUrl
  have hclient := reads_text s.clientId
  have hsecret := reads_text s.clientSecret
  have hredirect := reads_text s.redirectUrl
  have hscopes := reads_text s.scopeText
  have hroles := reads_option_text s.rolesPath
  have hname := reads_text s.name
  have hicon := reads_option_text s.icon
  have hfits : ∀ m ∈ [("enabled", .bool s.enabled), ("provider_url", Json.str s.providerUrl),
      ("client_id", .str s.clientId), ("client_secret", .str s.clientSecret),
      ("redirect_url", .str s.redirectUrl), ("scopes", .str s.scopeText),
      ("roles_claim", Json.ofOption .str s.rolesPath), ("name", .str s.name),
      ("icon", Json.ofOption .str s.icon)], Fits shape 0 m := by
    simp only [List.forall_mem_cons]
    exact ⟨fits_member rfl henabled, fits_member rfl hurl, fits_member rfl hclient,
      fits_member rfl hsecret, fits_member rfl hredirect, fits_member rfl hscopes,
      fits_member rfl hroles, fits_member rfl hname, fits_member rfl hicon, List.forall_mem_nil _⟩
  obtain ⟨found, hentries, hfound⟩ := exists_entries 0 hfits (by simp) hdepth rest
  rw [toJson, decode, bind_ok hentries, orElse_eq hfound (by simp) rfl henabled,
    orElse_eq hfound (by simp) rfl hurl, orElse_eq hfound (by simp) rfl hclient,
    orElse_eq hfound (by simp) rfl hsecret, orElse_eq hfound (by simp) rfl hredirect,
    orElse_eq hfound (by simp) rfl hscopes, orElse_eq hfound (by simp) rfl hroles,
    orElse_eq hfound (by simp) rfl hname, orElse_eq hfound (by simp) rfl hicon]
  rfl

/-- Settings that are written down are read again. -/
theorem run_render_toJson (s : OpenIdSettings) : decode.run s.toJson.render = .ok s :=
  run_of_reads s.reads_toJson (by decide)

/-! ### Round trips -/

/-- **Scopes come back.** The scopes of settings to which scopes were added are the usual ones, and
behind them the others that were added, each where it was added first; none is listed twice. The
settings are read out of their record as they are. Whatever text stands for the scopes of some
settings, what is asked for are scopes, and these come out again if they stand there with commas
between them. -/
theorem scopes_round_trip :
    (∀ (providerUrl clientId clientSecret redirectUrl : String) (added : List String)
      (rolesPath : Option String) (name : String) (icon : Option String),
      (∀ scope ∈ added, IsScope scope) →
      let usual := ["openid", "profile", "email"]
      let s := { ofProvider providerUrl clientId clientSecret redirectUrl added with
        rolesPath := rolesPath, name := name, icon := icon }
      s.scopes = usual ++ (added.removeAll usual).eraseDups ∧ s.scopes.Nodup ∧
        decode.run s.toJson.render = .ok s) ∧
    ∀ s : OpenIdSettings,
      (∀ scope ∈ s.scopes, IsScope scope) ∧
        { s with scopeText := ",".intercalate s.scopes }.scopes = s.scopes := by
  refine ⟨?_, fun s => ⟨fun scope => isScope_of_mem_parseScopes, ?_⟩⟩
  · intro providerUrl clientId clientSecret redirectUrl added rolesPath name icon hadded usual s
    have husual : ∀ scope ∈ usual, IsScope scope := by decide
    have hlist : added.foldl addScope usual = usual ++ (added.removeAll usual).eraseDups := by
      rw [foldl_addScope, extendUnique_eq]
    have hscopes : s.scopes = added.foldl addScope usual := by
      refine parseScopes_intercalate fun scope hscope => ?_
      rw [foldl_addScope, mem_extendUnique] at hscope
      exact hscope.elim (husual scope) (hadded scope)
    refine ⟨hscopes.trans hlist, ?_, s.run_render_toJson⟩
    rw [hscopes, foldl_addScope]
    exact nodup_extendUnique (by decide) added
  · exact parseScopes_intercalate fun scope => isScope_of_mem_parseScopes

/-- A scope is added twice, one of the usual scopes is added, and one has a blank inside. -/
theorem scopes_round_trip_added :
    let s := { ofProvider "https://id.example" "waymark" "secret" "https://app.example/back"
        ["groups", "email", "offline access", "groups"] with
      rolesPath := some "realm_access.roles", name := "Example", icon := some "key" }
    s.scopes = ["openid", "profile", "email", "groups", "offline access"] ∧
      decode.run s.toJson.render = .ok s := by
  intro s
  obtain ⟨hscopes, -, hread⟩ := scopes_round_trip.1 "https://id.example" "waymark" "secret"
    "https://app.example/back" ["groups", "email", "offline access", "groups"]
    (some "realm_access.roles") "Example" (some "key") (by decide)
  exact ⟨hscopes.trans (by decide), hread⟩

end Gatehouse.OpenIdSettings
