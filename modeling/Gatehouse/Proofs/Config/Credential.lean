import Gatehouse.Config.Load
import Gatehouse.Proofs.Config.Environment
import Gatehouse.Proofs.Config.Tree

/-!
# Credentials out of the environment

The key of the tokens and the two fields by which a provider knows the service (`Credential`) are
set by variables. The value of such a variable matters for no other setting, nor for whether there
are settings at all: as long as no later variable touches the credential, another value gives the
same settings with another credential (`ServiceSettings.load_map_set`). The credential itself is
the text as which the value is read (`ServiceSettings.get_of_load`), which need not be the value.
-/

namespace Gatehouse

open Setting

/-! ### Settings of a section -/

namespace Section

variable {α : Type} {name other : String} {s : Section} {v : Setting} {a : α}
  {read : Setting → Option α}

theorem needed_eq_pure (h : s.lookup name = some v) (ha : read v = some a) :
    s.needed name read = pure a := by
  rw [needed, h]
  dsimp only
  rw [ha]
  rfl

theorem orElse_eq_pure (h : s.lookup name = some v) (ha : read v = some a) (default : α) :
    s.orElse name read default = pure a := by
  rw [orElse, h, needed_eq_pure h ha]
  rfl

theorem needed_alterMember (h : other ≠ name) (f : Setting → Setting) (s : Section)
    (read : Setting → Option α) :
    needed (alterMember name f s) other read = s.needed other read := by
  rw [needed, needed, lookup_alterMember_ne h]

theorem orElse_alterMember (h : other ≠ name) (f : Setting → Setting) (s : Section)
    (read : Setting → Option α) (default : α) :
    orElse (alterMember name f s) other read default = s.orElse other read default := by
  rw [orElse, orElse, lookup_alterMember_ne h, needed_alterMember h]

theorem of_table (name : String) (names : List String) (s : Section) :
    Section.of name names (.table s) = pure s := rfl

end Section

/-! ### Credentials -/

/-- What the service identifies itself with to a provider. -/
inductive ClientField where
  | id
  | secret

/-- A setting that others have to know in the same form. -/
inductive Credential where
  /-- The key of all tokens, the same on all nodes. -/
  | signingKey
  | client (field : ClientField)

namespace ClientField

/-- The name of a field among the settings for a provider. -/
def name : ClientField → String
  | id => "client_id"
  | secret => "client_secret"

/-- Reads a field. -/
def get : ClientField → OpenIdSettings → String
  | id => OpenIdSettings.clientId
  | secret => OpenIdSettings.clientSecret

/-- Replaces a field. -/
def set (field : ClientField) (y : String) (t : OpenIdSettings) : OpenIdSettings :=
  match field with
  | id => { t with clientId := y }
  | secret => { t with clientSecret := y }

end ClientField

namespace Credential

/-- The variable with a credential. -/
def variableName : Credential → String
  | signingKey => "JWT__SECRET"
  | client .id => "OPENID__CLIENT_ID"
  | client .secret => "OPENID__CLIENT_SECRET"

/-- The names that lead to a credential. -/
def names : Credential → List String
  | signingKey => ["jwt", "secret"]
  | client field => ["openid", field.name]

/-- Reads a credential. -/
def get : Credential → ServiceSettings → String
  | signingKey, t => t.token.secret
  | client field, t => field.get t.openId

/-- Replaces a credential. -/
def set (c : Credential) (y : String) (t : ServiceSettings) : ServiceSettings :=
  match c with
  | signingKey => { t with token := { t.token with secret := y } }
  | client field => { t with openId := field.set y t.openId }

@[simp] theorem get_set (c : Credential) (y : String) (t : ServiceSettings) :
    c.get (c.set y t) = y := by
  cases c with
  | signingKey => rfl
  | client field => cases field <;> rfl

theorem ofText_variableName (c : Credential) :
    PathStep.ofText (Environment.pathText c.variableName) = c.names.map .member := by
  cases c with
  | signingKey => decide
  | client field => cases field <;> decide

end Credential

/-! ### Reading settings with another credential -/

private theorem except_map_eq {ε α β : Type} (f : α → β) (x : Except ε α) :
    x.map f = f <$> x := rfl

section

open Section

variable {s : Section} {v w : Setting} {x y : String}

theorem TokenSettings.ofSetting_put (hv : s.lookup "secret" = some v) (hx : v.asText? = some x)
    (hy : w.asText? = some y) :
    ofSetting (put ["secret"] w (.table s)) =
      (ofSetting (.table s)).map fun t => { t with secret := y } := by
  have hnew : (alterMember "secret" (put [] w) s).lookup "secret" = some w :=
    lookup_alterMember_self _ _ _
  rw [ofSetting, ofSetting, put_cons, of_table, of_table]
  simp only [members, pure_bind, needed_eq_pure hnew hy, needed_eq_pure hv hx, ne_eq,
    String.reduceEq, not_false_eq_true, orElse_alterMember, except_map_eq, map_bind, map_pure]
  rfl

theorem OpenIdSettings.ofSetting_put (field : ClientField) (hv : s.lookup field.name = some v)
    (hx : v.asText? = some x) (hy : w.asText? = some y) :
    ofSetting (put [field.name] w (.table s)) = (ofSetting (.table s)).map (field.set y) := by
  have hnew : (alterMember field.name (put [] w) s).lookup field.name = some w :=
    lookup_alterMember_self _ _ _
  rw [ofSetting, ofSetting, put_cons, of_table, of_table]
  cases field <;> simp only [ClientField.name] at hv hnew <;>
    simp only [members, pure_bind, ClientField.name, ClientField.set, orElse_eq_pure hnew hy,
      orElse_eq_pure hv hx, ne_eq, String.reduceEq, not_false_eq_true, orElse_alterMember,
      except_map_eq, map_bind, map_pure]

/-- Settings with another text for a credential are read in the same way, up to the credential. -/
theorem ServiceSettings.ofSetting_put {c : Credential} {tree : Setting}
    (hat : tree.at? c.names = some v) (hx : v.asText? = some x) (hy : w.asText? = some y) :
    ofSetting (put c.names w tree) = (ofSetting tree).map (c.set y) := by
  cases c with
  | signingKey =>
    obtain ⟨ms, s, rfl, hs, hv⟩ := exists_of_at?_pair hat
    have hnew := lookup_alterMember_of_lookup hs (put ["secret"] w)
    rw [ofSetting, ofSetting, Credential.names, put_cons, of_table, of_table]
    simp only [members, pure_bind, needed_alterMember, orElse_alterMember, lookup_alterMember_ne,
      ne_eq, String.reduceEq, not_false_eq_true, hnew, hs, TokenSettings.ofSetting_put hv hx hy,
      except_map_eq, map_bind, bind_map_left]
    cases ms.lookup "openid" <;> simp only [map_bind, map_pure, Credential.set]
  | client field =>
    obtain ⟨ms, s, rfl, hs, hv⟩ := exists_of_at?_pair hat
    have hnew := lookup_alterMember_of_lookup hs (put [field.name] w)
    rw [ofSetting, ofSetting, Credential.names, put_cons, of_table, of_table]
    simp only [members, pure_bind, needed_alterMember, orElse_alterMember, lookup_alterMember_ne,
      ne_eq, String.reduceEq, not_false_eq_true, hnew, hs,
      OpenIdSettings.ofSetting_put field hv hx hy, except_map_eq, map_bind, bind_map_left]
    cases ms.lookup "jwt" <;> simp only [map_bind, map_pure, Credential.set]

end

/-! ### Loading another credential -/

namespace ServiceSettings

open Environment

/-- The settings in an environment, by their paths. -/
def treeOf (environment : List (String × String)) : Setting :=
  (Setting.table []).putAll (settings environment)

variable (readYaml : String → Option Setting)

theorem load_nil (environment : List (String × String)) :
    load readYaml [] environment = ofSetting (treeOf environment) := rfl

variable {c : Credential} {before after : List (String × String)}

/-- A variable puts its value over the settings of the variables before. -/
theorem treeOf_append_cons (c : Credential) (before after : List (String × String)) (s : String) :
    treeOf (before ++ (c.variableName, s) :: after) =
      (put c.names (valueOf s) (treeOf before)).putAll (settings after) := by
  rw [treeOf, settings, List.map_append, List.map_cons, putAll_append, putAll_cons, onto_valueOf,
    c.ofText_variableName]
  rfl

/-- Whether the variables of an environment set something else than a credential. -/
def AreApart (c : Credential) (vars : List (String × String)) : Prop :=
  ∀ p ∈ vars, Apart c.names (PathStep.ofText (pathText p.1))

/-- Another value for a credential is put in the place of the first. -/
theorem treeOf_put (h : AreApart c after) (before : List (String × String)) (s s' : String) :
    treeOf (before ++ (c.variableName, s') :: after) =
        put c.names (valueOf s') (treeOf (before ++ (c.variableName, s) :: after)) ∧
      (treeOf (before ++ (c.variableName, s) :: after)).at? c.names = some (valueOf s) := by
  have hat := at?_put c.names (valueOf s) (treeOf before)
  have hafter : ∀ p ∈ settings after, Apart c.names (PathStep.ofText p.1) :=
    List.forall_mem_map.mpr h
  obtain ⟨hput, hstays⟩ := putAll_put hat (valueOf s') hafter
  simp only [treeOf_append_cons]
  rw [← hput, put_put]
  exact ⟨rfl, hstays⟩

/-- Another value for a credential is loaded with the same outcome, up to the credential. -/
theorem load_map_set (h : AreApart c after) (before : List (String × String)) (s s' : String) :
    load readYaml [] (before ++ (c.variableName, s') :: after) =
      (load readYaml [] (before ++ (c.variableName, s) :: after)).map (c.set (textOf s')) := by
  obtain ⟨hput, hat⟩ := treeOf_put h before s s'
  rw [load_nil, load_nil, hput]
  exact ofSetting_put hat (asText?_valueOf s) (asText?_valueOf s')

/-- A credential is loaded as the text of its variable. -/
theorem get_of_load (h : AreApart c after) {s : String} {t : ServiceSettings}
    (hload : load readYaml [] (before ++ (c.variableName, s) :: after) = .ok t) :
    c.get t = textOf s := by
  have hself := load_map_set readYaml h before s s
  rw [hload] at hself
  have ht : t = c.set (textOf s) t := Except.ok.inj hself
  rw [ht, c.get_set]

theorem areApart_url : AreApart .signingKey [("DATABASE_URL", "pg://env")] :=
  List.forall_mem_singleton.mpr (.here (by decide) _ _)

/-- Settings with a key and the place of the database only. -/
theorem load_url_key (s : String) :
    load readYaml [] [("JWT__SECRET", s), ("DATABASE_URL", "pg://env")] =
      .ok ⟨"pg://env", usualAddress, usualSecureCookies, .ofSecret (textOf s), .disabled⟩ := by
  have hempty : load readYaml [] [("JWT__SECRET", ""), ("DATABASE_URL", "pg://env")] =
      .ok ⟨"pg://env", usualAddress, usualSecureCookies, .ofSecret "", .disabled⟩ := rfl
  have hload := load_map_set readYaml areApart_url [] "" s
  exact hload.trans (congrArg (Except.map _) hempty)

/-- **Credentials out of the environment.** What a credential is does not matter for the loading of
the settings: it succeeds or fails for all texts alike, and gives the same settings up to the
credential. The credential is loaded as it is in the environment exactly if it is written there as
what it is taken for is written. -/
theorem load_credential_iff (c : Credential) (before after : List (String × String)) (s : String)
    (h : AreApart c after) :
    (∀ s', load readYaml [] (before ++ (c.variableName, s') :: after) =
        (load readYaml [] (before ++ (c.variableName, s) :: after)).map (c.set (textOf s'))) ∧
      ∀ t, load readYaml [] (before ++ (c.variableName, s) :: after) = .ok t →
        c.get t = textOf s ∧ (c.get t = s ↔ Verbatim s) := by
  refine ⟨load_map_set readYaml h before s, fun t ht => ?_⟩
  have hget := get_of_load readYaml h ht
  refine ⟨hget, ?_⟩
  rw [hget]
  exact textOf_eq_self_iff

theorem load_credential_iff_key :
    let key := "k5zWq0-2fH7aYp9_Xc3Lr8Vt1Nb6Md4J"
    AreApart .signingKey [("DATABASE_URL", "pg://env")] ∧
      ∃ t, load (fun _ => none) []
          ([] ++ ("JWT__SECRET", key) :: [("DATABASE_URL", "pg://env")]) = .ok t ∧
        Credential.signingKey.get t = key := by
  intro key
  have hkey : Verbatim key := verbatim_of_mem (c := 'k') (by decide) (by decide) (by decide)
  have h := load_credential_iff (fun _ => none) .signingKey [] [("DATABASE_URL", "pg://env")] key
    areApart_url
  have hload := load_url_key (fun _ => none) key
  exact ⟨areApart_url, _, hload, (h.2 _ hload).2.mpr hkey⟩

/-- A key of zeros and two other digits is loaded as the two digits. -/
theorem not_load_credential :
    ∃ t, load (fun _ => none) [] [("JWT__SECRET", "00000000000000000000000000000042"),
        ("DATABASE_URL", "pg://env")] = .ok t ∧
      t.token.secret = "42" ∧ t.token.secret ≠ "00000000000000000000000000000042" := by
  have htext : textOf "00000000000000000000000000000042" = "42" := by
    have hint : textOf "00000000000000000000000000000042" = Decimal.intText 42 := rfl
    simp [hint, Decimal.intText, Decimal.intChars, Decimal.natDigits]
  exact ⟨_, load_url_key _ _, htext, fun h => absurd (htext.symm.trans h) (by decide)⟩

end ServiceSettings

end Gatehouse
