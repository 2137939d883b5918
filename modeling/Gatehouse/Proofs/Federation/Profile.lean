import Gatehouse.OpenId.Client
import Gatehouse.Proofs.Session.Effect
import Gatehouse.Proofs.Text.Cut

/-!
# Profiles and ID tokens of the same claims

A profile and an ID token are read out of claims apart from each other, and both need nothing but a
subject. So there is a profile for the claims of every ID token that was accepted, and the sign-in
goes on with it (`OpenIdClient.exists_complete_eq`). `Profile.IsOf` says what a profile
tells: `NamedBy` lists where its first and last name come from, of which one is the full name, cut
at its first space.
-/

namespace Gatehouse

/-! ### What claims say -/

namespace ClaimSet

/-- A claim is a text that is not empty. -/
def Says (claims : ClaimSet) (name value : String) : Prop :=
  claims.lookup name = some (.str value) ∧ value ≠ ""

/-- A claim is missing, empty or no text. -/
def Silent (claims : ClaimSet) (name : String) : Prop :=
  ∀ value, ¬ claims.Says name value

/-- The text of a claim, which is empty for one that says nothing. -/
def Reads (claims : ClaimSet) (name value : String) : Prop :=
  claims.Says name value ∨ claims.Silent name ∧ value = ""

variable {claims : ClaimSet} {name value : String}

theorem says_iff : claims.Says name value ↔ claims.text name = value ∧ value ≠ "" := by
  rw [Says, and_congr_left_iff]
  intro hne
  constructor
  · intro hlookup
    rw [text, hlookup]
    rfl
  · rintro rfl
    rw [text] at hne ⊢
    cases hvalue : (claims.lookup name).bind Json.text? with
    | none => simp [hvalue] at hne
    | some s =>
      obtain ⟨j, hlookup, hj⟩ := Option.bind_eq_some_iff.mp hvalue
      rw [hlookup, Json.text?_eq_some_iff.mp hj]
      rfl

theorem silent_iff : claims.Silent name ↔ claims.text name = "" := by
  simp [Silent, says_iff]

theorem reads_iff : claims.Reads name value ↔ claims.text name = value := by
  rw [Reads, says_iff, silent_iff]
  grind

end ClaimSet

namespace Profile

/-! ### Names -/

/-- Where a first and a last name come from: they are claims of their own, or the full name stands
in for both of them. A full name with a space is cut at the first one. -/
inductive NamedBy (claims : ClaimSet) : String → String → Prop
  | own {first last : String} (hgiven : claims.Reads "given_name" first)
    (hfamily : claims.Reads "family_name" last)
    (h : first ≠ "" ∨ last ≠ "" ∨ claims.Silent "name") : NamedBy claims first last
  | whole {name : String} (hgiven : claims.Silent "given_name")
    (hfamily : claims.Silent "family_name") (hname : claims.Says "name" name)
    (h : ' ' ∉ name.toList) : NamedBy claims name ""
  | split {first last : String} (hgiven : claims.Silent "given_name")
    (hfamily : claims.Silent "family_name") (hname : claims.Says "name" (first ++ " " ++ last))
    (h : ' ' ∉ first.toList) : NamedBy claims first last

theorem splitName_of_notMem {name : String} (h : ' ' ∉ name.toList) :
    splitName name = (name, "") := by
  rw [splitName, Text.cutFirst?_eq_none_iff.mpr h]

theorem splitName_append {first : String} (h : ' ' ∉ first.toList) (last : String) :
    splitName (first ++ " " ++ last) = (first, last) := by
  have hcut : Text.cutFirst? ' ' (first ++ " " ++ last).toList = some (first.toList, last.toList) :=
    Text.cutFirst?_eq_some_iff.mpr ⟨by simp, fun c hc heq => h (heq ▸ hc)⟩
  rw [splitName, hcut]
  simp

/-- A full name without a space is a first name, and any other is cut at its first space. -/
theorem splitName_cases (name : String) :
    ' ' ∉ name.toList ∧ splitName name = (name, "") ∨
      ∃ first last, name = first ++ " " ++ last ∧ ' ' ∉ first.toList ∧
        splitName name = (first, last) := by
  by_cases h : ' ' ∈ name.toList
  · obtain ⟨front, back, hname, hfront⟩ := List.eq_append_cons_of_mem h
    have hsplit : name = String.ofList front ++ " " ++ String.ofList back := by
      rw [← String.toList_inj, hname]
      simp
    have hfirst : ' ' ∉ (String.ofList front).toList := by rwa [String.toList_ofList]
    exact .inr ⟨_, _, hsplit, hfirst, hsplit ▸ splitName_append hfirst _⟩
  · exact .inl ⟨h, splitName_of_notMem h⟩

theorem namedBy_namesOf (claims : ClaimSet) :
    NamedBy claims (namesOf claims).1 (namesOf claims).2 := by
  by_cases h : claims.text "given_name" = "" ∧ claims.text "family_name" = "" ∧
      claims.text "name" ≠ ""
  · obtain ⟨hgiven, hfamily, hname⟩ := h
    have hsaid := ClaimSet.says_iff.mpr ⟨rfl, hname⟩
    have hnames : namesOf claims = splitName (claims.text "name") := if_pos ⟨hgiven, hfamily, hname⟩
    rw [← ClaimSet.silent_iff] at hgiven hfamily
    obtain ⟨hspace, hsplit⟩ | ⟨first, last, heq, hfirst, hsplit⟩ :=
      splitName_cases (claims.text "name")
    · rw [hnames, hsplit]
      exact .whole hgiven hfamily hsaid hspace
    · rw [hnames, hsplit]
      exact .split hgiven hfamily (heq ▸ hsaid) hfirst
  · have hnames : namesOf claims = (claims.text "given_name", claims.text "family_name") := if_neg h
    rw [hnames]
    refine .own (ClaimSet.reads_iff.mpr rfl) (ClaimSet.reads_iff.mpr rfl) ?_
    rw [ClaimSet.silent_iff]
    tauto

/-- If there is a given or a family name, the names are these two claims. -/
theorem NamedBy.reads {claims : ClaimSet} {first last : String} (h : NamedBy claims first last)
    (hown : ¬ (claims.Silent "given_name" ∧ claims.Silent "family_name")) :
    claims.Reads "given_name" first ∧ claims.Reads "family_name" last := by
  cases h with
  | own hgiven hfamily _ => exact ⟨hgiven, hfamily⟩
  | whole hgiven hfamily _ _ => exact absurd ⟨hgiven, hfamily⟩ hown
  | split hgiven hfamily _ _ => exact absurd ⟨hgiven, hfamily⟩ hown

/-- With the same given and family name claims, of which one says something, the names are the same,
whatever the other claims are. -/
theorem NamedBy.congr {claims claims' : ClaimSet} {first last first' last' : String}
    (h : NamedBy claims first last) (h' : NamedBy claims' first' last')
    (hown : ¬ (claims.Silent "given_name" ∧ claims.Silent "family_name"))
    (hgiven : claims'.lookup "given_name" = claims.lookup "given_name")
    (hfamily : claims'.lookup "family_name" = claims.lookup "family_name") :
    first' = first ∧ last' = last := by
  have hgiven : claims'.text "given_name" = claims.text "given_name" := by
    rw [ClaimSet.text, ClaimSet.text, hgiven]
  have hfamily : claims'.text "family_name" = claims.text "family_name" := by
    rw [ClaimSet.text, ClaimSet.text, hfamily]
  have hown' : ¬ (claims'.Silent "given_name" ∧ claims'.Silent "family_name") := by
    rwa [ClaimSet.silent_iff, ClaimSet.silent_iff, hgiven, hfamily, ← ClaimSet.silent_iff,
      ← ClaimSet.silent_iff]
  obtain ⟨hfirst, hlast⟩ := h.reads hown
  obtain ⟨hfirst', hlast'⟩ := h'.reads hown'
  rw [ClaimSet.reads_iff] at hfirst hlast hfirst' hlast'
  exact ⟨hfirst'.symm.trans (hgiven.trans hfirst), hlast'.symm.trans (hfamily.trans hlast)⟩

/-! ### Whole profiles -/

/-- What a profile tells of the claims that it was read out of. -/
structure IsOf (p : Profile) (claims : ClaimSet) (rolesPath : Option String) : Prop where
  subject : claims.Says "sub" p.subject
  email : claims.Reads "email" p.email
  name : claims.Reads "name" p.name
  names : NamedBy claims p.firstName p.lastName
  roles : p.roles = rolesPath.bind claims.rolesAt

variable {claims : ClaimSet} {rolesPath : Option String} {p : Profile}

theorem ofClaims_of_silent (h : claims.Silent "sub") (rolesPath : Option String) :
    ofClaims claims rolesPath = .error noSubject :=
  if_pos (ClaimSet.silent_iff.mp h)

theorem exists_ofClaims {subject : String} (h : claims.Says "sub" subject)
    (rolesPath : Option String) :
    ∃ p, ofClaims claims rolesPath = .ok p ∧ p.subject = subject := by
  obtain ⟨rfl, hne⟩ := ClaimSet.says_iff.mp h
  exact ⟨_, if_neg hne, rfl⟩

theorem isOf_of_ofClaims (h : ofClaims claims rolesPath = .ok p) : p.IsOf claims rolesPath := by
  rw [ofClaims] at h
  split at h
  · cases h
  · next hne =>
    cases h
    exact ⟨ClaimSet.says_iff.mpr ⟨rfl, hne⟩, ClaimSet.reads_iff.mpr rfl, ClaimSet.reads_iff.mpr rfl,
      namedBy_namesOf claims, rfl⟩

/-- The user name is the email of a user who has one, else the subject. -/
theorem IsOf.username (h : p.IsOf claims rolesPath) :
    p.username ≠ "" ∧ (claims.Says "email" p.username ∨
      claims.Silent "email" ∧ p.username = p.subject) := by
  rw [Profile.username]
  obtain hsaid | ⟨hsilent, hempty⟩ := h.email
  · rw [if_neg hsaid.2]
    exact ⟨hsaid.2, .inl hsaid⟩
  · rw [if_pos hempty]
    exact ⟨h.subject.2, .inr ⟨hsilent, rfl⟩⟩

end Profile

namespace IdToken

variable {claims : ClaimSet}

theorem ofClaims_of_silent (h : claims.Silent "sub") :
    ofClaims claims = .error Profile.noSubject := by
  unfold ofClaims
  split
  · rfl
  · next subject hsubject => exact absurd (subject?_eq_some_iff.mp hsubject) (h subject)

theorem exists_ofClaims {subject : String} (h : claims.Says "sub" subject) :
    ∃ t, ofClaims claims = .ok t ∧ t.subject = subject ∧ t.claims = claims := by
  have hsubject := subject?_eq_some_iff.mpr h
  unfold ofClaims
  split
  · next hnone => cases hnone.symm.trans hsubject
  · next found hfound => exact ⟨_, rfl, Option.some.inj (hfound.symm.trans hsubject), rfl⟩

/-- There is a profile of the claims of an ID token, with the same subject. -/
theorem exists_profile (t : IdToken) (rolesPath : Option String) :
    ∃ p, Profile.ofClaims t.claims rolesPath = .ok p ∧ p.subject = t.subject :=
  Profile.exists_ofClaims ⟨t.lookup_sub, t.subject_ne⟩ rolesPath

end IdToken

namespace OpenIdClient

variable {m : Type → Type} [Monad m] [LawfulMonad m]

/-- A sign-in at a provider that a client knows: when an ID token is accepted there is a profile of
it, so that a sign-in goes on by welcoming its user. -/
theorem exists_complete_eq (c : OpenIdClient) (t : Transport m) (now : Int) (users : UserStore m)
    (codec : TokenCodec) :
    ∃ profileOf : IdToken → Profile,
      (∀ tokens idToken, (c.provider t now).profile tokens idToken = .ok (profileOf idToken)) ∧
      (∀ idToken, (profileOf idToken).subject = idToken.subject) ∧
      ∀ (at_ : Issuance) (code received : String) (binding : LoginBinding),
        FederationService.complete ⟨c.provider t now, users, codec⟩ at_ code received binding = (do
          FederationService.checkState received binding
          let tokens ← FederationService.fromProvider .providerFailed
            (c.exchange t code binding.verifier)
          let raw ← FederationService.presentIdToken tokens
          let idToken ← FederationService.fromProvider .idTokenInvalid
            (pure (c.policy.verify now raw binding.nonce))
          welcome users codec at_ (profileOf idToken)) := by
  choose profileOf hprofile hsubject using fun idToken : IdToken =>
    idToken.exists_profile c.settings.rolesClaim
  refine ⟨profileOf, fun _ => hprofile, hsubject, fun at_ code received binding => ?_⟩
  refine bind_congr fun _ => bind_congr fun tokens => bind_congr fun raw =>
    bind_congr fun idToken => ?_
  have hread : (c.provider t now).profile tokens idToken = .ok (profileOf idToken) :=
    hprofile idToken
  rw [hread, fromProvider_pure]
  exact pure_bind (m := ExceptT AuthError m) _ _

end OpenIdClient

namespace Profile

/-- **Profiles agree with ID tokens.** Claims have a profile exactly if they are those of an ID
token, which is if they name a subject; the subject is the same, the user name is never empty, and
the names are as `NamedBy` says. If there is a given or a family name, no other claim has any
influence on the first and the last name. So a sign-in at a provider that a client knows goes on for
every ID token that is accepted: there is no step at which the profile could be missing. -/
theorem ofClaims_agrees {m : Type → Type} [Monad m] [LawfulMonad m] :
    (∀ (claims : ClaimSet) (rolesPath : Option String),
      claims.Silent "sub" ∧ ofClaims claims rolesPath = .error noSubject ∧
          IdToken.ofClaims claims = .error noSubject ∨
        ∃ p t, ofClaims claims rolesPath = .ok p ∧ IdToken.ofClaims claims = .ok t ∧
          t.subject = p.subject ∧ p.subject ≠ "" ∧ p.IsOf claims rolesPath ∧ p.username ≠ "" ∧
          (claims.Says "email" p.username ∨ claims.Silent "email" ∧ p.username = p.subject)) ∧
    (∀ (claims claims' : ClaimSet) (rolesPath rolesPath' : Option String) (p p' : Profile),
      ofClaims claims rolesPath = .ok p → ofClaims claims' rolesPath' = .ok p' →
      ¬ (claims.Silent "given_name" ∧ claims.Silent "family_name") →
      claims'.lookup "given_name" = claims.lookup "given_name" →
      claims'.lookup "family_name" = claims.lookup "family_name" →
      p'.firstName = p.firstName ∧ p'.lastName = p.lastName) ∧
    ∀ (c : OpenIdClient) (t : Transport m) (now : Int) (users : UserStore m) (codec : TokenCodec),
      ∃ profileOf : IdToken → Profile,
        (∀ tokens idToken, (c.provider t now).profile tokens idToken = .ok (profileOf idToken)) ∧
        (∀ idToken, (profileOf idToken).subject = idToken.subject) ∧
        ∀ (at_ : Issuance) (code received : String) (binding : LoginBinding),
          FederationService.complete ⟨c.provider t now, users, codec⟩ at_ code received binding =
          (do
            FederationService.checkState received binding
            let tokens ← FederationService.fromProvider .providerFailed
              (c.exchange t code binding.verifier)
            let raw ← FederationService.presentIdToken tokens
            let idToken ← FederationService.fromProvider .idTokenInvalid
              (pure (c.policy.verify now raw binding.nonce))
            welcome users codec at_ (profileOf idToken)) := by
  refine ⟨fun claims rolesPath => ?_, ?_, fun c t now users codec => c.exists_complete_eq ..⟩
  · by_cases hsilent : claims.Silent "sub"
    · exact .inl ⟨hsilent, ofClaims_of_silent hsilent rolesPath, IdToken.ofClaims_of_silent hsilent⟩
    · obtain ⟨subject, hsaid⟩ := not_forall_not.mp hsilent
      obtain ⟨p, hp, hsubject⟩ := exists_ofClaims hsaid rolesPath
      obtain ⟨t, ht, hsubject', -⟩ := IdToken.exists_ofClaims hsaid
      have hof := isOf_of_ofClaims hp
      exact .inr ⟨p, t, hp, ht, hsubject'.trans hsubject.symm, hof.subject.2, hof, hof.username⟩
  · intro claims claims' rolesPath rolesPath' p p' hp hp' hown hgiven hfamily
    exact (isOf_of_ofClaims hp).names.congr (isOf_of_ofClaims hp').names hown hgiven hfamily

/-- A full name that begins with a space has an empty first name; and with a given name of its own
a user goes by that, whatever the full name is. -/
theorem ofClaims_agrees_sample :
    let ada : ClaimSet := [("email", .null), ("name", .str " Ada King"), ("sub", .str "u1")]
    let bo : ClaimSet := [("family_name", .int 3), ("given_name", .str "Bo"), ("sub", .str "u2")]
    (∃ p t, ofClaims ada none = .ok p ∧ IdToken.ofClaims ada = .ok t ∧ t.subject = p.subject ∧
      p.username = "u1" ∧ p.firstName = "" ∧ p.lastName = "Ada King") ∧
    ∃ p p', ofClaims bo none = .ok p ∧ ofClaims (("name", .str "Li Wu") :: bo) none = .ok p' ∧
      p'.firstName = p.firstName ∧ p'.lastName = p.lastName := by
  intro ada bo
  obtain ⟨hcases, hnames, -⟩ := ofClaims_agrees (m := Id)
  constructor
  · obtain ⟨hsilent, -⟩ | ⟨p, t, hp, ht, hsubject, -⟩ := hcases ada none
    · exact absurd ⟨rfl, by decide⟩ (hsilent "u1")
    · cases hp
      exact ⟨_, t, rfl, ht, hsubject, by decide, by decide, by decide⟩
  · have hgiven : ¬ bo.Silent "given_name" := fun h => h "Bo" ⟨rfl, by decide⟩
    exact ⟨_, _, rfl, rfl, hnames bo (("name", .str "Li Wu") :: bo) none none _ _ rfl rfl
      (fun h => hgiven h.1) rfl rfl⟩

end Profile

end Gatehouse
