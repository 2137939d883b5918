import Gatehouse.Federation.Profile
import Gatehouse.Proofs.Text.Cut

/-!
# Roles at the end of a path

`Json.Leads` says where names lead, key by key through nested objects, and `Json.Strays` how they
may fail to lead to an array. `ClaimSet.rolesAt_iff_leads` says that the roles along a path are the
texts of the array that its names lead to from the claims, and that there are none (not even an
empty list) if they lead to no array.
-/

namespace Gatehouse

namespace Json

/-- Names lead from a value to another one, each of them to a member of an object. -/
inductive Leads : List String → Json → Json → Prop
  | here (j : Json) : Leads [] j j
  | down {members : List (String × Json)} {name : String} {names : List String} {inner j : Json}
    (hmember : members.lookup name = some inner) (hrest : Leads names inner j) :
    Leads (name :: names) (.obj members) j

/-- Names lead to no array: what they end at is something else, or on the way there is something
else than an object, or an object without the next name. -/
inductive Strays : List String → Json → Prop
  | noArray {j : Json} (h : ∀ items, j ≠ .arr items) : Strays [] j
  | noObject {j : Json} (name : String) (names : List String) (h : ∀ members, j ≠ .obj members) :
    Strays (name :: names) j
  | missing {members : List (String × Json)} {name : String} (names : List String)
    (hmember : members.lookup name = none) : Strays (name :: names) (.obj members)
  | down {members : List (String × Json)} {name : String} {names : List String} {inner : Json}
    (hmember : members.lookup name = some inner) (hrest : Strays names inner) :
    Strays (name :: names) (.obj members)

theorem not_leads_of_strays {names : List String} {j : Json} (h : Strays names j)
    (items : List Json) : ¬ Leads names j (.arr items) := by
  intro hleads
  induction h with
  | noArray h =>
    cases hleads
    exact h items rfl
  | noObject name names h =>
    cases hleads
    exact h _ rfl
  | missing names hmember =>
    cases hleads with
    | down hmember' _ => simp [hmember] at hmember'
  | down hmember _ ih =>
    cases hleads with
    | down hmember' hrest =>
      obtain rfl := Option.some.inj (hmember.symm.trans hmember')
      exact ih hrest

theorem strays_of_forall_not_leads {names : List String} {j : Json}
    (h : ∀ items, ¬ Leads names j (.arr items)) : Strays names j := by
  induction names generalizing j with
  | nil => exact .noArray fun items heq => h items (heq ▸ .here _)
  | cons name names ih =>
    by_cases hobject : ∃ members, j = .obj members
    · obtain ⟨members, rfl⟩ := hobject
      cases hmember : members.lookup name with
      | none => exact .missing names hmember
      | some inner => exact .down hmember (ih fun items hleads => h items (.down hmember hleads))
    · exact .noObject name names fun members heq => hobject ⟨members, heq⟩

end Json

namespace ClaimSet

open Json

theorem follow_cons (start : Json) (name : String) (names : List String) :
    follow start (name :: names) = (start.member? name).bind (follow · names) :=
  List.foldlM_cons

theorem member?_eq_some_iff {j inner : Json} {name : String} :
    j.member? name = some inner ↔
      ∃ members, j = .obj members ∧ members.lookup name = some inner := by
  cases j <;> simp [member?]

/-- Names are followed to where they lead. -/
theorem follow_eq_some_iff {start j : Json} {names : List String} :
    follow start names = some j ↔ Leads names start j := by
  induction names generalizing start with
  | nil =>
    constructor
    · rintro ⟨⟩
      exact .here _
    · rintro ⟨⟩
      rfl
  | cons name names ih =>
    rw [follow_cons, Option.bind_eq_some_iff]
    constructor
    · rintro ⟨inner, hmember, hrest⟩
      obtain ⟨members, rfl, hmember⟩ := member?_eq_some_iff.mp hmember
      exact .down hmember (ih.mp hrest)
    · rintro ⟨⟩
      next members inner hmember hrest => exact ⟨inner, hmember, ih.mpr hrest⟩

theorem textItems_eq_some_iff {j : Json} {texts : List String} :
    textItems j = some texts ↔ ∃ items, j = .arr items ∧ texts = items.filterMap text? := by
  cases j <;> simp [textItems, eq_comm]

/-- The first name is followed like the others, with the claims as an object. -/
theorem rolesAt_eq (claims : ClaimSet) (path : String) :
    claims.rolesAt path =
      (follow (.obj claims) (Text.splitAt '.' path)).bind textItems := by
  rw [rolesAt]
  cases hnames : Text.splitAt '.' path with
  | nil => exact absurd hnames (Text.splitAt_eq_iff.mp rfl).parts_ne
  | cons first rest =>
    rw [follow_cons, Option.bind_assoc]
    rfl

theorem rolesAt_eq_some_iff {claims : ClaimSet} {path : String} {roles : List String} :
    claims.rolesAt path = some roles ↔
      ∃ items, Leads (Text.splitAt '.' path) (.obj claims) (.arr items) ∧
        roles = items.filterMap text? := by
  rw [rolesAt_eq, Option.bind_eq_some_iff]
  constructor
  · rintro ⟨j, hfollow, htexts⟩
    obtain ⟨items, rfl, hroles⟩ := textItems_eq_some_iff.mp htexts
    exact ⟨items, follow_eq_some_iff.mp hfollow, hroles⟩
  · rintro ⟨items, hleads, hroles⟩
    exact ⟨_, follow_eq_some_iff.mpr hleads, textItems_eq_some_iff.mpr ⟨items, rfl, hroles⟩⟩

theorem rolesAt_eq_none_iff {claims : ClaimSet} {path : String} :
    claims.rolesAt path = none ↔ Strays (Text.splitAt '.' path) (.obj claims) := by
  constructor
  · intro hnone
    refine strays_of_forall_not_leads fun items hleads => ?_
    rw [rolesAt_eq_some_iff.mpr ⟨items, hleads, rfl⟩] at hnone
    cases hnone
  · intro hstrays
    rw [Option.eq_none_iff_forall_ne_some]
    intro roles hroles
    obtain ⟨items, hleads, -⟩ := rolesAt_eq_some_iff.mp hroles
    exact not_leads_of_strays hstrays items hleads

/-- Behind its first name a path is one through the claim of that name. -/
theorem rolesAt_append (claims : ClaimSet) {first : String} (h : '.' ∉ first.toList)
    (rest : String) :
    claims.rolesAt (first ++ "." ++ rest) =
      match claims.lookup first with
      | some (.obj members) => rolesAt members rest
      | _ => none := by
  have hcut : Text.splitAt '.' (first ++ "." ++ rest) = first :: Text.splitAt '.' rest :=
    Text.splitAt_append h rest
  rw [rolesAt_eq, hcut, follow_cons, Json.member?]
  cases claims.lookup first with
  | none => rfl
  | some inner =>
    cases inner with
    | obj members => exact (rolesAt_eq members rest).symm
    | _ =>
      cases hrest : Text.splitAt '.' rest with
      | nil => exact absurd hrest (Text.splitAt_eq_iff.mp rfl).parts_ne
      | cons name names => rfl

/-- **The roles along a path.** There are roles exactly if the names of the path, between its dots,
lead from the claims to an array, and then they are the texts among its items, in order. There are
none exactly if the names lead to no array. Equally, the roles along a path with a dot are those
along what stands behind the first dot, in the object that is the claim before it. -/
theorem rolesAt_iff_leads (claims : ClaimSet) (path : String) :
    (∀ roles, claims.rolesAt path = some roles ↔
      ∃ names items, Text.IsCut '.' path names ∧ Leads names (.obj claims) (.arr items) ∧
        roles = items.filterMap text?) ∧
    (claims.rolesAt path = none ↔
      ∃ names, Text.IsCut '.' path names ∧ Strays names (.obj claims)) ∧
    ∀ first rest, '.' ∉ first.toList → path = first ++ "." ++ rest →
      claims.rolesAt path =
        match claims.lookup first with
        | some (.obj members) => rolesAt members rest
        | _ => none := by
  refine ⟨fun roles => ?_, ?_, ?_⟩
  · rw [rolesAt_eq_some_iff]
    constructor
    · rintro ⟨items, h⟩
      exact ⟨_, items, Text.splitAt_eq_iff.mp rfl, h⟩
    · rintro ⟨names, items, hcut, h⟩
      exact ⟨items, Text.splitAt_eq_iff.mpr hcut ▸ h⟩
  · rw [rolesAt_eq_none_iff]
    constructor
    · exact fun h => ⟨_, Text.splitAt_eq_iff.mp rfl, h⟩
    · rintro ⟨names, hcut, h⟩
      exact Text.splitAt_eq_iff.mpr hcut ▸ h
  · rintro first rest hfirst rfl
    exact claims.rolesAt_append hfirst rest

/-- A path that begins with a dot goes through the claim with the empty name. A number among the
roles is left out, an array without texts has no roles, and there is no way on from a text. -/
theorem rolesAt_iff_leads_dotted :
    let realm : ClaimSet := [("roles", .arr [.str "ops", .int 7, .str "dev"]), ("none", .arr [])]
    let claims : ClaimSet := [("", .obj realm), ("name", .str "Ann")]
    claims.rolesAt ".roles" = some ["ops", "dev"] ∧
      claims.rolesAt ".roles" = rolesAt realm "roles" ∧
      claims.rolesAt ".none" = some [] ∧ claims.rolesAt "name.roles" = none := by
  intro realm claims
  obtain ⟨hroles, -, hbehind⟩ := claims.rolesAt_iff_leads ".roles"
  obtain ⟨hempty, -, -⟩ := claims.rolesAt_iff_leads ".none"
  obtain ⟨-, hnone, -⟩ := claims.rolesAt_iff_leads "name.roles"
  refine ⟨(hroles _).mpr ⟨["", "roles"], [.str "ops", .int 7, .str "dev"],
      ⟨by decide, by decide, by decide⟩, ?_, rfl⟩,
    hbehind "" "roles" (by decide) rfl,
    (hempty _).mpr ⟨["", "none"], [], ⟨by decide, by decide, by decide⟩, ?_, rfl⟩,
    hnone.mpr ⟨["name", "roles"], ⟨by decide, by decide, by decide⟩, ?_⟩⟩
  · exact .down rfl (.down rfl (.here _))
  · exact .down rfl (.down rfl (.here _))
  · exact .down rfl (.noObject _ _ (by simp))

end ClaimSet

end Gatehouse
