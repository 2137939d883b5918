import Gatehouse.Id
import Gatehouse.Scope

/-!
# Permissions and roles

A resource permission allows an action on a kind of resource in a namespace and a project; an
admin permission allows an action on a section of the administration. A role carries both kinds of
permission. What a subject may do is the union over its roles, kept in the order in which the
permissions were first seen.

A request is allowed when some permission grants it, and a permission grants a request when each
of its parts covers the requested one. `ResourceKind.any` only makes sense in a request: it asks
for any kind of resource and is covered by every permission.
-/

namespace Gatehouse

/-- The kinds of resources. -/
inductive ResourceKind where
  /-- In a permission: every kind. -/
  | all
  /-- In a request: no matter which kind. -/
  | any
  | redirect
  | page
  | agent
  deriving DecidableEq, Repr, Inhabited

/-- What may be done. -/
inductive Action where
  /-- In a permission: every action. -/
  | all
  | read
  | write
  deriving DecidableEq, Repr, Inhabited

/-- The sections of the administration. -/
inductive AdminSection where
  /-- In a permission: every section. -/
  | all
  | users
  | roles
  | namespaces
  | projects
  deriving DecidableEq, Repr, Inhabited

/-- Whether a role is shared by users or belongs to one of them. -/
inductive RoleKind where
  | role
  | user
  deriving DecidableEq, Repr, Inhabited

/-! ### Names -/

/-- The name of a kind of resource. -/
def ResourceKind.name : ResourceKind → String
  | .all => "*"
  | .any => "any"
  | .redirect => "redirect"
  | .page => "page"
  | .agent => "agent"

/-- The kind of resource of a name. -/
def ResourceKind.ofName? (s : String) : Option ResourceKind :=
  [ResourceKind.all, .any, .redirect, .page, .agent].find? (·.name == s)

/-- The name of an action. -/
def Action.name : Action → String
  | .all => "*"
  | .read => "read"
  | .write => "write"

/-- The action of a name. -/
def Action.ofName? (s : String) : Option Action :=
  [Action.all, .read, .write].find? (·.name == s)

/-- The name of a section. -/
def AdminSection.name : AdminSection → String
  | .all => "*"
  | .users => "users"
  | .roles => "roles"
  | .namespaces => "namespaces"
  | .projects => "projects"

/-- The section of a name. -/
def AdminSection.ofName? (s : String) : Option AdminSection :=
  [AdminSection.all, .users, .roles, .namespaces, .projects].find? (·.name == s)

/-- The name of a kind of role. -/
def RoleKind.name : RoleKind → String
  | .role => "role"
  | .user => "user"

/-- The kind of role of a name. -/
def RoleKind.ofName? (s : String) : Option RoleKind :=
  [RoleKind.role, .user].find? (·.name == s)

/-! ### What covers what -/

/-- Whether a permission on one kind of resource covers a request for another. -/
def ResourceKind.covers (granted requested : ResourceKind) : Bool :=
  granted == .all || requested == .any || granted == requested

/-- Whether a permission for one action covers a request for another. -/
def Action.covers (granted requested : Action) : Bool :=
  granted == .all || granted == requested

/-- Whether a permission on one section covers a request for another. -/
def AdminSection.covers (granted requested : AdminSection) : Bool :=
  granted == .all || granted == requested

/-! ### Permissions -/

/-- Allows an action on a kind of resource in a namespace and a project. -/
structure ResourcePermission where
  namespaceScope : Scope
  projectScope : Scope
  resource : ResourceKind
  action : Action
  deriving DecidableEq, Repr, Inhabited

/-- Whether a permission grants an action on a resource of one namespace and project. -/
def ResourcePermission.grants (p : ResourcePermission) (ns project : String)
    (resource : ResourceKind) (action : Action) : Bool :=
  p.namespaceScope.admits ns && p.projectScope.admits project &&
    p.resource.covers resource && p.action.covers action

/-- Allows an action on a section of the administration. -/
structure AdminPermission where
  adminSection : AdminSection
  action : Action
  deriving DecidableEq, Repr, Inhabited

/-- Whether a permission grants an action on a section. -/
def AdminPermission.grants (p : AdminPermission) (adminSection : AdminSection)
    (action : Action) : Bool :=
  p.adminSection.covers adminSection && p.action.covers action

/-- A named set of permissions. -/
structure Role where
  id : RoleId
  code : String
  kind : RoleKind
  resources : List ResourcePermission
  admin : List AdminPermission
  deriving DecidableEq, Repr, Inhabited

/-- What a subject may do, over all its roles. -/
structure Permissions where
  resources : List ResourcePermission
  admin : List AdminPermission
  deriving DecidableEq, Repr, Inhabited

/-- Items that are gathered one by one: those that are held, in their order, and the set of those
that have been seen, which grows in step with them. -/
structure Gathering (α : Type) where
  held : List α
  /-- A set: neither order nor repetition counts. -/
  seen : List α

/-- Takes in an item, unless it has been seen. -/
def Gathering.take {α : Type} [DecidableEq α] (g : Gathering α) (a : α) : Gathering α :=
  if a ∈ g.seen then g else ⟨g.held ++ [a], a :: g.seen⟩

/-- Appends the items not yet held, each once and in order. -/
def extendUnique {α : Type} [DecidableEq α] (held incoming : List α) : List α :=
  (incoming.foldl Gathering.take ⟨held, held⟩).held

namespace Permissions

/-- No permission at all. -/
def none : Permissions :=
  ⟨[], []⟩

/-- Whether there is no permission. -/
def isEmpty (p : Permissions) : Bool :=
  p.resources.isEmpty && p.admin.isEmpty

/-- Adds the permissions not yet held. -/
def merge (held : Permissions) (resources : List ResourcePermission)
    (admin : List AdminPermission) : Permissions :=
  ⟨extendUnique held.resources resources, extendUnique held.admin admin⟩

/-- The union of the permissions of some roles. -/
def ofRoles (roles : List Role) : Permissions :=
  none.merge (roles.flatMap (·.resources)) (roles.flatMap (·.admin))

/-- Whether an action on a resource of one namespace and project is allowed. -/
def allowsResource (p : Permissions) (ns project : String) (resource : ResourceKind)
    (action : Action) : Bool :=
  p.resources.any (·.grants ns project resource action)

/-- Whether an action on a section is allowed. -/
def allowsAdmin (p : Permissions) (adminSection : AdminSection) (action : Action) : Bool :=
  p.admin.any (·.grants adminSection action)

end Permissions

/-! ### Small laws -/

section

variable {α : Type} [DecidableEq α]

/-- What has been seen is what is held. -/
def Gathering.InStep (g : Gathering α) : Prop :=
  ∀ a, a ∈ g.seen ↔ a ∈ g.held

theorem Gathering.InStep.take {g : Gathering α} (h : g.InStep) (a : α) : (g.take a).InStep := by
  intro b
  unfold Gathering.take
  split
  · exact h b
  · rw [List.mem_cons, List.mem_append, List.mem_singleton, h b, or_comm]

theorem Gathering.InStep.foldl_take {g : Gathering α} (h : g.InStep) (items : List α) :
    (items.foldl Gathering.take g).InStep := by
  induction items generalizing g with
  | nil => exact h
  | cons a rest ih => exact ih (h.take a)

/-- As long as the two are in step, what is held decides on what comes to be held. -/
theorem Gathering.InStep.held_foldl_take {g : Gathering α} (h : g.InStep) (items : List α) :
    (items.foldl Gathering.take g).held = extendUnique g.held items := by
  -- the two loops may have seen their items in another order, but they have seen the same ones
  suffices hsame : ∀ g' : Gathering α, g'.InStep → g.held = g'.held →
      (items.foldl Gathering.take g).held = (items.foldl Gathering.take g').held from
    hsame ⟨g.held, g.held⟩ (fun _ => Iff.rfl) rfl
  induction items generalizing g with
  | nil => exact fun _ _ hheld => hheld
  | cons a rest ih =>
    intro g' h' hheld
    refine ih (h.take a) _ (h'.take a) ?_
    have hseen : a ∈ g.seen ↔ a ∈ g'.seen := by rw [h a, h' a, hheld]
    by_cases ha : a ∈ g'.seen
    · rw [Gathering.take, Gathering.take, if_pos (hseen.mpr ha), if_pos ha, hheld]
    · have ha' : a ∉ g.seen := fun hmem => ha (hseen.mp hmem)
      rw [Gathering.take, Gathering.take, if_neg ha', if_neg ha, hheld]

@[simp] theorem extendUnique_nil (held : List α) : extendUnique held [] = held := rfl

theorem extendUnique_cons (held : List α) (a : α) (rest : List α) :
    extendUnique held (a :: rest) =
      extendUnique (if a ∈ held then held else held ++ [a]) rest := by
  have hstep : Gathering.InStep ⟨held, held⟩ := fun _ => Iff.rfl
  refine ((hstep.take a).held_foldl_take rest).trans ?_
  rw [Gathering.take]
  split <;> rfl

/-- The union holds what was held and what came in. -/
theorem mem_extendUnique {a : α} {held incoming : List α} :
    a ∈ extendUnique held incoming ↔ a ∈ held ∨ a ∈ incoming := by
  induction incoming generalizing held with
  | nil => simp
  | cons b rest ih =>
    rw [extendUnique_cons, ih]
    by_cases hb : b ∈ held
    · simp only [hb, if_true, List.mem_cons]
      constructor
      · rintro (h | h)
        · exact .inl h
        · exact .inr (.inr h)
      · rintro (h | rfl | h)
        · exact .inl h
        · exact .inl hb
        · exact .inr h
    · simp only [hb, if_false, List.mem_append, List.mem_cons, List.not_mem_nil, or_false]
      exact or_assoc

/-- Adding in two steps is adding all at once. -/
theorem extendUnique_append (held xs ys : List α) :
    extendUnique held (xs ++ ys) = extendUnique (extendUnique held xs) ys := by
  have hstep : Gathering.InStep ⟨held, held⟩ := fun _ => Iff.rfl
  rw [extendUnique, List.foldl_append]
  exact (hstep.foldl_take xs).held_foldl_take ys

end

end Gatehouse
