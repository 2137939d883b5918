import Gatehouse.Permission.Authorizer
import Gatehouse.Proofs.Filter.Membership
import Mathlib.Data.List.Induction

/-!
# Decisions by the history of a role book

A role book is written to by putting roles, binding and unbinding users, and taking the book away
and giving it back. What it answers afterwards can be told from these changes alone, by three
questions about the latest of them: which role was put last under a code (`role?`), whether a user
was last bound to a code or unbound from it (`isBound`), and whether the book was last taken away
(`isAway`). The changes of one kind do not disturb what those of another kind say, whatever the
order in which they come.

`mem_roles_ofHistory`, `mem_bindings_ofHistory` and `unavailable_ofHistory` are the three
invariants of the book, and `ask_ofHistory` is what follows for every question.
-/

namespace Gatehouse

namespace RoleBook

/-- A change of a role book. -/
inductive Change where
  | putRole (role : Role)
  | bind (username code : String)
  | unbind (username code : String)
  | setUnavailable (value : Bool)
  deriving DecidableEq

namespace Change

/-- The book after a change. -/
def apply (book : RoleBook) : Change → RoleBook
  | .putRole role => book.putRole role
  | .bind username code => book.bind username code
  | .unbind username code => book.unbind username code
  | .setUnavailable value => book.setUnavailable value

/-- The role that is put. -/
def role? : Change → Option Role
  | .putRole role => some role
  | _ => none

/-- Whether a user is bound to a code or unbound from it. -/
def binding? (username code : String) : Change → Option Bool
  | .bind u c => if u = username ∧ c = code then some true else none
  | .unbind u c => if u = username ∧ c = code then some false else none
  | _ => none

/-- Whether the book is taken away or given back. -/
def unavailable? : Change → Option Bool
  | .setUnavailable value => some value
  | _ => none

end Change

/-- The book that some changes make of an empty one. -/
def ofHistory (changes : List Change) : RoleBook :=
  changes.foldl Change.apply empty

theorem ofHistory_concat (changes : List Change) (c : Change) :
    ofHistory (changes ++ [c]) = c.apply (ofHistory changes) := by
  rw [ofHistory, List.foldl_append]
  rfl

/-! ### What the latest changes say -/

/-- The value that the latest of the changes with a value gives. -/
def latest? {β : Type} (value? : Change → Option β) (changes : List Change) : Option β :=
  (changes.filterMap value?).getLast?

theorem latest?_concat {β : Type} (value? : Change → Option β) (changes : List Change)
    (c : Change) : latest? value? (changes ++ [c]) = (value? c).or (latest? value? changes) := by
  rw [latest?, latest?, List.filterMap_append]
  cases h : value? c <;> simp [h]

/-- The role that was put last under a code. -/
def role? (changes : List Change) (code : String) : Option Role :=
  latest? (fun c => c.role?.filter (·.code == code)) changes

/-- Whether a user was bound to a code and not unbound from it since. -/
def isBound (changes : List Change) (username code : String) : Bool :=
  latest? (Change.binding? username code) changes == some true

/-- Whether the book was taken away and not given back since. -/
def isAway (changes : List Change) : Bool :=
  (latest? Change.unavailable? changes).getD false

/-- A role that was put last under a code has this code, and was put. -/
theorem role?_eq_some {changes : List Change} {code : String} {role : Role}
    (h : role? changes code = some role) :
    role.code = code ∧ role ∈ changes.filterMap Change.role? := by
  have hmem := List.mem_of_getLast? h
  obtain ⟨c, hc, hrole⟩ := List.mem_filterMap.mp hmem
  obtain ⟨hput, hcode⟩ := Option.filter_eq_some_iff.mp hrole
  exact ⟨by simpa using hcode, List.mem_filterMap.mpr ⟨c, hc, hput⟩⟩

/-! ### The book tells the latest changes -/

/-- A role is in the book if it was put last under its code. -/
theorem mem_roles_ofHistory (changes : List Change) (role : Role) :
    role ∈ (ofHistory changes).roles ↔ role? changes role.code = some role := by
  induction changes using List.reverseRecOn with
  | nil => simp [ofHistory, empty, role?, latest?]
  | append_singleton changes c ih =>
    rw [ofHistory_concat, role?, latest?_concat]
    cases c with
    | putRole new =>
      -- the new role takes the place of all others of its code, and of no other code
      by_cases hcode : new.code = role.code
      · simp [Change.apply, putRole, Change.role?, hcode, @eq_comm _ role new]
      · have hne : role ≠ new := fun h => hcode (h ▸ rfl)
        have hmem : role ∈ ((ofHistory changes).putRole new).roles ↔
            role ∈ (ofHistory changes).roles := by
          simp [putRole, hne, Ne.symm hcode]
        have hother : (Change.putRole new).role?.filter (·.code == role.code) = none := by
          simp [Change.role?, hcode]
        rw [hother, Option.none_or]
        exact hmem.trans ih
    | bind username code =>
      have hroles : ((ofHistory changes).bind username code).roles = (ofHistory changes).roles := by
        rw [bind]
        split <;> rfl
      simp [Change.apply, hroles, Change.role?, ih, role?]
    | unbind username code => simp [Change.apply, unbind, Change.role?, ih, role?]
    | setUnavailable value => simp [Change.apply, setUnavailable, Change.role?, ih, role?]

/-- A user is bound to a code in the book if the latest change about the two bound them. -/
theorem mem_bindings_ofHistory (changes : List Change) (username code : String) :
    (username, code) ∈ (ofHistory changes).bindings ↔ isBound changes username code = true := by
  induction changes using List.reverseRecOn with
  | nil => simp [ofHistory, empty, isBound, latest?]
  | append_singleton changes c ih =>
    rw [ofHistory_concat, isBound, latest?_concat]
    cases c with
    | putRole role => simp [Change.apply, putRole, Change.binding?, ih, isBound]
    | bind u c =>
      have hmem : (username, code) ∈ ((ofHistory changes).bind u c).bindings ↔
          (username, code) ∈ (ofHistory changes).bindings ∨ (username, code) = (u, c) := by
        rw [bind]
        split
        · next h => exact ⟨.inl, fun h' => h'.elim id fun heq => heq ▸ h⟩
        · simp
      by_cases hsame : u = username ∧ c = code
      · obtain ⟨rfl, rfl⟩ := hsame
        simp [Change.apply, hmem, Change.binding?]
      · have hne : ¬ (username, code) = (u, c) := fun h => hsame (by simp [Prod.mk.inj h])
        simp only [Change.apply, hmem, Change.binding?, if_neg hsame, Option.none_or, hne, or_false]
        exact ih
    | unbind u c =>
      by_cases hsame : u = username ∧ c = code
      · simp [Change.apply, unbind, Change.binding?, hsame]
      · have hne : ¬ (username, code) = (u, c) := fun h => hsame (by simp [Prod.mk.inj h])
        simp only [Change.apply, unbind, Change.binding?, if_neg hsame, Option.none_or,
          List.mem_filter, ne_eq, hne, not_false_eq_true, decide_true, and_true]
        exact ih
    | setUnavailable value => simp [Change.apply, setUnavailable, Change.binding?, ih, isBound]

/-- A book is away if the latest change about it took it away. -/
theorem unavailable_ofHistory (changes : List Change) :
    (ofHistory changes).unavailable = isAway changes := by
  induction changes using List.reverseRecOn with
  | nil => rfl
  | append_singleton changes c ih =>
    rw [ofHistory_concat, isAway, latest?_concat]
    cases c with
    | putRole role => exact ih
    | bind username code =>
      have hbind : ((ofHistory changes).bind username code).unavailable =
          (ofHistory changes).unavailable := by
        rw [bind]
        split <;> rfl
      exact hbind.trans ih
    | unbind username code => exact ih
    | setUnavailable value => rfl

/-! ### What a subject may do -/

/-- Whether the permissions of the role of a code are those of a subject. -/
def holds (changes : List Change) (code : String) : Subject → Bool
  | .username name => isBound changes name code
  | .roleCode own => own == code

/-- The roles of a subject: those that were put last under the codes that it holds. -/
def rolesOf (changes : List Change) (subject : Subject) : List Role :=
  (changes.filterMap Change.role?).filter fun role =>
    holds changes role.code subject && role? changes role.code == some role

/-- The permissions of a subject, over all its roles. -/
def permissionsOf (changes : List Change) (subject : Subject) : Permissions :=
  .ofRoles (rolesOf changes subject)

variable {changes : List Change} {subject : Subject}

theorem mem_rolesOf {role : Role} :
    role ∈ rolesOf changes subject ↔
      ∃ code, holds changes code subject = true ∧ role? changes code = some role := by
  simp only [rolesOf, List.mem_filter, Bool.and_eq_true, beq_iff_eq]
  constructor
  · rintro ⟨-, hholds, hrole⟩
    exact ⟨role.code, hholds, hrole⟩
  · rintro ⟨code, hholds, hrole⟩
    obtain ⟨rfl, hput⟩ := role?_eq_some hrole
    exact ⟨hput, hholds, hrole⟩

theorem exists_mem_rolesOf {P : Role → Prop} :
    (∃ role ∈ rolesOf changes subject, P role) ↔
      ∃ code role, holds changes code subject = true ∧ role? changes code = some role ∧ P role := by
  simp only [mem_rolesOf]
  constructor
  · rintro ⟨role, ⟨code, hholds, hrole⟩, h⟩
    exact ⟨code, role, hholds, hrole, h⟩
  · rintro ⟨code, role, hholds, hrole, h⟩
    exact ⟨role, ⟨code, hholds, hrole⟩, h⟩

end RoleBook

namespace Permissions

variable {roles others : List Role}

theorem mem_resources_ofRoles {p : ResourcePermission} :
    p ∈ (ofRoles roles).resources ↔ ∃ role ∈ roles, p ∈ role.resources := by
  simp [ofRoles, merge, mem_extendUnique, none]

theorem mem_admin_ofRoles {p : AdminPermission} :
    p ∈ (ofRoles roles).admin ↔ ∃ role ∈ roles, p ∈ role.admin := by
  simp [ofRoles, merge, mem_extendUnique, none]

/-- A union allows what one of its roles allows. -/
theorem allowsResource_ofRoles (ns project : String) (kind : ResourceKind) (action : Action) :
    (ofRoles roles).allowsResource ns project kind action =
      roles.any fun role => role.resources.any (·.grants ns project kind action) := by
  rw [← List.any_flatMap]
  exact any_congr_mem (fun p => mem_resources_ofRoles.trans List.mem_flatMap.symm) _

theorem allowsAdmin_ofRoles (adminSection : AdminSection) (action : Action) :
    (ofRoles roles).allowsAdmin adminSection action =
      roles.any fun role => role.admin.any (·.grants adminSection action) := by
  rw [← List.any_flatMap]
  exact any_congr_mem (fun p => mem_admin_ofRoles.trans List.mem_flatMap.symm) _

/-- The union of the permissions depends on which roles there are. -/
theorem alike_ofRoles (h : ∀ role, role ∈ roles ↔ role ∈ others) :
    (ofRoles roles).Alike (ofRoles others) where
  resources p := by simp only [mem_resources_ofRoles, h]
  admin p := by simp only [mem_admin_ofRoles, h]

end Permissions

namespace Question

/-- An answer depends on which permissions there are. -/
theorem answer_congr {α : Type} {p q : Permissions} (h : p.Alike q) (question : Question α) :
    question.answer p = question.answer q := by
  cases question with
  | resource ns project kind action => exact any_congr_mem h.resources _
  | admin adminSection action => exact any_congr_mem h.admin _
  | namespaceFilter action => exact RowFilter.byNamespace_congr h.resources action
  | projectFilter ns action => exact RowFilter.byProject_congr h.resources ns action
  | namespaceProjectFilter action => exact RowFilter.byNamespaceProject_congr h.resources action

/-- The answer that denies: nothing is allowed, and no row may be seen. -/
def denial {α : Type} : Question α → α
  | .resource _ _ _ _ => false
  | .admin _ _ => false
  | .namespaceFilter _ => .denyAll
  | .projectFilter _ _ => .denyAll
  | .namespaceProjectFilter _ => .denyAll

/-- Without permissions every answer denies. -/
theorem answer_none {α : Type} (question : Question α) :
    question.answer .none = question.denial := by
  cases question <;> rfl

end Question

namespace RoleBook

variable {changes : List Change} {subject : Subject}

/-- What the store of a book tells of a subject: a failure while the book is away, and else the
permissions that the latest changes leave to the subject. -/
theorem permissions_ofHistory (changes : List Change) (subject : Subject) :
    ∃ p, p.Alike (permissionsOf changes subject) ∧
      ((ofHistory changes).store (m := Id)).permissions subject =
        if isAway changes then .error refusal else .ok p := by
  -- a role that the book lists under a code it has is the one that was put last under this code
  have hlisted : ∀ holder : Subject, ∀ role, role ∈ rolesOf changes holder ↔
      role ∈ (ofHistory changes).roles ∧ holds changes role.code holder = true := by
    intro holder role
    rw [mem_roles_ofHistory, mem_rolesOf]
    constructor
    · rintro ⟨code, hholds, hrole⟩
      obtain ⟨rfl, -⟩ := role?_eq_some hrole
      exact ⟨hrole, hholds⟩
    · rintro ⟨hrole, hholds⟩
      exact ⟨role.code, hholds, hrole⟩
  rw [← unavailable_ofHistory]
  cases subject with
  | username name =>
    refine ⟨.ofRoles ((ofHistory changes).roles.filter fun role =>
      (name, role.code) ∈ (ofHistory changes).bindings),
      Permissions.alike_ofRoles fun role => ?_, rfl⟩
    rw [hlisted, List.mem_filter, decide_eq_true_eq, mem_bindings_ofHistory, holds]
  | roleCode own =>
    refine ⟨.ofRoles ((ofHistory changes).roles.filter fun role => role.code == own),
      Permissions.alike_ofRoles fun role => ?_, rfl⟩
    rw [hlisted, List.mem_filter, holds, BEq.comm]

/-- **Decisions by the history of a book.** After any changes, a question about a subject is
answered by the permissions that the latest of these changes leave to the subject: those of the
roles that were put last under the codes that the subject holds. A request is allowed if one of
these roles grants it. While the book is away a plain question fails and a `must` question denies;
changes made meanwhile count from when it is back. -/
theorem ask_ofHistory (changes : List Change) (subject : Subject) :
    (∀ {α : Type} (question : Question α),
      ((ofHistory changes).store (m := Id)).ask subject question =
          (if isAway changes then .error refusal
          else .ok (question.answer (permissionsOf changes subject))) ∧
        ((ofHistory changes).store (m := Id)).must subject question =
          if isAway changes then question.denial
          else question.answer (permissionsOf changes subject)) ∧
      (∀ ns project kind action,
        (Question.resource ns project kind action).answer (permissionsOf changes subject) = true ↔
          ∃ code role, holds changes code subject = true ∧ role? changes code = some role ∧
            ∃ p ∈ role.resources, p.grants ns project kind action = true) ∧
      (∀ adminSection action,
        (Question.admin adminSection action).answer (permissionsOf changes subject) = true ↔
          ∃ code role, holds changes code subject = true ∧ role? changes code = some role ∧
            ∃ p ∈ role.admin, p.grants adminSection action = true) ∧
      ∀ p, p ∈ (permissionsOf changes subject).resources ↔
        ∃ code role, holds changes code subject = true ∧ role? changes code = some role ∧
          p ∈ role.resources := by
  refine ⟨fun {α} question => ?asked, fun ns project kind action => ?resource,
    fun adminSection action => ?admin,
    fun p => Permissions.mem_resources_ofRoles.trans exists_mem_rolesOf⟩
  case asked =>
    obtain ⟨p, halike, hstore⟩ := permissions_ofHistory changes subject
    have hask : ((ofHistory changes).store (m := Id)).ask subject question =
        (((ofHistory changes).store (m := Id)).permissions subject).map question.answer := rfl
    have hmust : ((ofHistory changes).store (m := Id)).must subject question =
        question.answer (((ofHistory changes).store (m := Id)).permissionsOrNone subject) := rfl
    rw [hask, hmust, PermissionStore.permissionsOrNone, hstore, ← question.answer_congr halike]
    cases isAway changes with
    | true => exact ⟨rfl, question.answer_none⟩
    | false => exact ⟨rfl, rfl⟩
  case resource =>
    rw [Question.answer, permissionsOf, Permissions.allowsResource_ofRoles, List.any_eq_true]
    simp only [List.any_eq_true]
    exact exists_mem_rolesOf
  case admin =>
    rw [Question.answer, permissionsOf, Permissions.allowsAdmin_ofRoles, List.any_eq_true]
    simp only [List.any_eq_true]
    exact exists_mem_rolesOf

end RoleBook

end Gatehouse
