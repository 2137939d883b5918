import Gatehouse.Proofs.Permission.History
import Mathlib.Data.List.Nodup

/-!
# The union of roles

Permissions are merged by a loop that keeps the set of what it has seen beside the list that it
builds. `extendUnique_eq` says what the loop makes of any two lists: what was held stays as it is,
repetitions included, and behind it come the items that were not held, each at its first occurrence.
From this `Permissions.merge_and_ofRoles` collects the laws of merging and of the union of roles. A
union decides as its roles do: a request is allowed if one of them alone allows it.
-/

namespace Gatehouse

section

variable {α : Type} [DecidableEq α]

/-- **What is held stays, and what is new comes behind it, in the order of its first
occurrences.** -/
theorem extendUnique_eq (held incoming : List α) :
    extendUnique held incoming = held ++ (incoming.removeAll held).eraseDups := by
  induction incoming generalizing held with
  | nil => simp [List.removeAll]
  | cons a rest ih =>
    rw [extendUnique_cons, ih]
    by_cases ha : a ∈ held
    · simp [List.removeAll, ha]
    · -- the item is held from here on, so its later occurrences are no longer new
      have hlater : rest.removeAll (held ++ [a]) =
          (rest.removeAll held).filter fun b => !b == a := by
        simp only [List.removeAll, List.filter_filter]
        exact List.filter_congr fun b _ => by rw [Bool.eq_iff_iff]; simp [and_comm]
      have hnew : (a :: rest).removeAll held = a :: rest.removeAll held := by
        simp [List.removeAll, ha]
      rw [if_neg ha, hlater, hnew, List.eraseDups_cons, List.append_assoc]
      rfl

example : extendUnique [1, 1, 2] [3, 1, 3, 2, 4] = [1, 1, 2, 3, 4] := by decide

/-- Items that are held add nothing. -/
theorem extendUnique_of_subset {held incoming : List α} (h : incoming ⊆ held) :
    extendUnique held incoming = held := by
  have hnone : incoming.removeAll held = [] := by
    rw [List.removeAll, List.filter_eq_nil_iff]
    exact fun a ha => by simpa using h ha
  rw [extendUnique_eq, hnone, List.eraseDups_nil, List.append_nil]

/-- What has been added once is not added again. -/
theorem extendUnique_extendUnique (held incoming : List α) :
    extendUnique (extendUnique held incoming) incoming = extendUnique held incoming :=
  extendUnique_of_subset fun _ ha => mem_extendUnique.mpr (.inr ha)

theorem extendUnique_empty (incoming : List α) : extendUnique [] incoming = incoming.eraseDups := by
  have hall : incoming.removeAll [] = incoming := List.filter_eq_self.mpr fun _ _ => rfl
  rw [extendUnique_eq, hall, List.nil_append]

/-- Nothing comes to be listed twice. -/
theorem nodup_extendUnique {held : List α} (h : held.Nodup) (incoming : List α) :
    (extendUnique held incoming).Nodup := by
  induction incoming generalizing held with
  | nil => exact h
  | cons a rest ih =>
    rw [extendUnique_cons]
    refine ih ?_
    split
    · exact h
    · next ha => rw [← List.concat_eq_append, List.nodup_concat]; exact ⟨ha, h⟩

end

/-- The permissions that a role has by itself, as it lists them. -/
def Role.permissions (role : Role) : Permissions :=
  ⟨role.resources, role.admin⟩

namespace Permissions

/-- Merging twice is merging once what comes from both. -/
theorem merge_merge (held : Permissions) (xs ys : List ResourcePermission)
    (as bs : List AdminPermission) :
    (held.merge xs as).merge ys bs = held.merge (xs ++ ys) (as ++ bs) := by
  simp only [merge, extendUnique_append]

/-- Merging the same again changes nothing. -/
theorem merge_self (held : Permissions) (xs : List ResourcePermission)
    (as : List AdminPermission) : (held.merge xs as).merge xs as = held.merge xs as := by
  simp only [merge, extendUnique_extendUnique]

/-- Roles that are merged one at a time are merged all at once. -/
theorem foldl_merge_eq (held : Permissions) (roles : List Role) :
    roles.foldl (fun held role => held.merge role.resources role.admin) held =
      held.merge (roles.flatMap (·.resources)) (roles.flatMap (·.admin)) := by
  induction roles generalizing held with
  | nil => rfl
  | cons role rest ih => rw [List.foldl_cons, ih, merge_merge, List.flatMap_cons, List.flatMap_cons]

theorem ofRoles_eq (roles : List Role) :
    ofRoles roles =
      ⟨(roles.flatMap (·.resources)).eraseDups, (roles.flatMap (·.admin)).eraseDups⟩ := by
  rw [ofRoles, merge, none, extendUnique_empty, extendUnique_empty]

/-- **Roles are united.** What is merged into permissions leaves those as they are and adds, behind
them, what was not held, each at its first occurrence. Merging twice is merging both at once, and
merging the same again changes nothing. The union of some roles lists nothing twice; it lists what
the roles list, in the order in which it is first seen, and is what merging the roles one at a time
gives. It allows a request exactly if one of the roles alone allows it. -/
theorem merge_and_ofRoles :
    (∀ (held : Permissions) (xs : List ResourcePermission) (as : List AdminPermission),
      held.merge xs as =
          ⟨held.resources ++ (xs.removeAll held.resources).eraseDups,
            held.admin ++ (as.removeAll held.admin).eraseDups⟩ ∧
        (∀ ys bs, (held.merge xs as).merge ys bs = held.merge (xs ++ ys) (as ++ bs)) ∧
        (held.merge xs as).merge xs as = held.merge xs as) ∧
    ∀ roles : List Role,
      ((ofRoles roles).resources.Nodup ∧ (ofRoles roles).admin.Nodup) ∧
        ((∀ r, r ∈ (ofRoles roles).resources ↔ ∃ role ∈ roles, r ∈ role.resources) ∧
          ∀ a, a ∈ (ofRoles roles).admin ↔ ∃ role ∈ roles, a ∈ role.admin) ∧
        ofRoles roles = ⟨(roles.flatMap (·.resources)).eraseDups,
          (roles.flatMap (·.admin)).eraseDups⟩ ∧
        ofRoles roles =
          roles.foldl (fun held role => held.merge role.resources role.admin) none ∧
        (∀ ns project kind action, (ofRoles roles).allowsResource ns project kind action = true ↔
          ∃ role ∈ roles, role.permissions.allowsResource ns project kind action = true) ∧
        ∀ adminSection action, (ofRoles roles).allowsAdmin adminSection action = true ↔
          ∃ role ∈ roles, role.permissions.allowsAdmin adminSection action = true := by
  refine ⟨fun held xs as => ⟨?_, fun ys bs => held.merge_merge xs ys as bs, held.merge_self xs as⟩,
    fun roles => ?_⟩
  · rw [merge, extendUnique_eq, extendUnique_eq]
  · refine ⟨⟨nodup_extendUnique List.nodup_nil _, nodup_extendUnique List.nodup_nil _⟩,
      ⟨fun _ => mem_resources_ofRoles, fun _ => mem_admin_ofRoles⟩, ofRoles_eq roles,
      (foldl_merge_eq none roles).symm, fun ns project kind action => ?_,
      fun adminSection action => ?_⟩
    · rw [allowsResource_ofRoles, List.any_eq_true]
      rfl
    · rw [allowsAdmin_ofRoles, List.any_eq_true]
      rfl

end Permissions

end Gatehouse
