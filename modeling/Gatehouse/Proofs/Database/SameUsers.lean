import Gatehouse.Proofs.Database.Table
import Gatehouse.Proofs.User.Names
import Mathlib.Logic.Equiv.Basic

/-!
# A directory and a table with the same users

The directory in memory and the table in the database number their users in their own ways: a
sign-up that finds its user costs the table a number and the directory none. So two users are the
same (`User.Alike`) up to a renaming of numbers, besides what is drawn or read from the clock: the
salts of their digests and their times.

`SameUsers` says that each user of the one is alike to one of the other. Since numbers and names are
unique on both sides, look-ups find users that are alike (`SameUsers.user?`, `SameUsers.named?`),
and what is done on both sides to the users of one number keeps them so (`Matched.change`).
-/

namespace Gatehouse

/-! ### Users that are alike -/

/-- Digests that are the same, or made from the same password. -/
inductive SameDigest (hasher : PasswordHasher) : Option String → Option String → Prop where
  | same (digest : Option String) : SameDigest hasher digest digest
  | salted (password : String) (salt salt' : Bytes) :
    SameDigest hasher (some (hasher.hash salt password)) (some (hasher.hash salt' password))

/-- Users that are the same but for their times, the salts of their digests, and their numbers,
which correspond. -/
structure User.Alike (hasher : PasswordHasher) (ρ : Equiv.Perm UserId) (u v : User) : Prop where
  id : ρ u.id = v.id
  username : u.username = v.username
  passwordDigest : SameDigest hasher u.passwordDigest v.passwordDigest
  firstname : u.firstname = v.firstname
  lastname : u.lastname = v.lastname
  active : u.active = v.active
  refreshDigest : u.refreshDigest = v.refreshDigest

namespace User.Alike

variable {hasher : PasswordHasher} {ρ ρ' : Equiv.Perm UserId} {u v : User}

theorem id_eq_iff (h : u.Alike hasher ρ v) (id : UserId) : u.id = id ↔ v.id = ρ id := by
  rw [← h.id, ρ.apply_eq_iff_eq]

theorem congr (h : u.Alike hasher ρ v) (hid : ρ' u.id = ρ u.id) : u.Alike hasher ρ' v :=
  { h with id := hid.trans h.id }

theorem setPasswordDigest (h : u.Alike hasher ρ v) {digest digest' : Option String}
    (hdigest : SameDigest hasher digest digest') (now now' : Moment) :
    (u.setPasswordDigest digest now).Alike hasher ρ (v.setPasswordDigest digest' now') :=
  ⟨h.id, h.username, hdigest, h.firstname, h.lastname, h.active, h.refreshDigest⟩

theorem setRefreshDigest (h : u.Alike hasher ρ v) (digest : Option String) (now now' : Moment) :
    (u.setRefreshDigest digest now).Alike hasher ρ (v.setRefreshDigest digest now') :=
  ⟨h.id, h.username, h.passwordDigest, h.firstname, h.lastname, h.active, rfl⟩

/-- Users made from one template are alike if their numbers correspond. -/
theorem ofTemplate {id id' : UserId} (hid : ρ id = id') (t : UserTemplate) (now now' : Moment) :
    (User.ofTemplate id t now).Alike hasher ρ (User.ofTemplate id' t now') :=
  ⟨hid, rfl, .same _, rfl, rfl, rfl, rfl⟩

end User.Alike

/-! ### Lists of users -/

/-- Each user of one list is alike to one of the other. -/
structure Matched (hasher : PasswordHasher) (ρ : Equiv.Perm UserId) (us vs : List User) : Prop where
  forth : ∀ u ∈ us, ∃ v ∈ vs, u.Alike hasher ρ v
  back : ∀ v ∈ vs, ∃ u ∈ us, u.Alike hasher ρ v

namespace Matched

variable {hasher : PasswordHasher} {ρ ρ' : Equiv.Perm UserId} {us vs : List User}

/-- Only the numbers of users have to correspond. -/
theorem congr (h : Matched hasher ρ us vs) (hid : ∀ u ∈ us, ρ' u.id = ρ u.id) :
    Matched hasher ρ' us vs where
  forth u hu :=
    let ⟨v, hv, halike⟩ := h.forth u hu
    ⟨v, hv, halike.congr (hid u hu)⟩
  back v hv :=
    let ⟨u, hu, halike⟩ := h.back v hv
    ⟨u, hu, halike.congr (hid u hu)⟩

theorem concat (h : Matched hasher ρ us vs) {u v : User} (halike : u.Alike hasher ρ v) :
    Matched hasher ρ (us ++ [u]) (vs ++ [v]) where
  forth u' hu' := by
    rcases List.mem_append.mp hu' with hu' | hu'
    · obtain ⟨v', hv', halike'⟩ := h.forth u' hu'
      exact ⟨v', List.mem_append_left _ hv', halike'⟩
    · exact ⟨v, by simp, List.mem_singleton.mp hu' ▸ halike⟩
  back v' hv' := by
    rcases List.mem_append.mp hv' with hv' | hv'
    · obtain ⟨u', hu', halike'⟩ := h.back v' hv'
      exact ⟨u', List.mem_append_left _ hu', halike'⟩
    · exact ⟨u, by simp, List.mem_singleton.mp hv' ▸ halike⟩

/-- What is done on both sides to the users of one number keeps the users alike. -/
theorem change (h : Matched hasher ρ us vs) (id : UserId) {f g : User → User}
    (hfg : ∀ u v, u.Alike hasher ρ v → (f u).Alike hasher ρ (g v)) :
    Matched hasher ρ (us.map fun u => if u.id = id then f u else u)
      (vs.map fun v => if v.id = ρ id then g v else v) := by
  have hboth : ∀ u v, u.Alike hasher ρ v → (if u.id = id then f u else u).Alike hasher ρ
      (if v.id = ρ id then g v else v) := by
    intro u v halike
    by_cases hu : u.id = id
    · rw [if_pos hu, if_pos ((halike.id_eq_iff id).mp hu)]
      exact hfg u v halike
    · rw [if_neg hu, if_neg fun hv => hu ((halike.id_eq_iff id).mpr hv)]
      exact halike
  constructor
  · intro _ hmem
    obtain ⟨u, hu, rfl⟩ := List.mem_map.mp hmem
    obtain ⟨v, hv, halike⟩ := h.forth u hu
    exact ⟨_, List.mem_map_of_mem hv, hboth u v halike⟩
  · intro _ hmem
    obtain ⟨v, hv, rfl⟩ := List.mem_map.mp hmem
    obtain ⟨u, hu, halike⟩ := h.back v hv
    exact ⟨_, List.mem_map_of_mem hu, hboth u v halike⟩

end Matched

/-! ### The same users -/

/-- An available directory and a table hold the same users. -/
structure SameUsers (hasher : PasswordHasher) (ρ : Equiv.Perm UserId) (dir : Directory)
    (table : UserTable) : Prop where
  available : dir.unavailable = false
  numbered : dir.Numbered
  names : dir.names.Nodup
  keyed : table.Keyed
  users : Matched hasher ρ dir.users table.rows

namespace SameUsers

variable {hasher : PasswordHasher} {ρ ρ' : Equiv.Perm UserId} {dir : Directory} {table : UserTable}

theorem congr (h : SameUsers hasher ρ dir table) (hid : ∀ u ∈ dir.users, ρ' u.id = ρ u.id) :
    SameUsers hasher ρ' dir table :=
  { h with users := h.users.congr hid }

/-- The next number of the table can be made the one that corresponds to the next number of the
directory. -/
theorem exists_extension (h : SameUsers hasher ρ dir table) :
    ∃ ρ' : Equiv.Perm UserId, (∀ u ∈ dir.users, ρ' u.id = ρ u.id) ∧
      ρ' ⟨dir.lastId + 1⟩ = ⟨table.lastId + 1⟩ := by
  refine ⟨ρ.trans (Equiv.swap (ρ ⟨dir.lastId + 1⟩) ⟨table.lastId + 1⟩), fun u hu => ?_, ?_⟩
  · obtain ⟨v, hv, hsame⟩ := h.users.forth u hu
    refine Equiv.swap_apply_of_ne_of_ne (fun heq => ?_) fun heq => ?_
    · have hle := h.numbered.le_lastId u hu
      have hvalue : u.id.value = dir.lastId + 1 := congrArg UserId.value (ρ.injective heq)
      omega
    · have hle := h.keyed.le_lastId v hv
      have hvalue : v.id.value = table.lastId + 1 := congrArg UserId.value (hsame.id.symm.trans heq)
      omega
  · exact Equiv.swap_apply_left _ _

/-! ### Look-ups -/

/-- Look-ups by corresponding values find users that are alike. -/
theorem rel_find? {κ κ' : Type} [DecidableEq κ] [DecidableEq κ'] (h : SameUsers hasher ρ dir table)
    {key : User → κ} {key' : User → κ'} {k : κ} {k' : κ'} (hkeys : (table.rows.map key').Nodup)
    (hsame : ∀ u v, u.Alike hasher ρ v → (key u = k ↔ key' v = k')) :
    Option.Rel (User.Alike hasher ρ) (dir.users.find? (key · == k))
      (table.rows.find? (key' · == k')) := by
  cases hfound : dir.users.find? (key · == k) with
  | some u =>
    obtain ⟨v, hv, halike⟩ := h.users.forth u (List.mem_of_find?_eq_some hfound)
    have hkey : key' v = k' := (hsame u v halike).mp (by simpa using List.find?_some hfound)
    rw [← hkey, find?_eq_some_of_nodup hkeys hv]
    exact .some halike
  | none =>
    have hnone : table.rows.find? (key' · == k') = none := by
      refine List.find?_eq_none.mpr fun v hv hkey => ?_
      obtain ⟨u, hu, halike⟩ := h.users.back v hv
      refine List.find?_eq_none.mp hfound u hu (beq_iff_eq.mpr ?_)
      exact (hsame u v halike).mpr (beq_iff_eq.mp hkey)
    rw [hnone]
    exact .none

theorem user? (h : SameUsers hasher ρ dir table) (id : UserId) :
    Option.Rel (User.Alike hasher ρ) (dir.user? id) (table.user? (ρ id)) :=
  h.rel_find? h.keyed.ids fun _ _ halike => halike.id_eq_iff id

theorem named? (h : SameUsers hasher ρ dir table) (username : String) :
    Option.Rel (User.Alike hasher ρ) (dir.named? username) (table.named? username) :=
  h.rel_find? h.keyed.names fun _ _ halike => by rw [halike.username]

/-! ### Calls on both sides -/

/-- What a call on each side leaves are the same users if they are still matched: names and numbers
stay unique in any case. -/
theorem make (h : SameUsers hasher ρ dir table) (s : Directory.Setting) (now : Moment)
    (digest : String → Except PasswordError String) {c c' : StoreCall} {dir' : Directory}
    {table' : UserTable} (hdir : (c.make (Directory.store s) dir).2 = dir')
    (htable : (c'.make (UserStore.ofQueries (UserTable.ask now) digest) table).2 = table')
    (havail : dir'.unavailable = false) (husers : Matched hasher ρ dir'.users table'.rows) :
    SameUsers hasher ρ dir' table' where
  available := havail
  numbered := hdir ▸ h.numbered.make s c
  names := hdir ▸ ((Directory.namesAfter_make s c).nodup_iff).mpr ⟨h.names, not_false⟩
  keyed := htable ▸ h.keyed.make now digest c'
  users := husers

end SameUsers

end Gatehouse
