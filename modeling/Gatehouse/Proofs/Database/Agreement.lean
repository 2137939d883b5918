import Gatehouse.Proofs.Database.SameUsers
import Mathlib.Data.List.Forall2

/-!
# The store in memory and the store in the database

A directory in memory stands in for the database where there is none. `SameUsers.exists_meeting`
says how far it does: as long as both hold the same users, every call of the store is answered alike
on both sides and leaves the same users, with one exception. Changing a user who is not there
(`Visit.stray?`) is a failure in memory; the database changes no row, and nothing is said about it.
Either way nothing is changed, so also after such calls both go on alike.
-/

namespace Gatehouse

/-! ### Answers to calls -/

/-- The answer to a call of a store. -/
inductive CallResult where
  | found (user : Option User)
  | given (user : User)
  | done
  | failed (e : StoreError)
  deriving DecidableEq

/-- The answer that says what a call gave. -/
def CallResult.ofExcept {α : Type} (wrap : α → CallResult) : Except StoreError α → CallResult
  | .ok a => wrap a
  | .error e => .failed e

/-- Answers that are alike: both are failures with the same error, or neither is, and the users in
them are alike. -/
inductive CallResult.Alike (hasher : PasswordHasher) (ρ : Equiv.Perm UserId) :
    CallResult → CallResult → Prop where
  | found (u v : Option User) (h : Option.Rel (User.Alike hasher ρ) u v) :
    Alike hasher ρ (.found u) (.found v)
  | given (u v : User) (h : u.Alike hasher ρ v) : Alike hasher ρ (.given u) (.given v)
  | done : Alike hasher ρ .done .done
  | failed (e : StoreError) : Alike hasher ρ (.failed e) (.failed e)

namespace StoreCall

/-- The answer to a call as one of a common type. -/
def result : (c : StoreCall) → c.Answer → CallResult
  | .findById _ => .ofExcept .found
  | .findByUsername _ => .ofExcept .found
  | .findOrCreate _ => .ofExcept .given
  | .updatePassword _ _ => .ofExcept fun _ => .done
  | .updateRefreshDigest _ _ => .ofExcept fun _ => .done

/-- Makes a call. -/
def perform {σ : Type} (users : UserStore (StateM σ)) (c : StoreCall) (s : σ) : CallResult × σ :=
  (c.result (c.make users s).1, (c.make users s).2)

/-- The same call with its number renamed. -/
def rename (ρ : Equiv.Perm UserId) : StoreCall → StoreCall
  | .findById id => .findById (ρ id)
  | .findByUsername username => .findByUsername username
  | .findOrCreate t => .findOrCreate t
  | .updatePassword id password => .updatePassword (ρ id) password
  | .updateRefreshDigest id digest => .updateRefreshDigest (ρ id) digest

end StoreCall

/-- A call that is made on both sides, with the time and the salt that each side has for it. -/
structure Visit where
  call : StoreCall
  now : Moment
  now' : Moment
  salt : Bytes
  salt' : Bytes
  salt_ok : 8 ≤ salt.length
  salt'_ok : 8 ≤ salt'.length

namespace Visit

variable (hasher : PasswordHasher) (ρ : Equiv.Perm UserId)

/-- The call in memory. -/
def inMemory (v : Visit) (dir : Directory) : CallResult × Directory :=
  v.call.perform (Directory.store ⟨v.now, v.salt, hasher⟩) dir

/-- The call in the database, with its number renamed. -/
def inDatabase (v : Visit) (table : UserTable) : CallResult × UserTable :=
  (v.call.rename ρ).perform (.ofDatabase (UserTable.database v.now') v.salt' hasher) table

/-- The call in the database asks the table. -/
theorem inDatabase_eq (v : Visit) (table : UserTable) :
    v.inDatabase hasher ρ table =
      (v.call.rename ρ).perform (.ofQueries (UserTable.ask v.now') (hasher.make v.salt'))
        table := by
  rw [inDatabase, UserTable.ofDatabase_database]

/-- The number of nobody that a call would change the user of. A password that has no digest is
refused before that. -/
def stray? (dir : Directory) (v : Visit) : Option UserId :=
  match v.call with
  | .updatePassword id password =>
    match hasher.make v.salt password with
    | .error _ => none
    | .ok _ => if (dir.user? id).isSome then none else some id
  | .updateRefreshDigest id _ => if (dir.user? id).isSome then none else some id
  | _ => none

end Visit

/-! ### One call -/

/-- What comes of a call on both sides: alike answers and the same users. -/
def Agrees (hasher : PasswordHasher) (ρ : Equiv.Perm UserId) (out : CallResult × Directory)
    (out' : CallResult × UserTable) : Prop :=
  CallResult.Alike hasher ρ out.1 out'.1 ∧ SameUsers hasher ρ out.2 out'.2

section

variable {hasher : PasswordHasher} {ρ ρ' : Equiv.Perm UserId} {dir : Directory} {table : UserTable}

/-- Whether a password has a digest does not depend on the salt, if it is long enough. -/
theorem make_cases (hasher : PasswordHasher) {salt salt' : Bytes} (hsalt : 8 ≤ salt.length)
    (hsalt' : 8 ≤ salt'.length) (password : String) :
    (∃ e, hasher.make salt password = .error e ∧ hasher.make salt' password = .error e) ∨
      hasher.make salt password = .ok (hasher.hash salt password) ∧
        hasher.make salt' password = .ok (hasher.hash salt' password) := by
  simp only [PasswordHasher.make, PasswordDigest.checkInputs, if_neg (Nat.not_lt.mpr hsalt),
    if_neg (Nat.not_lt.mpr hsalt')]
  by_cases hlong : 0xFFFFFFFF < (Text.utf8 password).length
  · rw [if_pos hlong]
    exact .inl ⟨_, rfl, rfl⟩
  · rw [if_neg hlong]
    exact .inr ⟨rfl, rfl⟩

theorem StoreCall.perform_eq {σ : Type} {users : UserStore (StateM σ)} {c : StoreCall} {s s' : σ}
    {answer : c.Answer} (h : c.make users s = (answer, s')) :
    c.perform users s = (c.result answer, s') := by
  rw [perform, h]

namespace SameUsers

variable (s : Directory.Setting) (now : Moment) (digest : String → Except PasswordError String)

theorem agrees_findById (h : SameUsers hasher ρ dir table) (id : UserId) :
    Agrees hasher ρ ((StoreCall.findById id).perform (Directory.store s) dir)
      ((StoreCall.findById (ρ id)).perform (.ofQueries (UserTable.ask now) digest) table) := by
  have hmem : (StoreCall.findById id).make (Directory.store s) dir = (.ok (dir.user? id), dir) :=
    Directory.guarded_of_available h.available _
  rw [StoreCall.perform_eq hmem,
    StoreCall.perform_eq (UserTable.make_findById now digest table (ρ id))]
  exact ⟨.found _ _ (h.user? id), h⟩

theorem agrees_findByUsername (h : SameUsers hasher ρ dir table) (username : String) :
    Agrees hasher ρ ((StoreCall.findByUsername username).perform (Directory.store s) dir)
      ((StoreCall.findByUsername username).perform (.ofQueries (UserTable.ask now) digest)
        table) := by
  have hmem : (StoreCall.findByUsername username).make (Directory.store s) dir =
      (.ok (dir.named? username), dir) :=
    Directory.guarded_of_available h.available _
  rw [StoreCall.perform_eq hmem,
    StoreCall.perform_eq (UserTable.make_findByUsername now digest table username)]
  exact ⟨.found _ _ (h.named? username), h⟩

/-- A user is found on both sides or created on both, under numbers that correspond. -/
theorem agrees_findOrCreate (h : SameUsers hasher ρ dir table) (t : UserTemplate)
    (hnew : dir.named? t.username = none → ρ ⟨dir.lastId + 1⟩ = ⟨table.lastId + 1⟩) :
    Agrees hasher ρ ((StoreCall.findOrCreate t).perform (Directory.store s) dir)
      ((StoreCall.findOrCreate t).perform (.ofQueries (UserTable.ask now) digest) table) := by
  have htable := UserTable.make_findOrCreate now digest table t
  have hrel := h.named? t.username
  cases hu : dir.named? t.username with
  | some u =>
    have hmem : (StoreCall.findOrCreate t).make (Directory.store s) dir = (.ok u, dir) :=
      Directory.findOrCreate_of_some h.available hu s.now
    cases hv : table.named? t.username with
    | none =>
      rw [hu, hv] at hrel
      cases hrel
    | some v =>
      rw [hu, hv] at hrel
      rw [hv] at htable
      cases hrel with
      | some halike =>
        rw [StoreCall.perform_eq hmem, StoreCall.perform_eq htable]
        exact ⟨.given u v halike, h.make s now digest (congrArg Prod.snd hmem)
          (congrArg Prod.snd htable) h.available h.users⟩
  | none =>
    have hmem : (StoreCall.findOrCreate t).make (Directory.store s) dir =
        (.ok (dir.create t s.now).1, (dir.create t s.now).2) :=
      Directory.findOrCreate_of_none h.available hu s.now
    cases hv : table.named? t.username with
    | some v =>
      rw [hu, hv] at hrel
      cases hrel
    | none =>
      have halike : (User.ofTemplate ⟨dir.lastId + 1⟩ t s.now).Alike hasher ρ
          (.ofTemplate ⟨table.lastId + 1⟩ t now) := .ofTemplate (hnew hu) t s.now now
      rw [hv] at htable
      rw [StoreCall.perform_eq hmem, StoreCall.perform_eq htable]
      exact ⟨.given _ _ halike, h.make s now digest (congrArg Prod.snd hmem)
        (congrArg Prod.snd htable) h.available (h.users.concat halike)⟩

variable {c c' : StoreCall} {id : UserId} {f g : User → User}

/-- A user who is there is changed on both sides. -/
theorem agrees_update (h : SameUsers hasher ρ dir table) (hid : (dir.user? id).isSome = true)
    (hmem : c.perform (Directory.store s) dir =
      (.ofExcept (fun _ => .done) (dir.change id f).1, (dir.change id f).2))
    (htable : c'.perform (.ofQueries (UserTable.ask now) digest) table =
      (.done, table.change (ρ id) g))
    (hfg : ∀ u v, u.Alike hasher ρ v → (f u).Alike hasher ρ (g v)) :
    Agrees hasher ρ (c.perform (Directory.store s) dir)
      (c'.perform (.ofQueries (UserTable.ask now) digest) table) := by
  obtain ⟨u, hu⟩ := Option.isSome_iff_exists.mp hid
  have hchange : dir.change id f =
      (.ok (), { dir with users := Directory.changeFirst id f dir.users }) := by
    rw [Directory.change, hu]
  rw [hchange] at hmem
  rw [hmem, htable]
  refine ⟨.done, h.make s now digest (congrArg Prod.snd hmem) (congrArg Prod.snd htable)
    h.available ?_⟩
  show Matched hasher ρ (Directory.changeFirst id f dir.users) (table.change (ρ id) g).rows
  rw [Directory.changeFirst_eq_map h.numbered.nodup]
  exact h.users.change id hfg

/-- The table changes no row for a number of nobody. -/
theorem change_of_none (h : SameUsers hasher ρ dir table) (hid : dir.user? id = none) :
    table.change (ρ id) g = table := by
  have hrel := h.user? id
  rw [hid] at hrel
  rw [UserTable.change, Directory.map_ite_eq_self fun v hv hv' => ?_]
  cases hnone : table.user? (ρ id) with
  | none => exact List.find?_eq_none.mp hnone v hv (beq_iff_eq.mpr hv')
  | some v =>
    rw [hnone] at hrel
    cases hrel

/-- Of a user who is not there the directory says so, and the table does not. -/
theorem stray_update (h : SameUsers hasher ρ dir table) (hid : dir.user? id = none)
    (hmem : c.perform (Directory.store s) dir =
      (.ofExcept (fun _ => .done) (dir.change id f).1, (dir.change id f).2))
    (htable : c'.perform (.ofQueries (UserTable.ask now) digest) table =
      (.done, table.change (ρ id) g)) :
    c.perform (Directory.store s) dir = (.failed (Directory.noUser id), dir) ∧
      c'.perform (.ofQueries (UserTable.ask now) digest) table = (.done, table) := by
  rw [hmem, htable, Directory.change, hid, h.change_of_none hid]
  exact ⟨rfl, rfl⟩

end SameUsers

/-- A call that meets the same users on both sides: it is answered alike and leaves the same users,
unless it would change a user who is not there. -/
structure Meeting (hasher : PasswordHasher) (ρ : Equiv.Perm UserId) (v : Visit) (dir : Directory)
    (table : UserTable) : Prop where
  same : SameUsers hasher ρ dir table
  agrees : v.stray? hasher dir = none →
    Agrees hasher ρ (v.inMemory hasher dir) (v.inDatabase hasher ρ table)
  stray : ∀ id, v.stray? hasher dir = some id →
    v.inMemory hasher dir = (.failed (Directory.noUser id), dir) ∧
      v.inDatabase hasher ρ table = (.done, table)

theorem Meeting.after {v : Visit} (h : Meeting hasher ρ v dir table) :
    SameUsers hasher ρ (v.inMemory hasher dir).2 (v.inDatabase hasher ρ table).2 := by
  cases hstray : v.stray? hasher dir with
  | none => exact (h.agrees hstray).2
  | some id =>
    obtain ⟨hmem, htable⟩ := h.stray id hstray
    rw [hmem, htable]
    exact h.same

/-- A call that changes a user is never stray if the user is there, and else always. -/
theorem SameUsers.meeting_of_update (h : SameUsers hasher ρ dir table) {v : Visit} (id : UserId)
    {f g : User → User}
    (hstray : v.stray? hasher dir = if (dir.user? id).isSome then none else some id)
    (hmem : v.inMemory hasher dir =
      (.ofExcept (fun _ => .done) (dir.change id f).1, (dir.change id f).2))
    (htable : v.inDatabase hasher ρ table = (.done, table.change (ρ id) g))
    (hfg : ∀ u v, u.Alike hasher ρ v → (f u).Alike hasher ρ (g v)) :
    Meeting hasher ρ v dir table := by
  rw [Visit.inDatabase_eq] at htable
  refine ⟨h, fun hnone => ?_, fun id' hsome => ?_⟩
  · have hid : (dir.user? id).isSome = true := by
      by_contra hid
      rw [hstray, if_neg hid] at hnone
      cases hnone
    rw [Visit.inDatabase_eq]
    exact h.agrees_update _ _ _ hid hmem htable hfg
  · have hid : dir.user? id = none := by
      by_contra hid
      rw [hstray, if_pos (Option.isSome_iff_ne_none.mpr hid)] at hsome
      cases hsome
    rw [hstray, hid] at hsome
    cases hsome
    rw [Visit.inDatabase_eq]
    exact h.stray_update _ _ _ hid hmem htable

theorem SameUsers.meeting_updateRefreshDigest (h : SameUsers hasher ρ dir table) {v : Visit}
    {id : UserId} {digest : Option String} (hcall : v.call = .updateRefreshDigest id digest) :
    Meeting hasher ρ v dir table := by
  have hmem : (StoreCall.updateRefreshDigest id digest).make
      (Directory.store ⟨v.now, v.salt, hasher⟩) dir =
        dir.change id (·.setRefreshDigest digest v.now) :=
    Directory.guarded_of_available h.available _
  have htable := UserTable.make_updateRefreshDigest v.now' (hasher.make v.salt') table (ρ id) digest
  refine h.meeting_of_update id (f := (·.setRefreshDigest digest v.now))
    (g := (·.setRefreshDigest digest v.now')) ?_ ?_ ?_
    fun _ _ halike => halike.setRefreshDigest digest v.now v.now'
  · rw [Visit.stray?, hcall]
  · rw [Visit.inMemory, hcall]
    exact StoreCall.perform_eq hmem
  · rw [Visit.inDatabase_eq, hcall]
    exact StoreCall.perform_eq htable

theorem SameUsers.meeting_updatePassword (h : SameUsers hasher ρ dir table) {v : Visit}
    {id : UserId} {password : String} (hcall : v.call = .updatePassword id password) :
    Meeting hasher ρ v dir table := by
  have hmem : (StoreCall.updatePassword id password).make
      (Directory.store ⟨v.now, v.salt, hasher⟩) dir = _ :=
    Directory.withDigest_eq ⟨v.now, v.salt, hasher⟩ password _ dir
  have htable := UserTable.make_updatePassword v.now' (hasher.make v.salt') table (ρ id) password
  rcases make_cases hasher v.salt_ok v.salt'_ok password with ⟨e, hmake, hmake'⟩ | ⟨hmake, hmake'⟩
  · -- no side makes a digest, and both say why
    simp only [hmake] at hmem
    rw [hmake'] at htable
    refine ⟨h, fun _ => ?_, fun id' hsome => ?_⟩
    · rw [Visit.inMemory, Visit.inDatabase_eq, hcall, StoreCall.rename,
        StoreCall.perform_eq hmem, StoreCall.perform_eq htable]
      exact ⟨.failed _, h⟩
    · simp only [Visit.stray?, hcall, hmake] at hsome
      cases hsome
  · simp only [hmake, Directory.updatePasswordDigest,
      Directory.guarded_of_available h.available] at hmem
    rw [hmake'] at htable
    refine h.meeting_of_update id
      (f := (·.setPasswordDigest (some (hasher.hash v.salt password)) v.now))
      (g := (·.setPasswordDigest (some (hasher.hash v.salt' password)) v.now')) ?_ ?_ ?_
      fun _ _ halike => halike.setPasswordDigest (.salted password v.salt v.salt') v.now v.now'
    · simp only [Visit.stray?, hcall, hmake]
    · rw [Visit.inMemory, hcall]
      exact StoreCall.perform_eq hmem
    · rw [Visit.inDatabase_eq, hcall]
      exact StoreCall.perform_eq htable

/-- **Where both sides hold the same users, a call meets the same users.** If it creates one, the
numbers that both sides have for it must correspond. -/
theorem SameUsers.meeting (h : SameUsers hasher ρ dir table) (v : Visit)
    (hnew : ∀ t, v.call = .findOrCreate t → dir.named? t.username = none →
      ρ ⟨dir.lastId + 1⟩ = ⟨table.lastId + 1⟩) : Meeting hasher ρ v dir table := by
  cases hcall : v.call with
  | findById id =>
    refine ⟨h, fun _ => ?_, fun id' hsome => by simp [Visit.stray?, hcall] at hsome⟩
    rw [Visit.inMemory, Visit.inDatabase_eq, hcall]
    exact h.agrees_findById _ _ _ id
  | findByUsername username =>
    refine ⟨h, fun _ => ?_, fun id' hsome => by simp [Visit.stray?, hcall] at hsome⟩
    rw [Visit.inMemory, Visit.inDatabase_eq, hcall]
    exact h.agrees_findByUsername _ _ _ username
  | findOrCreate t =>
    refine ⟨h, fun _ => ?_, fun id' hsome => by simp [Visit.stray?, hcall] at hsome⟩
    rw [Visit.inMemory, Visit.inDatabase_eq, hcall]
    exact h.agrees_findOrCreate _ _ _ t (hnew t hcall)
  | updatePassword id password => exact h.meeting_updatePassword hcall
  | updateRefreshDigest id digest => exact h.meeting_updateRefreshDigest hcall

/-! ### Numbers on both sides -/

/-- What a call leaves of the table depends only on the numbers of users: for a number of nobody
it is the table itself. -/
theorem SameUsers.inDatabase_congr (h : SameUsers hasher ρ dir table)
    (hid : ∀ u ∈ dir.users, ρ' u.id = ρ u.id) (v : Visit) :
    (v.inDatabase hasher ρ' table).2 = (v.inDatabase hasher ρ table).2 := by
  have hchange : ∀ id (g : User → User), table.change (ρ' id) g = table.change (ρ id) g := by
    intro id g
    cases hu : dir.user? id with
    | none => rw [h.change_of_none hu, (h.congr hid).change_of_none hu]
    | some u =>
      have hsame := hid u (List.mem_of_find?_eq_some hu)
      rw [Directory.id_of_user? hu] at hsame
      rw [hsame]
  rw [Visit.inDatabase_eq, Visit.inDatabase_eq]
  cases v.call with
  | findById id => rfl
  | findByUsername username => rfl
  | findOrCreate t => rfl
  | updatePassword id password =>
    simp only [StoreCall.rename, StoreCall.perform, UserTable.make_updatePassword]
    cases hasher.make v.salt' password with
    | error e => rfl
    | ok digest => exact hchange id _
  | updateRefreshDigest id digest =>
    simp only [StoreCall.rename, StoreCall.perform, UserTable.make_updateRefreshDigest]
    exact hchange id _

/-- The number of a user who is created is the next one. -/
theorem SameUsers.mem_ids_of_created (h : SameUsers hasher ρ dir table) {v : Visit}
    {t : UserTemplate} (hcall : v.call = .findOrCreate t) (hnamed : dir.named? t.username = none) :
    (⟨dir.lastId + 1⟩ : UserId) ∈ (v.inMemory hasher dir).2.users.map (·.id) := by
  rw [Visit.inMemory, hcall]
  show _ ∈ (dir.findOrCreate t v.now).2.users.map (·.id)
  rw [Directory.findOrCreate_of_none h.available hnamed, Directory.create, List.map_append]
  exact List.mem_append_right _ (List.mem_singleton_self _)

end

/-! ### One call after the other -/

namespace Visit

variable {σ : Type} (serve : Visit → σ → CallResult × σ)

/-- What some calls leave. -/
def after (s : σ) (visits : List Visit) : σ :=
  visits.foldl (fun s v => (serve v s).2) s

/-- The answers to some calls. -/
def replies : σ → List Visit → List CallResult
  | _, [] => []
  | s, v :: visits => (serve v s).1 :: replies (serve v s).2 visits

end Visit

section

variable {hasher : PasswordHasher} {ρ ρ' : Equiv.Perm UserId} {dir : Directory} {table : UserTable}

/-- **From the same users on, every call meets the same users**, under one renaming of the numbers
of the directory for all calls. -/
theorem SameUsers.exists_meeting (h : SameUsers hasher ρ dir table) (visits : List Visit) :
    ∃ ρ' : Equiv.Perm UserId, (∀ u ∈ dir.users, ρ' u.id = ρ u.id) ∧
      ∀ before v after, visits = before ++ v :: after →
        Meeting hasher ρ' v (Visit.after (Visit.inMemory hasher) dir before)
          (Visit.after (Visit.inDatabase hasher ρ') table before) := by
  -- the renaming is extended by one number for each call, before the calls that follow extend it
  induction visits generalizing ρ dir table with
  | nil =>
    refine ⟨ρ, fun _ _ => rfl, fun before v after hsplit => ?_⟩
    cases before <;> cases hsplit
  | cons v visits ih =>
    obtain ⟨ρ₁, hext, hnext⟩ := h.exists_extension
    have h₁ : SameUsers hasher ρ₁ dir table := h.congr hext
    obtain ⟨ρ', hext', hrest⟩ := ih (h₁.meeting v fun _ _ _ => hnext).after
    have hids : ∀ id ∈ (v.inMemory hasher dir).2.users.map (·.id), ρ' id = ρ₁ id := by
      intro id hid
      obtain ⟨u, hu, rfl⟩ := List.mem_map.mp hid
      exact hext' u hu
    have hold : ∀ u ∈ dir.users, ρ' u.id = ρ₁ u.id := fun u hu =>
      hids u.id (Directory.mem_ids_make _ _ (List.mem_map_of_mem hu))
    refine ⟨ρ', fun u hu => (hold u hu).trans (hext u hu), ?_⟩
    rintro (_ | ⟨first, before⟩) w after hsplit
    · cases hsplit
      exact (h₁.congr hold).meeting v fun t hcall hnamed =>
        (hids _ (h₁.mem_ids_of_created hcall hnamed)).trans hnext
    · cases hsplit
      have hmeet := hrest before w after rfl
      rw [← h₁.inDatabase_congr hold] at hmeet
      exact hmeet

/-- A call that would change a user who is not there fails in memory and is done in the database,
whatever the table holds. -/
theorem Visit.replies_of_stray {v : Visit} {id : UserId} (h : v.stray? hasher dir = some id)
    (ρ : Equiv.Perm UserId) (table : UserTable) :
    (∃ e, (v.inMemory hasher dir).1 = .failed e) ∧ (v.inDatabase hasher ρ table).1 = .done := by
  have hchange : ∀ (id : UserId) (f : User → User), ¬ (dir.user? id).isSome = true →
      ∃ e, (dir.guarded (dir.change id f)).1 = .error e := by
    intro id f hnone
    rw [Option.not_isSome_iff_eq_none] at hnone
    rw [Directory.guarded, Directory.change, hnone]
    split
    · exact ⟨_, rfl⟩
    · exact ⟨_, rfl⟩
  have habsent : ∀ id' : UserId, (if (dir.user? id').isSome then none else some id') = some id →
      ¬ (dir.user? id').isSome = true := fun id' h hsome => by
    rw [if_pos hsome] at h
    cases h
  rw [inMemory, inDatabase_eq]
  rw [stray?] at h
  cases hcall : v.call with
  | findById id' => simp [hcall] at h
  | findByUsername username => simp [hcall] at h
  | findOrCreate t => simp [hcall] at h
  | updateRefreshDigest id' digest =>
    rw [hcall] at h
    obtain ⟨e, hfailed⟩ := hchange id' (·.setRefreshDigest digest v.now) (habsent id' h)
    refine ⟨⟨e, congrArg (CallResult.ofExcept fun _ => .done) hfailed⟩, ?_⟩
    rw [StoreCall.rename, StoreCall.perform_eq (UserTable.make_updateRefreshDigest ..)]
    rfl
  | updatePassword id' password =>
    rw [hcall] at h
    rcases make_cases hasher v.salt_ok v.salt'_ok password with
      ⟨e, hmake, -⟩ | ⟨hmake, hmake'⟩
    · simp [hmake] at h
    · simp only [hmake] at h
      obtain ⟨e, hfailed⟩ := hchange id'
        (·.setPasswordDigest (some (hasher.hash v.salt password)) v.now) (habsent id' h)
      have hmem : (StoreCall.updatePassword id' password).make
          (Directory.store ⟨v.now, v.salt, hasher⟩) dir = _ :=
        Directory.withDigest_eq ⟨v.now, v.salt, hasher⟩ password _ dir
      have htable :=
        UserTable.make_updatePassword v.now' (hasher.make v.salt') table (ρ id') password
      simp only [hmake] at hmem
      rw [hmake'] at htable
      refine ⟨⟨e, ?_⟩, ?_⟩
      · rw [StoreCall.perform_eq hmem]
        exact congrArg (CallResult.ofExcept fun _ => .done) hfailed
      · rw [StoreCall.rename, StoreCall.perform_eq htable]
        rfl

/-- Answers to calls are alike only if no call would change a user who is not there. -/
theorem Visit.stray?_eq_none_of_alike {visits : List Visit}
    (h : List.Forall₂ (CallResult.Alike hasher ρ) (replies (inMemory hasher) dir visits)
      (replies (inDatabase hasher ρ) table visits)) :
    ∀ before v after, visits = before ++ v :: after →
      v.stray? hasher (Visit.after (inMemory hasher) dir before) = none := by
  induction visits generalizing dir table with
  | nil =>
    intro before v after hsplit
    cases before <;> cases hsplit
  | cons v visits ih =>
    rw [replies, replies, List.forall₂_cons] at h
    rintro (_ | ⟨first, before⟩) w after hsplit
    · cases hsplit
      show v.stray? hasher dir = none
      by_contra hstray
      obtain ⟨id, hid⟩ := Option.ne_none_iff_exists'.mp hstray
      obtain ⟨⟨e, hfailed⟩, hdone⟩ := replies_of_stray hid ρ table
      have halike := h.1
      rw [hfailed, hdone] at halike
      cases halike
    · cases hsplit
      exact ih h.2 before w after rfl

/-- Calls that meet the same users are answered alike if none of them would change a user who is not
there. -/
theorem forall₂_alike_of_meeting {visits : List Visit}
    (hmeet : ∀ before v after, visits = before ++ v :: after →
      Meeting hasher ρ v (Visit.after (Visit.inMemory hasher) dir before)
        (Visit.after (Visit.inDatabase hasher ρ) table before))
    (hnone : ∀ before v after, visits = before ++ v :: after →
      v.stray? hasher (Visit.after (Visit.inMemory hasher) dir before) = none) :
    List.Forall₂ (CallResult.Alike hasher ρ) (Visit.replies (Visit.inMemory hasher) dir visits)
      (Visit.replies (Visit.inDatabase hasher ρ) table visits) := by
  induction visits generalizing dir table with
  | nil => exact .nil
  | cons v visits ih =>
    refine .cons ((hmeet [] v visits rfl).agrees (hnone [] v visits rfl)).1 (ih ?_ ?_)
    · rintro before w after rfl
      exact hmeet (v :: before) w after rfl
    · rintro before w after rfl
      exact hnone (v :: before) w after rfl

/-- **Where the store in memory and the store in the database agree.** A directory and a table hold
the same users, up to some renaming of numbers. Then for any row of calls the answers of both are
alike, under one renaming of all numbers in calls and answers, exactly if no call would change a
user who is not there. In any case there is a renaming under which each call meets the same users:
a call that would change a user who is not there fails in memory and is done in the database, and
every other call is answered alike. -/
theorem SameUsers.replies_alike_iff (h : SameUsers hasher ρ dir table) (visits : List Visit) :
    ((∃ ρ' : Equiv.Perm UserId, (∀ u ∈ dir.users, ρ' u.id = ρ u.id) ∧
        List.Forall₂ (CallResult.Alike hasher ρ')
          (Visit.replies (Visit.inMemory hasher) dir visits)
          (Visit.replies (Visit.inDatabase hasher ρ') table visits)) ↔
      ∀ before v after, visits = before ++ v :: after →
        v.stray? hasher (Visit.after (Visit.inMemory hasher) dir before) = none) ∧
    ∃ ρ' : Equiv.Perm UserId, (∀ u ∈ dir.users, ρ' u.id = ρ u.id) ∧
      ∀ before v after, visits = before ++ v :: after →
        Meeting hasher ρ' v (Visit.after (Visit.inMemory hasher) dir before)
          (Visit.after (Visit.inDatabase hasher ρ') table before) := by
  obtain ⟨ρ', hext, hmeet⟩ := h.exists_meeting visits
  refine ⟨⟨?_, fun hnone => ⟨ρ', hext, forall₂_alike_of_meeting hmeet hnone⟩⟩, ρ', hext, hmeet⟩
  rintro ⟨_, -, halike⟩
  exact Visit.stray?_eq_none_of_alike halike

end

namespace Sample

/-- A call at the beginning of time in memory, and a second later in the database. -/
def onBothSides (c : StoreCall) : Visit :=
  ⟨c, .ofSeconds 0, .ofSeconds 1, List.replicate 16 0, List.replicate 16 1, by decide, by decide⟩

/-- Nobody is the same as nobody. -/
theorem sameUsers_empty (hasher : PasswordHasher) :
    SameUsers hasher (.refl UserId) .empty ⟨[], 0⟩ where
  available := rfl
  numbered := Directory.numbered_empty
  names := List.nodup_nil
  keyed := ⟨List.nodup_nil, List.nodup_nil, fun _ hu => absurd hu List.not_mem_nil⟩
  users := ⟨fun _ hu => absurd hu List.not_mem_nil, fun _ hv => absurd hv List.not_mem_nil⟩

/-- A user signs up twice and another once, who then gets a password. -/
def signUps : List Visit :=
  [onBothSides (.findOrCreate (.ofUsername "u")), onBothSides (.findOrCreate (.ofUsername "u")),
    onBothSides (.findOrCreate (.ofUsername "v")), onBothSides (.updatePassword ⟨2⟩ "p")]

end Sample

/-- The user who is second in memory is third in the database. -/
theorem SameUsers.replies_alike_signUps :
    let hasher := Sample.setting.hasher
    ∃ ρ : Equiv.Perm UserId, ρ ⟨2⟩ = ⟨3⟩ ∧ List.Forall₂ (CallResult.Alike hasher ρ)
      (Visit.replies (Visit.inMemory hasher) .empty Sample.signUps)
      (Visit.replies (Visit.inDatabase hasher ρ) ⟨[], 0⟩ Sample.signUps) := by
  intro hasher
  obtain ⟨ρ, -, halike⟩ := ((Sample.sameUsers_empty hasher).replies_alike_iff Sample.signUps).1.mpr
    (by
      rintro (_ | ⟨_, _ | ⟨_, _ | ⟨_, _ | ⟨_, before⟩⟩⟩⟩) v after hsplit
      · cases hsplit
        rfl
      · cases hsplit
        rfl
      · cases hsplit
        rfl
      · cases hsplit
        rfl
      · simp [Sample.signUps] at hsplit)
  refine ⟨ρ, ?_, halike⟩
  -- the third answers tell how the second user is numbered
  simp only [Sample.signUps, Visit.replies, List.forall₂_cons, Visit.inDatabase_eq] at halike
  have hthird : CallResult.Alike hasher ρ
      (.given (.ofTemplate ⟨2⟩ (.ofUsername "v") (.ofSeconds 0)))
      (.given (.ofTemplate ⟨3⟩ (.ofUsername "v") (.ofSeconds 1))) := halike.2.2.1
  cases hthird with
  | given _ _ h => exact h.id

/-- Where nobody is there, taking back the token of user 1 fails in memory and is done in the
database, whichever way users are numbered. -/
theorem SameUsers.replies_not_alike :
    let hasher := Sample.setting.hasher
    let visits := [Sample.onBothSides (.updateRefreshDigest ⟨1⟩ none)]
    SameUsers hasher (.refl UserId) .empty ⟨[], 0⟩ ∧ ∀ ρ : Equiv.Perm UserId,
      Visit.replies (Visit.inMemory hasher) .empty visits =
          [.failed (Directory.noUser ⟨1⟩)] ∧
        Visit.replies (Visit.inDatabase hasher ρ) ⟨[], 0⟩ visits = [.done] ∧
          ¬ List.Forall₂ (CallResult.Alike hasher ρ)
            (Visit.replies (Visit.inMemory hasher) .empty visits)
            (Visit.replies (Visit.inDatabase hasher ρ) ⟨[], 0⟩ visits) := by
  intro hasher visits
  refine ⟨Sample.sameUsers_empty hasher, fun ρ => ?_⟩
  have hmem : Visit.replies (Visit.inMemory hasher) .empty visits =
      [.failed (Directory.noUser ⟨1⟩)] := rfl
  have hdatabase : Visit.replies (Visit.inDatabase hasher ρ) ⟨[], 0⟩ visits = [.done] := by
    simp only [visits, Visit.replies, Visit.inDatabase_eq]
    rfl
  refine ⟨hmem, hdatabase, fun halike => ?_⟩
  rw [hmem, hdatabase] at halike
  cases halike with
  | cons h _ => cases h

end Gatehouse
