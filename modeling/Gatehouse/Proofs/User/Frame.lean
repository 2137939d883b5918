import Gatehouse.Proofs.User.Names

/-!
# What the operations of a directory do, and what they leave

An operation leaves the directory as it is, adds one user behind the others, changes one user in
place, or sets whether the directory refuses (`Effect`). So the numbers of a directory that begins
without users are one, two, three and so on in the order in which the users were created, and an
empty digest is never kept (`Consecutive`).

`Frame` says for each operation of an available directory what it answers and what becomes of the
directory, the users and fields that it has nothing to do with included. It holds in every state
that can be reached (`consecutive_and_frame_follow`).
-/

namespace Gatehouse.Directory

variable {dir : Directory}

/-! ### What an operation may do -/

/-- A change that is made to a user. -/
inductive Revision : (User → User) → Prop where
  | password (digest : String) (now : Moment) : Revision (·.setPasswordDigest (some digest) now)
  | refresh (digest : Option String) (now : Moment) : Revision (·.setRefreshDigest digest now)
  | active (active : Bool) (now : Moment) : Revision (·.setActive active now)

/-- What may become of a directory. -/
inductive Effect (dir : Directory) : Directory → Prop where
  | same : Effect dir dir
  | created (t : UserTemplate) (now : Moment) : Effect dir (dir.create t now).2
  | changed (id : UserId) {f : User → User} (h : Revision f) : Effect dir (dir.change id f).2
  | marked (value : Bool) : Effect dir (dir.setUnavailable value)

theorem effect_make (s : Setting) (c : StoreCall) : Effect dir (c.make (store s) dir).2 := by
  cases c with
  | findById id => exact guarded_keeps .same .same
  | findByUsername username => exact guarded_keeps .same .same
  | findOrCreate t =>
    refine guarded_keeps .same ?_
    split
    · exact .same
    · exact .created t s.now
  | updatePassword id password =>
    exact withDigest_keeps .same fun digest =>
      guarded_keeps .same (.changed id (.password digest s.now))
  | updateRefreshDigest id digest => exact guarded_keeps .same (.changed id (.refresh digest s.now))

/-- **What an operation may do.** -/
theorem Step.effect (dir : Directory) (step : Step) : Effect dir (step.apply dir) := by
  cases step with
  | call s c => exact effect_make s c
  | change s c =>
    cases c with
    | findOrCreate t => exact effect_make s (.findOrCreate t)
    | insertWithPassword t password =>
      exact withDigest_keeps .same fun digest => guarded_keeps .same (.created _ s.now)
    | updatePassword id password => exact effect_make s (.updatePassword id password)
    | setActive id active => exact .changed id (.active active s.now)
    | setUnavailable value => exact .marked value

namespace Revision

variable {f : User → User}

theorem id_eq (h : Revision f) (u : User) : (f u).id = u.id := by
  cases h <;> rfl

/-- No change stores an empty digest. -/
theorem refreshDigest_ne (h : Revision f) {u : User} (hu : u.refreshDigest ≠ some "") :
    (f u).refreshDigest ≠ some "" := by
  cases h with
  | password digest now => exact hu
  | refresh digest now => exact User.storedDigest_ne_empty digest
  | active active now => exact hu

end Revision

/-! ### Numbers in the order of creation -/

/-- The first numbers, from one on. -/
def firstIds (n : Nat) : List UserId :=
  (List.range n).map fun k : Nat => ⟨k + 1⟩

theorem firstIds_succ (n : Nat) : firstIds (n + 1) = firstIds n ++ [⟨n + 1⟩] := by
  rw [firstIds, List.range_succ, List.map_append]
  rfl

theorem nodup_firstIds (n : Nat) : (firstIds n).Nodup := by
  refine List.Nodup.map (fun j k h => ?_) List.nodup_range
  have hvalue : (j : Int) + 1 = k + 1 := congrArg UserId.value h
  omega

/-- The users have the first numbers in the order in which they were created, the last of which was
given out last, and no empty digest is kept. -/
structure Consecutive (dir : Directory) : Prop where
  ids : dir.users.map (·.id) = firstIds dir.users.length
  lastId : dir.lastId = dir.users.length
  refreshDigest_ne : ∀ u ∈ dir.users, u.refreshDigest ≠ some ""

theorem consecutive_empty : empty.Consecutive where
  ids := rfl
  lastId := rfl
  refreshDigest_ne _ hu := nomatch hu

theorem Consecutive.create (h : dir.Consecutive) (t : UserTemplate) (now : Moment) :
    (dir.create t now).2.Consecutive where
  ids := by
    simp [Directory.create, User.ofTemplate, h.ids, h.lastId, firstIds_succ]
  lastId := by
    simp [Directory.create, h.lastId]
  refreshDigest_ne u hu := by
    rcases List.mem_append.mp hu with hu | hu
    · exact h.refreshDigest_ne u hu
    · rw [List.mem_singleton.mp hu, User.ofTemplate]
      exact Option.some_ne_none "" ∘ Eq.symm

theorem Consecutive.nodup (h : dir.Consecutive) : (dir.users.map (·.id)).Nodup :=
  h.ids ▸ nodup_firstIds _

theorem length_changeFirst (id : UserId) (f : User → User) (users : List User) :
    (changeFirst id f users).length = users.length := by
  induction users with
  | nil => rfl
  | cons u rest ih =>
    rw [changeFirst]
    split
    · rfl
    · rw [List.length_cons, ih, List.length_cons]

/-- A user after a change is one of the users, or one of them changed. -/
theorem mem_changeFirst {id : UserId} {f : User → User} {users : List User} {u : User}
    (h : u ∈ changeFirst id f users) : u ∈ users ∨ ∃ v ∈ users, u = f v := by
  induction users with
  | nil => cases h
  | cons v rest ih =>
    rw [changeFirst] at h
    split at h
    · rcases List.mem_cons.mp h with rfl | h
      · exact .inr ⟨v, List.mem_cons_self, rfl⟩
      · exact .inl (List.mem_cons_of_mem _ h)
    · rcases List.mem_cons.mp h with rfl | h
      · exact .inl List.mem_cons_self
      · rcases ih h with hu | ⟨w, hw, hu⟩
        · exact .inl (List.mem_cons_of_mem _ hu)
        · exact .inr ⟨w, List.mem_cons_of_mem _ hw, hu⟩

theorem Consecutive.change (h : dir.Consecutive) {f : User → User} (hf : Revision f) (id : UserId) :
    (dir.change id f).2.Consecutive := by
  rw [Directory.change]
  split
  · exact h
  · refine ⟨?_, ?_, fun u hu => ?_⟩
    · rw [map_changeFirst hf.id_eq, length_changeFirst, h.ids]
    · rw [length_changeFirst, h.lastId]
    · rcases mem_changeFirst hu with hu | ⟨v, hv, rfl⟩
      · exact h.refreshDigest_ne u hu
      · exact hf.refreshDigest_ne (h.refreshDigest_ne v hv)

theorem Consecutive.step (h : dir.Consecutive) (step : Step) : (step.apply dir).Consecutive := by
  have heffect := step.effect dir
  generalize step.apply dir = after at heffect
  cases heffect with
  | same => exact h
  | created t now => exact h.create t now
  | changed id hf => exact h.change hf id
  | marked value => exact ⟨h.ids, h.lastId, h.refreshDigest_ne⟩

/-- **Numbers are given out in order, whatever is done.** -/
theorem Consecutive.follow (h : dir.Consecutive) (steps : List Step) :
    (dir.follow steps).Consecutive := by
  induction steps generalizing dir with
  | nil => exact h
  | cons step steps ih => exact ih (h.step step)

/-! ### What becomes of the users -/

/-- The first user of a name, with those before. -/
def IsFirst (dir : Directory) (username : String) (u : User) : Prop :=
  ∃ before behind, dir.users = before ++ u :: behind ∧ u.username = username ∧
    ∀ v ∈ before, v.username ≠ username

/-- An operation on the user of a number: it changes this user and no other, or fails and changes
nothing if nobody has the number. -/
structure Edits (dir : Directory) (id : UserId) (out : Outcome Unit) (f : User → User) : Prop where
  stored : ∀ before u behind, dir.users = before ++ u :: behind → u.id = id →
    out = (.ok (), { dir with users := before ++ f u :: behind })
  other : (∀ u ∈ dir.users, u.id ≠ id) → out = (.error (noUser id), dir)

theorem named?_eq_some_iff {username : String} {u : User} :
    dir.named? username = some u ↔ dir.IsFirst username u := by
  rw [named?, List.find?_eq_some_iff_append, IsFirst]
  constructor
  · rintro ⟨hname, before, behind, husers, hbefore⟩
    exact ⟨before, behind, husers, by simpa using hname, fun v hv => by simpa using hbefore v hv⟩
  · rintro ⟨before, behind, husers, hname, hbefore⟩
    exact ⟨by simpa using hname, before, behind, husers, fun v hv => by simpa using hbefore v hv⟩

theorem Consecutive.user?_eq_some_iff (h : dir.Consecutive) {id : UserId} {u : User} :
    dir.user? id = some u ↔ u ∈ dir.users ∧ u.id = id := by
  constructor
  · intro hu
    exact ⟨List.mem_of_find?_eq_some hu, id_of_user? hu⟩
  · rintro ⟨hu, rfl⟩
    exact find?_eq_some_of_nodup h.nodup hu

/-- The first user of a number is changed, with those before and behind as they are. -/
theorem changeFirst_append {id : UserId} (f : User → User) {before behind : List User} {u : User}
    (hbefore : ∀ v ∈ before, v.id ≠ id) (hid : u.id = id) :
    changeFirst id f (before ++ u :: behind) = before ++ f u :: behind := by
  induction before with
  | nil => rw [List.nil_append, changeFirst, if_pos hid, List.nil_append]
  | cons v before ih =>
    rw [List.cons_append, changeFirst, if_neg (hbefore v List.mem_cons_self),
      ih fun w hw => hbefore w (List.mem_cons_of_mem _ hw), List.cons_append]

theorem Consecutive.edits (h : dir.Consecutive) (id : UserId) (f : User → User) :
    dir.Edits id (dir.change id f) f where
  stored before u behind husers hid := by
    have hu : dir.user? id = some u := h.user?_eq_some_iff.mpr ⟨by simp [husers], hid⟩
    have hbefore : ∀ v ∈ before, v.id ≠ id := by
      have hnodup := h.nodup
      rw [husers, List.map_append, List.map_cons, List.nodup_append] at hnodup
      intro v hv hv'
      exact hnodup.2.2 v.id (List.mem_map_of_mem hv) u.id List.mem_cons_self (hv'.trans hid.symm)
    simp only [Directory.change, hu, husers, changeFirst_append f hbefore hid]
  other hnone := by
    have hu : dir.user? id = none :=
      List.find?_eq_none.mpr fun u hu => by simpa using hnone u hu
    simp only [Directory.change, hu]

/-- What the operations of an available directory answer, and what becomes of the directory. -/
structure Frame (dir : Directory) (s : Setting) : Prop where
  /-- A user is looked up by its number. -/
  findById : ∀ id, ∃ found, (store s).findById id dir = (.ok found, dir) ∧
    ∀ u, found = some u ↔ u ∈ dir.users ∧ u.id = id
  /-- The earliest user of a name is looked up. -/
  findByUsername : ∀ username, ∃ found, (store s).findByUsername username dir = (.ok found, dir) ∧
    ∀ u, found = some u ↔ dir.IsFirst username u
  /-- Who is there is found. -/
  findOrCreate_present : ∀ t u, dir.IsFirst t.username u →
    (store s).findOrCreate t dir = (.ok u, dir)
  /-- Who is not there is added behind the others, from the template and under the next number. -/
  findOrCreate_absent : ∀ t, t.username ∉ dir.names →
    (store s).findOrCreate t dir =
      (.ok (.ofTemplate ⟨dir.users.length + 1⟩ t s.now),
        ⟨dir.users ++ [.ofTemplate ⟨dir.users.length + 1⟩ t s.now], dir.users.length + 1, false⟩)
  /-- Who comes with a password is added behind the others. -/
  insertWithPassword : ∀ t password digest, s.hasher.make s.salt password = .ok digest →
    insertWithPassword s t password dir =
      let user : User :=
        .ofTemplate ⟨dir.users.length + 1⟩ { t with passwordDigest := some digest } s.now
      (.ok user, ⟨dir.users ++ [user], dir.users.length + 1, false⟩)
  updatePassword : ∀ id password digest, s.hasher.make s.salt password = .ok digest →
    dir.Edits id ((store s).updatePassword id password dir)
      fun u => { u with passwordDigest := some digest, updatedAt := s.now }
  /-- The empty digest clears. -/
  updateRefreshDigest : ∀ id digest,
    dir.Edits id ((store s).updateRefreshDigest id digest dir)
      fun u => { u with
        refreshDigest := if digest = some "" then none else digest, updatedAt := s.now }
  setActive : ∀ id active,
    dir.Edits id (dir.setActive id active s.now)
      fun u => { u with active := active, updatedAt := s.now }
  /-- A password that has no digest is refused, and nothing is changed. -/
  unhashable : ∀ password e, s.hasher.make s.salt password = .error e →
    (∀ t, Directory.insertWithPassword s t password dir = (.error (.encoding e.message), dir)) ∧
      ∀ id, (store s).updatePassword id password dir = (.error (.encoding e.message), dir)

theorem storedDigest_eq (digest : Option String) :
    User.storedDigest digest = if digest = some "" then none else digest := by
  cases digest with
  | none => rfl
  | some d =>
    by_cases hd : d = ""
    · simp [User.storedDigest, hd]
    · simp [User.storedDigest, hd]

theorem updatePassword_eq (s : Setting) (id : UserId) (password : String) (dir : Directory) :
    (store s).updatePassword id password dir =
      match s.hasher.make s.salt password with
      | .error e => (.error (.encoding e.message), dir)
      | .ok digest => dir.guarded (dir.change id (·.setPasswordDigest (some digest) s.now)) :=
  withDigest_eq s password _ dir

theorem insertWithPassword_eq (s : Setting) (t : UserTemplate) (password : String)
    (dir : Directory) :
    insertWithPassword s t password dir =
      match s.hasher.make s.salt password with
      | .error e => (.error (.encoding e.message), dir)
      | .ok digest => dir.insertWithDigest t digest s.now :=
  withDigest_eq s password _ dir

/-- A new user comes behind the others. -/
theorem Consecutive.create_eq (h : dir.Consecutive) (havail : dir.unavailable = false)
    (t : UserTemplate) (now : Moment) :
    dir.create t now =
      (.ofTemplate ⟨dir.users.length + 1⟩ t now,
        ⟨dir.users ++ [.ofTemplate ⟨dir.users.length + 1⟩ t now], dir.users.length + 1,
          false⟩) := by
  rw [Directory.create, h.lastId, havail]

/-- An available directory that gives out numbers in order is changed where it should be. -/
theorem Consecutive.frame (h : dir.Consecutive) (havail : dir.unavailable = false) (s : Setting) :
    dir.Frame s where
  findById id := by
    refine ⟨dir.user? id, ?_, fun u => h.user?_eq_some_iff⟩
    exact guarded_of_available havail _
  findByUsername username := by
    refine ⟨dir.named? username, ?_, fun u => named?_eq_some_iff⟩
    exact guarded_of_available havail _
  findOrCreate_present t u hu :=
    findOrCreate_of_some havail (named?_eq_some_iff.mpr hu) s.now
  findOrCreate_absent t hnew := by
    have hnamed : dir.named? t.username = none :=
      List.find?_eq_none.mpr fun u hu => by
        simpa using fun hname => hnew (List.mem_map.mpr ⟨u, hu, hname⟩)
    refine (findOrCreate_of_none havail hnamed s.now).trans ?_
    rw [h.create_eq havail]
  insertWithPassword t password digest hdigest := by
    rw [insertWithPassword_eq, hdigest]
    refine (guarded_of_available havail _).trans ?_
    rw [h.create_eq havail]
  updatePassword id password digest hdigest := by
    rw [updatePassword_eq, hdigest]
    simp only [guarded_of_available havail]
    exact h.edits id _
  updateRefreshDigest id digest := by
    have hsame : (store s).updateRefreshDigest id digest dir =
        dir.change id (·.setRefreshDigest digest s.now) := guarded_of_available havail _
    rw [hsame, ← storedDigest_eq]
    exact h.edits id _
  setActive id active := h.edits id _
  unhashable password e he := by
    refine ⟨fun t => ?_, fun id => ?_⟩
    · rw [insertWithPassword_eq, he]
    · rw [updatePassword_eq, he]

/-- **What operations do, and what they leave.** Whatever was done to a directory that began without
users, its users have the first numbers in the order in which they were created, and no empty digest
is kept; and if it is available, each operation changes the one user that it is about, in the fields
that it is about, or adds one user, or changes nothing. -/
theorem consecutive_and_frame_follow (steps : List Step) :
    let dir := empty.follow steps
    dir.Consecutive ∧ (dir.unavailable = false → ∀ s, dir.Frame s) := by
  intro dir
  have hdir : dir.Consecutive := consecutive_empty.follow steps
  exact ⟨hdir, fun havail s => hdir.frame havail s⟩

/-- Two users are found or created, the first of them twice, and one is changed. -/
def signUpsAndLeave : List Step :=
  [.call Sample.setting (.findOrCreate (.ofUsername "u")),
    .call Sample.setting (.findOrCreate (.ofUsername "v")),
    .call Sample.setting (.findOrCreate (.ofUsername "u")),
    .change Sample.setting (.setActive ⟨2⟩ false)]

theorem consecutive_and_frame_follow_steps :
    (empty.follow signUpsAndLeave).users.map (·.id) = [⟨1⟩, ⟨2⟩] ∧
      (empty.follow signUpsAndLeave).unavailable = false ∧
      (empty.follow signUpsAndLeave).Frame Sample.setting :=
  ⟨by decide, by decide,
    (consecutive_and_frame_follow signUpsAndLeave).2 (by decide) Sample.setting⟩

end Gatehouse.Directory
