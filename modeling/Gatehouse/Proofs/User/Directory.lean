import Gatehouse.User.Directory

/-!
# Laws of the directory in memory

What the operations of the directory do to the user of a number, and to the digest that is stored
for it. A number names the first user that has it, so nothing here needs numbers to be distinct.

`digest?` is the digest of the one refresh token of a user; a user who is not there has none.
`digest?_putDigest` says what storing a digest does to all of these, and the other operations leave
them as they are.
-/

namespace Gatehouse

namespace Directory

variable {dir : Directory} {id id' : UserId}

/-! ### The user of a number -/

/-- The user of a number has this number. -/
theorem id_of_user? {u : User} (h : dir.user? id = some u) : u.id = id := by
  simpa using List.find?_some h

/-- A user of the directory is found under its number, or another one is. -/
theorem isSome_user?_of_mem {u : User} (h : u ∈ dir.users) : (dir.user? u.id).isSome = true := by
  rw [user?, List.find?_isSome]
  exact ⟨u, h, by simp⟩

theorem mem_of_named? {username : String} {u : User} (h : dir.named? username = some u) :
    u ∈ dir.users :=
  List.mem_of_find?_eq_some h

/-- A change of the first user of a number is seen under this number only. -/
theorem find?_changeFirst {f : User → User} (hf : ∀ u, (f u).id = u.id) (users : List User) :
    (changeFirst id f users).find? (·.id == id') =
      if id' = id then (users.find? (·.id == id)).map f else users.find? (·.id == id') := by
  -- the first user of the number is both the one that is changed and the one that is found
  induction users with
  | nil => simp [changeFirst]
  | cons u rest ih =>
    by_cases hu : u.id = id
    · subst hu
      by_cases hid : id' = u.id
      · simp [changeFirst, hid, hf]
      · simp [changeFirst, hid, hf, Ne.symm hid]
    · by_cases hid : id' = id
      · subst hid
        rw [if_pos rfl] at ih ⊢
        simp [changeFirst, hu, ih]
      · rw [if_neg hid] at ih ⊢
        simp [changeFirst, hu, List.find?_cons, ih]

theorem user?_change {f : User → User} (hf : ∀ u, (f u).id = u.id) :
    (dir.change id f).2.user? id' =
      if id' = id then (dir.user? id).map f else dir.user? id' := by
  unfold change
  split
  · next h => by_cases hid : id' = id <;> simp [hid, h]
  · exact find?_changeFirst hf dir.users

/-- A user who is created is found unless the number was taken. -/
theorem user?_create (t : UserTemplate) (now : Moment) :
    (dir.create t now).2.user? id =
      (dir.user? id).or
        (if (dir.create t now).1.id = id then some (dir.create t now).1 else none) := by
  rw [user?, user?, create, List.find?_append]
  simp [List.find?_singleton]

/-! ### Refusals -/

theorem guarded_of_available {α : Type} (h : dir.unavailable = false) (run : Outcome α) :
    dir.guarded run = run := by
  rw [guarded, h, if_neg (by decide)]

theorem guarded_of_unavailable {α : Type} (h : dir.unavailable = true) (run : Outcome α) :
    dir.guarded run = (.error refusal, dir) := by
  rw [guarded, h, if_pos rfl]

/-- What a directory and the outcome of an operation have in common, the directory has after the
operation, refused or not. -/
theorem guarded_keeps {α : Type} {P : Directory → Prop} (h : P dir) {run : Outcome α}
    (hrun : P run.2) : P (dir.guarded run).2 := by
  rw [guarded]
  split
  · exact h
  · exact hrun

/-- An operation that needs the digest of a password fails for one that has none, and else is the
operation with that digest. -/
theorem withDigest_eq {α : Type} (s : Setting) (password : String)
    (run : String → Directory → Outcome α) (dir : Directory) :
    withDigest s password run dir =
      match s.hasher.make s.salt password with
      | .error e => (.error (.encoding e.message), dir)
      | .ok digest => run digest dir := by
  unfold withDigest
  cases s.hasher.make s.salt password <;> rfl

theorem withDigest_keeps {α : Type} {P : Directory → Prop} (h : P dir) {s : Setting}
    {password : String} {run : String → Directory → Outcome α}
    (hrun : ∀ digest, P (run digest dir).2) : P (withDigest s password run dir).2 := by
  rw [withDigest_eq]
  split
  · exact h
  · exact hrun _

/-- A user who is there is found. -/
theorem findOrCreate_of_some {t : UserTemplate} {u : User} (h : dir.unavailable = false)
    (hnamed : dir.named? t.username = some u) (now : Moment) :
    dir.findOrCreate t now = (.ok u, dir) := by
  rw [findOrCreate, guarded_of_available h, hnamed]

/-- A user who is not there is created. -/
theorem findOrCreate_of_none {t : UserTemplate} (h : dir.unavailable = false)
    (hnamed : dir.named? t.username = none) (now : Moment) :
    dir.findOrCreate t now = (.ok (dir.create t now).1, (dir.create t now).2) := by
  rw [findOrCreate, guarded_of_available h, hnamed]

/-- A user is found under its name, or created if nobody has the name. -/
theorem findOrCreate_cases {dir' : Directory} {t : UserTemplate} {now : Moment} {u : User}
    (h : dir.findOrCreate t now = (.ok u, dir')) :
    dir.unavailable = false ∧ (dir.named? t.username = some u ∧ dir' = dir ∨
      dir.named? t.username = none ∧ u = (dir.create t now).1 ∧ dir' = (dir.create t now).2) := by
  cases havail : dir.unavailable with
  | true =>
    rw [findOrCreate, guarded, havail, if_pos rfl] at h
    cases h
  | false =>
    cases hnamed : dir.named? t.username with
    | some user =>
      rw [findOrCreate_of_some havail hnamed] at h
      cases h
      exact ⟨rfl, .inl ⟨rfl, rfl⟩⟩
    | none =>
      rw [findOrCreate_of_none havail hnamed] at h
      cases h
      exact ⟨rfl, .inr ⟨rfl, rfl, rfl⟩⟩

/-- A user that is found or created is there, and the directory was available. -/
theorem findOrCreate_ok {dir' : Directory} {t : UserTemplate} {now : Moment} {u : User}
    (h : dir.findOrCreate t now = (.ok u, dir')) :
    dir'.unavailable = false ∧ (dir'.user? u.id).isSome = true := by
  obtain ⟨havail, ⟨hnamed, rfl⟩ | ⟨-, rfl, rfl⟩⟩ := findOrCreate_cases h
  · exact ⟨havail, isSome_user?_of_mem (mem_of_named? hnamed)⟩
  · exact ⟨havail, isSome_user?_of_mem (List.mem_append_right _ (List.mem_singleton_self _))⟩

/-! ### The digest of a user -/

/-- The digest that is stored for a user. -/
def digest? (dir : Directory) (id : UserId) : Option String :=
  (dir.user? id).bind (·.refreshDigest)

theorem digest?_change_of_keeps {f : User → User} (hf : ∀ u, (f u).id = u.id)
    (hdigest : ∀ u, (f u).refreshDigest = u.refreshDigest) :
    (dir.change id f).2.digest? id' = dir.digest? id' := by
  rw [digest?, digest?, user?_change hf]
  split
  · next hid => cases hu : dir.user? id <;> simp [hid, hu, hdigest]
  · rfl

theorem digest?_create (t : UserTemplate) (now : Moment) :
    (dir.create t now).2.digest? id = dir.digest? id := by
  rw [digest?, digest?, user?_create]
  cases dir.user? id with
  | some u => rfl
  | none =>
    rw [Option.none_or]
    split <;> simp [create, User.ofTemplate]

/-- Puts a digest in the place of the one that is stored for a user. -/
def putDigest (dir : Directory) (id : UserId) (digest : Option String) (now : Moment) :
    Directory :=
  { dir with users := changeFirst id (·.setRefreshDigest digest now) dir.users }

theorem user?_putDigest (digest : Option String) (now : Moment) :
    (dir.putDigest id digest now).user? id' =
      if id' = id then (dir.user? id).map (·.setRefreshDigest digest now) else dir.user? id' :=
  find?_changeFirst (f := (·.setRefreshDigest digest now)) (fun _ => rfl) dir.users

/-- Storing a digest replaces the one of its user and no other. -/
theorem digest?_putDigest (h : (dir.user? id).isSome = true) (digest : Option String)
    (now : Moment) :
    (dir.putDigest id digest now).digest? id' =
      if id' = id then User.storedDigest digest else dir.digest? id' := by
  obtain ⟨u, hu⟩ := Option.isSome_iff_exists.mp h
  rw [digest?, user?_putDigest, hu]
  split <;> rfl

/-- A digest is stored when the directory is available and has the user. -/
theorem updateRefreshDigest_eq (dir : Directory) (id : UserId) (digest : Option String)
    (now : Moment) :
    dir.updateRefreshDigest id digest now =
      if dir.unavailable then (.error refusal, dir)
      else if (dir.user? id).isSome then (.ok (), dir.putDigest id digest now)
      else (.error (noUser id), dir) := by
  unfold updateRefreshDigest guarded change
  cases hu : dir.user? id <;> simp [putDigest]

/-! ### Changes that have nothing to do with sessions -/

/-- A change of the directory other than of a stored digest. -/
inductive Change where
  | findOrCreate (t : UserTemplate)
  | insertWithPassword (t : UserTemplate) (password : String)
  | updatePassword (id : UserId) (password : String)
  | setActive (id : UserId) (active : Bool)
  | setUnavailable (value : Bool)

/-- The directory after a change. -/
def Change.apply (s : Setting) (dir : Directory) : Change → Directory
  | .findOrCreate t => (((store s).findOrCreate t) dir).2
  | .insertWithPassword t password => (Directory.insertWithPassword s t password dir).2
  | .updatePassword id password => (((store s).updatePassword id password) dir).2
  | .setActive id active => (dir.setActive id active s.now).2
  | .setUnavailable value => dir.setUnavailable value

theorem digest?_findOrCreate (t : UserTemplate) (now : Moment) :
    (dir.findOrCreate t now).2.digest? id = dir.digest? id := by
  refine guarded_keeps (P := fun after => after.digest? id = dir.digest? id) rfl ?_
  split
  · rfl
  · exact digest?_create t now

theorem digest?_insertWithDigest (t : UserTemplate) (digest : String) (now : Moment) :
    (dir.insertWithDigest t digest now).2.digest? id = dir.digest? id :=
  guarded_keeps (P := fun after => after.digest? id = dir.digest? id) rfl
    (digest?_create { t with passwordDigest := some digest } now)

/-- No other change touches a digest. -/
theorem digest?_apply (s : Setting) (c : Change) :
    (c.apply s dir).digest? id = dir.digest? id := by
  cases c with
  | findOrCreate t => exact digest?_findOrCreate t s.now
  | insertWithPassword t password =>
    exact withDigest_keeps (P := fun after => after.digest? id = dir.digest? id) rfl
      fun digest => digest?_insertWithDigest t digest s.now
  | updatePassword id' password =>
    let P := fun after : Directory => after.digest? id = dir.digest? id
    refine withDigest_keeps (P := P) rfl fun digest => guarded_keeps (P := P) rfl ?_
    exact digest?_change_of_keeps (fun _ => rfl) fun _ => rfl
  | setActive id' active => exact digest?_change_of_keeps (fun _ => rfl) fun _ => rfl
  | setUnavailable value => rfl

end Directory

end Gatehouse
