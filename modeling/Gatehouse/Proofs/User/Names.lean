import Gatehouse.Proofs.User.Numbers
import Mathlib.Data.List.Nodup

/-!
# Names that are taken

A name should stand for one user. A user who is found or created never takes the name of another,
but one who is inserted with a password does: `insertWithPassword` does not look whether the name is
free. `names_follow_nodup_iff` says that this is the one way in which names come to be shared, and
`reaches_all_iff` what it costs: a user whose name is shared may be found by its number only.
-/

namespace Gatehouse.Directory

variable {dir : Directory}

/-- The names of the users, in the order in which they were created. -/
def names (dir : Directory) : List String :=
  dir.users.map (·.username)

theorem not_mem_names_of_named? {username : String} (h : dir.named? username = none) :
    username ∉ dir.names := by
  rintro hmem
  obtain ⟨u, hu, hname⟩ := List.mem_map.mp hmem
  simpa [hname] using List.find?_eq_none.mp h u hu

/-! ### One operation -/

/-- An operation on a directory: a call of the store, or another change. -/
inductive Step where
  | call (setting : Setting) (c : StoreCall)
  | change (setting : Setting) (c : Change)

/-- The directory after an operation. -/
def Step.apply (dir : Directory) : Step → Directory
  | .call setting c => (c.make (store setting) dir).2
  | .change setting c => c.apply setting dir

/-- Whether an operation inserts a user under a name that is taken. -/
def Step.Clashes (dir : Directory) : Step → Prop
  | .change setting (.insertWithPassword t password) =>
    dir.unavailable = false ∧ (∃ digest, setting.hasher.make setting.salt password = .ok digest) ∧
      t.username ∈ dir.names
  | _ => False

/-- What an operation may do to the names: it leaves them, it adds one that is free, or it adds one
that is taken and clashes. -/
inductive NamesAfter (dir : Directory) (clashes : Prop) (names : List String) : Prop where
  | kept (h : names = dir.names) (hclash : ¬ clashes)
  | added (name : String) (h : names = dir.names ++ [name]) (hclash : clashes ↔ name ∈ dir.names)

theorem NamesAfter.nodup_iff {clashes : Prop} {names : List String}
    (h : NamesAfter dir clashes names) : names.Nodup ↔ dir.names.Nodup ∧ ¬ clashes := by
  cases h with
  | kept h hclash => rw [h, and_iff_left hclash]
  | added name h hclash =>
    rw [h, hclash, ← List.concat_eq_append, List.nodup_concat, and_comm]

theorem names_change {id : UserId} {f : User → User} (hf : ∀ u, (f u).username = u.username) :
    (dir.change id f).2.names = dir.names := by
  rw [change]
  split
  · rfl
  · exact map_changeFirst hf dir.users

theorem names_create (t : UserTemplate) (now : Moment) :
    (dir.create t now).2.names = dir.names ++ [t.username] := by
  simp [names, create, User.ofTemplate]

/-- A call of the store creates users under free names only. -/
theorem namesAfter_make (s : Setting) (c : StoreCall) :
    NamesAfter dir False (c.make (store s) dir).2.names :=
  make_keeps (P := fun after => NamesAfter dir False after.names) (.kept rfl not_false)
    (fun t now hnamed => .added t.username (names_create t now)
      (iff_of_false not_false (not_mem_names_of_named? hnamed)))
    (fun _ _ _ hname => .kept (names_change hname) not_false) s c

/-- A user is inserted under any name. -/
theorem namesAfter_insertWithPassword (s : Setting) (t : UserTemplate) (password : String) :
    NamesAfter dir (Step.Clashes dir (.change s (.insertWithPassword t password)))
      (insertWithPassword s t password dir).2.names := by
  rw [insertWithPassword, withDigest_eq, Step.Clashes]
  cases s.hasher.make s.salt password with
  | error e => exact .kept rfl (by simp)
  | ok digest =>
    dsimp only
    rw [insertWithDigest, guarded]
    cases havail : dir.unavailable with
    | true => exact .kept rfl (by simp)
    | false => exact .added t.username (names_create _ s.now) (by simp)

/-- **An operation keeps names apart unless it clashes.** -/
theorem namesAfter_apply (step : Step) :
    NamesAfter dir (step.Clashes dir) (step.apply dir).names := by
  cases step with
  | call s c => exact namesAfter_make s c
  | change s c =>
    cases c with
    | findOrCreate t => exact namesAfter_make s (.findOrCreate t)
    | insertWithPassword t password => exact namesAfter_insertWithPassword s t password
    | updatePassword id password => exact namesAfter_make s (.updatePassword id password)
    | setActive id active => exact .kept (names_change fun _ => rfl) not_false
    | setUnavailable value => exact .kept rfl not_false

theorem Numbered.step (h : dir.Numbered) (step : Step) : (step.apply dir).Numbered := by
  cases step with
  | call s c => exact h.make s c
  | change s c => exact h.apply s c

/-! ### One operation after the other -/

/-- The directory after some operations. -/
def follow (dir : Directory) (steps : List Step) : Directory :=
  steps.foldl Step.apply dir

theorem follow_cons (dir : Directory) (step : Step) (steps : List Step) :
    dir.follow (step :: steps) = (step.apply dir).follow steps :=
  rfl

/-- Whether one of some operations clashes where it is carried out. -/
def SomeClash (dir : Directory) (steps : List Step) : Prop :=
  ∃ before step after, steps = before ++ step :: after ∧ step.Clashes (dir.follow before)

theorem someClash_cons (dir : Directory) (step : Step) (steps : List Step) :
    SomeClash dir (step :: steps) ↔ step.Clashes dir ∨ SomeClash (step.apply dir) steps := by
  constructor
  · rintro ⟨_ | ⟨first, before⟩, step', after, hsteps, hclash⟩
    · cases hsteps
      exact .inl hclash
    · cases hsteps
      exact .inr ⟨before, step', after, rfl, hclash⟩
  · rintro (hclash | ⟨before, step', after, rfl, hclash⟩)
    · exact ⟨[], step, steps, rfl, hclash⟩
    · exact ⟨step :: before, step', after, rfl, hclash⟩

/-- **Names stay apart exactly as long as no operation clashes.** -/
theorem nodup_names_follow_iff (steps : List Step) :
    (dir.follow steps).names.Nodup ↔ dir.names.Nodup ∧ ¬ SomeClash dir steps := by
  -- names are never taken back, so a name that came to be shared is shared in the end
  induction steps generalizing dir with
  | nil =>
    have hnone : ¬ SomeClash dir [] := by
      rintro ⟨before, step, after, hsteps, -⟩
      cases before <;> cases hsteps
    exact (and_iff_left hnone).symm
  | cons step steps ih =>
    rw [follow_cons, ih, (namesAfter_apply step).nodup_iff, someClash_cons, not_or, and_assoc]

theorem Numbered.follow (h : dir.Numbered) (steps : List Step) : (dir.follow steps).Numbered := by
  induction steps generalizing dir with
  | nil => exact h
  | cons step steps ih => exact ih (h.step step)

/-! ### Reaching users -/

/-- Whether each user is found by its name, and by its number. -/
def ReachesAll (dir : Directory) : Prop :=
  ∀ u ∈ dir.users, dir.named? u.username = some u ∧ dir.user? u.id = some u

/-- **Each user is reached exactly if names are kept apart.** -/
theorem Numbered.reachesAll_iff (h : dir.Numbered) : dir.ReachesAll ↔ dir.names.Nodup := by
  constructor
  · intro hreach
    refine List.Nodup.map_on (fun u hu v hv hname => ?_) (h.nodup.of_map _)
    have hsame : some u = some v := by
      rw [← (hreach u hu).1, ← (hreach v hv).1, hname]
    exact Option.some.inj hsame
  · intro hnames u hu
    exact ⟨named?_of_mem hnames hu, user?_of_mem h hu⟩

/-- **When names are unique.** In every state of a directory that begins without users, names are
unique, and each user is found by its name and by its number, exactly if no user was inserted with a
password under a name that was taken. -/
theorem names_unique_iff (steps : List Step) :
    let dir := empty.follow steps
    (dir.names.Nodup ↔ ¬ SomeClash empty steps) ∧ (dir.ReachesAll ↔ ¬ SomeClash empty steps) := by
  intro dir
  have hnames : dir.names.Nodup ↔ ¬ SomeClash empty steps :=
    (nodup_names_follow_iff steps).trans (and_iff_right List.nodup_nil)
  have hreach : dir.ReachesAll ↔ dir.names.Nodup :=
    (numbered_empty.follow steps).reachesAll_iff
  exact ⟨hnames, hreach.trans hnames⟩

/-- An operation that inserts a user, whether there is one of the name or not. -/
def insertAgain : Step :=
  .change { Sample.setting with salt := List.replicate 16 0 }
    (.insertWithPassword (.ofUsername "u") "p")

/-- Two users are inserted under one name: the name is not unique, and the second user is not
found by it. -/
theorem names_not_unique :
    ¬ (empty.follow [insertAgain, insertAgain]).names.Nodup ∧
      ¬ (empty.follow [insertAgain, insertAgain]).ReachesAll := by
  have hclash : SomeClash empty [insertAgain, insertAgain] :=
    ⟨[insertAgain], insertAgain, [], rfl, rfl, ⟨_, rfl⟩, List.mem_singleton_self "u"⟩
  have hnames : ¬ (empty.follow [insertAgain, insertAgain]).names.Nodup := fun h =>
    ((nodup_names_follow_iff _).mp h).2 hclash
  exact ⟨hnames, fun h => hnames ((numbered_empty.follow _).reachesAll_iff.mp h)⟩

end Gatehouse.Directory
