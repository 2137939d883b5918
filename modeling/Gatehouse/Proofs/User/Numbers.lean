import Gatehouse.Proofs.Session.Pending

/-!
# Each user has a number of its own

A directory gives a new user the number after the last one that it gave out. `Directory.Numbered`
says that numbers were given out once, and holds in every state of a course that begins without
users (`Course.numbered_follow`); then the user that is found by a number is the only one that has
it (`user?_of_mem`). Names are no such keys: a user may be inserted under a name that is taken.

A request is a row of calls, so what each call of a store keeps is kept by every request
(`Pending.run_keeps`), and by every course (`Course.follow_keeps`).
-/

namespace Gatehouse

/-! ### What calls keep -/

/-- What each call of a store keeps is kept by every program. -/
theorem Pending.run_keeps {σ α : Type} {P : σ → Prop} {users : UserStore (StateM σ)}
    (hcall : ∀ (c : StoreCall) s, P s → P (c.make users s).2) (p : Pending α) {s : σ} (h : P s) :
    P (p.run users s).2 := by
  induction p generalizing s with
  | done a => exact h
  | call c next ih => exact ih _ (hcall c s h)

theorem Course.follow_keeps {P : Directory → Prop} {codec : TokenCodec}
    (hcall : ∀ setting (c : StoreCall) dir, P dir → P (c.make (Directory.store setting) dir).2)
    (hchange : ∀ setting (c : Directory.Change) dir, P dir → P (c.apply setting dir))
    {dir : Directory} (h : P dir) (events : List SessionEvent) :
    P ((Course.start dir).follow codec events).dir := by
  induction events using List.reverseRecOn with
  | nil => exact h
  | append_singleton events e ih =>
    rw [Course.follow_concat]
    cases e with
    | request setting r =>
      rw [Course.next, ← run_serve]
      exact Pending.run_keeps (hcall setting) _ ih
    | change setting c => exact hchange setting c _ ih

/-! ### Numbers -/

namespace Directory

variable {dir : Directory} {id : UserId}

/-- No number was given out twice, and none after the last. -/
structure Numbered (dir : Directory) : Prop where
  nodup : (dir.users.map (·.id)).Nodup
  le_lastId : ∀ u ∈ dir.users, u.id.value ≤ dir.lastId

theorem numbered_empty : Numbered empty where
  nodup := List.nodup_nil
  le_lastId _ hu := absurd hu List.not_mem_nil

/-- A new user is given a number that nobody has. -/
theorem Numbered.create (h : dir.Numbered) (t : UserTemplate) (now : Moment) :
    (dir.create t now).2.Numbered where
  nodup := by
    rw [Directory.create, List.map_append, List.nodup_append]
    refine ⟨h.nodup, by simp, ?_⟩
    rintro _ hid _ hnew rfl
    obtain ⟨u, hu, hnumber⟩ := List.mem_map.mp hid
    have hle := h.le_lastId u hu
    have hvalue : u.id.value = dir.lastId + 1 :=
      congrArg UserId.value (hnumber.trans (List.mem_singleton.mp hnew))
    omega
  le_lastId u hu := by
    show u.id.value ≤ dir.lastId + 1
    rcases List.mem_append.mp hu with hu | hu
    · have hle := h.le_lastId u hu
      omega
    · rw [List.mem_singleton.mp hu]
      exact Int.le_refl _

/-- A change that keeps a column of one user keeps this column of all of them. -/
theorem map_changeFirst {β : Type} {g : User → β} {f : User → User} (hf : ∀ u, g (f u) = g u)
    (users : List User) : (changeFirst id f users).map g = users.map g := by
  induction users with
  | nil => rfl
  | cons u rest ih =>
    rw [changeFirst]
    split
    · simp [hf]
    · simp [ih]

/-- A change of the users of a number that nobody has. -/
theorem map_ite_eq_self {users : List User} {id : UserId} (h : ∀ u ∈ users, u.id ≠ id)
    (f : User → User) : (users.map fun u => if u.id = id then f u else u) = users := by
  conv_rhs => rw [← List.map_id users]
  exact List.map_congr_left fun u hu => if_neg (h u hu)

/-- A change of the first user of a number is one of all users of the number if there is at most
one. -/
theorem changeFirst_eq_map {users : List User} (h : (users.map (·.id)).Nodup)
    (id : UserId) (f : User → User) :
    changeFirst id f users = users.map fun u => if u.id = id then f u else u := by
  induction users with
  | nil => rfl
  | cons u rest ih =>
    rw [List.map_cons, List.nodup_cons] at h
    rw [changeFirst, List.map_cons, ih h.2]
    split
    · next hid =>
      rw [map_ite_eq_self fun v hv hv' => h.1 ?_]
      rw [hid, ← hv']
      exact List.mem_map_of_mem hv
    · rfl

/-- Numbers are given out once as long as those of the users stay. -/
theorem Numbered.of_ids {dir' : Directory} (h : dir.Numbered)
    (hids : dir'.users.map (·.id) = dir.users.map (·.id)) (hlast : dir'.lastId = dir.lastId) :
    dir'.Numbered where
  nodup := hids ▸ h.nodup
  le_lastId u hu := by
    have hid : u.id ∈ dir.users.map (·.id) := hids ▸ List.mem_map_of_mem hu
    obtain ⟨v, hv, heq⟩ := List.mem_map.mp hid
    rw [hlast, ← heq]
    exact h.le_lastId v hv

theorem Numbered.change (h : dir.Numbered) {f : User → User} (hf : ∀ u, (f u).id = u.id) :
    (dir.change id f).2.Numbered := by
  rw [Directory.change]
  split
  · exact h
  · exact h.of_ids (map_changeFirst hf _) rfl

/-- What a directory has, and has after a user is created under a free name or changed in anything
but number and name, it has after each call of the store. -/
theorem make_keeps {P : Directory → Prop} (h : P dir)
    (hcreate : ∀ (t : UserTemplate) (now : Moment), dir.named? t.username = none →
      P (dir.create t now).2)
    (hchange : ∀ (id : UserId) (f : User → User), (∀ u, (f u).id = u.id) →
      (∀ u, (f u).username = u.username) → P (dir.change id f).2)
    (s : Setting) (c : StoreCall) : P (c.make (store s) dir).2 := by
  cases c with
  | findById id => exact guarded_keeps h h
  | findByUsername username => exact guarded_keeps h h
  | findOrCreate t =>
    refine guarded_keeps h ?_
    split
    · exact h
    · next hnamed => exact hcreate t s.now hnamed
  | updatePassword id password =>
    exact withDigest_keeps h fun _ => guarded_keeps h (hchange id _ (fun _ => rfl) fun _ => rfl)
  | updateRefreshDigest id digest =>
    exact guarded_keeps h (hchange id _ (fun _ => rfl) fun _ => rfl)

theorem Numbered.make (h : dir.Numbered) (s : Setting) (c : StoreCall) :
    (c.make (store s) dir).2.Numbered :=
  make_keeps h (fun t now _ => h.create t now) (fun _ _ hid _ => h.change hid) s c

theorem Numbered.apply (h : dir.Numbered) (s : Setting) (c : Change) :
    (c.apply s dir).Numbered := by
  cases c with
  | findOrCreate t => exact h.make s (.findOrCreate t)
  | insertWithPassword t password =>
    exact withDigest_keeps h fun digest =>
      guarded_keeps h (h.create { t with passwordDigest := some digest } s.now)
  | updatePassword id password => exact h.make s (.updatePassword id password)
  | setActive id active => exact h.change fun _ => rfl
  | setUnavailable value => exact ⟨h.nodup, h.le_lastId⟩

/-- No call takes a number back. -/
theorem mem_ids_make (s : Setting) (c : StoreCall) (h : id ∈ dir.users.map (·.id)) :
    id ∈ (c.make (store s) dir).2.users.map (·.id) := by
  refine make_keeps (P := fun after => id ∈ after.users.map (·.id)) h (fun t now _ => ?_)
    (fun id' f hid _ => ?_) s c
  · rw [Directory.create, List.map_append]
    exact List.mem_append_left _ h
  · rw [Directory.change]
    split
    · exact h
    · exact (map_changeFirst hid dir.users).symm ▸ h

end Directory

/-- In every state of a course that begins without users each user has a number of its own. -/
theorem Course.numbered_follow (codec : TokenCodec) (events : List SessionEvent) :
    ((Course.start .empty).follow codec events).dir.Numbered :=
  Course.follow_keeps (fun s c _ h => h.make s c) (fun s c _ h => h.apply s c)
    Directory.numbered_empty events

/-! ### Users found by what they alone have -/

/-- An item is found by what no other item of a list has. -/
theorem find?_eq_some_of_nodup {α κ : Type} [DecidableEq κ] {key : α → κ} {items : List α} {a : α}
    (h : (items.map key).Nodup) (ha : a ∈ items) : items.find? (key · == key a) = some a := by
  induction items with
  | nil => cases ha
  | cons b rest ih =>
    rw [List.map_cons, List.nodup_cons] at h
    rcases List.mem_cons.mp ha with rfl | ha
    · simp
    · have hne : key b ≠ key a := fun heq => h.1 (heq ▸ List.mem_map_of_mem ha)
      rw [List.find?_cons_of_neg (by simpa using hne)]
      exact ih h.2 ha

namespace Directory

variable {dir : Directory} {u : User}

/-- A user is found by its number. -/
theorem user?_of_mem (h : dir.Numbered) (hu : u ∈ dir.users) : dir.user? u.id = some u :=
  find?_eq_some_of_nodup h.nodup hu

/-- A user is found by its name if all have different names. -/
theorem named?_of_mem (h : (dir.users.map (·.username)).Nodup) (hu : u ∈ dir.users) :
    dir.named? u.username = some u :=
  find?_eq_some_of_nodup h hu

end Directory

end Gatehouse
