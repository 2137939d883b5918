import Gatehouse.Proofs.Database.Commands
import Gatehouse.Proofs.Session.Pending
import Mathlib.Data.List.Nodup

/-!
# The calls of the store on the table of users

The calls of the store that asks the table come down to what they do to the rows (`make_` lemmas).
What the table promises is `Keyed`: numbers and names are unique, and no number comes after the last
that was given out. Every call of the store keeps this (`Keyed.make`).
-/

namespace Gatehouse

namespace UserTable

/-! ### The calls of the store -/

/-- The row of a number. -/
def user? (table : UserTable) (id : UserId) : Option User :=
  table.rows.find? (·.id == id)

/-- The row of a name. -/
def named? (table : UserTable) (username : String) : Option User :=
  table.rows.find? (·.username == username)

/-- A name that is taken is found. -/
theorem exists_named {table : UserTable} {username : String}
    (h : username ∈ table.rows.map (·.username)) :
    ∃ u ∈ table.rows, u.username = username ∧ table.named? username = some u := by
  obtain ⟨u, hu, hname⟩ := List.mem_map.mp h
  cases hfound : table.named? username with
  | none => exact absurd (beq_iff_eq.mpr hname) (List.find?_eq_none.mp hfound u hu)
  | some v =>
    have hfits := List.find?_some hfound
    exact ⟨v, List.mem_of_find?_eq_some hfound, beq_iff_eq.mp hfits, rfl⟩

section

variable (now : Moment) (digest : String → Except PasswordError String) (table : UserTable)

private theorem run_bind {σ α β : Type} (call : StateM σ α) (f : α → StateM σ β) (s : σ) :
    (call >>= f) s = f (call s).1 (call s).2 :=
  rfl

/-- The first row of those with some value in a column. -/
private theorem head?_filter_eq {κ : Type} [DecidableEq κ] (key : User → κ) (k : κ)
    (rows : List User) : (rows.filter (key · = k)).head? = rows.find? (key · == k) := by
  rw [List.head?_filter]
  rfl

theorem make_findById (id : UserId) :
    (StoreCall.findById id).make (UserStore.ofQueries (ask now) digest) table =
      (.ok (table.user? id), table) := by
  show (Except.ok (table.rows.filter (·.id = id)).head?, table) = _
  rw [head?_filter_eq (·.id), user?]

theorem make_findByUsername (username : String) :
    (StoreCall.findByUsername username).make (UserStore.ofQueries (ask now) digest) table =
      (.ok (table.named? username), table) := by
  show (Except.ok (table.rows.filter (·.username = username)).head?, table) = _
  rw [head?_filter_eq (·.username), named?]

/-- A user is found, which costs a number, or added. -/
theorem make_findOrCreate (t : UserTemplate) :
    (StoreCall.findOrCreate t).make (UserStore.ofQueries (ask now) digest) table =
      match table.named? t.username with
      | some user => (.ok user, { table with lastId := table.lastId + 1 })
      | none =>
        (.ok (.ofTemplate ⟨table.lastId + 1⟩ t now),
          ⟨table.rows ++ [.ofTemplate ⟨table.lastId + 1⟩ t now], table.lastId + 1⟩) := by
  have hany : table.rows.any (·.username = t.username) = (table.named? t.username).isSome := by
    rw [named?, List.isSome_find?]
    rfl
  have hinsert : UserStore.first? (ask now) (.insert t) table =
      (.ok (table.answer now (.insert t)).1.head?, (table.answer now (.insert t)).2) := rfl
  show UserStore.insertOrFind (ask now) t table = _
  rw [UserStore.insertOrFind, run_bind, hinsert]
  cases hnamed : table.named? t.username with
  | none =>
    simp only [answer, hany, hnamed, Option.isSome_none, Bool.false_eq_true, if_false,
      List.head?_cons]
    rfl
  | some user =>
    have hfind : UserStore.first? (ask now) (.byUsername t.username)
        { table with lastId := table.lastId + 1 } =
          (.ok (some user), { table with lastId := table.lastId + 1 }) := by
      rw [← hnamed]
      exact make_findByUsername now digest { table with lastId := table.lastId + 1 } t.username
    simp only [answer, hany, hnamed, Option.isSome_some, if_true, List.head?_nil]
    rw [run_bind, hfind]
    rfl

theorem make_updatePassword (id : UserId) (password : String) :
    (StoreCall.updatePassword id password).make (UserStore.ofQueries (ask now) digest) table =
      match digest password with
      | .error e => (.error (.encoding e.message), table)
      | .ok d => (.ok (), table.change id (·.setPasswordDigest (some d) now)) := by
  simp only [StoreCall.make, UserStore.ofQueries]
  cases digest password <;> rfl

/-- The store does not send an empty digest, so what is stored is what a user would store. -/
theorem make_updateRefreshDigest (id : UserId) (d : Option String) :
    (StoreCall.updateRefreshDigest id d).make (UserStore.ofQueries (ask now) digest) table =
      (.ok (), table.change id (·.setRefreshDigest d now)) := rfl

end

/-! ### What the table promises -/

/-- Numbers and names are unique, and no number comes after the last that was given out. -/
structure Keyed (table : UserTable) : Prop where
  ids : (table.rows.map (·.id)).Nodup
  names : (table.rows.map (·.username)).Nodup
  le_lastId : ∀ u ∈ table.rows, u.id.value ≤ table.lastId

variable {table : UserTable}

theorem Keyed.skip (h : table.Keyed) : Keyed { table with lastId := table.lastId + 1 } where
  ids := h.ids
  names := h.names
  le_lastId u hu := by
    have hle := h.le_lastId u hu
    show u.id.value ≤ table.lastId + 1
    omega

/-- A column without duplicates takes a value that is not in it. -/
theorem nodup_map_concat {κ : Type} {key : User → κ} {rows : List User} {u : User}
    (h : (rows.map key).Nodup) (hnew : key u ∉ rows.map key) : ((rows ++ [u]).map key).Nodup := by
  rw [List.map_append, List.map_singleton, ← List.concat_eq_append, List.nodup_concat]
  exact ⟨hnew, h⟩

/-- The next number is nobody's. -/
theorem Keyed.next_not_mem (h : table.Keyed) :
    (⟨table.lastId + 1⟩ : UserId) ∉ table.rows.map (·.id) := by
  intro hmem
  obtain ⟨v, hv, hid⟩ := List.mem_map.mp hmem
  have hle := h.le_lastId v hv
  have hvalue : v.id.value = table.lastId + 1 := congrArg UserId.value hid
  omega

/-- A row under a name that is free is given the next number. -/
theorem Keyed.add (h : table.Keyed) {u : User} (hid : u.id = ⟨table.lastId + 1⟩)
    (hname : u.username ∉ table.rows.map (·.username)) :
    Keyed ⟨table.rows ++ [u], table.lastId + 1⟩ where
  ids := nodup_map_concat h.ids (hid ▸ h.next_not_mem)
  names := nodup_map_concat h.names hname
  le_lastId v hv := by
    show v.id.value ≤ table.lastId + 1
    rcases List.mem_append.mp hv with hv | hv
    · have hle := h.le_lastId v hv
      omega
    · have hlast : v.id = ⟨table.lastId + 1⟩ := List.mem_singleton.mp hv ▸ hid
      exact Int.le_of_eq (congrArg UserId.value hlast)

/-- What a change does to a column of the rows that it keeps. -/
theorem map_change {κ : Type} {key : User → κ} {f : User → User} (hf : ∀ u, key (f u) = key u)
    (table : UserTable) (id : UserId) : (table.change id f).rows.map key = table.rows.map key := by
  rw [change, List.map_map]
  refine List.map_congr_left fun u _ => ?_
  by_cases hu : u.id = id <;> simp [hu, hf]

theorem Keyed.change (h : table.Keyed) (id : UserId) {f : User → User}
    (hid : ∀ u, (f u).id = u.id) (hname : ∀ u, (f u).username = u.username) :
    (table.change id f).Keyed where
  ids := by
    rw [map_change hid]
    exact h.ids
  names := by
    rw [map_change hname]
    exact h.names
  le_lastId v hv := by
    have hmem : v.id ∈ (table.change id f).rows.map (·.id) := List.mem_map_of_mem hv
    rw [map_change hid] at hmem
    obtain ⟨u, hu, heq⟩ := List.mem_map.mp hmem
    exact heq ▸ h.le_lastId u hu

/-- **Every call keeps the promise.** -/
theorem Keyed.make (h : table.Keyed) (now : Moment) (digest : String → Except PasswordError String)
    (c : StoreCall) : (c.make (UserStore.ofQueries (ask now) digest) table).2.Keyed := by
  cases c with
  | findById id => exact h
  | findByUsername username => exact h
  | findOrCreate t =>
    rw [make_findOrCreate]
    split
    · exact h.skip
    · next hnamed =>
      refine h.add rfl fun hmem => ?_
      obtain ⟨u, hu, hname⟩ := List.mem_map.mp hmem
      exact List.find?_eq_none.mp hnamed u hu (beq_iff_eq.mpr hname)
  | updatePassword id password =>
    rw [make_updatePassword]
    split
    · exact h
    · exact h.change id (fun _ => rfl) fun _ => rfl
  | updateRefreshDigest id d =>
    rw [make_updateRefreshDigest]
    exact h.change id (fun _ => rfl) fun _ => rfl

end UserTable

end Gatehouse
