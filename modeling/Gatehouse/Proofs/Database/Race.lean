import Gatehouse.Proofs.Database.Table

/-!
# Signing up at the same time

In the database a user is found or created by one statement or two: a row is inserted unless its
name is taken, and if it is, the row of that name is looked up. Each statement is carried out as a
whole, but between the two statements of one call those of others may come.

Over a database that only notes down what is sent, the operation of the store becomes a `Sending`
program, and `findOrCreate_eq` says which one. `SignUps` is a table with the calls that were started
over it; a move starts a call or carries out the next statement of one, so every order is possible.

`SignUp.Phase` lists how far a call may be, and `SignUp.Phase.advance` says once what its next
statement does. This carries the invariant `SignUps.Sound`, which holds whatever moves are made.
From it `SignUps.findOrCreate_race` takes what is promised to those who sign up: nobody fails,
whoever asks for one name is given one user, and each row that is new was added by one call.
-/

namespace Gatehouse

/-! ### Programs that send statements -/

/-- A program that still has statements to send, or is done. -/
inductive Sending (α : Type) : Type where
  | done (a : α)
  | send (s : SqlStatement) (next : Except DatabaseFault (List Row) → Sending α)

namespace Sending

variable {α β : Type}

/-- One program after the other. -/
def bind : Sending α → (α → Sending β) → Sending β
  | .done a, f => f a
  | .send s next, f => .send s fun answer => (next answer).bind f

instance : Monad Sending where
  pure := .done
  bind := bind

/-- The database whose statements are noted down. -/
def database : Database Sending where
  execute s := .send s .done

/-- The result of a program that is done. -/
def result? : Sending α → Option α
  | .done a => some a
  | .send _ _ => none

end Sending

/-- The users that a database has answered with. -/
def usersOf : Except DatabaseFault (List Row) → Except StoreError (List User)
  | .error fault => .error fault.toStoreError
  | .ok rows => (rows.mapM User.ofRow).mapError DatabaseFault.toStoreError

theorem usersOf_rows (users : List User) : usersOf (.ok (users.map User.toRow)) = .ok users := by
  rw [usersOf, User.mapM_ofRow_toRow]
  rfl

/-- What a call does once it has looked for the row that has its name. -/
def afterFind (t : UserTemplate) (answer : Except DatabaseFault (List Row)) :
    Sending (Except StoreError User) :=
  match (usersOf answer).map List.head? with
  | .error e => .done (.error e)
  | .ok (some user) => .done (.ok user)
  | .ok none => .done (.error (UserStore.vanished t.username))

/-- What a call does once it has tried to insert its row. -/
def afterInsert (t : UserTemplate) (answer : Except DatabaseFault (List Row)) :
    Sending (Except StoreError User) :=
  match (usersOf answer).map List.head? with
  | .error e => .done (.error e)
  | .ok (some user) => .done (.ok user)
  | .ok none => .send (UserQuery.byUsername t.username).statement (afterFind t)

/-- Finding or creating a user, as the statements that are sent. -/
theorem findOrCreate_eq (salt : Bytes) (hasher : PasswordHasher) (t : UserTemplate) :
    (UserStore.ofDatabase Sending.database salt hasher).findOrCreate t =
      .send (UserQuery.insert t).statement (afterInsert t) := by
  show Sending.send _ _ = Sending.send _ _
  congr 1
  funext answer
  rcases answer with fault | rows
  · rfl
  · show Sending.bind (Sending.bind (Sending.done _) _) _ = _
    rw [afterInsert, usersOf]
    cases rows.mapM User.ofRow with
    | error fault => rfl
    | ok users =>
      cases users with
      | cons user rest => rfl
      | nil =>
        show Sending.send _ _ = Sending.send _ _
        congr 1
        funext answer
        rcases answer with fault | rows
        · rfl
        · show Sending.bind (Sending.bind (Sending.done _) _) _ = _
          rw [afterFind, usersOf]
          cases rows.mapM User.ofRow with
          | error fault => rfl
          | ok users => cases users <;> rfl

/-! ### One call -/

/-- A statement that was carried out at some moment. -/
structure Sent where
  now : Moment
  statement : SqlStatement
  answer : Except DatabaseFault (List Row)

/-- A call that finds or creates a user. -/
structure SignUp where
  template : UserTemplate
  /-- The statements that were carried out for the call. -/
  sent : List Sent
  rest : Sending (Except StoreError User)

namespace SignUp

/-- A call for which no statement was carried out yet. -/
def start (salt : Bytes) (hasher : PasswordHasher) (t : UserTemplate) : SignUp :=
  ⟨t, [], (UserStore.ofDatabase Sending.database salt hasher).findOrCreate t⟩

/-- What the call has returned. -/
def result? (call : SignUp) : Option (Except StoreError User) :=
  call.rest.result?

/-- Carries out the next statement of a call; gives the table after it and what is left. -/
def advance (now : Moment) (table : UserTable) (call : SignUp) : UserTable × SignUp :=
  match call.rest with
  | .done _ => (table, call)
  | .send s next =>
    let (answer, after) := (UserTable.database now).execute s table
    (after, ⟨call.template, call.sent ++ [⟨now, s, answer⟩], next answer⟩)

/-- The call has inserted a user: its insertion gave the row of the user. -/
def Adds (call : SignUp) (u : User) : Prop :=
  ∃ now, ⟨now, (UserQuery.insert call.template).statement, .ok [u.toRow]⟩ ∈ call.sent

/-- How far a call may be over some rows. -/
inductive Phase (rows : List User) : SignUp → Prop where
  | begun (salt : Bytes) (hasher : PasswordHasher) (t : UserTemplate) :
    Phase rows (start salt hasher t)
  | added (t : UserTemplate) (now : Moment) (id : UserId) (h : User.ofTemplate id t now ∈ rows) :
    Phase rows ⟨t,
      [⟨now, (UserQuery.insert t).statement, .ok [(User.ofTemplate id t now).toRow]⟩],
      .done (.ok (User.ofTemplate id t now))⟩
  | refused (t : UserTemplate) (now : Moment) (h : t.username ∈ rows.map (·.username)) :
    Phase rows ⟨t, [⟨now, (UserQuery.insert t).statement, .ok []⟩],
      .send (UserQuery.byUsername t.username).statement (afterFind t)⟩
  | found (t : UserTemplate) (now now' : Moment) (answer : Except DatabaseFault (List Row))
    (u : User) (h : u ∈ rows) (hname : u.username = t.username) :
    Phase rows ⟨t,
      [⟨now, (UserQuery.insert t).statement, .ok []⟩,
        ⟨now', (UserQuery.byUsername t.username).statement, answer⟩],
      .done (.ok u)⟩

theorem not_adds_start (salt : Bytes) (hasher : PasswordHasher) (t : UserTemplate) (u : User) :
    ¬(start salt hasher t).Adds u :=
  fun ⟨_, h⟩ => nomatch h

theorem adds_added_iff (t : UserTemplate) (now : Moment) (u v : User)
    (rest : Sending (Except StoreError User)) :
    Adds ⟨t, [⟨now, (UserQuery.insert t).statement, .ok [u.toRow]⟩], rest⟩ v ↔ v = u := by
  simp [Adds, User.toRow_injective.eq_iff]

theorem not_adds_refused (t : UserTemplate) (now : Moment)
    (rest : Sending (Except StoreError User)) (u : User) :
    ¬Adds ⟨t, [⟨now, (UserQuery.insert t).statement, .ok []⟩], rest⟩ u := by
  simp [Adds]

theorem not_adds_found (t : UserTemplate) (now now' : Moment)
    (answer : Except DatabaseFault (List Row)) (rest : Sending (Except StoreError User))
    (u : User) :
    ¬Adds ⟨t, [⟨now, (UserQuery.insert t).statement, .ok []⟩,
      ⟨now', (UserQuery.byUsername t.username).statement, answer⟩], rest⟩ u := by
  simp [Adds, UserQuery.insert_statement_ne]

variable {rows : List User} {table : UserTable} {call : SignUp}

/-- More rows hinder no call. -/
theorem Phase.append (h : Phase rows call) (more : List User) : Phase (rows ++ more) call := by
  cases h with
  | begun salt hasher t => exact .begun salt hasher t
  | added t now id h => exact .added t now id (List.mem_append_left _ h)
  | refused t now h =>
    exact .refused t now (List.map_append ▸ List.mem_append_left _ h)
  | found t now now' answer u h hname =>
    exact .found t now now' answer u (List.mem_append_left _ h) hname

/-- A call returns a user with its name who is in the table. -/
theorem Phase.result (h : Phase rows call) {result : Except StoreError User}
    (hresult : call.result? = some result) :
    ∃ u ∈ rows, result = .ok u ∧ u.username = call.template.username := by
  cases h with
  | begun salt hasher t =>
    rw [result?, start, findOrCreate_eq] at hresult
    cases hresult
  | added t now id h => exact ⟨_, h, (Option.some.inj hresult).symm, rfl⟩
  | refused t now h => cases hresult
  | found t now now' answer u h hname => exact ⟨u, h, (Option.some.inj hresult).symm, hname⟩

/-- A call has returned after two statements. -/
theorem Phase.length_sent_lt (h : Phase rows call) (hresult : call.result? = none) :
    call.sent.length < 2 := by
  cases h with
  | begun salt hasher t => exact Nat.zero_lt_two
  | added t now id h => cases hresult
  | refused t now h => exact Nat.one_lt_two
  | found t now now' answer u h hname => cases hresult

/-- What a call inserts is made from its template, and is in the table. -/
theorem Phase.adds (h : Phase rows call) {u : User} (hadds : call.Adds u) :
    u ∈ rows ∧ ∃ now, u = .ofTemplate u.id call.template now := by
  cases h with
  | begun salt hasher t => exact absurd hadds (not_adds_start salt hasher t u)
  | added t now id h =>
    rw [adds_added_iff] at hadds
    subst hadds
    exact ⟨h, now, rfl⟩
  | refused t now h => exact absurd hadds (not_adds_refused t now _ u)
  | found t now now' answer v h hname =>
    exact absurd hadds (not_adds_found t now now' answer _ u)

/-! ### The next statement of a call -/

section

variable (now : Moment) (salt : Bytes) (hasher : PasswordHasher) {t : UserTemplate}

/-- A call whose next statement is that of a query is given the rows that the table answers with. -/
theorem advance_statement {sent : List Sent} {q : UserQuery}
    {next : Except DatabaseFault (List Row) → Sending (Except StoreError User)} {users : List User}
    {after : UserTable} (h : table.answer now q = (users, after)) :
    advance now table ⟨t, sent, .send q.statement next⟩ =
      (after, ⟨t, sent ++ [⟨now, q.statement, .ok (users.map User.toRow)⟩],
        next (.ok (users.map User.toRow))⟩) := by
  have hexecute := UserTable.execute_statement now q table
  rw [h] at hexecute
  simp only [advance, hexecute]

/-- Nothing is inserted under a name that is taken. -/
theorem advance_taken (htaken : t.username ∈ table.rows.map (·.username)) :
    (start salt hasher t).advance now table =
      ({ table with lastId := table.lastId + 1 },
        ⟨t, [⟨now, (UserQuery.insert t).statement, .ok []⟩],
          .send (UserQuery.byUsername t.username).statement (afterFind t)⟩) := by
  have hany : table.rows.any (·.username = t.username) = true := by simpa using htaken
  have hanswer : table.answer now (.insert t) =
      ([], { table with lastId := table.lastId + 1 }) := by
    simp only [UserTable.answer, hany, if_true]
  rw [start, findOrCreate_eq, advance_statement now hanswer]
  rfl

/-- A row is inserted under a name that is free, and the call returns. -/
theorem advance_free (hfree : t.username ∉ table.rows.map (·.username)) :
    (start salt hasher t).advance now table =
      (⟨table.rows ++ [.ofTemplate ⟨table.lastId + 1⟩ t now], table.lastId + 1⟩,
        ⟨t, [⟨now, (UserQuery.insert t).statement,
            .ok [(User.ofTemplate ⟨table.lastId + 1⟩ t now).toRow]⟩],
          .done (.ok (.ofTemplate ⟨table.lastId + 1⟩ t now))⟩) := by
  have hany : table.rows.any (·.username = t.username) = false := by simpa using hfree
  have hanswer : table.answer now (.insert t) =
      ([.ofTemplate ⟨table.lastId + 1⟩ t now],
        ⟨table.rows ++ [.ofTemplate ⟨table.lastId + 1⟩ t now], table.lastId + 1⟩) := by
    simp only [UserTable.answer, hany, Bool.false_eq_true, if_false]
  rw [start, findOrCreate_eq, advance_statement now hanswer, afterInsert, usersOf_rows]
  rfl

/-- The lookup gives the first row of the name. -/
theorem advance_lookup {sent : List Sent} {u : User} (hu : table.named? t.username = some u) :
    advance now table
        ⟨t, sent, .send (UserQuery.byUsername t.username).statement (afterFind t)⟩ =
      (table,
        ⟨t, sent ++ [⟨now, (UserQuery.byUsername t.username).statement,
            .ok ((table.rows.filter (·.username = t.username)).map User.toRow)⟩],
          .done (.ok u)⟩) := by
  have hhead : (table.rows.filter (·.username = t.username)).head? = some u := by
    rw [List.head?_filter, ← hu]
    rfl
  have hanswer : table.answer now (.byUsername t.username) =
      (table.rows.filter (·.username = t.username), table) := rfl
  rw [advance_statement now hanswer, afterFind, usersOf_rows, Except.map, hhead]

end

/-- What a statement of a call does: which rows it adds, and what it leaves. -/
structure Advanced (table : UserTable) (call : SignUp) (more : List User)
    (left : UserTable × SignUp) : Prop where
  rows : left.1.rows = table.rows ++ more
  keyed : left.1.Keyed
  phase : left.2.Phase left.1.rows
  adds : ∀ u, left.2.Adds u ↔ call.Adds u ∨ u ∈ more
  fresh : ∀ u ∈ more, u ∉ table.rows

/-- A call that has returned stays as it is. -/
theorem Advanced.refl (hkeyed : table.Keyed) (h : Phase table.rows call) :
    Advanced table call [] (table, call) :=
  ⟨(List.append_nil _).symm, hkeyed, h, by simp, by simp⟩

/-- **What the next statement of a call does.** It adds the row of the call, or no row. -/
theorem Phase.advance (hkeyed : table.Keyed) (h : Phase table.rows call) (now : Moment) :
    ∃ more, Advanced table call more (call.advance now table) := by
  cases h with
  | begun salt hasher t =>
    by_cases htaken : t.username ∈ table.rows.map (·.username)
    · rw [advance_taken now salt hasher htaken]
      exact ⟨[], (List.append_nil _).symm, hkeyed.skip, .refused t now htaken,
        fun u => by simp [not_adds_refused, not_adds_start], by simp⟩
    · rw [advance_free now salt hasher htaken]
      refine ⟨[.ofTemplate ⟨table.lastId + 1⟩ t now], rfl, hkeyed.add rfl htaken,
        .added t now _ (by simp), fun u => by simp [adds_added_iff, not_adds_start], ?_⟩
      intro u hu hmem
      rw [List.mem_singleton.mp hu] at hmem
      exact htaken (List.mem_map.mpr ⟨_, hmem, rfl⟩)
  | added t now' id h => exact ⟨[], .refl hkeyed (.added t now' id h)⟩
  | refused t now' h =>
    obtain ⟨u, hu, hname, hfound⟩ := UserTable.exists_named h
    rw [advance_lookup now hfound]
    exact ⟨[], (List.append_nil _).symm, hkeyed, .found t now' now _ u hu hname,
      fun u => by simp [not_adds_refused, not_adds_found], by simp⟩
  | found t now' now'' answer u h hname =>
    exact ⟨[], .refl hkeyed (.found t now' now'' answer u h hname)⟩

theorem template_advance (now : Moment) (table : UserTable) (call : SignUp) :
    (call.advance now table).2.template = call.template := by
  rw [advance]
  split <;> rfl

/-- A call returns, or one more statement was carried out for it. -/
theorem advance_progress (now : Moment) (table : UserTable) (call : SignUp) :
    (call.result? ≠ none ∧ (call.advance now table).2 = call) ∨
      (call.result? = none ∧ (call.advance now table).2.sent.length = call.sent.length + 1) := by
  obtain ⟨t, sent, rest⟩ := call
  cases rest with
  | done result => exact .inl ⟨Option.some_ne_none _, rfl⟩
  | send s next => exact .inr ⟨rfl, List.length_append⟩

end SignUp

/-! ### Calls at the same time -/

/-- A table, and the calls that were started over it. -/
structure SignUps where
  table : UserTable
  calls : List SignUp

namespace SignUps

/-- What happens next. -/
inductive Move where
  /-- A call is started. -/
  | start (salt : Bytes) (hasher : PasswordHasher) (t : UserTemplate)
  /-- The next statement of a call is carried out. -/
  | advance (now : Moment) (i : Nat)

/-- The template of the call that is started. -/
def Move.template? : Move → Option UserTemplate
  | .start _ _ t => some t
  | .advance _ _ => none

/-- Whether the next statement of a call is carried out. -/
def Move.advances (i : Nat) : Move → Bool
  | .start _ _ _ => false
  | .advance _ j => j = i

/-- A table over which no call was started. -/
def start (table : UserTable) : SignUps :=
  ⟨table, []⟩

/-- Makes a move. -/
def move (p : SignUps) : Move → SignUps
  | .start salt hasher t => { p with calls := p.calls ++ [.start salt hasher t] }
  | .advance now i =>
    match p.calls[i]? with
    | none => p
    | some call =>
      let (table, left) := call.advance now p.table
      ⟨table, p.calls.set i left⟩

/-- Makes moves one after the other. -/
def follow (p : SignUps) (moves : List Move) : SignUps :=
  moves.foldl move p

theorem follow_append (p : SignUps) (moves more : List Move) :
    p.follow (moves ++ more) = (p.follow moves).follow more :=
  List.foldl_append

theorem move_advance {p : SignUps} {i : Nat} {call : SignUp} (h : p.calls[i]? = some call)
    (now : Moment) :
    p.move (.advance now i) =
      ⟨(call.advance now p.table).1, p.calls.set i (call.advance now p.table).2⟩ := by
  simp only [move, h]

/-- The calls are those that were started. -/
theorem follow_start {table : UserTable} {calls : List SignUp} (salt : Bytes)
    (hasher : PasswordHasher) (t : UserTemplate) (moves : List Move) :
    follow ⟨table, calls⟩ (.start salt hasher t :: moves) =
      follow ⟨table, calls ++ [.start salt hasher t]⟩ moves := rfl

theorem follow_advance {table after : UserTable} {calls : List SignUp} {i : Nat}
    {call left : SignUp} {now : Moment} (hcall : calls[i]? = some call)
    (h : call.advance now table = (after, left)) (moves : List Move) :
    follow ⟨table, calls⟩ (.advance now i :: moves) = follow ⟨after, calls.set i left⟩ moves := by
  have hmove : move ⟨table, calls⟩ (.advance now i) = ⟨after, calls.set i left⟩ := by
    rw [move_advance hcall, h]
  rw [follow, List.foldl_cons, hmove, follow]

theorem templates_move (p : SignUps) (m : Move) :
    (p.move m).calls.map (·.template) = p.calls.map (·.template) ++ m.template?.toList := by
  cases m with
  | start salt hasher t => exact List.map_append
  | advance now i =>
    cases hcall : p.calls[i]? with
    | none => simp [move, hcall, Move.template?]
    | some call =>
      obtain ⟨hlt, hget⟩ := List.getElem?_eq_some_iff.mp hcall
      have hlt' : i < (p.calls.map (·.template)).length := by rwa [List.length_map]
      have hsame : call.template = (p.calls.map (·.template))[i] := by rw [List.getElem_map, hget]
      rw [move_advance hcall, List.map_set, SignUp.template_advance, hsame, List.set_getElem_self]
      exact (List.append_nil _).symm

theorem templates_follow (p : SignUps) (moves : List Move) :
    (p.follow moves).calls.map (·.template) =
      p.calls.map (·.template) ++ moves.filterMap Move.template? := by
  induction moves generalizing p with
  | nil => exact (List.append_nil _).symm
  | cons m moves ih =>
    have hmove : (p.follow (m :: moves)).calls = ((p.move m).follow moves).calls := rfl
    rw [hmove, ih, templates_move, List.append_assoc]
    cases m <;> rfl

/-- The call at a place has inserted a user. -/
def AddedBy (p : SignUps) (i : Nat) (u : User) : Prop :=
  ∃ call, p.calls[i]? = some call ∧ call.Adds u

/-- Every call is at some phase, every row that is new was inserted by one call, and the table
still promises what it promised. -/
structure Sound (rows added : List User) (p : SignUps) : Prop where
  rows : p.table.rows = rows ++ added
  keyed : p.table.Keyed
  phases : ∀ call ∈ p.calls, call.Phase p.table.rows
  adder : ∀ u ∈ added, ∃ i, p.AddedBy i u
  unique : ∀ i j u, p.AddedBy i u → p.AddedBy j u → i = j
  mem_added : ∀ i u, p.AddedBy i u → u ∈ added

variable {rows added : List User} {p : SignUps}

/-- The calls after one more was started. -/
theorem calls_start {salt : Bytes} {hasher : PasswordHasher} {t : UserTemplate} {i : Nat}
    {call : SignUp} : (p.move (.start salt hasher t)).calls[i]? = some call ↔
      p.calls[i]? = some call ∨ (i = p.calls.length ∧ call = .start salt hasher t) := by
  show (p.calls ++ [SignUp.start salt hasher t])[i]? = some call ↔ _
  by_cases hi : i < p.calls.length
  · simp [List.getElem?_append_left hi, Nat.ne_of_lt hi]
  · have hnone : p.calls[i]? = none := List.getElem?_eq_none (Nat.le_of_not_lt hi)
    rw [List.getElem?_append_right (Nat.le_of_not_lt hi), List.getElem?_singleton, hnone]
    have hzero : i - p.calls.length = 0 ↔ i = p.calls.length := by omega
    simp only [hzero]
    split <;> simp [*, eq_comm]

/-- A call that is started has inserted nobody. -/
theorem addedBy_start {salt : Bytes} {hasher : PasswordHasher} {t : UserTemplate} {i : Nat}
    {u : User} : (p.move (.start salt hasher t)).AddedBy i u ↔ p.AddedBy i u := by
  constructor
  · rintro ⟨call, hcall, hadds⟩
    rcases calls_start.mp hcall with hcall | ⟨-, rfl⟩
    · exact ⟨call, hcall, hadds⟩
    · exact absurd hadds (SignUp.not_adds_start salt hasher t u)
  · rintro ⟨call, hcall, hadds⟩
    exact ⟨call, calls_start.mpr (.inl hcall), hadds⟩

/-- A call that is advanced has inserted what it had, and what its statement adds. -/
theorem addedBy_advance {i : Nat} {call : SignUp} (hcall : p.calls[i]? = some call) {now : Moment}
    {more : List User} (h : call.Advanced p.table more (call.advance now p.table)) {j : Nat}
    {u : User} :
    (p.move (.advance now i)).AddedBy j u ↔ p.AddedBy j u ∨ (j = i ∧ u ∈ more) := by
  obtain ⟨hlt, -⟩ := List.getElem?_eq_some_iff.mp hcall
  rw [AddedBy, move_advance hcall, List.getElem?_set]
  by_cases hj : i = j
  · subst hj
    simp only [if_true, hlt, AddedBy, hcall, true_and]
    simpa using h.adds u
  · have hne : ¬j = i := fun h => hj h.symm
    simp [hj, hne, AddedBy]

/-- A call that is started breaks no promise. -/
theorem Sound.start (h : Sound rows added p) (salt : Bytes) (hasher : PasswordHasher)
    (t : UserTemplate) : Sound rows added (p.move (.start salt hasher t)) where
  rows := h.rows
  keyed := h.keyed
  phases call hmem := by
    rcases List.mem_append.mp hmem with hmem | hmem
    · exact h.phases call hmem
    · rw [List.mem_singleton.mp hmem]
      exact .begun salt hasher t
  adder := by simpa only [addedBy_start] using h.adder
  unique := by simpa only [addedBy_start] using h.unique
  mem_added := by simpa only [addedBy_start] using h.mem_added

/-- The next statement of a call breaks no promise. -/
theorem Sound.advance (h : Sound rows added p) {i : Nat} {call : SignUp}
    (hcall : p.calls[i]? = some call) {now : Moment} {more : List User}
    (hmore : call.Advanced p.table more (call.advance now p.table)) :
    Sound rows (added ++ more) (p.move (.advance now i)) := by
  have hadded {j u} := addedBy_advance (j := j) (u := u) hcall hmore
  -- who is inserted now was in the table under no call
  have hnew : ∀ j u, p.AddedBy j u → u ∉ more := fun j u hold hu =>
    hmore.fresh u hu (h.rows ▸ List.mem_append_right _ (h.mem_added j u hold))
  refine ⟨?_, ?_, fun other hmem => ?_, fun u hu => ?_, fun j k u hj hk => ?_, fun j u hj => ?_⟩
  · rw [move_advance hcall, hmore.rows, h.rows, List.append_assoc]
  · rw [move_advance hcall]
    exact hmore.keyed
  · rw [move_advance hcall] at hmem ⊢
    rcases List.mem_or_eq_of_mem_set hmem with hmem | rfl
    · exact hmore.rows ▸ (h.phases other hmem).append more
    · exact hmore.phase
  · rcases List.mem_append.mp hu with hu | hu
    · obtain ⟨j, hj⟩ := h.adder u hu
      exact ⟨j, hadded.mpr (.inl hj)⟩
    · exact ⟨i, hadded.mpr (.inr ⟨rfl, hu⟩)⟩
  · rcases hadded.mp hj with hold | ⟨hji, hu⟩ <;> rcases hadded.mp hk with hold' | ⟨hki, hu'⟩
    · exact h.unique j k u hold hold'
    · exact absurd hu' (hnew j u hold)
    · exact absurd hu (hnew k u hold')
    · exact hji.trans hki.symm
  · rcases hadded.mp hj with hj | ⟨-, hu⟩
    · exact List.mem_append_left _ (h.mem_added j u hj)
    · exact List.mem_append_right _ hu

/-- **Every move keeps the promises.** -/
theorem Sound.move (h : Sound rows added p) (m : Move) :
    ∃ more, Sound rows (added ++ more) (p.move m) := by
  cases m with
  | start salt hasher t =>
    refine ⟨[], ?_⟩
    rw [List.append_nil]
    exact h.start salt hasher t
  | advance now i =>
    cases hcall : p.calls[i]? with
    | none =>
      have hsame : p.move (.advance now i) = p := by simp only [SignUps.move, hcall]
      refine ⟨[], ?_⟩
      rw [hsame, List.append_nil]
      exact h
    | some call =>
      obtain ⟨more, hmore⟩ := (h.phases call (List.mem_of_getElem? hcall)).advance h.keyed now
      exact ⟨more, h.advance hcall hmore⟩

theorem Sound.follow (h : Sound rows added p) (moves : List Move) :
    ∃ more, Sound rows (added ++ more) (p.follow moves) := by
  induction moves generalizing p added with
  | nil => exact ⟨[], by rwa [List.append_nil]⟩
  | cons m moves ih =>
    obtain ⟨more, hmore⟩ := h.move m
    obtain ⟨further, hfurther⟩ := ih hmore
    exact ⟨more ++ further, by rwa [← List.append_assoc]⟩

theorem sound_start {table : UserTable} (h : table.Keyed) : Sound table.rows [] (start table) where
  rows := (List.append_nil _).symm
  keyed := h
  phases _ hmem := nomatch hmem
  adder _ hu := nomatch hu
  unique _ _ _ hi := nomatch hi
  mem_added _ _ hi := nomatch hi

/-! ### Calls return -/

/-- A call that has returned stays as it is. -/
theorem calls_move_of_result {i : Nat} {call : SignUp} (hcall : p.calls[i]? = some call)
    (hresult : call.result? ≠ none) (m : Move) : (p.move m).calls[i]? = some call := by
  cases m with
  | start salt hasher t => exact calls_start.mpr (.inl hcall)
  | advance now j =>
    cases hother : p.calls[j]? with
    | none => simpa only [SignUps.move, hother] using hcall
    | some other =>
      rw [move_advance hother, List.getElem?_set]
      split
      · next hji =>
        subst hji
        obtain rfl : other = call := Option.some.inj (hother.symm.trans hcall)
        rcases other.advance_progress now p.table with ⟨-, hsame⟩ | ⟨hnone, -⟩
        · rw [if_pos (List.getElem?_eq_some_iff.mp hcall).1, hsame]
        · exact absurd hnone hresult
      · exact hcall

theorem calls_follow_of_result {i : Nat} {call : SignUp} (hcall : p.calls[i]? = some call)
    (hresult : call.result? ≠ none) (moves : List Move) :
    (p.follow moves).calls[i]? = some call := by
  induction moves generalizing p with
  | nil => exact hcall
  | cons m moves ih => exact ih (calls_move_of_result hcall hresult m)

/-- A statement is carried out for a call that has not returned whenever it is advanced. -/
theorem calls_move_of_result_none {i : Nat} {call : SignUp} (hcall : p.calls[i]? = some call)
    (hresult : call.result? = none) (m : Move) :
    ∃ left, (p.move m).calls[i]? = some left ∧
      left.sent.length = call.sent.length + [m].countP (·.advances i) := by
  cases m with
  | start salt hasher t => exact ⟨call, calls_start.mpr (.inl hcall), rfl⟩
  | advance now j =>
    by_cases hj : j = i
    · subst hj
      refine ⟨(call.advance now p.table).2, ?_, ?_⟩
      · rw [move_advance hcall, List.getElem?_set_self (List.getElem?_eq_some_iff.mp hcall).1]
      · rcases call.advance_progress now p.table with ⟨hsome, -⟩ | ⟨-, hlength⟩
        · exact absurd hresult hsome
        · simpa [Move.advances] using hlength
    · refine ⟨call, ?_, by simp [Move.advances, hj]⟩
      cases hother : p.calls[j]? with
      | none => simpa only [SignUps.move, hother] using hcall
      | some other => rw [move_advance hother, List.getElem?_set_ne hj, hcall]

/-- A call has returned, or as many statements were carried out for it as it was advanced. -/
theorem progress_follow {i : Nat} {call : SignUp} (hcall : p.calls[i]? = some call)
    (moves : List Move) :
    ∃ left, (p.follow moves).calls[i]? = some left ∧
      (left.result? ≠ none ∨
        left.sent.length = call.sent.length + moves.countP (·.advances i)) := by
  induction moves generalizing p call with
  | nil => exact ⟨call, hcall, .inr rfl⟩
  | cons m moves ih =>
    by_cases hresult : call.result? = none
    · obtain ⟨next, hnext, hlength⟩ := calls_move_of_result_none hcall hresult m
      obtain ⟨left, hleft, hprogress⟩ := ih hnext
      refine ⟨left, hleft, hprogress.imp_right fun h => ?_⟩
      rw [h, hlength, Nat.add_assoc, ← List.countP_append, List.singleton_append]
    · exact ⟨call, calls_follow_of_result hcall hresult (m :: moves), .inl hresult⟩

/-! ### What is promised -/

/-- What is promised to those who sign up over some rows. -/
structure Settled (rows : List User) (p : SignUps) : Prop where
  /-- Nobody fails: who is answered is given a user of the table with the name asked for. -/
  returns : ∀ call ∈ p.calls, ∀ result, call.result? = some result →
    ∃ u ∈ p.table.rows, result = .ok u ∧ u.username = call.template.username
  /-- Who asks for one name is given one user. -/
  same_user : ∀ call ∈ p.calls, ∀ other ∈ p.calls, ∀ u v, call.result? = some (.ok u) →
    other.result? = some (.ok v) → call.template.username = other.template.username → u = v
  /-- Who asks for different names is given different numbers. -/
  other_id : ∀ call ∈ p.calls, ∀ other ∈ p.calls, ∀ u v, call.result? = some (.ok u) →
    other.result? = some (.ok v) → call.template.username ≠ other.template.username → u.id ≠ v.id
  /-- The rows that were there stay as they are. The new ones have different names, and each was
  inserted by one call, from its template. -/
  inserted : ∃ added, p.table.rows = rows ++ added ∧ (added.map (·.username)).Nodup ∧
    ∀ u ∈ added, ∃ i call now, p.calls[i]? = some call ∧ call.Adds u ∧
      u = .ofTemplate u.id call.template now ∧ ∀ j, p.AddedBy j u → j = i

theorem Sound.settled (h : Sound rows added p) : p.Settled rows := by
  have hreturns : ∀ call ∈ p.calls, ∀ result, call.result? = some result →
      ∃ u ∈ p.table.rows, result = .ok u ∧ u.username = call.template.username :=
    fun call hcall result hresult => (h.phases call hcall).result hresult
  have hgiven : ∀ call ∈ p.calls, ∀ u, call.result? = some (.ok u) →
      u ∈ p.table.rows ∧ u.username = call.template.username := by
    intro call hcall u hresult
    obtain ⟨v, hv, heq, hname⟩ := hreturns call hcall _ hresult
    obtain rfl : u = v := Except.ok.inj heq
    exact ⟨hv, hname⟩
  refine ⟨hreturns, ?_, ?_, added, h.rows, ?_, fun u hu => ?_⟩
  · intro call hcall other hother u v hresult hresult' hsame
    obtain ⟨hu, hname⟩ := hgiven call hcall u hresult
    obtain ⟨hv, hname'⟩ := hgiven other hother v hresult'
    exact List.inj_on_of_nodup_map h.keyed.names hu hv (hname.trans (hsame.trans hname'.symm))
  · intro call hcall other hother u v hresult hresult' hne hid
    obtain ⟨hu, hname⟩ := hgiven call hcall u hresult
    obtain ⟨hv, hname'⟩ := hgiven other hother v hresult'
    obtain rfl : u = v := List.inj_on_of_nodup_map h.keyed.ids hu hv hid
    exact hne (hname.symm.trans hname')
  · have hnames := h.keyed.names
    rw [h.rows, List.map_append] at hnames
    exact hnames.of_append_right
  · obtain ⟨i, call, hcall, hadds⟩ := h.adder u hu
    obtain ⟨-, now, htemplate⟩ := (h.phases call (List.mem_of_getElem? hcall)).adds hadds
    exact ⟨i, call, now, hcall, hadds, htemplate,
      fun j hj => h.unique j i u hj ⟨call, hcall, hadds⟩⟩

/-- A call has returned a user once two statements were carried out for it. -/
theorem Sound.returns_of_twice (h : Sound rows added p) {i : Nat}
    (hcall : ∃ call, p.calls[i]? = some call ∧ (call.result? ≠ none ∨ 2 ≤ call.sent.length)) :
    ∃ call u, p.calls[i]? = some call ∧ call.result? = some (.ok u) := by
  obtain ⟨call, hcall, hreturned⟩ := hcall
  have hphase := h.phases call (List.mem_of_getElem? hcall)
  cases hresult : call.result? with
  | none =>
    have hlt := hphase.length_sent_lt hresult
    rcases hreturned with hsome | htwice
    · exact absurd hresult hsome
    · omega
  | some result =>
    obtain ⟨u, -, rfl, -⟩ := hphase.result hresult
    exact ⟨call, u, hcall, hresult⟩

/-- **Who signs up at the same time.** Whatever calls are started, and in whatever order their
statements are carried out, what is promised holds. From then on no row that is there is changed,
and a call that was started returns a user once two statements were carried out for it. -/
theorem findOrCreate_race {table : UserTable} (h : table.Keyed) (moves : List Move) :
    ((start table).follow moves).calls.map (·.template) = moves.filterMap Move.template? ∧
      ((start table).follow moves).Settled table.rows ∧
      ∀ more,
        ((start table).follow moves).table.rows <+:
            ((start table).follow (moves ++ more)).table.rows ∧
          ∀ i < ((start table).follow moves).calls.length, 2 ≤ more.countP (·.advances i) →
            ∃ call u, ((start table).follow (moves ++ more)).calls[i]? = some call ∧
              call.result? = some (.ok u) := by
  obtain ⟨added, hsound⟩ := (sound_start h).follow moves
  refine ⟨templates_follow (start table) moves, hsound.settled, fun more => ?_⟩
  rw [follow_append]
  obtain ⟨further, hlater⟩ := hsound.follow more
  refine ⟨⟨further, ?_⟩, fun i hi htwice => hlater.returns_of_twice ?_⟩
  · rw [hlater.rows, hsound.rows, List.append_assoc, List.append_assoc]
  · obtain ⟨call, hcall⟩ : ∃ call, ((start table).follow moves).calls[i]? = some call :=
      ⟨_, List.getElem?_eq_getElem hi⟩
    obtain ⟨left, hleft, hprogress⟩ := progress_follow hcall more
    exact ⟨left, hleft, hprogress.imp_right fun h => by omega⟩

end SignUps

namespace Sample

/-- A user who is there. -/
def ada : User := .ofTemplate ⟨1⟩ (.ofUsername "ada") (.ofSeconds 0)

/-- A user who is new. -/
def mira : User := .ofTemplate ⟨2⟩ (.ofUsername "mira") (.ofSeconds 1)

/-- A table with one user. -/
def tableOfAda : UserTable :=
  ⟨[.ofTemplate ⟨1⟩ (.ofUsername "ada") (.ofSeconds 0)], 1⟩

/-- Two calls for one new name, of which the later is carried out first, and one for the name that
is there. -/
def crowd : List SignUps.Move :=
  [.start [] setting.hasher ⟨"mira", "Mira", "", true, none⟩,
    .start [] setting.hasher (.ofUsername "mira"), .start [] setting.hasher (.ofUsername "ada"),
    .advance (.ofSeconds 1) 1, .advance (.ofSeconds 2) 0, .advance (.ofSeconds 3) 2,
    .advance (.ofSeconds 4) 0, .advance (.ofSeconds 5) 2]

theorem results_crowd :
    ((SignUps.start tableOfAda).follow crowd).calls.map (·.result?) =
      [some (.ok mira), some (.ok mira), some (.ok ada)] := by
  have hsecond : (SignUp.start [] setting.hasher (.ofUsername "mira")).advance (.ofSeconds 1)
      tableOfAda = (⟨[ada, mira], 2⟩, ⟨_, _, .done (.ok mira)⟩) :=
    SignUp.advance_free _ _ _ (by decide)
  have hfirst : (SignUp.start [] setting.hasher ⟨"mira", "Mira", "", true, none⟩).advance
      (.ofSeconds 2) ⟨[ada, mira], 2⟩ = (⟨[ada, mira], 3⟩, _) :=
    SignUp.advance_taken _ _ _ (by decide)
  have hthird : (SignUp.start [] setting.hasher (.ofUsername "ada")).advance (.ofSeconds 3)
      ⟨[ada, mira], 3⟩ = (⟨[ada, mira], 4⟩, _) :=
    SignUp.advance_taken _ _ _ (by decide)
  have hmira : UserTable.named? ⟨[ada, mira], 4⟩
      (UserTemplate.mk "mira" "Mira" "" true none).username = some mira := by decide
  have hada : UserTable.named? ⟨[ada, mira], 4⟩ (UserTemplate.ofUsername "ada").username =
      some ada := by decide
  rw [SignUps.start, crowd, SignUps.follow_start, SignUps.follow_start, SignUps.follow_start,
    SignUps.follow_advance rfl hsecond, SignUps.follow_advance rfl hfirst,
    SignUps.follow_advance rfl hthird,
    SignUps.follow_advance rfl (SignUp.advance_lookup _ hmira),
    SignUps.follow_advance rfl (SignUp.advance_lookup _ hada)]
  rfl

end Sample

namespace SignUps

/-- The later call has inserted its row, and both are given it. -/
theorem findOrCreate_race_crowd :
    Sample.tableOfAda.Keyed ∧
      ((start Sample.tableOfAda).follow Sample.crowd).Settled Sample.tableOfAda.rows ∧
      ((start Sample.tableOfAda).follow Sample.crowd).calls.map (·.result?) =
        [some (.ok (.ofTemplate ⟨2⟩ (.ofUsername "mira") (.ofSeconds 1))),
          some (.ok (.ofTemplate ⟨2⟩ (.ofUsername "mira") (.ofSeconds 1))),
          some (.ok (.ofTemplate ⟨1⟩ (.ofUsername "ada") (.ofSeconds 0)))] := by
  have hkeyed : Sample.tableOfAda.Keyed := ⟨by decide, by decide, by decide⟩
  exact ⟨hkeyed, (findOrCreate_race hkeyed Sample.crowd).2.1, Sample.results_crowd⟩

end SignUps

end Gatehouse
