import Gatehouse.Database.Roles
import Gatehouse.Filter.Sql
import Gatehouse.Proofs.Json.Steps
import Gatehouse.Proofs.Permission.History

/-!
# The order of roles does not count

A database gives the rows of an answer in any order it likes. The permissions that are read from
them come in another order then, but the same ones are there, and a filter tells no more of them
(`filters_of_same_permissions`).

What has to be followed is how rows become permissions. Each row is read for itself, and one that
cannot be read makes the lookup fail. Which row this is decides on the failure that is reported, so
that much of an answer does depend on the order; whether there is a failure, and which roles there
are without one, does not (`SameOutcome`).
-/

namespace Gatehouse

/-! ### Outcomes up to the failure -/

/-- Two outcomes are both failures, whatever these are, or both successes with related results. -/
inductive SameOutcome {ε α : Type} (r : α → α → Prop) : Except ε α → Except ε α → Prop
  | failed (e e' : ε) : SameOutcome r (.error e) (.error e')
  | given {a b : α} (h : r a b) : SameOutcome r (.ok a) (.ok b)

namespace SameOutcome

variable {ε α β : Type} {r : α → α → Prop} {s : β → β → Prop} {x y : Except ε α}

theorem mono (h : SameOutcome r x y) {r' : α → α → Prop} (hr : ∀ a b, r a b → r' a b) :
    SameOutcome r' x y := by
  cases h with
  | failed e e' => exact .failed e e'
  | given h => exact .given (hr _ _ h)

theorem bind (h : SameOutcome r x y) {f g : α → Except ε β}
    (hfg : ∀ a b, r a b → SameOutcome s (f a) (g b)) : SameOutcome s (x >>= f) (y >>= g) := by
  cases h with
  | failed e e' => exact .failed e e'
  | given h => exact hfg _ _ h

theorem map (h : SameOutcome r x y) {f : α → β} (hf : ∀ a b, r a b → s (f a) (f b)) :
    SameOutcome s (x.map f) (y.map f) := by
  cases h with
  | failed e e' => exact .failed e e'
  | given h => exact .given (hf _ _ h)

theorem mapError (h : SameOutcome r x y) {ε' : Type} (f : ε → ε') :
    SameOutcome r (x.mapError f) (y.mapError f) := by
  cases h with
  | failed e e' => exact .failed (f e) (f e')
  | given h => exact .given h

end SameOutcome

section Lists

variable {ε α β : Type} {f : α → Except ε β} {xs ys : List α} {bs : List β}

theorem mapM_cons_eq_ok_iff {a : α} :
    (a :: xs).mapM f = .ok bs ↔ ∃ b bs', f a = .ok b ∧ xs.mapM f = .ok bs' ∧ bs = b :: bs' := by
  rw [List.mapM_cons, except_bind_eq_ok_iff]
  constructor
  · rintro ⟨b, hb, h⟩
    obtain ⟨bs', hbs', h⟩ := except_bind_eq_ok_iff.mp h
    cases h
    exact ⟨b, bs', hb, hbs', rfl⟩
  · rintro ⟨b, bs', hb, hbs', rfl⟩
    exact ⟨b, hb, except_bind_eq_ok_iff.mpr ⟨bs', hbs', rfl⟩⟩

/-- A list is read when each item is. -/
theorem exists_mapM_eq_ok_iff :
    (∃ bs, xs.mapM f = .ok bs) ↔ ∀ a ∈ xs, ∃ b, f a = .ok b := by
  induction xs with
  | nil => exact iff_of_true ⟨[], rfl⟩ (by simp)
  | cons a xs ih =>
    rw [List.forall_mem_cons, ← ih]
    constructor
    · rintro ⟨_, h⟩
      obtain ⟨b, bs, hb, hbs, -⟩ := mapM_cons_eq_ok_iff.mp h
      exact ⟨⟨b, hb⟩, bs, hbs⟩
    · rintro ⟨⟨b, hb⟩, bs, hbs⟩
      exact ⟨b :: bs, mapM_cons_eq_ok_iff.mpr ⟨b, bs, hb, hbs, rfl⟩⟩

/-- What is read is what the items are read as. -/
theorem mem_of_mapM_eq_ok (h : xs.mapM f = .ok bs) {b : β} :
    b ∈ bs ↔ ∃ a ∈ xs, f a = .ok b := by
  induction xs generalizing bs with
  | nil => cases h; simp
  | cons a xs ih =>
    obtain ⟨b', bs', hb', hbs', rfl⟩ := mapM_cons_eq_ok_iff.mp h
    rw [List.mem_cons, ih hbs', List.exists_mem_cons_iff, hb', Except.ok.injEq, eq_comm]

/-- Lists with the same items are both read as the same values, or neither of them is read. -/
theorem sameOutcome_mapM (h : ∀ a, a ∈ xs ↔ a ∈ ys) (f : α → Except ε β) :
    SameOutcome (fun bs cs => ∀ b, b ∈ bs ↔ b ∈ cs) (xs.mapM f) (ys.mapM f) := by
  have hboth : (∃ bs, xs.mapM f = .ok bs) ↔ ∃ cs, ys.mapM f = .ok cs := by
    rw [exists_mapM_eq_ok_iff, exists_mapM_eq_ok_iff]
    exact forall_congr' fun a => imp_congr_left (h a)
  cases hx : xs.mapM f with
  | error e =>
    cases hy : ys.mapM f with
    | error e' => exact .failed e e'
    | ok cs =>
      obtain ⟨bs, hbs⟩ := hboth.mpr ⟨cs, hy⟩
      rw [hx] at hbs
      cases hbs
  | ok bs =>
    obtain ⟨cs, hy⟩ := hboth.mp ⟨bs, hx⟩
    rw [hy]
    refine .given fun b => ?_
    rw [mem_of_mapM_eq_ok hx, mem_of_mapM_eq_ok hy]
    exact exists_congr fun a => and_congr_left fun _ => h a

end Lists

/-! ### Rows in another listing -/

/-- A way to list the rows of answers. The rows may come in any order and more than once, but they
are those of the answer. -/
structure RowListing where
  list : SqlStatement → List Row → List Row
  mem_list_iff : ∀ q rows row, row ∈ list q rows ↔ row ∈ rows

/-- A database that answers with its rows in another listing. -/
def Database.relisted {m : Type → Type} [Monad m] (db : Database m) (listing : RowListing) :
    Database m where
  execute q := Except.map (listing.list q) <$> db.execute q

theorem Permissions.sameOutcome_ofRows (words : FaultWords) {rows others : List RoleRow}
    (h : ∀ row, row ∈ rows ↔ row ∈ others) :
    SameOutcome Permissions.Alike (ofRows words rows) (ofRows words others) :=
  (sameOutcome_mapM h (RoleRow.toRole words)).map fun _ _ hroles => alike_ofRoles hroles

namespace PermissionStore

variable (words : FaultWords)

/-- The permissions that an answer of the database gives. -/
def ofAnswer (answer : Except DatabaseFault (List Row)) : Except StoreError Permissions :=
  (answer >>= (·.mapM RoleRow.ofRow)).mapError DatabaseFault.toStoreError >>=
    Permissions.ofRows words

theorem sameOutcome_ofAnswer (listing : RowListing) (q : SqlStatement)
    (answer : Except DatabaseFault (List Row)) :
    SameOutcome Permissions.Alike (ofAnswer words (answer.map (listing.list q)))
      (ofAnswer words answer) := by
  cases answer with
  | error fault => exact .failed _ _
  | ok rows =>
    have hrows := sameOutcome_mapM (listing.mem_list_iff q rows) RoleRow.ofRow
    exact (hrows.mapError _).bind fun _ _ h => Permissions.sameOutcome_ofRows words h

section Store

variable {m : Type → Type} [Monad m] [LawfulMonad m]

theorem lookup_eq (db : Database m) (q : SqlStatement) :
    lookup db words q = ofAnswer words <$> db.execute q := by
  rw [lookup, map_eq_pure_bind]
  refine congrArg _ (funext fun answer => ?_)
  cases answer with
  | error fault => rfl
  | ok rows =>
    have hrows : ofAnswer words (.ok rows) =
        (rows.mapM RoleRow.ofRow).mapError DatabaseFault.toStoreError >>=
          Permissions.ofRows words := rfl
    rw [hrows]
    dsimp only
    cases rows.mapM RoleRow.ofRow <;> rfl

theorem ask_eq (store : PermissionStore m) {α : Type} (subject : Subject)
    (question : Question α) :
    store.ask subject question = (·.map question.answer) <$> store.permissions subject := by
  rw [ask, map_eq_pure_bind]

theorem must_eq (store : PermissionStore m) {α : Type} (subject : Subject)
    (question : Question α) :
    store.must subject question =
      (fun x => question.answer (x.toOption.getD .none)) <$> store.permissions subject := by
  rw [must, permissionsOrNone, bind_assoc, map_eq_pure_bind]
  refine congrArg _ (funext fun x => ?_)
  cases x <;> exact pure_bind _ _

variable (db : Database m) (listing : RowListing)

/-- What does not tell failures apart, nor permissions that are alike, sees no difference between
two listings of the roles. -/
theorem map_permissions_relisted {α : Type} {view : Except StoreError Permissions → α}
    (hview : ∀ x y, SameOutcome Permissions.Alike x y → view x = view y) (subject : Subject) :
    view <$> (ofDatabase (db.relisted listing) words).permissions subject =
      view <$> (ofDatabase db words).permissions subject := by
  have hlookup : ∀ q, view <$> lookup (db.relisted listing) words q =
      view <$> lookup db words q := fun q => by
    rw [lookup_eq, lookup_eq, Database.relisted, Functor.map_map, Functor.map_map, Functor.map_map]
    exact map_congr fun answer => hview _ _ (sameOutcome_ofAnswer words listing q answer)
  cases subject with
  | username name => exact hlookup _
  | roleCode code => exact hlookup _

/-- A plain question gets the same answer whatever the listing is, or fails with every listing. -/
theorem ask_relisted (subject : Subject) {α : Type} (question : Question α) :
    Except.toOption <$> (ofDatabase (db.relisted listing) words).ask subject question =
      Except.toOption <$> (ofDatabase db words).ask subject question := by
  rw [ask_eq, ask_eq, Functor.map_map, Functor.map_map]
  refine map_permissions_relisted words db listing (fun x y h => ?_) subject
  cases h with
  | failed e e' => rfl
  | given h => exact congrArg some (question.answer_congr h)

/-- A `must` question gets the same answer whatever the listing is. -/
theorem must_relisted (subject : Subject) {α : Type} (question : Question α) :
    (ofDatabase (db.relisted listing) words).must subject question =
      (ofDatabase db words).must subject question := by
  rw [must_eq, must_eq]
  refine map_permissions_relisted words db listing (fun x y h => ?_) subject
  cases h with
  | failed e e' => rfl
  | given h => exact question.answer_congr h

end Store

end PermissionStore

/-! ### Filters -/

namespace RowFilter

/-- **A filter depends on which permissions there are.** Permissions that list the same ones for
resources, in any order and however often, are compiled to equal filters, so to equal conditions
with equal values. A store may therefore have its roles from a database in any order: every question
gets the same answer whatever the order is, or fails whatever it is. -/
theorem filters_of_same_permissions :
    (∀ {p q : Permissions}, (∀ r, r ∈ p.resources ↔ r ∈ q.resources) →
      ∀ (action : Action) (ns : String),
        byNamespace p action = byNamespace q action ∧
        byProject p ns action = byProject q ns action ∧
        byNamespaceProject p action = byNamespaceProject q action ∧
        ∀ joiner query,
          (byNamespace p action).appendTo joiner query =
            (byNamespace q action).appendTo joiner query ∧
          (byProject p ns action).appendTo joiner query =
            (byProject q ns action).appendTo joiner query ∧
          (byNamespaceProject p action).appendTo joiner query =
            (byNamespaceProject q action).appendTo joiner query) ∧
    ∀ {m : Type → Type} [Monad m] [LawfulMonad m] (db : Database m) (words : FaultWords)
      (listing : RowListing) (subject : Subject) {α : Type} (question : Question α),
        Except.toOption <$>
            (PermissionStore.ofDatabase (db.relisted listing) words).ask subject question =
          Except.toOption <$> (PermissionStore.ofDatabase db words).ask subject question ∧
        (PermissionStore.ofDatabase (db.relisted listing) words).must subject question =
          (PermissionStore.ofDatabase db words).must subject question := by
  refine ⟨fun {p q} h action ns => ?_, fun {m} _ _ db words listing subject {α} question => ?_⟩
  · have hnamespace := byNamespace_congr h action
    have hproject := byProject_congr h ns action
    have hboth := byNamespaceProject_congr h action
    refine ⟨hnamespace, hproject, hboth, fun joiner query => ?_⟩
    rw [hnamespace, hproject, hboth]
    exact ⟨rfl, rfl, rfl⟩
  · exact ⟨PermissionStore.ask_relisted words db listing subject question,
      PermissionStore.must_relisted words db listing subject question⟩

/-- One of two permissions is listed twice, and the rows of two roles come in the other order. -/
theorem filters_of_same_permissions_reversed :
    let a : ResourcePermission := ⟨.exact "a", .any, .all, .read⟩
    let b : ResourcePermission := ⟨.any, .exact "p", .page, .all⟩
    let row (role : Role) : Row :=
      let r := RoleRow.ofRole role
      [("id", .int r.id), ("code", .text r.code), ("role_type", .text r.kind),
        ("resources", .text r.resources), ("admin", .text r.admin)]
    let db : Database Id :=
      ⟨fun _ => .ok [row ⟨⟨1⟩, "readers", .role, [a], []⟩, row ⟨⟨2⟩, "editors", .role, [b], []⟩]⟩
    let words : FaultWords := ⟨fun _ => "EOF while parsing a value at line 1 column 0",
      fun _ => "EOF while parsing a value at line 1 column 0"⟩
    let reversed : RowListing := ⟨fun _ rows => rows.reverse, fun _ _ _ => List.mem_reverse⟩
    let f : RowFilter := .anyOf [.namespaceIn (.ofList ["a"]), .projectIn (.ofList ["p"])]
    (∀ r, r ∈ [a, b] ↔ r ∈ [b, a, b]) ∧
      byNamespaceProject ⟨[a, b], []⟩ .read = byNamespaceProject ⟨[b, a, b], []⟩ .read ∧
      ((PermissionStore.ofDatabase db words).must (.username "u")
        (.namespaceProjectFilter .read)).run = f ∧
      ((PermissionStore.ofDatabase (db.relisted reversed) words).must (.username "u")
        (.namespaceProjectFilter .read)).run = f := by
  intro a b row db words reversed f
  have hsame : ∀ r, r ∈ [a, b] ↔ r ∈ [b, a, b] := fun r => by
    simp only [List.mem_cons, List.not_mem_nil, or_false]
    tauto
  have hfilters := filters_of_same_permissions
  have hanswer : ((PermissionStore.ofDatabase db words).must (.username "u")
      (.namespaceProjectFilter .read)).run = f := by decide +kernel
  have hreversed := (hfilters.2 db words reversed (.username "u") (.namespaceProjectFilter .read)).2
  exact ⟨hsame, (hfilters.1 (p := ⟨[a, b], []⟩) (q := ⟨[b, a, b], []⟩) hsame .read "a").2.2.1,
    hanswer, (congrArg Id.run hreversed).trans hanswer⟩

end RowFilter

end Gatehouse
