import Gatehouse.Filter.Compile

/-!
# Compiled filters admit what the permissions allow

A compiled filter is a decision that is taken before the rows are known, and the permissions are
the decision that is taken for each row. The two agree on every row: the filter over all namespaces
admits a row exactly when the permissions allow the action on any kind of resource there
(`admits_byNamespaceProject_iff`), the filter for one namespace admits those of these rows that lie
in it (`admits_byProject_iff`), and the filter by namespace admits a row exactly when the action is
allowed in some project of its namespace, whichever the project of the row is
(`admits_byNamespace_iff`).

The argument is the same for every compiler. `allowsResource_any_iff` brings the permissions down
to the ones that count for the action, and the `mem_` lemmas say which of these put a code into
which set of the compiler. What each compiler admits is then said of these permissions
(the lemmas `_iff_exists`). A code list is never consulted for its order here: only membership
matters for what is admitted.

The texts `*` and the empty text are codes like any other in a row. The scope of all is a value of
its own and no text, so no row can name it.
-/

namespace Gatehouse

/-! ### Scopes seen by the compilers -/

namespace Scope

/-- A scope takes in a code when it is the scope of all, or when the code is its own. -/
theorem admits_iff {s : Scope} {code : String} :
    s.admits code = true ↔ s.isAny = true ∨ s.code? = some code := by
  cases s with
  | any => simp [isAny]
  | exact own => simp [admits_exact, isAny, code?]

theorem code?_eq_some_iff {s : Scope} {code : String} :
    s.code? = some code ↔ s = .exact code := by
  cases s <;> simp [code?]

/-- No scope is empty. -/
theorem exists_admits (s : Scope) : ∃ code, s.admits code = true := by
  cases s with
  | any => exact ⟨"", rfl⟩
  | exact own => exact ⟨own, (admits_exact own own).mpr rfl⟩

/-- The scope of all has no code of its own. -/
theorem not_isAny_of_code? {s : Scope} {code : String} (h : s.code? = some code) :
    s.isAny = false := by
  rw [code?_eq_some_iff] at h
  subst h
  rfl

end Scope

/-- A set is not empty when it has a member. -/
theorem CodeSet.isEmpty_eq_false_iff {s : CodeSet} : s.isEmpty = false ↔ ∃ x, x ∈ s := by
  rw [← Bool.not_eq_true, CodeSet.isEmpty_iff, Classical.not_forall]
  exact exists_congr fun x => Classical.not_not

namespace FilterClause

variable {ns project own : String} {codes : CodeSet}

theorem admits_namespaceIn : (namespaceIn codes).admits ns project = true ↔ ns ∈ codes :=
  CodeSet.contains_iff

theorem admits_projectsIn :
    (projectsIn own codes).admits ns project = true ↔ own = ns ∧ project ∈ codes := by
  rw [admits, Bool.and_eq_true, beq_iff_eq, CodeSet.contains_iff]

end FilterClause

namespace RowFilter

/-! ### The permissions that count -/

/-- A permission counts for an action on rows when it covers the action; every kind of resource
covers a request for any kind. -/
theorem mem_applicable {permissions : Permissions} {action : Action} {p : ResourcePermission} :
    p ∈ applicable permissions action ↔
      p ∈ permissions.resources ∧ p.action.covers action = true := by
  simp [applicable, ResourceKind.covers]

/-- An action on any kind of resource is allowed on a row when a permission that counts for the
action takes in both codes of the row. -/
theorem allowsResource_any_iff {permissions : Permissions} {action : Action}
    {ns project : String} :
    permissions.allowsResource ns project .any action = true ↔
      ∃ p ∈ applicable permissions action,
        p.namespaceScope.admits ns = true ∧ p.projectScope.admits project = true := by
  simp only [Permissions.allowsResource, List.any_eq_true, mem_applicable,
    ResourcePermission.grants, Bool.and_eq_true]
  constructor
  · rintro ⟨p, hp, ⟨⟨hns, hproject⟩, -⟩, haction⟩
    exact ⟨p, ⟨hp, haction⟩, hns, hproject⟩
  · rintro ⟨p, ⟨hp, haction⟩, hns, hproject⟩
    exact ⟨p, hp, ⟨⟨hns, hproject⟩, by simp [ResourceKind.covers]⟩, haction⟩

/-! ### The sets of the compiler -/

section Sets

variable {held : List ResourcePermission} {ns project : String}

theorem mem_fullNamespaces :
    ns ∈ fullNamespaces held ↔
      ∃ p ∈ held, p.namespaceScope = .exact ns ∧ p.projectScope.isAny = true := by
  simp only [fullNamespaces, CodeSet.mem_ofList, List.mem_filterMap]
  refine exists_congr fun p => and_congr_right fun _ => ?_
  cases p.projectScope <;> simp [Scope.isAny, Scope.code?_eq_some_iff]

theorem mem_freeProjects :
    project ∈ freeProjects held ↔
      ∃ p ∈ held, p.namespaceScope.isAny = true ∧ p.projectScope = .exact project := by
  simp only [freeProjects, CodeSet.mem_ofList, List.mem_filterMap]
  refine exists_congr fun p => and_congr_right fun _ => ?_
  cases p.namespaceScope <;> simp [Scope.isAny, Scope.code?_eq_some_iff]

theorem mem_partialNamespaces :
    ns ∈ partialNamespaces held ↔
      ∃ p ∈ held, p.namespaceScope = .exact ns ∧ p.projectScope.isAny = false := by
  simp only [partialNamespaces, CodeSet.mem_ofList, List.mem_filterMap]
  refine exists_congr fun p => and_congr_right fun _ => ?_
  cases p.projectScope <;> simp [Scope.isAny, Scope.code?_eq_some_iff]

theorem mem_projectsOf :
    project ∈ projectsOf held ns ↔
      ∃ p ∈ held, p.namespaceScope = .exact ns ∧ p.projectScope = .exact project := by
  simp only [projectsOf, CodeSet.mem_ofList, List.mem_filterMap]
  refine exists_congr fun p => and_congr_right fun _ => ?_
  by_cases h : p.namespaceScope = .exact ns <;> simp [h, Scope.code?_eq_some_iff]

end Sets

/-! ### The clauses over all namespaces -/

/-- The clauses of the filter over all namespaces: whole namespaces, projects of every namespace,
and single projects of the namespaces that are not allowed as a whole. -/
def clausesOf (held : List ResourcePermission) : List FilterClause :=
  let full := fullNamespaces held
  let free := freeProjects held
  let single := (partialNamespaces held).toList.filter fun ns => !full.contains ns
  (if full.isEmpty then [] else [.namespaceIn full]) ++
    (if free.isEmpty then [] else [.projectIn free]) ++
      single.map fun ns => .projectsIn ns (projectsOf held ns)

theorem byNamespaceProject_eq (permissions : Permissions) (action : Action) :
    byNamespaceProject permissions action =
      if (applicable permissions action).any
          fun p => p.namespaceScope.isAny && p.projectScope.isAny then .unrestricted
      else .ofClauses (clausesOf (applicable permissions action)) := rfl

/-- A set that is left out when it is empty is there when it has a member. -/
private theorem mem_unless_isEmpty {clause c : FilterClause} {codes : CodeSet} :
    clause ∈ (if codes.isEmpty then [] else [c]) ↔ clause = c ∧ ∃ code, code ∈ codes := by
  cases h : codes.isEmpty with
  | true =>
    have hnone := CodeSet.isEmpty_iff.mp h
    simp [hnone]
  | false =>
    have hsome := CodeSet.isEmpty_eq_false_iff.mp h
    simp [hsome]

/-- The clauses one by one. None is made of an empty set. -/
theorem mem_clausesOf {held : List ResourcePermission} {clause : FilterClause} :
    clause ∈ clausesOf held ↔
      (clause = .namespaceIn (fullNamespaces held) ∧ ∃ ns, ns ∈ fullNamespaces held) ∨
      (clause = .projectIn (freeProjects held) ∧ ∃ project, project ∈ freeProjects held) ∨
      ∃ ns ∈ partialNamespaces held, ns ∉ fullNamespaces held ∧
        clause = .projectsIn ns (projectsOf held ns) := by
  simp only [clausesOf, List.mem_append, mem_unless_isEmpty, List.mem_map, List.mem_filter,
    Bool.not_eq_true', or_assoc, ← CodeSet.mem_def, ← Bool.not_eq_true, CodeSet.contains_iff]
  refine or_congr_right (or_congr_right (exists_congr fun ns => ?_))
  rw [and_assoc, eq_comm (a := clause)]

/-- What the clauses admit together. -/
theorem exists_clausesOf_admits_iff {held : List ResourcePermission} {ns project : String} :
    (∃ clause ∈ clausesOf held, clause.admits ns project = true) ↔
      ns ∈ fullNamespaces held ∨ project ∈ freeProjects held ∨
        (ns ∈ partialNamespaces held ∧ ns ∉ fullNamespaces held ∧
          project ∈ projectsOf held ns) := by
  constructor
  · rintro ⟨clause, hmem, hadmits⟩
    rcases mem_clausesOf.mp hmem with ⟨rfl, -⟩ | ⟨rfl, -⟩ | ⟨own, hpartial, hfull, rfl⟩
    · exact .inl (FilterClause.admits_namespaceIn.mp hadmits)
    · exact .inr (.inl (CodeSet.contains_iff.mp hadmits))
    · obtain ⟨rfl, hproject⟩ := FilterClause.admits_projectsIn.mp hadmits
      exact .inr (.inr ⟨hpartial, hfull, hproject⟩)
  · rintro (h | h | ⟨hpartial, hfull, h⟩)
    · exact ⟨_, mem_clausesOf.mpr (.inl ⟨rfl, ns, h⟩), CodeSet.contains_iff.mpr h⟩
    · exact ⟨_, mem_clausesOf.mpr (.inr (.inl ⟨rfl, project, h⟩)), CodeSet.contains_iff.mpr h⟩
    · exact ⟨_, mem_clausesOf.mpr (.inr (.inr ⟨ns, hpartial, hfull, rfl⟩)),
        FilterClause.admits_projectsIn.mpr ⟨rfl, h⟩⟩

/-- The clauses together take in what the permissions do, unless one of these is for everything. -/
theorem exists_clausesOf_admits_iff_exists {held : List ResourcePermission} {ns project : String}
    (hall : ¬ (held.any fun p => p.namespaceScope.isAny && p.projectScope.isAny) = true) :
    (∃ clause ∈ clausesOf held, clause.admits ns project = true) ↔
      ∃ p ∈ held, p.namespaceScope.admits ns = true ∧ p.projectScope.admits project = true := by
  rw [exists_clausesOf_admits_iff]
  constructor
  · rintro (h | h | ⟨-, -, h⟩)
    · obtain ⟨p, hp, hns, hany⟩ := mem_fullNamespaces.mp h
      exact ⟨p, hp, by simp [hns, Scope.admits_exact], Scope.admits_iff.mpr (.inl hany)⟩
    · obtain ⟨p, hp, hany, hproject⟩ := mem_freeProjects.mp h
      exact ⟨p, hp, Scope.admits_iff.mpr (.inl hany), by simp [hproject, Scope.admits_exact]⟩
    · obtain ⟨p, hp, hns, hproject⟩ := mem_projectsOf.mp h
      exact ⟨p, hp, by simp [hns, Scope.admits_exact], by simp [hproject, Scope.admits_exact]⟩
  · rintro ⟨p, hp, hns, hproject⟩
    -- the four shapes of a permission: each scope is the scope of all or one code
    rcases Scope.admits_iff.mp hns with hns | hns <;>
      rcases Scope.admits_iff.mp hproject with hproject | hproject
    · exact absurd (List.any_eq_true.mpr ⟨p, hp, by simp [hns, hproject]⟩) hall
    · exact .inr (.inl (mem_freeProjects.mpr ⟨p, hp, hns, Scope.code?_eq_some_iff.mp hproject⟩))
    · exact .inl (mem_fullNamespaces.mpr ⟨p, hp, Scope.code?_eq_some_iff.mp hns, hproject⟩)
    · have hexact := Scope.code?_eq_some_iff.mp hns
      -- a namespace that is allowed as a whole has no clause for its projects, and needs none
      by_cases hfull : ns ∈ fullNamespaces held
      · exact .inl hfull
      · refine .inr (.inr ⟨mem_partialNamespaces.mpr ⟨p, hp, hexact, ?_⟩, hfull, ?_⟩)
        · exact Scope.not_isAny_of_code? hproject
        · exact mem_projectsOf.mpr ⟨p, hp, hexact, Scope.code?_eq_some_iff.mp hproject⟩

/-! ### Filters of one set -/

theorem admits_anyOf_singleton (clause : FilterClause) (ns project : String) :
    (anyOf [clause]).admits ns project = clause.admits ns project := by
  simp [admits]

/-- A compiler that looks at one scope of each permission asks whether it is the scope of all
somewhere, and collects the codes otherwise. Together this is whether some scope takes in a code. -/
theorem exists_admits_iff {held : List ResourcePermission} (scope : ResourcePermission → Scope)
    {code : String} :
    (∃ p ∈ held, (scope p).admits code = true) ↔
      (held.any fun p => (scope p).isAny) = true ∨
        code ∈ CodeSet.ofList (held.filterMap fun p => (scope p).code?) := by
  simp only [Scope.admits_iff, and_or_left, exists_or, List.any_eq_true, CodeSet.mem_ofList,
    List.mem_filterMap]

/-- A clause that admits nothing without a set may stand alone, with no row admitted if the set is
empty. -/
private theorem admits_unless_isEmpty {clause : FilterClause} {codes : CodeSet}
    {ns project : String} (h : clause.admits ns project = true → ∃ code, code ∈ codes) :
    (if codes.isEmpty then denyAll else anyOf [clause]).admits ns project = true ↔
      clause.admits ns project = true := by
  split
  · next hempty =>
    refine iff_of_false Bool.false_ne_true fun hclause => ?_
    obtain ⟨code, hcode⟩ := h hclause
    exact CodeSet.isEmpty_iff.mp hempty code hcode
  · rw [admits_anyOf_singleton]

/-! ### What the compilers admit -/

section Compilers

variable (permissions : Permissions) (action : Action) (ns project : String)

/-- The filter over all namespaces admits the rows that a permission takes in by both codes. -/
theorem admits_byNamespaceProject_iff_exists :
    (byNamespaceProject permissions action).admits ns project = true ↔
      ∃ p ∈ applicable permissions action,
        p.namespaceScope.admits ns = true ∧ p.projectScope.admits project = true := by
  rw [byNamespaceProject_eq]
  split
  · -- one permission is held for everything, so both sides hold of every row
    next hall =>
    obtain ⟨p, hp, hboth⟩ := List.any_eq_true.mp hall
    rw [Bool.and_eq_true] at hboth
    exact iff_of_true rfl
      ⟨p, hp, Scope.admits_iff.mpr (.inl hboth.1), Scope.admits_iff.mpr (.inl hboth.2)⟩
  · next hall =>
    rw [admits_ofClauses, List.any_eq_true]
    exact exists_clausesOf_admits_iff_exists hall

/-- The filter for one namespace admits the rows of this namespace that a permission takes in by
both codes. -/
theorem admits_byProject_iff_exists (own : String) :
    (byProject permissions own action).admits ns project = true ↔
      ns = own ∧ ∃ p ∈ applicable permissions action,
        p.namespaceScope.admits ns = true ∧ p.projectScope.admits project = true := by
  have hheld : (∃ p ∈ applicable permissions action,
        p.namespaceScope.admits own = true ∧ p.projectScope.admits project = true) ↔
      ∃ p ∈ (applicable permissions action).filter (·.namespaceScope.admits own),
        p.projectScope.admits project = true := by
    simp only [List.mem_filter, and_assoc]
  have hown : (byProject permissions own action).admits ns project = true ↔
      ns = own ∧ ∃ p ∈ (applicable permissions action).filter (·.namespaceScope.admits own),
        p.projectScope.admits project = true := by
    rw [exists_admits_iff, byProject]
    generalize (applicable permissions action).filter (·.namespaceScope.admits own) = held
    split
    · next hany =>
      rw [admits_anyOf_singleton, FilterClause.admits, beq_iff_eq]
      exact ⟨fun h => ⟨h.symm, .inl hany⟩, fun h => h.1.symm⟩
    · next hany =>
      rw [admits_unless_isEmpty fun h => ⟨project, (FilterClause.admits_projectsIn.mp h).2⟩,
        FilterClause.admits_projectsIn]
      exact ⟨fun ⟨h, hp⟩ => ⟨h.symm, .inr hp⟩, fun ⟨h, hp⟩ => ⟨h.symm, hp.resolve_left hany⟩⟩
  rw [hown, ← hheld]
  exact and_congr_right fun h => h ▸ Iff.rfl

/-- The filter by namespace admits the rows whose namespace a permission takes in. -/
theorem admits_byNamespace_iff_exists :
    (byNamespace permissions action).admits ns project = true ↔
      ∃ p ∈ applicable permissions action, p.namespaceScope.admits ns = true := by
  rw [exists_admits_iff, byNamespace]
  split
  · next hany => exact iff_of_true rfl (.inl hany)
  · next hany =>
    rw [admits_unless_isEmpty fun h => ⟨ns, FilterClause.admits_namespaceIn.mp h⟩,
      FilterClause.admits_namespaceIn]
    exact ⟨.inr, fun h => h.resolve_left hany⟩

/-- In some project of a namespace the action is allowed when a permission takes in the namespace:
each takes in some project. -/
theorem exists_allowsResource_any_iff :
    (∃ other, permissions.allowsResource ns other .any action = true) ↔
      ∃ p ∈ applicable permissions action, p.namespaceScope.admits ns = true := by
  simp only [allowsResource_any_iff]
  constructor
  · rintro ⟨-, p, hp, hns, -⟩
    exact ⟨p, hp, hns⟩
  · rintro ⟨p, hp, hns⟩
    obtain ⟨other, hother⟩ := p.projectScope.exists_admits
    exact ⟨other, p, hp, hns, hother⟩

end Compilers

/-! ### The filters agree with the permissions -/

/-- **The filter over all namespaces agrees with the permissions.** It admits a row exactly when
the permissions allow the action on any kind of resource of the row's namespace and project. -/
theorem admits_byNamespaceProject_iff (permissions : Permissions) (action : Action)
    (ns project : String) :
    (byNamespaceProject permissions action).admits ns project = true ↔
      permissions.allowsResource ns project .any action = true := by
  rw [admits_byNamespaceProject_iff_exists, allowsResource_any_iff]

/-- **The filter for one namespace agrees with the permissions.** It admits a row exactly when the
row is of this namespace and the permissions allow the action on any kind of resource there; these
are the rows of the namespace that the filter over all namespaces admits. -/
theorem admits_byProject_iff (permissions : Permissions) (own : String) (action : Action)
    (ns project : String) :
    ((byProject permissions own action).admits ns project = true ↔
      ns = own ∧ permissions.allowsResource ns project .any action = true) ∧
    ((byProject permissions own action).admits ns project = true ↔
      ns = own ∧ (byNamespaceProject permissions action).admits ns project = true) := by
  rw [admits_byProject_iff_exists, allowsResource_any_iff, admits_byNamespaceProject_iff_exists]
  exact ⟨Iff.rfl, Iff.rfl⟩

/-- **The filter by namespace agrees with the permissions.** It admits a row exactly when the
permissions allow the action in some project of the row's namespace. So the row's own project does
not count, and no row that one of the other filters admits is held back. -/
theorem admits_byNamespace_iff (permissions : Permissions) (action : Action)
    (ns project : String) :
    ((byNamespace permissions action).admits ns project = true ↔
      ∃ other, permissions.allowsResource ns other .any action = true) ∧
    (∀ other, (byNamespace permissions action).admits ns other =
      (byNamespace permissions action).admits ns project) ∧
    ((byNamespaceProject permissions action).admits ns project = true →
      (byNamespace permissions action).admits ns project = true) ∧
    ∀ own, (byProject permissions own action).admits ns project = true →
      (byNamespace permissions action).admits ns project = true := by
  refine ⟨?_, fun other => ?_, fun h => ?_, fun own h => ?_⟩
  · rw [admits_byNamespace_iff_exists, exists_allowsResource_any_iff]
  · rw [Bool.eq_iff_iff, admits_byNamespace_iff_exists, admits_byNamespace_iff_exists]
  · obtain ⟨p, hp, hns, -⟩ := (admits_byNamespaceProject_iff_exists ..).mp h
    exact (admits_byNamespace_iff_exists ..).mpr ⟨p, hp, hns⟩
  · obtain ⟨-, p, hp, hns, -⟩ := (admits_byProject_iff_exists ..).mp h
    exact (admits_byNamespace_iff_exists ..).mpr ⟨p, hp, hns⟩

/-- With a single project allowed, its whole namespace is admitted by namespace, nothing else. -/
theorem admits_byNamespace_iff_single :
    let permissions : Permissions := ⟨[⟨.exact "a", .exact "p", .page, .read⟩], []⟩
    (byNamespaceProject permissions .read).admits "a" "p" = true ∧
      (byProject permissions "a" .read).admits "a" "p" = true ∧
      (byNamespaceProject permissions .read).admits "a" "*" = false ∧
      (byNamespace permissions .read).admits "a" "p" = true ∧
      (byNamespace permissions .read).admits "a" "*" = true ∧
      (byNamespace permissions .read).admits "*" "p" = false := by
  intro permissions
  obtain ⟨-, hother, hboth, -⟩ := admits_byNamespace_iff permissions .read "a" "p"
  have hrow : (byNamespaceProject permissions .read).admits "a" "p" = true := by decide +kernel
  exact ⟨hrow, by decide +kernel, by decide +kernel, hboth hrow,
    (hother "*").trans (hboth hrow), by decide +kernel⟩

end RowFilter

end Gatehouse
