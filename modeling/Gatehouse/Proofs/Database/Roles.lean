import Gatehouse.Proofs.Permission.Listing
import Gatehouse.Proofs.Permission.Record

/-!
# Roles out of rows, all of them or none

A row tells a role if its kind is the name of one and its two texts are read as lists of permissions
(`RoleRow.Tells`); a row that tells none has a fault, which names the role and what is wrong with
it, as the JSON reader words it (`RoleRow.Fault`). Permissions are given for rows that all tell
roles, and are the union of these in the order of the rows. Else there are no permissions at all,
and the fault is that of the first row that has one (`Permissions.ofRows_all_or_none`). What rows
come to does not depend on their order or on how often one of them is given, except for the fault
that is told.
-/

namespace Gatehouse

section Lists

variable {ε α β : Type} {f : α → Except ε β} {xs : List α} {bs : List β} {e : ε}

/-- A list is read as what its items are read as, one by one. -/
theorem mapM_eq_ok_iff_forall₂ :
    xs.mapM f = .ok bs ↔ List.Forall₂ (fun a b => f a = .ok b) xs bs := by
  induction xs generalizing bs with
  | nil => cases bs <;> simp [List.mapM_nil, pure, Except.pure]
  | cons a xs ih =>
    rw [mapM_cons_eq_ok_iff]
    constructor
    · rintro ⟨b, bs', hb, hbs', rfl⟩
      exact .cons hb (ih.mp hbs')
    · rintro (_ | ⟨hb, hbs'⟩)
      exact ⟨_, _, hb, ih.mpr hbs', rfl⟩

/-- A list is not read for the fault of the first item that has one. -/
theorem mapM_eq_error_iff :
    xs.mapM f = .error e ↔ ∃ before a after, xs = before ++ a :: after ∧
      (∀ b ∈ before, ∃ c, f b = .ok c) ∧ f a = .error e := by
  induction xs with
  | nil => simp [List.mapM_nil, pure, Except.pure]
  | cons x xs ih =>
    rw [List.mapM_cons, except_bind_eq_error_iff]
    constructor
    · rintro (hx | ⟨b, hb, h⟩)
      · exact ⟨[], x, xs, rfl, List.forall_mem_nil _, hx⟩
      · rcases except_bind_eq_error_iff.mp h with hxs | ⟨_, _, ⟨⟩⟩
        obtain ⟨before, a, after, rfl, hbefore, ha⟩ := ih.mp hxs
        exact ⟨x :: before, a, after, rfl, List.forall_mem_cons.mpr ⟨⟨b, hb⟩, hbefore⟩, ha⟩
    · rintro ⟨_ | ⟨y, before⟩, a, after, hxs, hbefore, ha⟩ <;> cases hxs
      · exact .inl ha
      · obtain ⟨⟨b, hb⟩, hbefore⟩ := List.forall_mem_cons.mp hbefore
        have hrest := ih.mpr ⟨before, a, after, rfl, hbefore, ha⟩
        exact .inr ⟨b, hb, except_bind_eq_error_iff.mpr (.inl hrest)⟩

end Lists

theorem RoleKind.ofName?_eq_some_iff {s : String} {kind : RoleKind} :
    ofName? s = some kind ↔ s = kind.name := by
  constructor
  · intro h
    have hname := List.find?_some h
    exact (beq_iff_eq.mp hname).symm
  · rintro rfl
    exact kind.ofName?_name

namespace RoleRow

variable {words : FaultWords} {row : RoleRow} {role : Role} {e : StoreError}

/-! ### One row -/

/-- A row tells a role: the two have the same number and code, the row has the name of the role's
kind, and its texts are read as the lists of the role. -/
structure Tells (row : RoleRow) (role : Role) : Prop where
  id : role.id = ⟨row.id⟩
  code : role.code = row.code
  kind : row.kind = role.kind.name
  resources : (Decoder.list ResourcePermission.decode).run row.resources = .ok role.resources
  admin : (Decoder.list AdminPermission.decode).run row.admin = .ok role.admin

/-- Whether a row can be read: its kind is known, and both of its texts are lists of permissions. -/
structure Readable (row : RoleRow) : Prop where
  kind : row.kind = "role" ∨ row.kind = "user"
  resources : ∃ ps, (Decoder.list ResourcePermission.decode).run row.resources = .ok ps
  admin : ∃ ps, (Decoder.list AdminPermission.decode).run row.admin = .ok ps

/-- What is wrong with a row, as the failure of the store: the first of three faults, each of which
names the role. -/
inductive Fault (words : FaultWords) (row : RoleRow) : StoreError → Prop where
  | kind (h : ¬ (row.kind = "role" ∨ row.kind = "user")) :
    Fault words row (.corrupt ("role " ++ row.code ++ " has unknown type " ++ row.kind))
  | resources (hkind : row.kind = "role" ∨ row.kind = "user")
    (h : ∀ ps, (Decoder.list ResourcePermission.decode).run row.resources ≠ .ok ps) :
    Fault words row
      (.corrupt ("role " ++ row.code ++ " resources: " ++ words.resources row.resources))
  | admin (hkind : row.kind = "role" ∨ row.kind = "user")
    (hresources : ∃ ps, (Decoder.list ResourcePermission.decode).run row.resources = .ok ps)
    (h : ∀ ps, (Decoder.list AdminPermission.decode).run row.admin ≠ .ok ps) :
    Fault words row (.corrupt ("role " ++ row.code ++ " admin: " ++ words.admin row.admin))

theorem exists_name_eq_iff {s : String} :
    (∃ kind : RoleKind, s = kind.name) ↔ s = "role" ∨ s = "user" := by
  constructor
  · rintro ⟨_ | _, rfl⟩
    · exact .inl rfl
    · exact .inr rfl
  · rintro (rfl | rfl)
    · exact ⟨.role, rfl⟩
    · exact ⟨.user, rfl⟩

theorem toRole_eq_ok_iff : row.toRole words = .ok role ↔ row.Tells role := by
  rw [toRole]
  constructor
  · intro h
    split at h
    · cases h
    · next kind hkind =>
      obtain ⟨resources, hresources, h⟩ := except_bind_eq_ok_iff.mp h
      obtain ⟨admin, hadmin, ⟨⟩⟩ := except_bind_eq_ok_iff.mp h
      exact ⟨rfl, rfl, RoleKind.ofName?_eq_some_iff.mp hkind, readList_eq_ok_iff.mp hresources,
        readList_eq_ok_iff.mp hadmin⟩
  · intro h
    obtain ⟨id, code, kind, resources, admin⟩ := role
    obtain ⟨rfl, rfl, hkind, hresources, hadmin⟩ := h
    rw [RoleKind.ofName?_eq_some_iff.mpr hkind]
    dsimp only
    rw [readList_eq_ok_iff.mpr hresources, readList_eq_ok_iff.mpr hadmin]
    rfl

theorem readable_iff : row.Readable ↔ ∃ role, row.Tells role := by
  constructor
  · rintro ⟨hkind, ⟨resources, hresources⟩, ⟨admin, hadmin⟩⟩
    obtain ⟨kind, hkind⟩ := exists_name_eq_iff.mpr hkind
    exact ⟨⟨⟨row.id⟩, row.code, kind, resources, admin⟩, rfl, rfl, hkind, hresources, hadmin⟩
  · rintro ⟨role, h⟩
    exact ⟨exists_name_eq_iff.mp ⟨_, h.kind⟩, ⟨_, h.resources⟩, ⟨_, h.admin⟩⟩

theorem readList_eq_error_iff {α : Type} {what s : String} {said : String → String}
    {decode : Decoder α} :
    row.readList what said decode s = .error e ↔
      (∀ as, (Decoder.list decode).run s ≠ .ok as) ∧ e = row.unreadable what (said s) := by
  rw [readList]
  cases (Decoder.list decode).run s <;> simp [Except.mapError, eq_comm]

theorem unreadable_eq {what part : String} (hpart : " " ++ what ++ ": " = part) (said : String) :
    row.unreadable what said = .corrupt ("role " ++ row.code ++ part ++ said) := by
  rw [unreadable, ← hpart]
  simp only [String.append_assoc]

theorem unreadable_resources (said : String) :
    row.unreadable "resources" said = .corrupt ("role " ++ row.code ++ " resources: " ++ said) :=
  unreadable_eq rfl said

theorem unreadable_admin (said : String) :
    row.unreadable "admin" said = .corrupt ("role " ++ row.code ++ " admin: " ++ said) :=
  unreadable_eq rfl said

/-- A row that is not read has a fault, and it is this fault that is told. -/
theorem toRole_eq_error_iff : row.toRole words = .error e ↔ row.Fault words e := by
  rw [toRole]
  constructor
  · intro h
    split at h
    · next hkind =>
      cases h
      refine .kind fun hnamed => ?_
      obtain ⟨kind, hname⟩ := exists_name_eq_iff.mpr hnamed
      cases hkind.symm.trans (RoleKind.ofName?_eq_some_iff.mpr hname)
    · next kind hkind =>
      have hnamed := exists_name_eq_iff.mp ⟨kind, RoleKind.ofName?_eq_some_iff.mp hkind⟩
      rcases except_bind_eq_error_iff.mp h with h | ⟨resources, hresources, h⟩
      · obtain ⟨hnone, rfl⟩ := readList_eq_error_iff.mp h
        rw [unreadable_resources]
        exact .resources hnamed hnone
      · have hresources := readList_eq_ok_iff.mp hresources
        rcases except_bind_eq_error_iff.mp h with h | ⟨admin, -, h⟩
        · obtain ⟨hnone, rfl⟩ := readList_eq_error_iff.mp h
          rw [unreadable_admin]
          exact .admin hnamed ⟨resources, hresources⟩ hnone
        · cases h
  · intro h
    cases h with
    | kind hkind =>
      cases hname : RoleKind.ofName? row.kind with
      | none => rfl
      | some kind =>
        exact absurd (exists_name_eq_iff.mp ⟨kind, RoleKind.ofName?_eq_some_iff.mp hname⟩) hkind
    | resources hkind hnone =>
      obtain ⟨kind, hname⟩ := exists_name_eq_iff.mpr hkind
      rw [RoleKind.ofName?_eq_some_iff.mpr hname, ← unreadable_resources]
      exact except_bind_eq_error_iff.mpr (.inl (readList_eq_error_iff.mpr ⟨hnone, rfl⟩))
    | admin hkind hresources hnone =>
      obtain ⟨kind, hname⟩ := exists_name_eq_iff.mpr hkind
      obtain ⟨resources, hresources⟩ := hresources
      rw [RoleKind.ofName?_eq_some_iff.mpr hname, ← unreadable_admin]
      refine except_bind_eq_error_iff.mpr (.inr ⟨resources, readList_eq_ok_iff.mpr hresources, ?_⟩)
      exact except_bind_eq_error_iff.mpr (.inl (readList_eq_error_iff.mpr ⟨hnone, rfl⟩))

end RoleRow

/-! ### All rows -/

namespace Permissions

variable {words : FaultWords} {rows : List RoleRow}

theorem ofRows_eq_ok_iff {p : Permissions} :
    ofRows words rows = .ok p ↔
      ∃ roles, List.Forall₂ RoleRow.Tells rows roles ∧ p = ofRoles roles := by
  have htells : (fun row role => RoleRow.toRole words row = .ok role) = RoleRow.Tells :=
    funext₂ fun _ _ => propext RoleRow.toRole_eq_ok_iff
  rw [ofRows, ← htells]
  constructor
  · intro h
    cases hroles : rows.mapM (RoleRow.toRole words) with
    | error e =>
      rw [hroles] at h
      cases h
    | ok roles =>
      rw [hroles] at h
      cases h
      exact ⟨roles, mapM_eq_ok_iff_forall₂.mp hroles, rfl⟩
  · rintro ⟨roles, hroles, rfl⟩
    rw [mapM_eq_ok_iff_forall₂.mpr hroles]
    rfl

theorem exists_ofRows_eq_ok_iff :
    (∃ p, ofRows words rows = .ok p) ↔ ∀ row ∈ rows, row.Readable := by
  have hroles : (∃ p, ofRows words rows = .ok p) ↔
      ∃ roles, rows.mapM (RoleRow.toRole words) = .ok roles := by
    rw [ofRows]
    cases rows.mapM (RoleRow.toRole words) <;> simp [Except.map]
  simp only [hroles, exists_mapM_eq_ok_iff, RoleRow.readable_iff, RoleRow.toRole_eq_ok_iff]

theorem ofRows_eq_error_iff {e : StoreError} :
    ofRows words rows = .error e ↔ ∃ before row after, rows = before ++ row :: after ∧
      (∀ r ∈ before, r.Readable) ∧ row.Fault words e := by
  have hroles : ofRows words rows = .error e ↔ rows.mapM (RoleRow.toRole words) = .error e := by
    rw [ofRows]
    cases rows.mapM (RoleRow.toRole words) <;> simp [Except.map]
  simp only [hroles, mapM_eq_error_iff, RoleRow.readable_iff, RoleRow.toRole_eq_ok_iff,
    RoleRow.toRole_eq_error_iff]

/-- **All rows are read, or there are no permissions.** Rows give permissions exactly if each of
them can be read, and then these are the union of the roles that the rows tell, in their order. Else
the failure is the fault of the first row that cannot be read. Rows that are listed in another
order, or some of them again, give permissions as well or fail as well, and what they give answers
every question in the same way. -/
theorem ofRows_all_or_none (words : FaultWords) (rows : List RoleRow) :
    (∀ p, ofRows words rows = .ok p ↔
      ∃ roles, List.Forall₂ RoleRow.Tells rows roles ∧ p = ofRoles roles) ∧
    ((∃ p, ofRows words rows = .ok p) ↔ ∀ row ∈ rows, row.Readable) ∧
    (∀ e, ofRows words rows = .error e ↔ ∃ before row after, rows = before ++ row :: after ∧
      (∀ r ∈ before, r.Readable) ∧ row.Fault words e) ∧
    ∀ others : List RoleRow, (∀ row, row ∈ rows ↔ row ∈ others) →
      SameOutcome (fun p q => ∀ {α : Type} (question : Question α),
        question.answer p = question.answer q) (ofRows words rows) (ofRows words others) := by
  refine ⟨fun p => ofRows_eq_ok_iff, exists_ofRows_eq_ok_iff, fun e => ofRows_eq_error_iff,
    fun others h => ?_⟩
  exact (sameOutcome_ofRows words h).mono
    fun p q halike {_} question => question.answer_congr halike

/-- Two roles whose rows come in the other order, one of them twice; a row of no known kind, and one
whose first text is empty. -/
theorem ofRows_all_or_none_reversed :
    let a : ResourcePermission := ⟨.exact "a", .any, .all, .read⟩
    let b : ResourcePermission := ⟨.any, .exact "p", .page, .all⟩
    let readers := RoleRow.ofRole ⟨⟨1⟩, "readers", .role, [a], []⟩
    let editors := RoleRow.ofRole ⟨⟨2⟩, "editors", .user, [b, a], [⟨.users, .read⟩]⟩
    let group : RoleRow := ⟨3, "group", "Group", "[]", "[]"⟩
    let blank : RoleRow := ⟨4, "blank", "user", "", "[]"⟩
    let words : FaultWords := ⟨fun _ => "EOF while parsing a value at line 1 column 0",
      fun _ => "EOF while parsing a value at line 1 column 0"⟩
    (∀ row, row ∈ [readers, editors] ↔ row ∈ [editors, readers, editors]) ∧
      (ofRows words [readers, editors] = .ok ⟨[a, b], [⟨.users, .read⟩]⟩ ∧
        ofRows words [editors, readers, editors] = .ok ⟨[b, a], [⟨.users, .read⟩]⟩) ∧
      SameOutcome (fun p q => ∀ {α : Type} (question : Question α),
        question.answer p = question.answer q)
        (ofRows words [readers, editors]) (ofRows words [editors, readers, editors]) ∧
      ofRows words [readers, group, editors] =
        .error (.corrupt "role group has unknown type Group") ∧
      ofRows words [readers, blank, group] = .error (.corrupt
        "role blank resources: EOF while parsing a value at line 1 column 0") := by
  intro a b readers editors group blank words
  have hsame : ∀ row, row ∈ [readers, editors] ↔ row ∈ [editors, readers, editors] := fun row => by
    simp only [List.mem_cons, List.not_mem_nil, or_false]
    tauto
  have hreaders : readers.Readable := ⟨.inl rfl, ⟨[a], by decide +kernel⟩, ⟨[], by decide +kernel⟩⟩
  have hblank : ∀ ps, (Decoder.list ResourcePermission.decode).run blank.resources ≠ .ok ps :=
    fun ps h => nomatch h
  refine ⟨hsame, by decide +kernel, (ofRows_all_or_none words [readers, editors]).2.2.2 _ hsame,
    ?_, ?_⟩
  · exact ((ofRows_all_or_none words [readers, group, editors]).2.2.1 _).mpr
      ⟨[readers], group, [editors], rfl, List.forall_mem_singleton.mpr hreaders, .kind (by decide)⟩
  · exact ((ofRows_all_or_none words [readers, blank, group]).2.2.1 _).mpr
      ⟨[readers], blank, [group], rfl, List.forall_mem_singleton.mpr hreaders,
        .resources (.inr rfl) hblank⟩

end Permissions

end Gatehouse
