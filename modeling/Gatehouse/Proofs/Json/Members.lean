import Gatehouse.Proofs.Json.Typed

/-!
# The values that an object has under a name

A record is read by its shape: members are looked for by name, each at most once, and those of
other names are passed over. `memberValues` knows nothing of shapes; it lists all values that an
object has under one name. Where a record is read from an object the two agree: what is listed under
the name of a member is the value that the record holds for it, or nothing if the record has left it
out (`exists_memberValues`, `exists_of_needed`).
-/

namespace Gatehouse.Decoder

variable {α : Type} {depth : Nat} {s rest : Bytes}

/-- Collects the value of a member of the given name, the last one first. -/
def collect (name : String) (values : List Json) (other : String) : Decoder (List Json) :=
  if other = name then do
    let j ← valued raw
    pure (j :: values)
  else do
    valued ignored
    pure values

/-- Reads the values that an object has under a name, in order. -/
def memberValues (name : String) : Decoder (List Json) := do
  match ← peek with
  | some '\x7b' =>
    bounded fun bound => List.reverse <$> enclosed '\x7d' (members (collect name) bound true [])
  | _ => mismatch

/-- What a record holds for a name is listed under the name. -/
inductive Lists (name : String) (found : Entries) : List Json → Prop where
  | none (h : found.lookup name = none) : Lists name found []
  | one {place : Place} {j : Json} {r : Bytes} (h : found.lookup name = some place)
    (hj : raw place.depth place.bytes = (.ok j, r)) : Lists name found [j]

variable {shape : List Member} {name : String}

theorem Lists.reverse {found : Entries} {values : List Json} (h : Lists name found values) :
    values.reverse = values := by
  cases h <;> rfl

theorem shows_member {decode : Decoder α} {P : α → Json → Prop} (h : Shows decode P) :
    Shows (member name decode).check fun _ _ => True := by
  intro depth s _ r hcheck
  obtain ⟨a, _, ha, ⟨⟩⟩ := bind_eq_ok_iff.mp hcheck
  obtain ⟨j, hj, -⟩ := h depth s a r ha
  exact ⟨j, hj, trivial⟩

/-- Collecting one member keeps record and list together. -/
theorem exists_collect (hshape : ∀ m ∈ shape, Shows m.check fun _ _ => True)
    (hname : ∃ m ∈ shape, m.name = name) (found : Entries) (values : List Json) (other : String)
    (s : Bytes) (next : Entries) (r : Bytes) (hfound : Lists name found values)
    (h : fromObject shape found other depth s = (.ok next, r)) :
    ∃ values', collect name values other depth s = (.ok values', r) ∧ Lists name next values' := by
  rw [fromObject] at h
  cases hfind : shape.find? (·.name == other) with
  | none =>
    rw [hfind] at h
    obtain ⟨_, _, hignored, ⟨⟩⟩ := bind_eq_ok_iff.mp h
    have hother : other ≠ name := by
      rintro rfl
      obtain ⟨m, hm, rfl⟩ := hname
      exact List.find?_eq_none.mp hfind m hm (beq_self_eq_true m.name)
    refine ⟨values, ?_, hfound⟩
    rw [collect, if_neg hother]
    exact bind_ok hignored
  | some m =>
    have hm := List.mem_of_find?_eq_some hfind
    rw [hfind] at h
    dsimp only at h
    split at h
    · cases h
    · next hnew =>
      obtain ⟨_, t, hcolon, h⟩ := bind_eq_ok_iff.mp h
      obtain ⟨_, _, ⟨⟩, h⟩ := bind_eq_ok_iff.mp h
      obtain ⟨_, _, hcheck, ⟨⟩⟩ := bind_eq_ok_iff.mp h
      obtain ⟨j, hj, -⟩ := hshape m hm _ _ _ _ hcheck
      -- a known member of the name is listed, and all other known ones could have been passed over
      rw [collect]
      by_cases hother : other = name
      · subst hother
        have hlookup : found.lookup other = none := Option.not_isSome_iff_eq_none.mp hnew
        rw [if_pos rfl]
        refine ⟨j :: values, bind_ok ((bind_ok hcolon).trans hj), ?_⟩
        cases hfound with
        | none => exact .one List.lookup_cons_self hj
        | one h =>
          rw [hlookup] at h
          cases h
      · have hkeep : ((other, (⟨depth, t⟩ : Place)) :: found).lookup name = found.lookup name := by
          rw [List.lookup_cons, beq_eq_false_iff_ne.mpr (Ne.symm hother)]
        rw [if_neg hother]
        refine ⟨values, bind_ok ((bind_ok hcolon).trans (ignored_of_raw hj)), ?_⟩
        cases hfound with
        | none h => exact .none (hkeep.trans h)
        | one h hj => exact .one (hkeep.trans h) hj

/-- **Where a record is read from an object, the values under the name of a member are listed.** -/
theorem exists_memberValues (hshape : ∀ m ∈ shape, Shows m.check fun _ _ => True)
    (hname : ∃ m ∈ shape, m.name = name) (hobject : nextSign s = some '\x7b') {required : Nat}
    {found : Entries} (h : entries shape required depth s = (.ok found, rest)) :
    ∃ values, memberValues name depth s = (.ok values, rest) ∧ Lists name found values := by
  rw [entries, peek_apply, hobject] at h
  obtain ⟨d, r, rfl, hmembers, hclose, rfl⟩ := enclosed_eq_ok h
  obtain ⟨values, hvalues, hlists⟩ :=
    exists_members_of_take (exists_collect hshape hname) (.none rfl) hmembers (Nat.le_refl _)
  refine ⟨values, ?_, hlists⟩
  rw [memberValues, peek_apply, hobject]
  exact map_eq_ok_iff.mpr ⟨values, enclosed_of_eq_ok hvalues hclose, hlists.reverse⟩

/-- The value of a member that has to be there is the one listed. -/
theorem exists_of_needed {decode : Decoder α} {P : α → Json → Prop} (h : Shows decode P)
    {found : Entries} {values : List Json} (hfound : Lists name found values) {a : α}
    (ha : found.needed name decode depth s = (.ok a, rest)) : ∃ j, values = [j] ∧ P a j := by
  rw [Entries.needed] at ha
  cases hfound with
  | none hnone =>
    rw [hnone] at ha
    cases ha
  | @one place j r hone hj =>
    rw [hone] at ha
    have hdecode : (decode place.depth place.bytes).1 = .ok a := congrArg Prod.fst ha
    obtain ⟨j', hj', hp⟩ := h _ _ _ _ (Prod.ext hdecode rfl)
    rw [hj] at hj'
    cases hj'
    exact ⟨_, rfl, hp⟩

end Gatehouse.Decoder
