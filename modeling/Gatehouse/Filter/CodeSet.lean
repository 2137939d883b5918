/-!
# Sets of codes

A set of codes is a list in strictly ascending order, so equal sets are equal lists. Codes are
ordered by their characters.
-/

namespace Gatehouse

/-- A finite set of codes. -/
structure CodeSet where
  /-- The codes in ascending order. -/
  toList : List String
  ascending : toList.Pairwise (· < ·)
  deriving DecidableEq, Repr

namespace CodeSet

/-- The set without codes. -/
def empty : CodeSet :=
  ⟨[], .nil⟩

instance : Inhabited CodeSet := ⟨empty⟩

/-- Puts a code into an ascending list. -/
def insertInto (code : String) : List String → List String
  | [] => [code]
  | c :: rest =>
    if code < c then code :: c :: rest
    else if c < code then c :: insertInto code rest
    else c :: rest

theorem mem_insertInto {code x : String} {codes : List String} :
    x ∈ insertInto code codes ↔ x = code ∨ x ∈ codes := by
  induction codes with
  | nil => simp [insertInto]
  | cons c rest ih =>
    unfold insertInto
    split
    · simp
    · split
      · simp only [List.mem_cons, ih]
        constructor
        · rintro (h | h | h)
          · exact .inr (.inl h)
          · exact .inl h
          · exact .inr (.inr h)
        · rintro (h | h | h)
          · exact .inr (.inl h)
          · exact .inl h
          · exact .inr (.inr h)
      · rename_i h₁ h₂
        have : code = c := String.le_antisymm (String.not_lt.mp h₂) (String.not_lt.mp h₁)
        subst this
        simp

theorem pairwise_insertInto {code : String} {codes : List String}
    (h : codes.Pairwise (· < ·)) : (insertInto code codes).Pairwise (· < ·) := by
  induction codes with
  | nil => simp [insertInto]
  | cons c rest ih =>
    obtain ⟨hc, hrest⟩ := List.pairwise_cons.mp h
    unfold insertInto
    split
    · rename_i hlt
      refine List.pairwise_cons.mpr ⟨?_, h⟩
      intro x hx
      rcases List.mem_cons.mp hx with rfl | hx
      · exact hlt
      · exact String.lt_trans hlt (hc x hx)
    · split
      · rename_i hlt
        refine List.pairwise_cons.mpr ⟨?_, ih hrest⟩
        intro x hx
        rcases mem_insertInto.mp hx with rfl | hx
        · exact hlt
        · exact hc x hx
      · exact h

/-- Puts a code into a set. -/
def insert (s : CodeSet) (code : String) : CodeSet :=
  ⟨insertInto code s.toList, pairwise_insertInto s.ascending⟩

/-- The set of the codes of a list. -/
def ofList (codes : List String) : CodeSet :=
  codes.foldl insert empty

/-- Whether a set has no codes. -/
def isEmpty (s : CodeSet) : Bool :=
  s.toList.isEmpty

/-- Whether a code is in a set. -/
def contains (s : CodeSet) (code : String) : Bool :=
  s.toList.contains code

/-! ### Small laws -/

instance : Membership String CodeSet where
  mem s code := code ∈ s.toList

theorem mem_def {s : CodeSet} {code : String} : code ∈ s ↔ code ∈ s.toList := Iff.rfl

@[simp] theorem contains_iff {s : CodeSet} {code : String} :
    s.contains code = true ↔ code ∈ s := by
  simp [contains, mem_def]

@[simp] theorem mem_insert {s : CodeSet} {code x : String} :
    x ∈ s.insert code ↔ x = code ∨ x ∈ s :=
  mem_insertInto

@[simp] theorem not_mem_empty {x : String} : ¬ x ∈ empty := by
  simp [mem_def, empty]

theorem mem_foldl_insert {x : String} {codes : List String} {s : CodeSet} :
    x ∈ codes.foldl insert s ↔ x ∈ s ∨ x ∈ codes := by
  induction codes generalizing s with
  | nil => simp
  | cons c rest ih =>
    rw [List.foldl_cons, ih, mem_insert, List.mem_cons]
    constructor
    · rintro ((h | h) | h)
      · exact .inr (.inl h)
      · exact .inl h
      · exact .inr (.inr h)
    · rintro (h | h | h)
      · exact .inl (.inr h)
      · exact .inl (.inl h)
      · exact .inr h

/-- The set of a list has the members of the list. -/
@[simp] theorem mem_ofList {x : String} {codes : List String} : x ∈ ofList codes ↔ x ∈ codes := by
  simp [ofList, mem_foldl_insert]

/-- Sets with the same members are equal. -/
theorem ext_mem {s t : CodeSet} (h : ∀ x, x ∈ s ↔ x ∈ t) : s = t := by
  obtain ⟨xs, hx⟩ := s
  obtain ⟨ys, hy⟩ := t
  have key : ∀ (xs ys : List String), xs.Pairwise (· < ·) → ys.Pairwise (· < ·) →
      (∀ x, x ∈ xs ↔ x ∈ ys) → xs = ys := by
    intro xs
    induction xs with
    | nil =>
      intro ys _ _ h
      cases ys with
      | nil => rfl
      | cons y ys => exact absurd ((h y).mpr (by simp)) (by simp)
    | cons x xs ih =>
      intro ys hx hy h
      cases ys with
      | nil => exact absurd ((h x).mp (by simp)) (by simp)
      | cons y ys =>
        obtain ⟨hx₁, hx₂⟩ := List.pairwise_cons.mp hx
        obtain ⟨hy₁, hy₂⟩ := List.pairwise_cons.mp hy
        have hxy : x = y := by
          rcases List.mem_cons.mp ((h x).mp (by simp)) with he | hm
          · exact he
          · rcases List.mem_cons.mp ((h y).mpr (by simp)) with he | hm'
            · exact he.symm
            · exact absurd (String.lt_trans (hy₁ x hm) (hx₁ y hm')) (String.lt_irrefl y)
        subst hxy
        congr 1
        refine ih ys hx₂ hy₂ fun z => ?_
        constructor
        · intro hz
          rcases List.mem_cons.mp ((h z).mp (List.mem_cons_of_mem _ hz)) with rfl | hm
          · exact absurd (hx₁ z hz) (String.lt_irrefl z)
          · exact hm
        · intro hz
          rcases List.mem_cons.mp ((h z).mpr (List.mem_cons_of_mem _ hz)) with rfl | hm
          · exact absurd (hy₁ z hz) (String.lt_irrefl z)
          · exact hm
  have : xs = ys := key xs ys hx hy h
  subst this
  rfl

/-- A set is empty when it has no member. -/
theorem isEmpty_iff {s : CodeSet} : s.isEmpty = true ↔ ∀ x, ¬ x ∈ s := by
  rw [isEmpty, List.isEmpty_iff]
  constructor
  · intro h x hx
    rw [mem_def, h] at hx
    simp at hx
  · intro h
    cases hs : s.toList with
    | nil => rfl
    | cons x rest => exact absurd (by simp [mem_def, hs]) (h x)

end CodeSet

end Gatehouse
