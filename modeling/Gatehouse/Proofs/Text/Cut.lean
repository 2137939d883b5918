import Gatehouse.Text.Blank
import Mathlib.Data.List.TakeWhile

/-!
# Cutting texts where they were put together

A text that was put together with a separator between its parts is cut into these parts again, if
the separator is in none of them. One cut needs this of one side only: of what stands before the
first separator, or behind the last. All cuts together give the only parts without a separator that
the text may be put together from (`splitAt_eq_iff`).
-/

namespace Gatehouse.Text

theorem cutFirst?_append_cons {sep : Char} {s : List Char} (h : ∀ c ∈ s, c ≠ sep)
    (rest : List Char) : cutFirst? sep (s ++ sep :: rest) = some (s, rest) := by
  have hdrop : (s ++ sep :: rest).dropWhile (· ≠ sep) = sep :: rest := by
    rw [List.dropWhile_append_of_pos (by simpa using h)]
    simp
  have htake : (s ++ sep :: rest).takeWhile (· ≠ sep) = s := by
    rw [List.takeWhile_append_of_pos (by simpa using h)]
    simp
  simp only [cutFirst?, hdrop, htake]

/-- A text is cut at a separator behind which there is no other. -/
theorem cutLast?_append_cons {sep : Char} {rest : List Char} (h : ∀ c ∈ rest, c ≠ sep)
    (s : List Char) : cutLast? sep (s ++ sep :: rest) = some (s, rest) := by
  have hreverse : (s ++ sep :: rest).reverse = rest.reverse ++ sep :: s.reverse := by simp
  rw [cutLast?, hreverse, cutFirst?_append_cons (by simpa using h)]
  simp

theorem cutFirst?_eq_some_iff {sep : Char} {s before behind : List Char} :
    cutFirst? sep s = some (before, behind) ↔
      s = before ++ sep :: behind ∧ ∀ c ∈ before, c ≠ sep := by
  constructor
  · intro h
    have happend := List.takeWhile_append_dropWhile (p := (· ≠ sep)) (l := s)
    unfold cutFirst? at h
    cases hdrop : s.dropWhile (· ≠ sep) with
    | nil =>
      rw [hdrop] at h
      cases h
    | cons c rest =>
      rw [hdrop] at h happend
      cases h
      have hsep : c = sep := by
        have hhead := List.head?_dropWhile_not (· ≠ sep) s
        rw [hdrop] at hhead
        simpa using hhead
      subst hsep
      exact ⟨happend.symm, fun d hd => by simpa using List.mem_takeWhile_imp hd⟩
  · rintro ⟨rfl, h⟩
    exact cutFirst?_append_cons h behind

theorem cutFirst?_eq_none_iff {sep : Char} {s : List Char} : cutFirst? sep s = none ↔ sep ∉ s := by
  constructor
  · intro hnone hmem
    obtain ⟨before, behind, rfl, hbefore⟩ := List.eq_append_cons_of_mem hmem
    have hne : ∀ c ∈ before, c ≠ sep := fun c hc heq => hbefore (heq ▸ hc)
    rw [cutFirst?_append_cons hne] at hnone
    cases hnone
  · intro hmem
    rw [Option.eq_none_iff_forall_ne_some]
    rintro ⟨before, behind⟩ hcut
    rw [(cutFirst?_eq_some_iff.mp hcut).1] at hmem
    simp at hmem

theorem cutLast?_eq_some_iff {sep : Char} {s before behind : List Char} :
    cutLast? sep s = some (before, behind) ↔
      s = before ++ sep :: behind ∧ ∀ c ∈ behind, c ≠ sep := by
  constructor
  · intro h
    obtain ⟨⟨behind', before'⟩, hcut, hsame⟩ := Option.map_eq_some_iff.mp h
    cases hsame
    obtain ⟨hreverse, hne⟩ := cutFirst?_eq_some_iff.mp hcut
    refine ⟨?_, fun c hc => hne c (List.mem_reverse.mp hc)⟩
    simpa using congrArg List.reverse hreverse
  · rintro ⟨rfl, h⟩
    exact cutLast?_append_cons h before

theorem pieces_append_sep (sep : Char) (s t : List Char) :
    pieces sep (s ++ sep :: t) = pieces sep s ++ pieces sep t := by
  induction s with
  | nil => simp [pieces]
  | cons c s ih =>
    rw [List.cons_append, pieces, pieces, ih]
    split
    · rfl
    · cases h : pieces sep s with
      | nil => exact absurd h (pieces_ne_nil sep s)
      | cons p ps => rfl

/-- What holds of the parts and of what stands between them holds of the whole. -/
theorem forall_mem_intercalate {P : Char → Prop} {sep : List Char} {parts : List (List Char)}
    (hsep : ∀ c ∈ sep, P c) (h : ∀ p ∈ parts, ∀ c ∈ p, P c) : ∀ c ∈ sep.intercalate parts, P c := by
  induction parts with
  | nil => exact List.forall_mem_nil P
  | cons p parts ih =>
    obtain ⟨hp, hparts⟩ := List.forall_mem_cons.mp h
    cases parts with
    | nil => simpa using hp
    | cons q qs =>
      rw [List.intercalate_cons_cons]
      exact List.forall_mem_append.mpr ⟨List.forall_mem_append.mpr ⟨hp, hsep⟩, ih hparts⟩

/-- A text is cut into the pieces that it was put together from. -/
theorem pieces_intercalate {sep : Char} {ps : List (List Char)} (hne : ps ≠ [])
    (h : ∀ p ∈ ps, ∀ c ∈ p, c ≠ sep) : pieces sep (List.intercalate [sep] ps) = ps := by
  induction ps with
  | nil => exact absurd rfl hne
  | cons p ps ih =>
    have hp := h p List.mem_cons_self
    cases ps with
    | nil => simpa using pieces_of_forall_ne hp
    | cons q qs =>
      have hq := ih (List.cons_ne_nil q qs) fun r hr => h r (List.mem_cons_of_mem p hr)
      rw [List.intercalate_cons_cons, List.append_assoc]
      exact (pieces_append_cons hp _).trans (congrArg (p :: ·) hq)

/-- The pieces of a text make up the text. -/
theorem intercalate_pieces (sep : Char) (s : List Char) :
    List.intercalate [sep] (pieces sep s) = s := by
  induction s with
  | nil => rfl
  | cons c s ih =>
    rw [pieces]
    cases hpieces : pieces sep s with
    | nil => exact absurd hpieces (pieces_ne_nil sep s)
    | cons p ps =>
      rw [hpieces] at ih
      split
      · next hc =>
        rw [List.intercalate_cons_cons, ih, hc]
        rfl
      · cases ps with
        | nil => simpa using ih
        | cons q qs =>
          rw [List.intercalate_cons_cons] at ih ⊢
          exact congrArg (c :: ·) ih

/-- No separator is left in a piece. -/
theorem ne_of_mem_pieces {sep : Char} {s p : List Char} (hp : p ∈ pieces sep s) :
    ∀ c ∈ p, c ≠ sep := by
  induction s generalizing p with
  | nil =>
    obtain rfl : p = [] := by simpa using hp
    exact List.forall_mem_nil _
  | cons c s ih =>
    rw [pieces] at hp
    split at hp
    · rcases List.mem_cons.mp hp with rfl | hp
      · exact List.forall_mem_nil _
      · exact ih hp
    · next hc =>
      cases hpieces : pieces sep s with
      | nil => exact absurd hpieces (pieces_ne_nil sep s)
      | cons q qs =>
        rw [hpieces] at hp ih
        rcases List.mem_cons.mp hp with rfl | hp
        · exact List.forall_mem_cons.mpr ⟨hc, ih List.mem_cons_self⟩
        · exact ih (List.mem_cons_of_mem q hp)

/-- Texts that a text is put together from, with a separator between them that is in none of
them. -/
structure IsCut (sep : Char) (s : String) (parts : List String) : Prop where
  parts_ne : parts ≠ []
  sep_notMem : ∀ part ∈ parts, sep ∉ part.toList
  joined : (String.singleton sep).intercalate parts = s

/-- **There is one way to cut a text at every separator.** -/
theorem splitAt_eq_iff {sep : Char} {s : String} {parts : List String} :
    splitAt sep s = parts ↔ IsCut sep s parts := by
  constructor
  · rintro rfl
    refine ⟨by simp [splitAt, pieces_ne_nil], fun part hpart hmem => ?_, ?_⟩
    · obtain ⟨p, hp, rfl⟩ := List.mem_map.mp hpart
      rw [String.toList_ofList] at hmem
      exact ne_of_mem_pieces hp sep hmem rfl
    · rw [← String.toList_inj, String.toList_intercalate, splitAt, List.map_map]
      simpa [Function.comp_def] using intercalate_pieces sep s.toList
  · rintro ⟨hne, hnotMem, rfl⟩
    have hpieces : pieces sep (List.intercalate [sep] (parts.map String.toList)) =
        parts.map String.toList := by
      refine pieces_intercalate (by simpa using hne) fun p hp c hc => ?_
      obtain ⟨part, hpart, rfl⟩ := List.mem_map.mp hp
      rintro rfl
      exact hnotMem part hpart hc
    rw [splitAt, String.toList_intercalate, String.toList_singleton, hpieces, List.map_map]
    simp [Function.comp_def]

/-- The parts of a text are the part before a separator, and those of what stands behind it. -/
theorem splitAt_append {sep : Char} {s : String} (h : sep ∉ s.toList) (rest : String) :
    splitAt sep (s ++ String.singleton sep ++ rest) = s :: splitAt sep rest := by
  have hne : ∀ c ∈ s.toList, c ≠ sep := fun c hc heq => h (heq ▸ hc)
  rw [splitAt, String.toList_append, String.toList_append, String.toList_singleton,
    List.append_assoc, List.singleton_append, pieces_append_cons hne, List.map_cons,
    String.ofList_toList]
  rfl

end Gatehouse.Text
