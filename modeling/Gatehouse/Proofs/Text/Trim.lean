import Gatehouse.Text.Blank
import Mathlib.Data.List.TakeWhile

/-!
# Blanks around a text

Trimming takes away what is blank at both ends and nothing else: what is left neither begins nor
ends with a blank, only blanks stand around it, and no other part of the text is so
(`trim_eq_iff`). So blanks that are put around a text make no difference (`trim_pad`), and a text
that begins and ends with characters that are not blank stays as it is, whatever is between
(`trim_between`). No ASCII letter is blank in either case, so a text with the letters of a word has
no blanks (`solid_of_sameLetters`).
-/

namespace Gatehouse.Text

/-- All characters of a text are blank. -/
def Blank (s : String) : Prop :=
  ∀ c ∈ s.toList, isBlank c = true

instance (s : String) : Decidable (Blank s) :=
  List.decidableBAll (isBlank · = true) s.toList

/-- No character of a text is blank. -/
def Solid (s : String) : Prop :=
  ∀ c ∈ s.toList, isBlank c = false

/-- A text neither begins nor ends with a blank character. -/
structure Trimmed (s : String) : Prop where
  head : ∀ c ∈ s.toList.head?, isBlank c = false
  last : ∀ c ∈ s.toList.getLast?, isBlank c = false

instance (s : String) : Decidable (Trimmed s) :=
  -- not by going through all characters there are
  letI (o : Option Char) : Decidable (∀ c ∈ o, isBlank c = false) := Option.decidableForallMem o
  decidable_of_iff
    ((∀ c ∈ s.toList.head?, isBlank c = false) ∧ ∀ c ∈ s.toList.getLast?, isBlank c = false)
    ⟨fun ⟨hhead, hlast⟩ => ⟨hhead, hlast⟩, fun h => ⟨h.head, h.last⟩⟩

/-- A text is what is left of another without the blanks at its ends. -/
structure IsTrimOf (t s : String) : Prop where
  trimmed : Trimmed t
  padded : ∃ front back, Blank front ∧ Blank back ∧ s = front ++ t ++ back

theorem Solid.trimmed {s : String} (h : Solid s) : Trimmed s :=
  ⟨fun c hc => h c (List.mem_of_mem_head? hc), fun c hc => h c (List.mem_of_mem_getLast? hc)⟩

section

variable {s t : List Char}

theorem trimStart_append_of_blank (hs : ∀ c ∈ s, isBlank c = true) (t : List Char) :
    trimStart (s ++ t) = trimStart t :=
  List.dropWhile_append_of_pos hs

theorem trimEnd_append_of_blank (ht : ∀ c ∈ t, isBlank c = true) (s : List Char) :
    trimEnd (s ++ t) = trimEnd s := by
  have hreverse : ∀ c ∈ t.reverse, isBlank c = true := fun c hc => ht c (List.mem_reverse.mp hc)
  rw [trimEnd, List.reverse_append, List.dropWhile_append_of_pos hreverse, trimEnd]

theorem trimStart_eq_self (h : ∀ c ∈ s.head?, isBlank c = false) : trimStart s = s := by
  rw [trimStart, List.dropWhile_eq_self_iff]
  intro hlength hblank
  have hhead := h s[0] (List.head?_eq_getElem? .. ▸ List.getElem?_eq_getElem hlength)
  rw [hhead] at hblank
  cases hblank

theorem trimEnd_eq_self (h : ∀ c ∈ s.getLast?, isBlank c = false) : trimEnd s = s := by
  have hreverse : ∀ c ∈ s.reverse.head?, isBlank c = false := by rwa [List.head?_reverse]
  rw [trimEnd, ← trimStart, trimStart_eq_self hreverse, List.reverse_reverse]

theorem head_trimStart (s : List Char) : ∀ c ∈ (trimStart s).head?, isBlank c = false := by
  intro c hc
  have hhead := List.head?_dropWhile_not isBlank s
  rw [← trimStart, Option.mem_def.mp hc] at hhead
  exact hhead

theorem last_trimEnd (s : List Char) : ∀ c ∈ (trimEnd s).getLast?, isBlank c = false := by
  rw [trimEnd, List.getLast?_reverse]
  exact head_trimStart s.reverse

/-- Only blanks are taken away from the start. -/
theorem exists_append_trimStart (s : List Char) :
    ∃ front, (∀ c ∈ front, isBlank c = true) ∧ s = front ++ trimStart s :=
  ⟨s.takeWhile isBlank, fun _ hc => List.mem_takeWhile_imp hc,
    List.takeWhile_append_dropWhile.symm⟩

theorem exists_trimEnd_append (s : List Char) :
    ∃ back, (∀ c ∈ back, isBlank c = true) ∧ s = trimEnd s ++ back := by
  obtain ⟨back, hback, hs⟩ := exists_append_trimStart s.reverse
  refine ⟨back.reverse, fun c hc => hback c (List.mem_reverse.mp hc), ?_⟩
  have hreverse := congrArg List.reverse hs
  rwa [List.reverse_reverse, List.reverse_append] at hreverse

end

theorem Trimmed.trimChars_eq {s : String} (h : Trimmed s) : trimChars s.toList = s.toList := by
  rw [trimChars, trimStart_eq_self h.head, trimEnd_eq_self h.last]

theorem Trimmed.trim_eq {s : String} (h : Trimmed s) : trim s = s := by
  rw [trim, h.trimChars_eq, String.ofList_toList]

/-- **Blanks around a text make no difference.** -/
theorem trim_pad {front back : String} (hfront : Blank front) (hback : Blank back) (s : String) :
    trim (front ++ s ++ back) = trim s := by
  have hstart : trimStart (front ++ s ++ back).toList = trimStart (s.toList ++ back.toList) := by
    rw [String.toList_append, String.toList_append, List.append_assoc,
      trimStart_append_of_blank hfront]
  have hback' : trimStart back.toList = [] := by
    simpa [trimStart] using trimStart_append_of_blank hback []
  rw [trim, trim, trimChars, trimChars, hstart, trimStart, List.dropWhile_append]
  split
  · next hempty =>
    have hs : trimStart s.toList = [] := List.isEmpty_iff.mp hempty
    rw [hs, ← trimStart, hback']
  · exact congrArg String.ofList (trimEnd_append_of_blank hback _)

theorem isTrimOf_trim (s : String) : IsTrimOf (trim s) s := by
  obtain ⟨front, hfront, hstart⟩ := exists_append_trimStart s.toList
  obtain ⟨back, hback, hend⟩ := exists_trimEnd_append (trimStart s.toList)
  have hleft : (trim s).toList = trimEnd (trimStart s.toList) := String.toList_ofList
  refine ⟨⟨fun c hc => ?_, fun c hc => ?_⟩,
    String.ofList front, String.ofList back, ?_, ?_, ?_⟩
  · -- what is left begins as the text does without the blanks at its start
    refine head_trimStart s.toList c ?_
    rw [hleft] at hc
    rw [hend, List.head?_append, Option.mem_def.mp hc, Option.some_or]
    rfl
  · rw [hleft] at hc
    exact last_trimEnd _ c hc
  · rwa [Blank, String.toList_ofList]
  · rwa [Blank, String.toList_ofList]
  · rw [← String.toList_inj, String.toList_append, String.toList_append, String.toList_ofList,
      String.toList_ofList, hleft, List.append_assoc, ← hend, ← hstart]

/-- **There is one way to trim a text.** -/
theorem trim_eq_iff {s t : String} : trim s = t ↔ IsTrimOf t s := by
  constructor
  · rintro rfl
    exact isTrimOf_trim s
  · rintro ⟨htrimmed, front, back, hfront, hback, rfl⟩
    rw [trim_pad hfront hback, htrimmed.trim_eq]

/-- **What stands between two texts without blanks is not touched.** -/
theorem trim_between {front back : String} (hfront : Solid front) (hne : front ≠ "")
    (hback : Solid back) (hne' : back ≠ "") (s : String) :
    trim (front ++ s ++ back) = front ++ s ++ back := by
  have hfront' : front.toList ≠ [] := by simpa using hne
  have hback' : back.toList ≠ [] := by simpa using hne'
  refine Trimmed.trim_eq ⟨fun c hc => ?_, fun c hc => ?_⟩
  · rw [String.toList_append, String.toList_append, List.append_assoc, List.head?_append,
      List.head?_eq_some_head hfront', Option.some_or] at hc
    cases hc
    exact hfront _ (List.head_mem hfront')
  · rw [String.toList_append, List.getLast?_append, List.getLast?_eq_some_getLast hback',
      Option.some_or] at hc
    cases hc
    exact hback _ (List.getLast_mem hback')

/-! ### Letters in either case -/

/-- A blank character is no letter that has another case. -/
theorem toLower_of_isBlank {c : Char} (h : isBlank c = true) : c.toLower = c := by
  unfold Char.toLower
  split
  · next hupper =>
    have hlow : 65 ≤ c.toNat := hupper.1
    have hhigh : c.toNat ≤ 90 := hupper.2
    simp only [isBlank, Bool.or_eq_true, Bool.and_eq_true, decide_eq_true_eq, beq_iff_eq] at h
    omega
  · rfl

/-- The letters of a word have no blank among them. -/
theorem solid_of_sameLetters {s word : String}
    (hword : (word.toList.map Char.toLower).any isBlank = false)
    (h : sameLetters s word = true) : Solid s := by
  intro c hc
  rw [← Bool.not_eq_true]
  intro hblank
  have hletters : s.toList.map Char.toLower = word.toList.map Char.toLower := beq_iff_eq.mp h
  have hlower : c.toLower ∈ word.toList.map Char.toLower :=
    hletters ▸ List.mem_map_of_mem hc
  rw [toLower_of_isBlank hblank] at hlower
  exact absurd hblank (List.any_eq_false.mp hword c hlower)

end Gatehouse.Text
