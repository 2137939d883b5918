import Gatehouse.Proofs.Decimal.Digits
import Mathlib.Data.List.TakeDrop
import Mathlib.Data.List.TakeWhile

/-!
# The characters of numbers

Whatever is read as a number is made of digits, signs, points and a few letters (`isNumeric`): all
characters of an integer are such (`isNumeric_of_readInt64`), and all of a float
(`isNumeric_of_readBinary64`). So one character of another kind keeps a text from being a number.
-/

namespace Gatehouse.Decimal

/-- Whether a character is in some number: a digit, a sign, a point, or a letter of an exponent or
of the names of infinity and of what is no number. -/
def isNumeric (c : Char) : Bool :=
  (digit? c).isSome || "+-.aefinty".toList.contains c.toLower

variable {s : List Char} {c : Char}

theorem isNumeric_of_digit? (h : (digit? c).isSome = true) : isNumeric c = true := by
  rw [isNumeric, h, Bool.true_or]

/-! ### Integers -/

/-- An integer is made of a sign and digits. -/
theorem isNumeric_of_readInt64 {n : Int} (h : readInt64 s = .ok n) :
    ∀ c ∈ s, isNumeric c = true :=
  (readInt64_eq_ok_iff.mp h).1.forall_mem (by decide) (by decide) fun _ hc =>
    isNumeric_of_digit? (isSome_digit?_iff.mpr hc)

/-! ### Floats -/

/-- Digits at the start of a text do not matter. -/
private theorem isNumeric_of_spanDigits (h : ∀ c ∈ (spanDigits s).2, isNumeric c = true) :
    ∀ c ∈ s, isNumeric c = true := by
  rw [spanDigits, List.span_eq_takeWhile_dropWhile] at h
  intro c hc
  rw [← List.takeWhile_append_dropWhile (p := fun c => (digit? c).isSome) (l := s)] at hc
  rcases List.mem_append.mp hc with hc | hc
  · exact isNumeric_of_digit? (List.mem_takeWhile_imp (p := fun c => (digit? c).isSome) hc)
  · exact h c hc

private theorem isNumeric_of_readExponent {p : Int} (h : readExponent s = some p) :
    ∀ c ∈ s, isNumeric c = true := by
  rw [readExponent.eq_def] at h
  split at h
  next negative rest hsign =>
  have hrest : ∀ c ∈ rest, isNumeric c = true := by
    refine isNumeric_of_spanDigits ?_
    split at h
    · next heq =>
      rw [heq]
      exact List.forall_mem_nil _
    · cases h
  split at hsign
  · cases hsign
    exact List.forall_mem_cons.mpr ⟨by decide, hrest⟩
  · cases hsign
    exact List.forall_mem_cons.mpr ⟨by decide, hrest⟩
  · cases hsign
    exact hrest

/-- What is behind the digits of a float is nothing or an exponent. -/
private theorem isNumeric_of_power {P : Prop} [Decidable P] {f : Int → Binary64} {x : Binary64}
    (h : (if P then none else
      (match s with
        | [] => some 0
        | c :: r => if c = 'e' ∨ c = 'E' then readExponent r else none).map f) = some x) :
    ∀ c ∈ s, isNumeric c = true := by
  split at h
  · cases h
  obtain ⟨power, hpower, -⟩ := Option.map_eq_some_iff.mp h
  split at hpower
  · exact List.forall_mem_nil _
  · next c r =>
    split at hpower
    · next hmark =>
      have hc : isNumeric c = true := by rcases hmark with rfl | rfl <;> decide
      exact List.forall_mem_cons.mpr ⟨hc, isNumeric_of_readExponent hpower⟩
    · cases hpower

/-- A text is numeric if it is one of the names in lower case. -/
private theorem isNumeric_of_name {name : String} (h : String.ofList (s.map Char.toLower) = name)
    (hname : name.toList.all ("+-.aefinty".toList.contains ·) = true) :
    ∀ c ∈ s, isNumeric c = true := by
  intro c hc
  have hlower : c.toLower ∈ name.toList := by
    rw [← h, String.toList_ofList]
    exact List.mem_map_of_mem hc
  rw [isNumeric, List.all_eq_true.mp hname _ hlower, Bool.or_true]

private theorem isNumeric_of_readMagnitude64 {negative : Bool} {x : Binary64}
    (h : readMagnitude64 negative s = some x) : ∀ c ∈ s, isNumeric c = true := by
  rw [readMagnitude64] at h
  dsimp only at h
  split at h
  · next hname =>
    rcases hname with hname | hname
    · exact isNumeric_of_name hname (by decide)
    · exact isNumeric_of_name hname (by decide)
  split at h
  · next hname => exact isNumeric_of_name hname (by decide)
  refine isNumeric_of_spanDigits ?_
  split at h
  · next r hpoint =>
    rw [hpoint]
    exact List.forall_mem_cons.mpr ⟨by decide, isNumeric_of_spanDigits (isNumeric_of_power h)⟩
  · exact isNumeric_of_power h

/-- A float is made of a sign, digits, a point and an exponent, or it is a name. -/
theorem isNumeric_of_readBinary64 {x : Binary64} (h : readBinary64 s = some x) :
    ∀ c ∈ s, isNumeric c = true := by
  rw [readBinary64.eq_def] at h
  split at h
  · exact List.forall_mem_cons.mpr ⟨by decide, isNumeric_of_readMagnitude64 h⟩
  · exact List.forall_mem_cons.mpr ⟨by decide, isNumeric_of_readMagnitude64 h⟩
  · exact isNumeric_of_readMagnitude64 h

end Gatehouse.Decimal
