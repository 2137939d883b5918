import Gatehouse.Config.Environment
import Gatehouse.Proofs.Decimal.Digits
import Gatehouse.Proofs.Decimal.Numeral

/-!
# Texts out of the environment

The value of a variable is taken for a truth value, an integer, a float or a text (`TakenFor`).
Where a setting should be a text, it is read as `Environment.textOf` says: what was taken for a
truth value or a number is written out again. This gives back the value itself exactly if it was
written in the same way before (`Verbatim`, `textOf_eq_self_iff`): so for each value with a
character that is in no number (`verbatim_of_mem`) but for the words for truth values.
-/

namespace Gatehouse.Environment

open Decimal

/-- The word for a truth value. -/
def wordOf (b : Bool) : String :=
  if b then "true" else "false"

/-- What a value is taken for: the first of a truth value, an integer, a float and a text that it
can be. -/
inductive TakenFor (value : String) : Setting → Prop where
  | bool (b : Bool) (h : Text.sameLetters value (wordOf b) = true) : TakenFor value (.bool b)
  | int (n : Int) (hword : ∀ b, Text.sameLetters value (wordOf b) = false)
    (h : readInt64 value.toList = .ok n) : TakenFor value (.int n)
  | float (x : Binary64) (hword : ∀ b, Text.sameLetters value (wordOf b) = false)
    (hint : ∀ n, readInt64 value.toList ≠ .ok n) (h : readBinary64 value.toList = some x) :
    TakenFor value (.float x)
  | text (hword : ∀ b, Text.sameLetters value (wordOf b) = false)
    (hint : ∀ n, readInt64 value.toList ≠ .ok n) (h : readBinary64 value.toList = none) :
    TakenFor value (.text value)

theorem takenFor_valueOf (value : String) : TakenFor value (valueOf value) := by
  rw [valueOf]
  split
  · next h => exact .bool true h
  split
  · next h => exact .bool false h
  next htrue hfalse =>
  have hword : ∀ b, Text.sameLetters value (wordOf b) = false :=
    Bool.rec (eq_false_of_ne_true hfalse) (eq_false_of_ne_true htrue)
  split
  · next n h => exact .int n hword h
  next fault hfault =>
  have hint : ∀ n, readInt64 value.toList ≠ .ok n := fun n h => nomatch hfault.symm.trans h
  split
  · next x h => exact .float x hword hint h
  · next h => exact .text hword hint h

/-- The text as which the value of a variable is read. -/
def textOf (value : String) : String :=
  (valueOf value).asText?.getD ""

/-- Every value is read as a text. -/
theorem asText?_valueOf (value : String) : (valueOf value).asText? = some (textOf value) := by
  rw [textOf]
  have htaken := takenFor_valueOf value
  generalize valueOf value = v at htaken ⊢
  cases htaken <;> rfl

/-- The value of a variable takes the place of all that was there. -/
theorem onto_valueOf (value : String) : Setting.onto (valueOf value) = fun _ => valueOf value := by
  funext held
  have htaken := takenFor_valueOf value
  generalize valueOf value = v at htaken ⊢
  cases htaken <;> rfl

/-- Whether a value is written as what it is taken for is written. -/
structure Verbatim (value : String) : Prop where
  bool : ∀ b, Text.sameLetters value (wordOf b) = true → value = wordOf b
  int : ∀ n, readInt64 value.toList = .ok n → value = intText n
  float : ∀ x, (∀ n, readInt64 value.toList ≠ .ok n) → readBinary64 value.toList = some x →
    value = x.plainText

theorem verbatim_wordOf (b : Bool) : Verbatim (wordOf b) := by
  have hint : readInt64 (wordOf b).toList = .error .invalidDigit := by cases b <;> decide
  have hfloat : readBinary64 (wordOf b).toList = none := by cases b <;> decide
  refine ⟨?_, fun n h => ?_, fun x _ h => ?_⟩
  · decide +revert
  · cases hint.symm.trans h
  · cases hfloat.symm.trans h

variable {value : String}

/-- A value is read as itself exactly if it is written as what it is taken for. -/
theorem textOf_eq_self_iff : textOf value = value ↔ Verbatim value := by
  rw [textOf]
  have htaken := takenFor_valueOf value
  generalize valueOf value = v at htaken ⊢
  have hnoWord {P : Prop} (hword : ∀ b, Text.sameLetters value (wordOf b) = false) {b : Bool}
      (h : Text.sameLetters value (wordOf b) = true) : P :=
    absurd ((hword b).symm.trans h) Bool.false_ne_true
  cases htaken with
  | bool b h => exact ⟨fun heq => heq ▸ verbatim_wordOf b, fun hv => (hv.bool b h).symm⟩
  | int n hword h =>
    refine ⟨fun heq => ⟨fun b => hnoWord hword, fun m hm => ?_, fun x hint => ?_⟩,
      fun hv => (hv.int n h).symm⟩
    · obtain rfl : n = m := Except.ok.inj (h.symm.trans hm)
      exact heq.symm
    · exact absurd h (hint n)
  | float x hword hint h =>
    refine ⟨fun heq => ⟨fun b => hnoWord hword, fun m hm => absurd hm (hint m), fun y _ hy => ?_⟩,
      fun hv => (hv.float x hint h).symm⟩
    obtain rfl : x = y := Option.some.inj (h.symm.trans hy)
    exact heq.symm
  | text hword hint h =>
    refine ⟨fun _ => ⟨fun b => hnoWord hword, fun m hm => absurd hm (hint m), fun y _ hy => ?_⟩,
      fun _ => rfl⟩
    cases h.symm.trans hy

/-- A value with a character that is in no number is read as itself, unless it is a word for a truth
value. -/
theorem verbatim_of_mem {c : Char} (hc : c ∈ value.toList) (hnumeric : isNumeric c = false)
    (hword : ∀ b, Text.sameLetters value (wordOf b) = false) : Verbatim value where
  bool b h := absurd ((hword b).symm.trans h) Bool.false_ne_true
  int _ h := absurd (hnumeric.symm.trans (isNumeric_of_readInt64 h c hc)) Bool.false_ne_true
  float _ _ h := absurd (hnumeric.symm.trans (isNumeric_of_readBinary64 h c hc)) Bool.false_ne_true

end Gatehouse.Environment
