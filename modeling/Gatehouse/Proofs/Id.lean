import Gatehouse.Id
import Gatehouse.Proofs.Decimal.Digits
import Gatehouse.Proofs.Text.Trim

/-!
# The text of an identifier

A number of 64 bits is read out of its own text, and out of every other numeral of it, with blanks
around it (`Id.read_iff_isTextOf`). From any other text no number is read, so none comes out that
the text does not say, and the failure names the kind of identifier that was wanted.
-/

namespace Gatehouse

namespace Id

/-! ### Numerals between blanks -/

theorem isBlank_of_isDigit {c : Char} (h : c.isDigit = true) : Text.isBlank c = false := by
  obtain ⟨hlow, hhigh⟩ : 48 ≤ c.toNat ∧ c.toNat ≤ 57 := Char.isDigit_iff_toNat.mp h
  simp only [Text.isBlank, Bool.or_eq_false_iff, Bool.and_eq_false_iff, decide_eq_false_iff_not,
    beq_eq_false_iff_ne]
  omega

/-- A text says the number of an identifier: without the blanks at its ends it is a numeral of the
number, which has 64 bits. -/
def IsTextOf (s : String) (n : Int) : Prop :=
  ∃ numeral, Text.IsTrimOf numeral s ∧ Decimal.Denotes numeral.toList n ∧ Decimal.IsInt64 n

theorem isTextOf_iff {s : String} {n : Int} :
    IsTextOf s n ↔ Decimal.readInt64 (Text.trimChars s.toList) = .ok n := by
  have htrim : (Text.trim s).toList = Text.trimChars s.toList := String.toList_ofList
  rw [Decimal.readInt64_eq_ok_iff, ← htrim]
  constructor
  · rintro ⟨numeral, hnumeral, h⟩
    rwa [Text.trim_eq_iff.mpr hnumeral]
  · intro h
    exact ⟨Text.trim s, Text.isTrimOf_trim s, h⟩

/-- A number is said by its own text, whichever blanks are put around it. -/
theorem isTextOf_pad {n : Int} (hn : Decimal.IsInt64 n) {front back : String}
    (hfront : Text.Blank front) (hback : Text.Blank back) :
    IsTextOf (front ++ Decimal.intText n ++ back) n := by
  have htext : (Decimal.intText n).toList = Decimal.intChars n := String.toList_ofList
  have hdenotes := Decimal.denotes_intChars n
  have hsolid : Text.Solid (Decimal.intText n) := by
    rw [Text.Solid, htext]
    exact hdenotes.forall_mem (by decide) (by decide) fun c => isBlank_of_isDigit
  exact ⟨Decimal.intText n, ⟨hsolid.trimmed, front, back, hfront, hback, rfl⟩, htext ▸ hdenotes, hn⟩

section

variable (kind : IdKind) {s : String} {n : Int}

theorem read_eq_ok_iff : read kind s = .ok n ↔ IsTextOf s n := by
  rw [isTextOf_iff, read]
  cases Decimal.readInt64 (Text.trimChars s.toList) with
  | ok m => simp
  | error fault => simp

/-- Where nothing is read, the failure names the kind. -/
theorem exists_read_eq_error (h : ∀ n, ¬ IsTextOf s n) :
    ∃ fault, read kind s = .error ⟨kind, fault⟩ := by
  rw [read]
  cases hread : Decimal.readInt64 (Text.trimChars s.toList) with
  | ok m => exact absurd (isTextOf_iff.mpr hread) (h m)
  | error fault => exact ⟨fault, rfl⟩

end

/-- **Identifiers and their texts.** The text of a number of 64 bits is read as that number,
whichever blanks are put around it. Of all texts those are read, and as that number, which are a
numeral of a number of 64 bits without the blanks at their ends. Any other text is refused, and the
failure names the kind of identifier. -/
theorem read_iff_isTextOf :
    (∀ (n : Int) (front back : String), Decimal.IsInt64 n → Text.Blank front → Text.Blank back →
      UserId.read (front ++ UserId.text ⟨n⟩ ++ back) = .ok ⟨n⟩ ∧
        RoleId.read (front ++ RoleId.text ⟨n⟩ ++ back) = .ok ⟨n⟩) ∧
    (∀ (s : String) (n : Int),
      (UserId.read s = .ok ⟨n⟩ ↔ IsTextOf s n) ∧ (RoleId.read s = .ok ⟨n⟩ ↔ IsTextOf s n)) ∧
    ∀ s : String, (∀ n, ¬ IsTextOf s n) →
      (∃ fault, UserId.read s = .error ⟨.user, fault⟩ ∧
        IdFault.message ⟨.user, fault⟩ = "failed to parse UserId: " ++ fault.message) ∧
      ∃ fault, RoleId.read s = .error ⟨.role, fault⟩ ∧
        IdFault.message ⟨.role, fault⟩ = "failed to parse RoleId: " ++ fault.message := by
  have hread : ∀ (s : String) (n : Int),
      (UserId.read s = .ok ⟨n⟩ ↔ IsTextOf s n) ∧ (RoleId.read s = .ok ⟨n⟩ ↔ IsTextOf s n) := by
    intro s n
    constructor
    · rw [← read_eq_ok_iff .user, UserId.read]
      cases read .user s <;> simp [Except.map]
    · rw [← read_eq_ok_iff .role, RoleId.read]
      cases read .role s <;> simp [Except.map]
  refine ⟨fun n front back hn hfront hback => ?_, hread, fun s hs => ⟨?_, ?_⟩⟩
  · have htext := isTextOf_pad hn hfront hback
    exact ⟨(hread _ n).1.mpr htext, (hread _ n).2.mpr htext⟩
  · obtain ⟨fault, hfault⟩ := exists_read_eq_error .user hs
    exact ⟨fault, by rw [UserId.read, hfault]; rfl, rfl⟩
  · obtain ⟨fault, hfault⟩ := exists_read_eq_error .role hs
    exact ⟨fault, by rw [RoleId.read, hfault]; rfl, rfl⟩

/-- The least number between blanks, a number with a sign and zeros in front, one more than the
greatest number, and digits that are not of ASCII. -/
theorem read_iff_isTextOf_ends :
    UserId.read "\u3000-9223372036854775808\n" = .ok ⟨-9223372036854775808⟩ ∧
      RoleId.read " +0017" = .ok ⟨17⟩ ∧
      (∃ fault, UserId.read "9223372036854775808" = .error ⟨.user, fault⟩) ∧
      ∃ fault, RoleId.read "１７" = .error ⟨.role, fault⟩ := by
  obtain ⟨hown, hread, hrefused⟩ := read_iff_isTextOf
  have hleast := (hown (-9223372036854775808) "\u3000" "\n" (by decide) (by decide) (by decide)).1
  have hsigned : IsTextOf " +0017" 17 := isTextOf_iff.mpr (by decide +kernel)
  have hnone : ∀ {s : String} {fault : Decimal.IntegerFault},
      Decimal.readInt64 (Text.trimChars s.toList) = .error fault → ∀ n, ¬ IsTextOf s n := by
    intro s fault hfault n hn
    rw [isTextOf_iff, hfault] at hn
    cases hn
  have hmore : ∀ n, ¬ IsTextOf "9223372036854775808" n :=
    @hnone _ .tooLarge (by decide +kernel)
  have hforeign : ∀ n, ¬ IsTextOf "１７" n := @hnone _ .invalidDigit (by decide +kernel)
  obtain ⟨fault, hfault, -⟩ := (hrefused _ hmore).1
  obtain ⟨fault', hfault', -⟩ := (hrefused _ hforeign).2
  have htext : "\u3000" ++ UserId.text ⟨-9223372036854775808⟩ ++ "\n" =
      "\u3000-9223372036854775808\n" := by decide +kernel
  exact ⟨htext ▸ hleast, (hread _ 17).2.mpr hsigned, ⟨fault, hfault⟩, fault', hfault'⟩

end Id

end Gatehouse
