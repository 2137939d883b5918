import Gatehouse.Proofs.Text.Utf8
import Mathlib.Data.String.Basic

/-!
# The order of texts is the order of their bytes

Texts are ordered by their characters, and characters by their numbers. UTF-8 is made so that the
bytes of texts are in the same order (`utf8_lt_utf8_iff`). Of two characters the bytes of the first
one come before those of the other whatever follows (`before_utf8EncodeChar`): the first byte tells
how many there are, and a greater number has no fewer, and bytes of the same number of bytes are
digits.
-/

namespace Gatehouse.Text

/-! ### Rows of bytes that differ -/

/-- Bytes that come before others whatever follows them. -/
def Before (us vs : Bytes) : Prop :=
  ∀ xs ys, us ++ xs < vs ++ ys

theorem Before.append {us vs : Bytes} (h : Before us vs) (us' vs' : Bytes) :
    Before (us ++ us') (vs ++ vs') := by
  intro xs ys
  rw [List.append_assoc, List.append_assoc]
  exact h _ _

/-- The first byte in which two rows differ decides. -/
theorem before_ofNat {m n : Nat} (h : m < n) (hn : n < 256) (common us vs : Bytes) :
    Before (common ++ UInt8.ofNat m :: us) (common ++ UInt8.ofNat n :: vs) := by
  intro xs ys
  have hbyte : UInt8.ofNat m < UInt8.ofNat n := by
    rw [UInt8.lt_iff_toNat_lt, UInt8.toNat_ofNat', UInt8.toNat_ofNat',
      Nat.mod_eq_of_lt (Nat.lt_trans h hn), Nat.mod_eq_of_lt hn]
    exact h
  rw [List.append_assoc, List.append_assoc]
  exact List.append_left_lt (List.cons_lt_cons_iff.mpr (.inl hbyte))

/-! ### The bytes of a character as digits -/

/-- The last digits of a number to the base of 64, as the bytes that follow the first one. -/
def sextets : Nat → Nat → Bytes
  | 0, _ => []
  | k + 1, v => sextets k (v / 64) ++ [UInt8.ofNat (v % 64 + 0x80)]

/-- A smaller number with as many digits comes first. -/
theorem before_sextets {mark : Nat} (k : Nat) {v w : Nat} (h : v < w)
    (hw : mark + w / 64 ^ k < 256) :
    Before (UInt8.ofNat (mark + v / 64 ^ k) :: sextets k v)
      (UInt8.ofNat (mark + w / 64 ^ k) :: sextets k w) := by
  induction k generalizing v w with
  | zero =>
    rw [Nat.pow_zero, Nat.div_one] at hw ⊢
    rw [Nat.div_one]
    exact before_ofNat (Nat.add_lt_add_left h mark) hw [] [] []
  | succ k ih =>
    have hpow : ∀ n, n / 64 ^ (k + 1) = n / 64 / 64 ^ k := fun n => by
      rw [Nat.pow_succ', Nat.div_div_eq_div_mul]
    have hdigits : v / 64 < w / 64 ∨ v / 64 = w / 64 ∧ v % 64 < w % 64 := by omega
    rw [hpow] at hw
    rw [hpow, hpow, sextets, sextets, ← List.cons_append, ← List.cons_append]
    rcases hdigits with hlt | ⟨heq, hlt⟩
    · exact (ih hlt hw).append _ _
    · rw [heq]
      exact before_ofNat (Nat.add_lt_add_right hlt _) (by omega) _ [] []

/-- The first byte of a character is a mark for how many bytes follow, with the digits above
theirs. -/
theorem exists_utf8EncodeChar_eq (c : Char) : ∃ k mark,
    String.utf8EncodeChar c = UInt8.ofNat (mark + c.toNat / 64 ^ k) :: sextets k c.toNat ∧
      (k = 0 ∧ mark = 0 ∧ c.toNat < 0x80 ∨
        k = 1 ∧ mark = 0xC0 ∧ 0x80 ≤ c.toNat ∧ c.toNat < 0x800 ∨
        k = 2 ∧ mark = 0xE0 ∧ 0x800 ≤ c.toNat ∧ c.toNat < 0x10000 ∨
        k = 3 ∧ mark = 0xF0 ∧ 0x10000 ≤ c.toNat ∧ c.toNat < 0x110000) := by
  have hval : c.val.toNat = c.toNat := rfl
  have hmax : c.toNat < 0x110000 := by
    rcases c.valid with h | h
    · exact Nat.lt_trans h (by decide)
    · exact h.2
  unfold String.utf8EncodeChar
  simp only [hval]
  split
  · exact ⟨0, 0, by simp [sextets], .inl ⟨rfl, rfl, by omega⟩⟩
  · split
    · refine ⟨1, 0xC0, ?_, .inr (.inl ⟨rfl, rfl, by omega, by omega⟩)⟩
      rw [Nat.mod_eq_of_lt (by omega), Nat.add_comm]
      rfl
    · split
      · refine ⟨2, 0xE0, ?_, .inr (.inr (.inl ⟨rfl, rfl, by omega, by omega⟩))⟩
        rw [Nat.mod_eq_of_lt (by omega), Nat.add_comm]
        rfl
      · refine ⟨3, 0xF0, ?_, .inr (.inr (.inr ⟨rfl, rfl, by omega, hmax⟩))⟩
        rw [Nat.mod_eq_of_lt (by omega), Nat.add_comm, ← Nat.div_div_eq_div_mul _ 64 64]
        rfl

/-- The bytes of a character come before those of a greater one. -/
theorem before_utf8EncodeChar {c d : Char} (h : c < d) :
    Before (String.utf8EncodeChar c) (String.utf8EncodeChar d) := by
  have hlt : c.toNat < d.toNat := h
  obtain ⟨k, mark, hc, hk⟩ := exists_utf8EncodeChar_eq c
  obtain ⟨k', mark', hd, hk'⟩ := exists_utf8EncodeChar_eq d
  have hbyte : mark' + d.toNat / 64 ^ k' < 256 := by
    rcases hk' with ⟨rfl, rfl, hk'⟩ | ⟨rfl, rfl, hk'⟩ | ⟨rfl, rfl, hk'⟩ | ⟨rfl, rfl, hk'⟩ <;>
      omega
  -- a greater number has as many bytes, or more of them and a greater mark
  have hmark : k = k' ∧ mark = mark' ∨
      mark + c.toNat / 64 ^ k < mark' + d.toNat / 64 ^ k' := by
    rcases hk with ⟨rfl, rfl, hk⟩ | ⟨rfl, rfl, hk⟩ | ⟨rfl, rfl, hk⟩ | ⟨rfl, rfl, hk⟩ <;>
      rcases hk' with ⟨rfl, rfl, hk'⟩ | ⟨rfl, rfl, hk'⟩ | ⟨rfl, rfl, hk'⟩ | ⟨rfl, rfl, hk'⟩ <;>
      omega
  rw [hc, hd]
  rcases hmark with ⟨rfl, rfl⟩ | hmark
  · exact before_sextets k hlt hbyte
  · exact before_ofNat hmark hbyte [] _ _

/-! ### The bytes of a text -/

theorem bytes_lt_bytes {s t : List Char} (h : s < t) : bytes s < bytes t := by
  induction h with
  | @nil c s =>
    obtain ⟨k, mark, hc, -⟩ := exists_utf8EncodeChar_eq c
    rw [bytes_nil, bytes_cons, hc]
    exact List.nil_lt_cons _ _
  | rel h =>
    rw [bytes_cons, bytes_cons]
    exact before_utf8EncodeChar h _ _
  | cons h ih =>
    rw [bytes_cons, bytes_cons]
    exact List.append_left_lt ih

/-- **The order of texts is the order of their bytes.** -/
theorem utf8_lt_utf8_iff {s t : String} : utf8 s < utf8 t ↔ s < t := by
  have hlt : ∀ {s t : String}, s < t → utf8 s < utf8 t := fun {s t} h => by
    rw [utf8_eq, utf8_eq]
    exact bytes_lt_bytes h
  refine ⟨fun h => ?_, hlt⟩
  rcases lt_trichotomy s t with hst | rfl | hst
  · exact hst
  · exact absurd h (List.lt_irrefl _)
  · exact absurd (hlt hst) (List.lt_asymm h)

end Gatehouse.Text
