import Gatehouse.Proofs.Json.Typed

/-!
# What a decoder gives

A property of all values that a decoder gives (`Gives`) follows from its steps: it has to hold of
what the last step makes of the values of the steps before. Nothing is asked about the text, so this
holds of texts of all kinds, well formed or not.
-/

namespace Gatehouse.Decoder

variable {α β : Type}

/-- Whether all values that a decoder gives have a property. -/
def Gives (decode : Decoder α) (P : α → Prop) : Prop :=
  ∀ depth s a rest, decode depth s = (.ok a, rest) → P a

theorem gives_true (decode : Decoder α) : Gives decode fun _ => True :=
  fun _ _ _ _ _ => trivial

theorem gives_pure {P : α → Prop} {a : α} (h : P a) : Gives (pure a) P := by
  rintro depth s _ rest ⟨⟩
  exact h

theorem Gives.bind {x : Decoder α} {f : α → Decoder β} {P : α → Prop} {Q : β → Prop}
    (hx : Gives x P) (hf : ∀ a, P a → Gives (f a) Q) : Gives (x >>= f) Q := by
  intro depth s b rest h
  obtain ⟨a, r, ha, hb⟩ := bind_eq_ok_iff.mp h
  exact hf a (hx depth s a r ha) depth r b rest hb

theorem gives_map {x : Decoder α} {f : α → β} {P : β → Prop} (h : ∀ a, P (f a)) :
    Gives (f <$> x) P := by
  intro depth s b rest hb
  obtain ⟨a, -, rfl⟩ := map_eq_ok_iff.mp hb
  exact h a

/-- The items of a list have what the decoder of the items gives. -/
theorem gives_items {decode : Decoder α} {P : α → Prop} (h : Gives decode P) (bound : Nat)
    (first : Bool) : Gives (items decode bound first) fun as => ∀ a ∈ as, P a := by
  intro depth s as rest has
  have hitem : ∀ s' a r, decode depth s' = (.ok a, r) → ∃ b, decode depth s' = (.ok b, r) ∧ P a :=
    fun s' a r ha => ⟨a, ha, h depth s' a r ha⟩
  obtain ⟨_, -, hall⟩ := exists_items hitem has (Nat.le_refl bound)
  have hboth : List.Forall₂ (fun a _ => P a ∧ True) as _ := hall.imp fun _ _ hp => ⟨hp, trivial⟩
  exact ((List.forall₂_and_left as _).mp hboth).1

theorem gives_list {decode : Decoder α} {P : α → Prop} (h : Gives decode P) :
    Gives (list decode) fun as => ∀ a ∈ as, P a := by
  intro depth s as rest has
  rw [list, peek_apply] at has
  revert has
  generalize nextSign s = c
  split
  · intro has
    obtain ⟨d, r, -, hitems, -, -⟩ := enclosed_eq_ok has
    exact gives_items h _ _ _ _ _ _ hitems
  · exact fun has => absurd has not_mismatch

/-- A value that is read at another place is one that the decoder gives. -/
theorem gives_readAt {decode : Decoder α} {P : α → Prop} (h : Gives decode P) (place : Place) :
    Gives (readAt place decode) P := by
  intro depth s a rest ha
  have hread : (decode place.depth place.bytes).1 = .ok a := congrArg Prod.fst ha
  exact h place.depth place.bytes a _ (Prod.ext hread rfl)

theorem gives_needed {decode : Decoder α} {P : α → Prop} (h : Gives decode P) (found : Entries)
    (name : String) : Gives (found.needed name decode) P := by
  rw [Entries.needed]
  split
  · next place _ => exact gives_readAt h place
  · rintro depth s a rest ⟨⟩

theorem gives_orElse {decode : Decoder α} {P : α → Prop} (h : Gives decode P) {default : α}
    (hdefault : P default) (found : Entries) (name : String) :
    Gives (found.orElse name decode default) P := by
  rw [Entries.orElse]
  split
  · next place _ => exact gives_readAt h place
  · exact gives_pure hdefault

/-- What a decoder gives it gives of whole texts too. -/
theorem Gives.of_run {decode : Decoder α} {P : α → Prop} (h : Gives decode P) {s : String} {a : α}
    (ha : decode.run s = .ok a) : P a := by
  obtain ⟨rest, hread, -⟩ := runBytes_eq_ok_iff.mp ha
  exact h maxDepth (Text.utf8 s) a rest hread

end Gatehouse.Decoder
