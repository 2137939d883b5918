import Gatehouse.Json.Decode
import Mathlib.Data.List.DropRight
import Mathlib.Data.List.Forall2

/-!
# What a decoder that succeeded has done

A decoder is put together of steps, and it succeeds only if each step does (`bind_eq_ok_iff`). So
from a success one can tell which signs stood where: the brackets of an array or an object
(`enclosed_eq_ok`), the commas between items and members (`hasItem_eq_ok`, `hasMember_eq_ok`), the
colon behind a name (`valued_eq_ok_iff`).

Items and members that one decoder reads are read by any other one that reads each of them up to the
same place (`exists_items`, `exists_members_of_take`).
-/

namespace Gatehouse

theorem except_bind_eq_ok_iff {ε α β : Type} {x : Except ε α} {f : α → Except ε β} {b : β} :
    (x >>= f) = .ok b ↔ ∃ a, x = .ok a ∧ f a = .ok b := by
  cases x with
  | error e =>
    constructor
    · rintro ⟨⟩
    · rintro ⟨_, ⟨⟩, _⟩
  | ok a =>
    constructor
    · exact fun h => ⟨a, rfl, h⟩
    · rintro ⟨_, ⟨⟩, h⟩
      exact h

theorem except_bind_eq_error_iff {ε α β : Type} {x : Except ε α} {f : α → Except ε β} {e : ε} :
    (x >>= f) = .error e ↔ x = .error e ∨ ∃ a, x = .ok a ∧ f a = .error e := by
  cases x with
  | error e' =>
    constructor
    · rintro ⟨⟩
      exact .inl rfl
    · rintro (⟨⟨⟩⟩ | ⟨_, ⟨⟩, _⟩)
      rfl
  | ok a =>
    constructor
    · exact fun h => .inr ⟨a, rfl, h⟩
    · rintro (⟨⟨⟩⟩ | ⟨_, ⟨⟩, h⟩)
      exact h

namespace Decoder

variable {α β σ τ : Type} {depth : Nat} {s rest : Bytes}

theorem bind_apply (x : Decoder α) (f : α → Decoder β) :
    (x >>= f) depth s =
      match x depth s with
      | (.ok a, rest) => f a depth rest
      | (.error fault, rest) => (.error fault, rest) := rfl

theorem bind_ok {x : Decoder α} {f : α → Decoder β} {a : α} (h : x depth s = (.ok a, rest)) :
    (x >>= f) depth s = f a depth rest := by
  rw [bind_apply, h]

theorem bind_eq_ok_iff {x : Decoder α} {f : α → Decoder β} {b : β} :
    (x >>= f) depth s = (.ok b, rest) ↔
      ∃ a r, x depth s = (.ok a, r) ∧ f a depth r = (.ok b, rest) := by
  rw [bind_apply]
  rcases x depth s with ⟨e | a, r⟩
  · constructor
    · rintro ⟨⟩
    · rintro ⟨_, _, ⟨⟩, _⟩
  · constructor
    · exact fun h => ⟨a, r, rfl, h⟩
    · rintro ⟨_, _, ⟨⟩, h⟩
      exact h

theorem map_eq_ok_iff {x : Decoder α} {f : α → β} {b : β} :
    (f <$> x) depth s = (.ok b, rest) ↔ ∃ a, x depth s = (.ok a, rest) ∧ f a = b := by
  have hmap : (f <$> x) depth s = (x >>= fun a => pure (f a)) depth s := rfl
  rw [hmap, bind_eq_ok_iff]
  constructor
  · rintro ⟨a, r, hx, ⟨⟩⟩
    exact ⟨a, hx, rfl⟩
  · rintro ⟨a, hx, rfl⟩
    exact ⟨a, rest, hx, rfl⟩

theorem runBytes_eq_ok_iff {decode : Decoder α} {bytes : Bytes} {a : α} :
    decode.runBytes bytes = .ok a ↔
      ∃ rest, decode maxDepth bytes = (.ok a, rest) ∧ (skipSpace rest).isEmpty = true := by
  rw [runBytes]
  rcases decode maxDepth bytes with ⟨e | b, rest⟩
  · constructor
    · rintro ⟨⟩
    · rintro ⟨_, ⟨⟩, _⟩
  · dsimp only
    split
    · next hempty =>
      constructor
      · rintro ⟨⟩
        exact ⟨rest, rfl, hempty⟩
      · rintro ⟨_, ⟨⟩, -⟩
        rfl
    · next hmore =>
      constructor
      · rintro ⟨⟩
      · rintro ⟨_, ⟨⟩, hempty⟩
        exact absurd hempty hmore

/-! ### The next sign -/

/-- The next sign that is not blank. -/
def nextSign (s : Bytes) : Option Char :=
  (skipSpace s).head?.map sign

theorem peek_apply (f : Option Char → Decoder α) :
    (peek >>= f) depth s = f (nextSign s) depth (skipSpace s) := rfl

theorem skipSpace_skipSpace (s : Bytes) : skipSpace (skipSpace s) = skipSpace s :=
  List.dropWhile_idempotent _ _

theorem nextSign_skipSpace (s : Bytes) : nextSign (skipSpace s) = nextSign s := by
  rw [nextSign, skipSpace_skipSpace, nextSign]

theorem length_skipSpace_le (s : Bytes) : (skipSpace s).length ≤ s.length :=
  (List.dropWhile_suffix _).length_le

/-- Where there is a next sign there is a byte. -/
theorem skipSpace_ne_nil {c : Char} (h : nextSign s = some c) : skipSpace s ≠ [] := by
  intro hnil
  rw [nextSign, hnil] at h
  cases h

theorem valued_eq_ok_iff {x : Decoder α} {a : α} :
    valued x depth s = (.ok a, rest) ↔
      nextSign s = some ':' ∧ x depth (skipSpace s).tail = (.ok a, rest) := by
  have hcolon : colon depth s = if nextSign s = some ':' then (.ok (), (skipSpace s).tail)
      else (.error .syntaxFault, skipSpace s) := by
    rw [colon, peek_apply]
    split <;> rfl
  rw [valued, bind_apply, hcolon]
  by_cases h : nextSign s = some ':'
  · rw [if_pos h]
    exact ⟨fun hx => ⟨h, hx⟩, fun hx => hx.2⟩
  · rw [if_neg h]
    constructor
    · rintro ⟨⟩
    · exact fun hx => absurd hx.1 h

/-! ### Brackets -/

theorem close_eq_ok {bracket : Char} (h : close bracket depth s = (.ok (), rest)) :
    nextSign s = some bracket ∧ rest = (skipSpace s).tail := by
  simp only [close, peek_apply] at h
  cases hc : nextSign s with
  | none =>
    rw [hc] at h
    cases h
  | some c =>
    rw [hc] at h
    dsimp only at h
    split at h
    · next hbracket =>
      cases h
      exact ⟨congrArg some hbracket, rfl⟩
    · split at h <;> cases h

/-- An array or an object that was read has a body, and its bracket behind it. -/
theorem enclosed_eq_ok {bracket : Char} {body : Decoder α} {a : α}
    (h : enclosed bracket body depth s = (.ok a, rest)) :
    ∃ d r, depth = d + 1 ∧ body d s.tail = (.ok a, r) ∧ nextSign r = some bracket ∧
      rest = (skipSpace r).tail := by
  cases depth with
  | zero => cases h
  | succ d =>
    obtain ⟨_, _, ⟨⟩, hbody⟩ := bind_eq_ok_iff.mp h
    obtain ⟨result, r, ⟨⟩, hclosed⟩ := bind_eq_ok_iff.mp hbody
    obtain ⟨closed, r', ⟨⟩, hboth⟩ := bind_eq_ok_iff.mp hclosed
    rcases hr : body d s.tail with ⟨e | a', r⟩
    · rw [hr] at hboth
      cases hboth
    · rw [hr] at hboth
      rcases hc : close bracket d r with ⟨e | ⟨⟩, r'⟩
      · rw [hc] at hboth
        cases hboth
      · rw [hc] at hboth
        cases hboth
        exact ⟨d, r, rfl, hr, close_eq_ok hc⟩

theorem enclosed_of_eq_ok {bracket : Char} {body : Decoder α} {a : α} {r : Bytes}
    (hbody : body depth s.tail = (.ok a, r)) (hr : nextSign r = some bracket) :
    enclosed bracket body (depth + 1) s = (.ok a, (skipSpace r).tail) := by
  have hclose : close bracket depth r = (.ok (), (skipSpace r).tail) := by
    simp only [close, peek_apply, hr, if_true]
    rfl
  have hsettle : settle body depth s.tail = (.ok (.ok a), r) := by rw [settle, hbody]
  have hclosed : settle (close bracket) depth r = (.ok (.ok ()), (skipSpace r).tail) := by
    rw [settle, hclose]
  unfold enclosed nested
  dsimp only
  rw [bind_ok (rfl : advance depth s = (.ok (), s.tail)), bind_ok hsettle, bind_ok hclosed]
  rfl

/-! ### Items and members -/

/-- How it is told that something else stands between brackets: the bracket, the first item, or one
behind a comma. -/
private theorem another_eq_ok {close : Char} {first more : Bool} {atFirst : Char → Decoder Bool}
    {next : Option Char → Decoder Bool} {r : Bytes}
    (h : (peek >>= fun
      | none => broken
      | some c =>
        if c = close then pure false
        else if first then atFirst c
        else if c = ',' then advance >>= fun _ => peek >>= next
        else broken) depth s = (.ok more, r)) :
    more = false ∧ nextSign s = some close ∧ r = skipSpace s ∨
      first = true ∧ (∃ c, nextSign s = some c ∧ c ≠ close ∧
        atFirst c depth (skipSpace s) = (.ok more, r)) ∨
      first = false ∧ nextSign s = some ',' ∧
        next (nextSign (skipSpace s).tail) depth (skipSpace (skipSpace s).tail) =
          (.ok more, r) := by
  rw [peek_apply] at h
  cases hc : nextSign s with
  | none =>
    rw [hc] at h
    cases h
  | some c =>
    rw [hc] at h
    dsimp only at h
    split at h
    · next hclose =>
      cases h
      exact .inl ⟨rfl, congrArg some hclose, rfl⟩
    · next hclose =>
      split at h
      · next hfirst => exact .inr (.inl ⟨hfirst, c, rfl, hclose, h⟩)
      · next hfirst =>
        split at h
        · next hcomma => exact .inr (.inr ⟨by simpa using hfirst, congrArg some hcomma, h⟩)
        · cases h

/-- There is another item in an array, or the bracket. -/
theorem hasItem_eq_ok {first more : Bool} {r : Bytes} (h : hasItem first depth s = (.ok more, r)) :
    more = false ∧ nextSign s = some ']' ∧ r = skipSpace s ∨
      more = true ∧ (first = true ∧ nextSign s ≠ some ']' ∧ r = skipSpace s ∨
        first = false ∧ nextSign s = some ',' ∧ nextSign (skipSpace s).tail ≠ some ']' ∧
          r = skipSpace (skipSpace s).tail) := by
  obtain hend | ⟨hfirst, c, hc, hne, hmore⟩ | ⟨hfirst, hcomma, hmore⟩ := another_eq_ok h
  · exact .inl hend
  · cases hmore
    exact .inr ⟨rfl, .inl ⟨hfirst, by simpa [hc] using hne, rfl⟩⟩
  · cases hd : nextSign (skipSpace s).tail with
    | none =>
      rw [hd] at hmore
      cases hmore
    | some d =>
      rw [hd] at hmore
      dsimp only at hmore
      split at hmore
      · cases hmore
      · next hne =>
        cases hmore
        exact .inr ⟨rfl, .inr ⟨hfirst, hcomma, by simpa using hne, rfl⟩⟩

/-- There is another member in an object, or the brace. -/
theorem hasMember_eq_ok {first more : Bool} {r : Bytes}
    (h : hasMember first depth s = (.ok more, r)) :
    more = false ∧ nextSign s = some '\x7d' ∧ r = skipSpace s ∨
      more = true ∧ (first = true ∧ nextSign s = some '"' ∧ r = skipSpace s ∨
        first = false ∧ nextSign s = some ',' ∧ nextSign (skipSpace s).tail = some '"' ∧
          r = skipSpace (skipSpace s).tail) := by
  obtain hend | ⟨hfirst, c, hc, -, hmore⟩ | ⟨hfirst, hcomma, hmore⟩ := another_eq_ok h
  · exact .inl hend
  · split at hmore
    · next hquote =>
      cases hmore
      exact .inr ⟨rfl, .inl ⟨hfirst, hc.trans (congrArg some hquote), rfl⟩⟩
    · cases hmore
  · split at hmore
    · next hquote =>
      cases hmore
      exact .inr ⟨rfl, .inr ⟨hfirst, hcomma, hquote, rfl⟩⟩
    · cases hmore

/-- Items that one decoder reads are read by another that reads each of them. -/
theorem exists_items {x : Decoder α} {y : Decoder β} {R : α → β → Prop}
    (hxy : ∀ s a r, x depth s = (.ok a, r) → ∃ b, y depth s = (.ok b, r) ∧ R a b)
    {n m : Nat} {first : Bool} {as : List α} (h : items x n first depth s = (.ok as, rest))
    (hle : n ≤ m) :
    ∃ bs, items y m first depth s = (.ok bs, rest) ∧ List.Forall₂ R as bs := by
  induction n generalizing m first s as with
  | zero => cases h
  | succ n ih =>
    obtain ⟨m, rfl⟩ : ∃ k, m = k + 1 := ⟨m - 1, by omega⟩
    rw [items] at h ⊢
    obtain ⟨more, r, hmore, h⟩ := bind_eq_ok_iff.mp h
    rw [bind_ok hmore]
    cases more with
    | false =>
      cases h
      exact ⟨[], rfl, .nil⟩
    | true =>
      rw [if_pos rfl] at h ⊢
      obtain ⟨a, t, hitem, h⟩ := bind_eq_ok_iff.mp h
      obtain ⟨as', r', hrest, ⟨⟩⟩ := bind_eq_ok_iff.mp h
      obtain ⟨b, hb, hab⟩ := hxy _ _ _ hitem
      obtain ⟨bs, hbs, habs⟩ := ih hrest (Nat.le_of_succ_le_succ hle)
      exact ⟨b :: bs, by rw [bind_ok hb, bind_ok hbs]; rfl, .cons hab habs⟩

/-- Members that are collected in one way are collected in another that takes the same from the
text, and what has been collected stays related. -/
theorem exists_members_of_take {take : σ → String → Decoder σ} {take' : τ → String → Decoder τ}
    {R : σ → τ → Prop}
    (htake : ∀ found found' name s next r, R found found' →
      take found name depth s = (.ok next, r) →
        ∃ next', take' found' name depth s = (.ok next', r) ∧ R next next')
    {n m : Nat} {first : Bool} {found next : σ} {found' : τ} (hfound : R found found')
    (h : members take n first found depth s = (.ok next, rest)) (hle : n ≤ m) :
    ∃ next', members take' m first found' depth s = (.ok next', rest) ∧ R next next' := by
  induction n generalizing m first s found found' with
  | zero => cases h
  | succ n ih =>
    obtain ⟨m, rfl⟩ : ∃ k, m = k + 1 := ⟨m - 1, by omega⟩
    rw [members] at h ⊢
    obtain ⟨more, r, hmore, h⟩ := bind_eq_ok_iff.mp h
    rw [bind_ok hmore]
    cases more with
    | false =>
      cases h
      exact ⟨found', rfl, hfound⟩
    | true =>
      rw [if_pos rfl] at h ⊢
      obtain ⟨_, _, ⟨⟩, h⟩ := bind_eq_ok_iff.mp h
      obtain ⟨name, t, hname, h⟩ := bind_eq_ok_iff.mp h
      obtain ⟨mid, r', hmid, hrest⟩ := bind_eq_ok_iff.mp h
      obtain ⟨mid', hmid', hrelated⟩ := htake _ _ _ _ _ _ hfound hmid
      obtain ⟨next', hnext, hrelated'⟩ := ih hrelated hrest (Nat.le_of_succ_le_succ hle)
      refine ⟨next', ?_, hrelated'⟩
      rw [bind_ok (rfl : advance depth r = (.ok (), r.tail)), bind_ok hname, bind_ok hmid']
      exact hnext

end Decoder

end Gatehouse
