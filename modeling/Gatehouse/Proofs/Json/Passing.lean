import Gatehouse.Proofs.Json.Steps

/-!
# What can be read can be passed over

A value that nobody asks for is passed over, which looks at less of it than reading does: not at the
bytes of its texts, not at how large its numbers are, not at how deep it nests. Where reading a
value succeeds, passing over it stops at the same place (`ignored_of_raw`). So a record may be read
with any of its members left out, and the members behind them are the same.
-/

namespace Gatehouse

/-! ### Strings and numbers -/

namespace JsonText

theorem pass_quote {b : UInt8} (h : sign b = '"') (rest : Bytes) :
    pass (b :: rest) = (.ok (), rest) := by
  rw [pass, if_pos h]

theorem pass_escaped {b : UInt8} (h : sign b = '\\') {s r : Bytes}
    (hescape : passEscape s = (.ok (), r)) : pass (b :: s) = pass r := by
  have hne : sign b ≠ '"' := by rw [h]; decide
  rw [pass, if_neg hne, if_pos h, hescape]

theorem pass_other {b : UInt8} (hquote : sign b ≠ '"') (hescape : sign b ≠ '\\')
    (hcontrol : ¬ b < 0x20) (rest : Bytes) : pass (b :: rest) = pass rest := by
  rw [pass, if_neg hquote, if_neg hescape, if_neg hcontrol]

theorem passEscape_of_readUnit {b : UInt8} (h : sign b = 'u') {s r : Bytes} {n : Nat}
    (hunit : readUnit s = (.ok n, r)) : passEscape (b :: s) = (.ok (), r) := by
  rw [passEscape, if_pos h, hunit]
  rfl

/-- The second half of a pair stands in an escape of its own. -/
theorem exists_of_readSecondHalf {first : Nat} {s r : Bytes} {c : Char}
    (h : readSecondHalf first s = (.ok c, r)) :
    ∃ b u s' n, s = b :: u :: s' ∧ sign b = '\\' ∧ sign u = 'u' ∧ readUnit s' = (.ok n, r) := by
  match s with
  | [] | [_] => cases h
  | b :: u :: s' =>
    rw [readSecondHalf] at h
    split at h
    · cases h
    · next hb =>
      split at h
      · cases h
      · next hu =>
        split at h
        · next n r' hunit =>
          split at h
          · obtain rfl : r' = r := congrArg Prod.snd h
            exact ⟨b, u, s', n, rfl, Decidable.not_not.mp hb, Decidable.not_not.mp hu, hunit⟩
          · cases h
        · cases h

/-- What is passed over after an escape that was read: a pair is passed over as two escapes. -/
theorem exists_passEscape {s r : Bytes} {c : Char} (h : readEscape s = (.ok c, r)) :
    ∃ r', passEscape s = (.ok (), r') ∧ pass r' = pass r := by
  cases s with
  | nil => cases h
  | cons b s =>
    rw [readEscape] at h
    split at h
    · next hu =>
      unfold readEscapedUnits at h
      split at h
      · cases h
      · next n r' hunit =>
        refine ⟨r', passEscape_of_readUnit hu hunit, ?_⟩
        split at h
        · cases h
        · split at h
          · obtain ⟨b', u', s', second, rfl, hb', hu', hunit'⟩ := exists_of_readSecondHalf h
            exact pass_escaped hb' (passEscape_of_readUnit hu' hunit')
          · obtain rfl : r' = r := congrArg Prod.snd h
            rfl
    · next hu =>
      split at h
      · next c' hshort =>
        cases h
        refine ⟨_, ?_, rfl⟩
        rw [passEscape, if_neg hu, hshort]
        rfl
      · cases h

theorem pass_of_readBytes {s rest : Bytes} {bytes : Bytes} (h : readBytes s = (.ok bytes, rest)) :
    pass s = (.ok (), rest) := by
  -- an escape is longer than one byte, so the induction follows the reader and not the list
  fun_induction readBytes s generalizing bytes with
  | case1 => cases h
  | case2 b s hquote =>
    cases h
    exact pass_quote hquote _
  | case3 b s _ hescape e he => cases h
  | case4 b s _ hescape c hc ih =>
    obtain ⟨r', hpass, hsame⟩ := exists_passEscape (Prod.ext hc rfl : readEscape s = (.ok c, _))
    rw [pass_escaped hescape hpass, hsame]
    rcases hrest : readBytes (readEscape s).2 with ⟨e | more, r⟩
    · rw [hrest] at h
      cases h
    · rw [hrest] at h
      cases h
      exact ih hrest
  | case5 => cases h
  | case6 b s hquote hescape hcontrol ih =>
    rw [pass_other hquote hescape hcontrol]
    rcases hrest : readBytes s with ⟨e | more, r⟩
    · rw [hrest] at h
      cases h
    · rw [hrest] at h
      cases h
      exact ih hrest

/-- A string that is read is passed over. -/
theorem pass_of_read {s rest : Bytes} {text : String} (h : read s = (.ok text, rest)) :
    pass s = (.ok (), rest) := by
  unfold read at h
  split at h
  · next bytes r hbytes =>
    split at h
    · cases h
      exact pass_of_readBytes hbytes
    · cases h
  · cases h

end JsonText

namespace JsonNumber

theorem spanDigits_cons {b : UInt8} {d : Nat} (h : digit? b = some d) (s : Bytes) :
    spanDigits (b :: s) = (d :: (spanDigits s).1, (spanDigits s).2) := by
  rw [spanDigits, h]

/-- Reading an exponent stops behind its digits, or the rest of them is passed over. -/
theorem readPower_snd (value : Nat) (s : Bytes) :
    (spanDigits (readPower value s).2).2 = (spanDigits s).2 ∧
      ((readPower value s).1.isSome = true → (readPower value s).2 = (spanDigits s).2) := by
  induction s generalizing value with
  | nil => exact ⟨rfl, fun _ => rfl⟩
  | cons b s ih =>
    rw [readPower]
    cases hd : digit? b with
    | none => simp [spanDigits, hd]
    | some d =>
      rw [spanDigits_cons hd]
      dsimp only
      split
      · exact ih _
      · exact ⟨rfl, fun h => absurd h (by simp)⟩

theorem passExponentDigits_of_read {k : Kept} {down : Bool} {s rest : Bytes} {j : Json}
    (h : readExponentDigits k down s = (.ok j, rest)) : passExponentDigits s = (.ok (), rest) := by
  cases s with
  | nil => cases h
  | cons b s =>
    rw [readExponentDigits] at h
    rw [passExponentDigits]
    cases hd : digit? b with
    | none =>
      rw [hd] at h
      cases h
    | some d =>
      have hspan := readPower_snd 0 (b :: s)
      rw [spanDigits_cons hd] at hspan
      rw [hd] at h
      simp only [Option.isNone_some, Bool.false_eq_true, if_false] at h ⊢
      rcases hpower : readPower 0 (b :: s) with ⟨_ | e, r⟩
      · rw [hpower] at h hspan
        dsimp only at h hspan
        split at h
        · cases h
        · obtain rfl : (spanDigits r).2 = rest := congrArg Prod.snd h
          rw [hspan.1]
      · rw [hpower] at h hspan
        dsimp only at h hspan
        obtain rfl : r = rest := congrArg Prod.snd h
        rw [hspan.2 rfl]

theorem passExponent_of_read {k : Kept} {s rest : Bytes} {j : Json}
    (h : readExponent k s = (.ok j, rest)) : passExponent s = (.ok (), rest) := by
  cases s with
  | nil => cases h
  | cons b s =>
    rw [readExponent] at h
    rw [passExponent]
    split at h
    · next hminus =>
      rw [if_pos (.inl hminus)]
      exact passExponentDigits_of_read h
    · next hminus =>
      split at h
      · next hplus =>
        rw [if_pos (.inr hplus)]
        exact passExponentDigits_of_read h
      · next hplus =>
        rw [if_neg (not_or.mpr ⟨hminus, hplus⟩)]
        exact passExponentDigits_of_read h

theorem passFloatEnd_of_read {k : Kept} {s rest : Bytes} {j : Json}
    (h : readFloatEnd k s = (.ok j, rest)) : passFloatEnd s = (.ok (), rest) := by
  cases s with
  | nil =>
    obtain rfl : [] = rest := congrArg Prod.snd h
    rfl
  | cons b s =>
    rw [readFloatEnd] at h
    rw [passFloatEnd]
    split at h
    · next hmark =>
      rw [if_pos hmark]
      exact passExponent_of_read h
    · next hmark =>
      obtain rfl : b :: s = rest := congrArg Prod.snd h
      rw [if_neg hmark]

theorem passFraction_of_read {k : Kept} {s rest : Bytes} {j : Json}
    (h : readFraction k s = (.ok j, rest)) :
    ∃ d ds r, spanDigits s = (d :: ds, r) ∧ passFloatEnd r = (.ok (), rest) := by
  unfold readFraction at h
  split at h
  · cases h
  · next ds r hne hspan =>
    cases ds with
    | nil => exact absurd rfl hne
    | cons d ds => exact ⟨d, ds, r, hspan, passFloatEnd_of_read h⟩

/-- What follows the digits before the point is passed over. -/
theorem passTail_of_read {k : Kept} {s rest : Bytes} {j : Json}
    (h : readTail k s = (.ok j, rest)) {b : UInt8} {more : Bytes} {d : Nat} {ds : List Nat}
    (hspan : spanDigits (b :: more) = (d :: ds, s)) (hzero : d = 0 → ds = []) :
    pass (b :: more) = (.ok (), rest) := by
  have hdigits : ∀ d' ds' r, (d :: ds, s) ≠ (0 :: d' :: ds', r) := by
    rintro d' ds' r ⟨⟩
    cases hzero rfl
  rw [pass, hspan]
  cases s with
  | nil =>
    obtain rfl : [] = rest := congrArg Prod.snd h
    split
    · next hempty => cases hempty
    · next hlong => exact absurd hlong (hdigits _ _ _)
    · rfl
    · next hcons => cases hcons
  | cons c s =>
    split
    · next hempty => cases hempty
    · next hlong => exact absurd hlong (hdigits _ _ _)
    · next hnil => cases hnil
    · next c' s' _ hcons =>
      cases hcons
      rw [readTail] at h
      split at h
      · next hpoint =>
        obtain ⟨d', ds', r, hfraction, hpass⟩ := passFraction_of_read h
        rw [if_pos hpoint, hfraction]
        exact hpass
      · next hpoint =>
        rw [if_neg hpoint, passFloatEnd]
        split at h
        · next hmark =>
          rw [if_pos hmark]
          exact passExponent_of_read h
        · next hmark =>
          rw [if_neg hmark]
          obtain rfl : c :: s = rest := congrArg Prod.snd h
          rfl

/-- A number that is read is passed over. -/
theorem pass_of_read {negative : Bool} {s rest : Bytes} {j : Json}
    (h : read negative s = (.ok j, rest)) : pass s = (.ok (), rest) := by
  cases s with
  | nil => cases h
  | cons b s =>
    rw [read] at h
    split at h
    · cases h
    · cases h
    · next ds r hempty hlong hspan =>
      cases ds with
      | nil => exact absurd rfl hempty
      | cons d ds =>
        refine passTail_of_read h hspan ?_
        rintro rfl
        cases ds with
        | nil => rfl
        | cons d' ds => exact absurd rfl (hlong d' ds)

end JsonNumber

namespace Decoder

variable {α σ : Type} {depth depth' : Nat} {s rest : Bytes}

/-! ### Scalars -/

theorem word_depth (cs : List Char) (s : Bytes) : word cs depth s = word cs depth' s := by
  induction cs generalizing s with
  | nil => rfl
  | cons c cs ih =>
    cases s with
    | nil => rfl
    | cons b s =>
      simp only [word]
      split
      · exact ih s
      · rfl

/-- A word that stands for a value. -/
theorem word_of_bind {cs : List Char} {j j' : Json}
    (h : (advance >>= fun _ => word cs >>= fun _ => pure j) depth s = (.ok j', rest)) :
    (advance >>= fun _ => word cs) depth' s = (.ok (), rest) := by
  obtain ⟨_, _, ⟨⟩, hword⟩ := bind_eq_ok_iff.mp h
  obtain ⟨_, r, hword, ⟨⟩⟩ := bind_eq_ok_iff.mp hword
  exact (word_depth cs s.tail).trans hword

/-- A scalar that is read is passed over. -/
theorem passScalar_of_scalar {j : Json} (h : scalar depth s = (.ok j, rest)) :
    passScalar depth' s = (.ok (), rest) := by
  simp only [scalar, peek_apply] at h
  simp only [passScalar, peek_apply]
  -- both look at the next sign alone to tell the kinds of scalars apart
  revert h
  generalize nextSign s = c
  split
  · exact word_of_bind
  · exact word_of_bind
  · exact word_of_bind
  · intro h
    obtain ⟨_, _, ⟨⟩, htext⟩ := bind_eq_ok_iff.mp h
    obtain ⟨text, r, hread, ⟨⟩⟩ := bind_eq_ok_iff.mp htext
    exact JsonText.pass_of_read hread
  · exact JsonNumber.pass_of_read (s := (skipSpace s).tail)
  · split
    · exact JsonNumber.pass_of_read
    · rintro ⟨⟩
  · rintro ⟨⟩

/-! ### Rows -/

/-- What stands between brackets, read item by item up to the closing bracket, with a bound on the
number of items. -/
inductive Row (close : Char) (Item : Bytes → Bytes → Prop) : Nat → Bool → Bytes → Bytes → Prop where
  | done {n : Nat} {first : Bool} {s : Bytes} (h : nextSign s = some close) :
    Row close Item (n + 1) first s (skipSpace s)
  | first {n : Nat} {s t rest : Bytes} (h : nextSign s ≠ some close) (hitem : Item (skipSpace s) t)
    (hrest : Row close Item n false t rest) : Row close Item (n + 1) true s rest
  | next {n : Nat} {s t rest : Bytes} (h : nextSign s = some ',')
    (hitem : Item (skipSpace (skipSpace s).tail) t) (hrest : Row close Item n false t rest) :
    Row close Item (n + 1) false s rest

theorem row_of_items {x : Decoder α} {n : Nat} {first : Bool} {as : List α}
    (h : items x n first depth s = (.ok as, rest)) :
    Row ']' (fun s r => ∃ a, x depth s = (.ok a, r)) n first s rest := by
  induction n generalizing first s as with
  | zero => cases h
  | succ n ih =>
    rw [items] at h
    obtain ⟨more, r, hmore, h⟩ := bind_eq_ok_iff.mp h
    obtain ⟨rfl, hclose, rfl⟩ | ⟨rfl, hplace⟩ := hasItem_eq_ok hmore
    · cases h
      exact .done hclose
    · rw [if_pos rfl] at h
      obtain ⟨a, t, hitem, h⟩ := bind_eq_ok_iff.mp h
      obtain ⟨as', r', hrest, ⟨⟩⟩ := bind_eq_ok_iff.mp h
      obtain ⟨rfl, hopen, rfl⟩ | ⟨rfl, hcomma, -, rfl⟩ := hplace
      · exact .first hopen ⟨a, hitem⟩ (ih hrest)
      · exact .next hcomma ⟨a, hitem⟩ (ih hrest)

/-- A member of an object: a name, and what `take` makes of what follows. -/
structure IsMember (take : σ → String → Decoder σ) (depth : Nat) (s r : Bytes) : Prop where
  quote : nextSign s = some '"'
  taken : ∃ name t found found', JsonText.read (skipSpace s).tail = (.ok name, t) ∧
    take found name depth t = (.ok found', r)

theorem row_of_members {take : σ → String → Decoder σ} {n : Nat} {first : Bool} {found found' : σ}
    (h : members take n first found depth s = (.ok found', rest)) :
    Row '\x7d' (IsMember take depth) n first s rest := by
  induction n generalizing first s found with
  | zero => cases h
  | succ n ih =>
    rw [members] at h
    obtain ⟨more, r, hmore, h⟩ := bind_eq_ok_iff.mp h
    obtain ⟨rfl, hclose, rfl⟩ | ⟨rfl, hplace⟩ := hasMember_eq_ok hmore
    · cases h
      exact .done hclose
    · rw [if_pos rfl] at h
      obtain ⟨_, _, ⟨⟩, h⟩ := bind_eq_ok_iff.mp h
      obtain ⟨name, t, hname, h⟩ := bind_eq_ok_iff.mp h
      obtain ⟨mid, r', htake, hrest⟩ := bind_eq_ok_iff.mp h
      obtain ⟨rfl, hquote, rfl⟩ | ⟨rfl, hcomma, hquote, rfl⟩ := hplace
      · refine .first (by rw [hquote]; decide) ⟨?_, name, t, found, mid, ?_, htake⟩ (ih hrest)
        · rw [nextSign_skipSpace, hquote]
        · rw [skipSpace_skipSpace]
          exact hname
      · refine .next hcomma ⟨?_, name, t, found, mid, ?_, htake⟩ (ih hrest)
        · rw [nextSign_skipSpace, hquote]
        · rw [skipSpace_skipSpace]
          exact hname

section Pass

variable {close : Char} {Item : Bytes → Bytes → Prop} {item : Decoder Unit}

theorem passRest_of_row (hclose : close ≠ ',')
    (hitem : ∀ s r, Item (skipSpace s) r → item depth s = (.ok (), r)) {n m : Nat}
    (h : Row close Item n false s rest) (hle : n ≤ m) :
    passRest close item m depth s = (.ok (), (skipSpace rest).tail) := by
  induction n generalizing m s with
  | zero => cases h
  | succ n ih =>
    obtain ⟨m, rfl⟩ : ∃ k, m = k + 1 := ⟨m - 1, by omega⟩
    rw [passRest, peek_apply]
    cases h with
    | done h =>
      rw [h, skipSpace_skipSpace]
      simp only [if_true]
      rfl
    | next h hone hrest =>
      have hstep := hitem _ _ hone
      rw [h]
      simp only [if_neg (Ne.symm hclose), if_true]
      rw [bind_ok (rfl : advance depth (skipSpace s) = (.ok (), (skipSpace s).tail)), bind_ok hstep]
      exact ih hrest (Nat.le_of_succ_le_succ hle)

/-- A row is passed over. -/
theorem passEnclosed_of_row (hclose : close ≠ ',')
    (hitem : ∀ s r, Item (skipSpace s) r → item depth s = (.ok (), r)) {n m : Nat}
    (h : Row close Item n true s rest) (hle : n ≤ m) :
    passEnclosed close item m depth s = (.ok (), (skipSpace rest).tail) := by
  rw [passEnclosed, peek_apply]
  cases h with
  | done h =>
    rw [if_pos h, skipSpace_skipSpace]
    rfl
  | first h hone hrest =>
    rw [← skipSpace_skipSpace] at hone
    rw [if_neg h, bind_ok (hitem _ _ hone)]
    exact passRest_of_row hclose hitem hrest (Nat.le_of_succ_le hle)

end Pass

/-- A member whose value can be passed over is passed over. -/
theorem passMember_of_isMember {read : Decoder Json} {value : Decoder Unit}
    (hvalue : ∀ s r j, read depth s = (.ok j, r) → value depth' s = (.ok (), r))
    (h : IsMember (fun (ms : List (String × Json)) name => do
      let j ← valued read
      pure ((name, j) :: ms)) depth (skipSpace s) rest) :
    passMember value depth' s = (.ok (), rest) := by
  obtain ⟨name, t, ms, ms', hname, htake⟩ := h.taken
  obtain ⟨j, r', hj, ⟨⟩⟩ := bind_eq_ok_iff.mp htake
  obtain ⟨hcolon, hj⟩ := valued_eq_ok_iff.mp hj
  have hpass : (ofReading JsonText.pass) depth' (skipSpace s).tail = (.ok (), t) := by
    rw [skipSpace_skipSpace] at hname
    exact JsonText.pass_of_read hname
  have hquote := h.quote
  rw [nextSign_skipSpace] at hquote
  rw [passMember, peek_apply, if_pos hquote,
    bind_ok (rfl : advance depth' (skipSpace s) = (.ok (), (skipSpace s).tail)), bind_ok hpass]
  exact valued_eq_ok_iff.mpr ⟨hcolon, hvalue _ _ _ hj⟩

theorem passIn_skipSpace (n : Nat) (s : Bytes) :
    passIn (n + 1) depth (skipSpace s) = passIn (n + 1) depth s := by
  rw [passIn, peek_apply, peek_apply, nextSign_skipSpace, skipSpace_skipSpace]

/-- What is read of any value is passed over, wherever it is read and however deep it nests. -/
theorem passIn_of_rawIn {n m : Nat} {j : Json} (h : rawIn n depth s = (.ok j, rest)) (hle : n ≤ m) :
    passIn m depth' s = (.ok (), rest) := by
  induction n generalizing depth s j rest m with
  | zero => cases h
  | succ n ih =>
    obtain ⟨m, rfl⟩ : ∃ k, m = k + 1 := ⟨m - 1, by omega⟩
    have hle' := Nat.le_of_succ_le_succ hle
    -- where there is an item the bound is not used up, so blanks in front of it do not matter
    have hvalue : ∀ d s r j, rawIn n d (skipSpace s) = (.ok j, r) →
        passIn m depth' s = (.ok (), r) := by
      intro d s r j hj
      have hpass := ih hj hle'
      cases n with
      | zero => cases hj
      | succ n =>
        obtain ⟨m, rfl⟩ : ∃ k, m = k + 1 := ⟨m - 1, by omega⟩
        rwa [passIn_skipSpace] at hpass
    simp only [rawIn, peek_apply] at h
    simp only [passIn, peek_apply]
    revert h
    generalize nextSign s = c
    split
    · intro h
      obtain ⟨js, r, h, ⟨⟩⟩ := bind_eq_ok_iff.mp h
      obtain ⟨d, r, rfl, hitems, -, rfl⟩ := enclosed_eq_ok h
      exact passEnclosed_of_row (by decide) (fun s r ⟨j, hj⟩ => hvalue d s r j hj)
        (row_of_items hitems) hle
    · intro h
      obtain ⟨js, r, h, ⟨⟩⟩ := bind_eq_ok_iff.mp h
      obtain ⟨d, r, rfl, hmembers, -, rfl⟩ := enclosed_eq_ok h
      exact passEnclosed_of_row (by decide)
        (fun s r => passMember_of_isMember fun s' r' j hj => ih hj hle') (row_of_members hmembers)
        hle
    · exact passScalar_of_scalar

/-- **What is read can be passed over.** -/
theorem ignored_of_raw {j : Json} (h : raw depth s = (.ok j, rest)) :
    ignored depth' s = (.ok (), rest) :=
  passIn_of_rawIn h (Nat.le_refl _)

end Decoder

end Gatehouse
