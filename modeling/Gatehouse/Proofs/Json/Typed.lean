import Gatehouse.Proofs.Json.Passing

/-!
# What a value of a type looks like

Where a decoder reads a value of a type there stands a JSON value, which reading without a type
gives up to the same place (`Shows`): a number where a number was read, a string or an object of a
name and `null` where a named value was read (`shows_choice`), an array where a list was.
-/

namespace Gatehouse

namespace JsonNumber

/-! ### Numbers are no strings -/

theorem float_ne_str (k : Kept) (t : String) : k.float ≠ .ok (.str t) := by
  unfold Kept.float
  split <;> simp

theorem readExponentDigits_ne_str (k : Kept) (down : Bool) (s : Bytes) (t : String) :
    (readExponentDigits k down s).1 ≠ .ok (.str t) := by
  unfold readExponentDigits
  split
  · simp [JsonReading.broken]
  · split
    · simp [JsonReading.broken]
    · split
      · exact float_ne_str _ t
      · split <;> simp [JsonReading.broken]

theorem readExponent_ne_str (k : Kept) (s : Bytes) (t : String) :
    (readExponent k s).1 ≠ .ok (.str t) := by
  unfold readExponent
  split
  · simp [JsonReading.broken]
  · split
    · exact readExponentDigits_ne_str _ _ _ t
    · split <;> exact readExponentDigits_ne_str _ _ _ t

theorem readFraction_ne_str (k : Kept) (s : Bytes) (t : String) :
    (readFraction k s).1 ≠ .ok (.str t) := by
  unfold readFraction
  split
  · simp [JsonReading.broken]
  · dsimp only
    unfold readFloatEnd
    split
    · split
      · exact readExponent_ne_str _ _ t
      · exact float_ne_str _ t
    · exact float_ne_str _ t

theorem readTail_ne_str (k : Kept) (s : Bytes) (t : String) : (readTail k s).1 ≠ .ok (.str t) := by
  have hwhole : readTail.readWhole k ≠ .ok (.str t) := by
    unfold readTail.readWhole
    split
    · simp
    · exact float_ne_str k t
  unfold readTail
  split
  · split
    · exact readFraction_ne_str _ _ t
    · split
      · exact readExponent_ne_str _ _ t
      · exact hwhole
  · exact hwhole

theorem read_ne_str (negative : Bool) (s : Bytes) (t : String) :
    (read negative s).1 ≠ .ok (.str t) := by
  unfold read
  split
  · simp [JsonReading.broken]
  · split
    · simp [JsonReading.broken]
    · simp [JsonReading.broken]
    · exact readTail_ne_str _ _ t

end JsonNumber

namespace Decoder

variable {α β : Type} {depth : Nat} {s rest : Bytes}

/-! ### Reading without a type -/

theorem rawIn_skipSpace (n : Nat) (s : Bytes) :
    rawIn (n + 1) depth (skipSpace s) = rawIn (n + 1) depth s := by
  rw [rawIn, peek_apply, peek_apply, nextSign_skipSpace, skipSpace_skipSpace]

/-- A greater bound changes nothing about a value that was read. -/
theorem rawIn_mono {n m : Nat} {j : Json} (h : rawIn n depth s = (.ok j, rest)) (hle : n ≤ m) :
    rawIn m depth s = (.ok j, rest) := by
  -- the bound limits the levels and, on each level, the items, so both grow with it
  induction n generalizing depth s j rest m with
  | zero => cases h
  | succ n ih =>
    obtain ⟨m, rfl⟩ : ∃ k, m = k + 1 := ⟨m - 1, by omega⟩
    have hle' := Nat.le_of_succ_le_succ hle
    simp only [rawIn, peek_apply] at h ⊢
    revert h
    generalize nextSign s = c
    split
    · intro h
      obtain ⟨js, r, h, ⟨⟩⟩ := bind_eq_ok_iff.mp h
      obtain ⟨d, r, rfl, hitems, hclose, rfl⟩ := enclosed_eq_ok h
      obtain ⟨js', hitems', heq⟩ :=
        exists_items (R := Eq) (fun s j r hj => ⟨j, ih hj hle', rfl⟩) hitems hle
      obtain rfl : js = js' := by simpa using heq
      exact bind_ok (enclosed_of_eq_ok hitems' hclose)
    · intro h
      obtain ⟨ms, r, h, ⟨⟩⟩ := bind_eq_ok_iff.mp h
      obtain ⟨d, r, rfl, hmembers, hclose, rfl⟩ := enclosed_eq_ok h
      have htake : ∀ (ms ms' : List (String × Json)) name s next r, ms = ms' →
          (valued (rawIn n) >>= fun j => pure ((name, j) :: ms)) d s = (.ok next, r) →
            ∃ next', (valued (rawIn m) >>= fun j => pure ((name, j) :: ms')) d s = (.ok next', r) ∧
              next = next' := by
        rintro ms _ name s next r rfl h
        obtain ⟨j, r', hj, ⟨⟩⟩ := bind_eq_ok_iff.mp h
        obtain ⟨hcolon, hj⟩ := valued_eq_ok_iff.mp hj
        exact ⟨_, bind_ok (valued_eq_ok_iff.mpr ⟨hcolon, ih hj hle'⟩), rfl⟩
      obtain ⟨_, hmembers', rfl⟩ := exists_members_of_take htake rfl hmembers hle
      exact bind_ok (enclosed_of_eq_ok hmembers' hclose)
    · exact id

/-- Blanks in front of a value do not matter. -/
theorem raw_of_skipSpace {j : Json} (h : raw depth (skipSpace s) = (.ok j, rest)) :
    raw depth s = (.ok j, rest) := by
  have hsame : raw depth (skipSpace s) = rawIn ((skipSpace s).length + 1) depth s :=
    rawIn_skipSpace _ s
  rw [hsame] at h
  exact rawIn_mono h (Nat.succ_le_succ (length_skipSpace_le s))

/-! ### Simple values -/

/-- Where a decoder succeeds there stands a value, of which something is known. -/
def Shows (decode : Decoder α) (P : α → Json → Prop) : Prop :=
  ∀ depth s a r, decode depth s = (.ok a, r) → ∃ j, raw depth s = (.ok j, r) ∧ P a j

theorem Shows.imp {decode : Decoder α} {P Q : α → Json → Prop} (h : Shows decode P)
    (himp : ∀ a j, P a j → Q a j) : Shows decode Q := by
  intro depth s a r ha
  obtain ⟨j, hj, hp⟩ := h depth s a r ha
  exact ⟨j, hj, himp a j hp⟩

theorem Shows.map {decode : Decoder α} {P : α → Json → Prop} (h : Shows decode P) (f : α → β) :
    Shows (f <$> decode) fun b j => ∃ a, f a = b ∧ P a j := by
  intro depth s b r hb
  obtain ⟨a, ha, rfl⟩ := map_eq_ok_iff.mp hb
  obtain ⟨j, hj, hp⟩ := h depth s a r ha
  exact ⟨j, hj, a, rfl, hp⟩

theorem rawIn_of_scalar {j : Json} (hopen : nextSign s ≠ some '[')
    (hopen' : nextSign s ≠ some '\x7b') (h : scalar depth (skipSpace s) = (.ok j, rest)) (n : Nat) :
    rawIn (n + 1) depth s = (.ok j, rest) := by
  rw [rawIn, peek_apply]
  generalize nextSign s = c at hopen hopen' ⊢
  split
  · exact absurd rfl hopen
  · exact absurd rfl hopen'
  · exact h

theorem ofScalar_eq_ok {kind : Json → Option α} {a : α}
    (h : ofScalar kind depth s = (.ok a, rest)) :
    nextSign s ≠ some '[' ∧ nextSign s ≠ some '\x7b' ∧
      ∃ j, scalar depth (skipSpace s) = (.ok j, rest) ∧ kind j = some a := by
  rw [ofScalar, peek_apply] at h
  revert h
  generalize nextSign s = c
  split
  · rintro ⟨⟩
  · rintro ⟨⟩
  · next hopen hopen' =>
    intro h
    obtain ⟨j, r, hj, h⟩ := bind_eq_ok_iff.mp h
    cases hkind : kind j with
    | none =>
      rw [hkind] at h
      cases h
    | some b =>
      rw [hkind] at h
      cases h
      exact ⟨hopen, hopen', j, hj, hkind⟩

/-- A simple value is read with any bound. -/
theorem exists_rawIn_of_ofScalar {kind : Json → Option α} {a : α}
    (h : ofScalar kind depth s = (.ok a, rest)) :
    ∃ j, (∀ n, rawIn (n + 1) depth s = (.ok j, rest)) ∧ kind j = some a := by
  obtain ⟨hopen, hopen', j, hj, hkind⟩ := ofScalar_eq_ok h
  exact ⟨j, rawIn_of_scalar hopen hopen' hj, hkind⟩

theorem shows_ofScalar (kind : Json → Option α) :
    Shows (ofScalar kind) fun a j => kind j = some a := by
  intro depth s a r h
  obtain ⟨j, hj, hkind⟩ := exists_rawIn_of_ofScalar h
  exact ⟨j, hj s.length, hkind⟩

theorem shows_text : Shows text fun t j => j = .str t := by
  refine (shows_ofScalar _).imp fun t j h => ?_
  cases j with
  | str t' => exact congrArg Json.str (Option.some.inj h)
  | null | bool _ | int _ | float _ | arr _ | obj _ => cases h

theorem shows_intIn (low high : Int) :
    Shows (intIn low high) fun n j => j = .int n ∧ low ≤ n ∧ n ≤ high := by
  refine (shows_ofScalar _).imp fun n j h => ?_
  cases j with
  | int m =>
    dsimp only at h
    split at h
    · next hrange =>
      cases h
      exact ⟨rfl, hrange⟩
    · cases h
  | null | bool _ | str _ | float _ | arr _ | obj _ => cases h

theorem ofText_eq_ok {read? : String → Option α} {a : α}
    (h : ofText read? depth s = (.ok a, rest)) :
    ∃ t, text depth s = (.ok t, rest) ∧ read? t = some a := by
  obtain ⟨t, r, htext, h⟩ := bind_eq_ok_iff.mp h
  cases hread : read? t with
  | none =>
    rw [hread] at h
    cases h
  | some b =>
    rw [hread] at h
    cases h
    exact ⟨t, htext, hread⟩

/-- Where there is a next sign there is room for a level. -/
theorem exists_length_eq_succ {c : Char} (h : nextSign s = some c) : ∃ n, s.length = n + 1 := by
  have hpos := List.length_pos_of_ne_nil (skipSpace_ne_nil h)
  have hle := length_skipSpace_le s
  exact ⟨s.length - 1, by omega⟩

/-! ### Compound values -/

theorem shows_option {decode : Decoder α} {P : α → Json → Prop} (h : Shows decode P) :
    Shows (option decode) fun a j => a = none ∧ j = .null ∨ ∃ b, a = some b ∧ P b j := by
  intro depth s a r ha
  rw [option, peek_apply] at ha
  revert ha
  generalize nextSign s = c
  split
  · intro ha
    obtain ⟨_, _, hunit, ⟨⟩⟩ := bind_eq_ok_iff.mp ha
    obtain ⟨j, hj, hnull⟩ := shows_ofScalar _ _ _ _ _ hunit
    refine ⟨j, raw_of_skipSpace hj, .inl ⟨rfl, ?_⟩⟩
    cases j with
    | null => rfl
    | bool _ | int _ | str _ | float _ | arr _ | obj _ => cases hnull
  · intro ha
    obtain ⟨b, hb, rfl⟩ := map_eq_ok_iff.mp ha
    obtain ⟨j, hj, hp⟩ := h _ _ _ _ hb
    exact ⟨j, raw_of_skipSpace hj, .inr ⟨b, rfl, hp⟩⟩

theorem not_mismatch {a : α} : mismatch depth s ≠ (.ok a, rest) := by
  intro h
  obtain ⟨j, -, ⟨⟩⟩ := exists_rawIn_of_ofScalar h

/-- A list of simple values is an array of values of their kind. -/
theorem shows_list (kind : Json → Option α) :
    Shows (list (ofScalar kind)) fun as j =>
      ∃ js, j = .arr js ∧ List.Forall₂ (fun a j => kind j = some a) as js := by
  intro depth s as r h
  rw [list, peek_apply] at h
  revert h
  generalize hc : nextSign s = c
  split
  · intro h
    obtain ⟨d, r', rfl, hitems, hclose, rfl⟩ := enclosed_eq_ok h
    obtain ⟨n, hn⟩ := exists_length_eq_succ hc
    obtain ⟨js, hjs, hkind⟩ := exists_items (y := rawIn s.length)
      (R := fun a j => kind j = some a) (fun s' a r ha => by
        obtain ⟨j, hj, hkind⟩ := exists_rawIn_of_ofScalar ha
        exact ⟨j, by rw [hn]; exact hj n, hkind⟩)
      hitems (Nat.succ_le_succ (length_skipSpace_le s))
    refine ⟨.arr js, ?_, js, rfl, hkind⟩
    rw [raw, bounded, rawIn, peek_apply, hc]
    exact bind_ok (enclosed_of_eq_ok hjs hclose)
  · exact fun h => absurd h not_mismatch

/-- Where a word was read the value is what the word stands for. -/
theorem eq_of_word {cs : List Char} {j j' : Json}
    (h : (advance >>= fun _ => word cs >>= fun _ => pure j) depth s = (.ok j', rest)) : j' = j := by
  obtain ⟨_, _, _, h⟩ := bind_eq_ok_iff.mp h
  obtain ⟨_, _, _, ⟨⟩⟩ := bind_eq_ok_iff.mp h
  rfl

/-- Strings begin with a quote. -/
theorem quote_of_scalar {t : String} (h : scalar depth s = (.ok (.str t), rest)) :
    nextSign s = some '"' ∧ JsonText.read (skipSpace s).tail = (.ok t, rest) := by
  simp only [scalar, peek_apply] at h
  revert h
  generalize nextSign s = c
  split
  · exact fun h => absurd (eq_of_word h) Json.noConfusion
  · exact fun h => absurd (eq_of_word h) Json.noConfusion
  · exact fun h => absurd (eq_of_word h) Json.noConfusion
  · intro h
    obtain ⟨_, _, ⟨⟩, h⟩ := bind_eq_ok_iff.mp h
    obtain ⟨_, _, hread, ⟨⟩⟩ := bind_eq_ok_iff.mp h
    exact ⟨rfl, hread⟩
  · exact fun h => absurd (congrArg Prod.fst h) (JsonNumber.read_ne_str true _ t)
  · split
    · exact fun h => absurd (congrArg Prod.fst h) (JsonNumber.read_ne_str false _ t)
    · rintro ⟨⟩
  · rintro ⟨⟩

theorem quote_of_text {t : String} (h : text depth s = (.ok t, rest)) :
    nextSign s = some '"' ∧ JsonText.read (skipSpace s).tail = (.ok t, rest) := by
  obtain ⟨-, -, j, hj, htext⟩ := ofScalar_eq_ok h
  cases j with
  | str t' =>
    cases htext
    simpa only [nextSign_skipSpace, skipSpace_skipSpace] using quote_of_scalar hj
  | null | bool _ | int _ | float _ | arr _ | obj _ => cases htext

theorem hasMember_first (h : nextSign s = some '"') :
    hasMember true depth s = (.ok true, skipSpace s) := by
  rw [hasMember, peek_apply, h]
  rfl

theorem hasMember_close (h : nextSign s = some '\x7d') (first : Bool) :
    hasMember first depth s = (.ok false, skipSpace s) := by
  rw [hasMember, peek_apply, h]
  rfl

/-- An object with one member that says nothing. -/
theorem rawIn_singleton {t : String} {r r' : Bytes} (hopen : nextSign s = some '\x7b')
    (hname : text depth (skipSpace s).tail = (.ok t, r))
    (hvalue : valued unit depth r = (.ok (), r')) (hclose : nextSign r' = some '\x7d') (n : Nat) :
    rawIn (n + 2) (depth + 1) s = (.ok (.obj [(t, .null)]), (skipSpace r').tail) := by
  obtain ⟨hquote, hread⟩ := quote_of_text hname
  obtain ⟨hcolon, hunit⟩ := valued_eq_ok_iff.mp hvalue
  obtain ⟨j, hj, hnull⟩ := exists_rawIn_of_ofScalar hunit
  obtain rfl : j = .null := by
    cases j with
    | null => rfl
    | bool _ | int _ | str _ | float _ | arr _ | obj _ => cases hnull
  have htake : (valued (rawIn (n + 1)) >>= fun j => pure [(t, j)] : Decoder (List (String × Json)))
      depth r = (.ok [(t, .null)], r') :=
    bind_ok (valued_eq_ok_iff.mpr ⟨hcolon, hj n⟩)
  rw [rawIn, peek_apply, hopen]
  refine (bind_ok (enclosed_of_eq_ok (a := [(t, .null)]) (r := skipSpace r') ?_ ?_)).trans ?_
  · rw [members, bind_ok (hasMember_first hquote), if_pos rfl,
      bind_ok (rfl : advance depth _ = (.ok (), _)), bind_ok hread, bind_ok htake, members,
      bind_ok (hasMember_close hclose false)]
    rfl
  · rw [nextSign_skipSpace, hclose]
  · rw [skipSpace_skipSpace]
    rfl

/-- A named value is its name, or an object of its name and `null`. -/
theorem shows_choice (named : String → Option α) :
    Shows (choice named) fun a j =>
      ∃ t, named t = some a ∧ (j = .str t ∨ j = .obj [(t, .null)]) := by
  intro depth s a r h
  rw [choice, peek_apply] at h
  revert h
  generalize hc : nextSign s = c
  split
  · intro h
    obtain ⟨t, htext, hnamed⟩ := ofText_eq_ok h
    obtain ⟨j, hj, rfl⟩ := shows_text _ _ _ _ htext
    exact ⟨_, raw_of_skipSpace hj, t, hnamed, .inl rfl⟩
  · intro h
    obtain ⟨b, r', hbody, h⟩ := bind_eq_ok_iff.mp h
    cases depth with
    | zero => cases hbody
    | succ d =>
      obtain ⟨_, _, ⟨⟩, hbody⟩ := bind_eq_ok_iff.mp hbody
      obtain ⟨_, m, hname, hbody⟩ := bind_eq_ok_iff.mp hbody
      obtain ⟨t, htext, hnamed⟩ := ofText_eq_ok hname
      obtain ⟨_, _, hvalue, ⟨⟩⟩ := bind_eq_ok_iff.mp hbody
      rw [peek_apply] at h
      split at h
      · next hclose =>
        obtain ⟨_, _, ⟨⟩, ⟨⟩⟩ := bind_eq_ok_iff.mp h
        obtain ⟨n, hn⟩ := exists_length_eq_succ hc
        refine ⟨.obj [(t, .null)], ?_, t, hnamed, .inr rfl⟩
        rw [raw, bounded, hn]
        exact rawIn_singleton hc htext hvalue hclose n
      · cases h
  · rintro ⟨⟩

end Decoder

end Gatehouse
