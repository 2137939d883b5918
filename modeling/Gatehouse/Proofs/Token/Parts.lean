import Gatehouse.Proofs.Json.Members
import Gatehouse.Proofs.Token.Claims

/-!
# What stands in the parts of a token

A header whose algorithm was read and that is an object has one member for it, which holds the name
(`exists_algorithm`). A payload whose claims were read twice, as claims of our own and as registered
claims, has one member for the expiry, which holds the integer that was read (`exists_expiry`).

Records may also be read from arrays, but no payload is an array: our claims are nine items, and the
registered ones five (`not_array`).
-/

namespace Gatehouse

namespace Decoder

variable {α β : Type} {depth : Nat} {s rest : Bytes}

/-- Whether a decoder takes nothing from the text. -/
def Stays (x : Decoder α) : Prop :=
  ∀ depth s, (x depth s).2 = s

theorem stays_needed (found : Entries) (name : String) (decode : Decoder α) :
    Stays (found.needed name decode) := by
  intro depth s
  rw [Entries.needed]
  cases found.lookup name <;> rfl

theorem stays_orElse (found : Entries) (name : String) (decode : Decoder α) (default : α) :
    Stays (found.orElse name decode default) := by
  intro depth s
  rw [Entries.orElse]
  cases found.lookup name <;> rfl

theorem Stays.of_bind {x : Decoder α} (hx : Stays x) {f : α → Decoder β} {b : β}
    (h : (x >>= f) depth s = (.ok b, rest)) :
    ∃ a, x depth s = (.ok a, s) ∧ f a depth s = (.ok b, rest) := by
  obtain ⟨a, r, ha, hf⟩ := bind_eq_ok_iff.mp h
  obtain rfl : s = r := (hx depth s).symm.trans (congrArg Prod.snd ha)
  exact ⟨a, ha, hf⟩

/-- A record is read from an array or from an object. -/
theorem nextSign_of_entries {shape : List Member} {required : Nat} {found : Entries}
    (h : entries shape required depth s = (.ok found, rest)) :
    nextSign s = some '[' ∨ nextSign s = some '\x7b' := by
  rw [entries, peek_apply] at h
  revert h
  generalize nextSign s = c
  split
  · exact fun _ => .inl rfl
  · exact fun _ => .inr rfl
  · exact fun h => absurd h not_mismatch

theorem nextSign_of_memberValues {name : String} {values : List Json}
    (h : memberValues name depth s = (.ok values, rest)) : nextSign s = some '\x7b' := by
  rw [memberValues, peek_apply] at h
  revert h
  generalize nextSign s = c
  split
  · exact fun _ => rfl
  · exact fun h => absurd h not_mismatch

end Decoder

namespace Envelope

open Decoder

variable {α β : Type} {depth : Nat} {s rest : Bytes}

/-! ### The algorithm of a header -/

theorem shows_key : Shows key fun _ _ => True := by
  intro depth s a r h
  rw [key, peek_apply] at h
  revert h
  generalize nextSign s = c
  split
  · intro h
    obtain ⟨j, r', hj, h⟩ := bind_eq_ok_iff.mp h
    have hrest : r' = r := by
      revert h
      split
      · split
        · exact congrArg Prod.snd
        · rintro ⟨⟩
      · rintro ⟨⟩
    exact ⟨j, raw_of_skipSpace (hrest ▸ hj), trivial⟩
  · exact fun h => absurd h not_mismatch

theorem shows_headerShape : ∀ m ∈ headerShape, Shows m.check fun _ _ => True := by
  have htext := shows_option shows_text
  simp only [headerShape, List.forall_mem_cons]
  exact ⟨shows_member htext, shows_member (shows_choice _), shows_member htext, shows_member htext,
    shows_member (shows_option shows_key), shows_member htext, shows_member htext,
    shows_member (shows_option (shows_list _)), shows_member htext, shows_member htext,
    List.forall_mem_nil _⟩

/-- **The algorithm of a header is what its one member of that name says.** -/
theorem exists_algorithm {bytes : Bytes} {name : String} {values : List Json}
    (hname : headerAlgorithm.runBytes bytes = .ok name)
    (hvalues : (memberValues "alg").runBytes bytes = .ok values) :
    values = [.str name] ∨ values = [.obj [(name, .null)]] := by
  obtain ⟨r, hname, -⟩ := runBytes_eq_ok_iff.mp hname
  obtain ⟨r', hvalues, -⟩ := runBytes_eq_ok_iff.mp hvalues
  obtain ⟨found, t, hfound, hneeded⟩ := bind_eq_ok_iff.mp hname
  have hmember : ∃ m ∈ headerShape, m.name = "alg" :=
    ⟨_, List.mem_cons_of_mem _ List.mem_cons_self, rfl⟩
  obtain ⟨values', hvalues', hlists⟩ :=
    exists_memberValues shows_headerShape hmember (nextSign_of_memberValues hvalues) hfound
  rw [hvalues] at hvalues'
  cases hvalues'
  obtain ⟨j, rfl, u, hu, hj⟩ := exists_of_needed (shows_choice _) hlists hneeded
  split at hu
  · cases hu
    rcases hj with rfl | rfl
    · exact .inl rfl
    · exact .inr rfl
  · cases hu

/-! ### Payloads are no arrays -/

/-- What one check accepts another leaves at the same place, or stops in front of an object. -/
def Trails (x y : Decoder Unit) : Prop :=
  ∀ depth s r, x depth s = (.ok (), r) →
    (y depth s).2 = r ∨ nextSign (y depth s).2 = some '\x7b'

theorem not_close_of_brace {n : Nat} {ls : List Member} {found : Entries}
    (hbrace : nextSign s = some '\x7b') (h : fromArray n ls false depth s = (.ok found, rest)) :
    nextSign rest ≠ some ']' := by
  cases ls with
  | nil =>
    obtain rfl : s = rest := congrArg Prod.snd h
    rw [hbrace]
    decide
  | cons l ls =>
    obtain ⟨more, t, hmore, -⟩ := bind_eq_ok_iff.mp h
    obtain ⟨-, hclose, -⟩ | ⟨-, ⟨⟨⟩, -⟩ | ⟨-, hcomma, -⟩⟩ := hasItem_eq_ok hmore
    · rw [hbrace] at hclose
      cases hclose
    · rw [hbrace] at hcomma
      cases hcomma

/-- An array whose items all have to be there has one for the next check. -/
theorem exists_item {m : Member} {ms : List Member} {first : Bool} {required : Nat}
    (hrequired : (m :: ms).length ≤ required) {found : Entries}
    (h : fromArray required (m :: ms) first depth s = (.ok found, rest)) :
    ∃ t u found', hasItem first depth s = (.ok true, t) ∧ m.check depth t = (.ok (), u) ∧
      fromArray (required - 1) ms false depth u = (.ok found', rest) := by
  obtain ⟨more, t, hmore, h⟩ := bind_eq_ok_iff.mp h
  cases more with
  | false =>
    have hzero : required ≠ 0 := Nat.ne_of_gt (Nat.lt_of_lt_of_le (Nat.zero_lt_succ _) hrequired)
    rw [if_neg Bool.false_ne_true, if_neg hzero] at h
    cases h
  | true =>
    rw [if_pos rfl] at h
    obtain ⟨_, _, ⟨⟩, h⟩ := bind_eq_ok_iff.mp h
    obtain ⟨_, u, hcheck, h⟩ := bind_eq_ok_iff.mp h
    obtain ⟨found', _, hrest, ⟨⟩⟩ := bind_eq_ok_iff.mp h
    exact ⟨t, u, found', hmore, hcheck, hrest⟩

/-- Where all items of a longer list are there, the array does not end with a shorter one. -/
theorem not_close_of_length_lt {ms ls : List Member}
    (htrails : ∀ p ∈ ms.zip ls, Trails p.1.check p.2.check) (hlt : ls.length < ms.length)
    {first : Bool} (hfirst : first = true → ls ≠ []) {required n : Nat}
    (hrequired : ms.length ≤ required) {found found' : Entries} {r r' : Bytes}
    (hms : fromArray required ms first depth s = (.ok found, r))
    (hls : fromArray n ls first depth s = (.ok found', r')) : nextSign r' ≠ some ']' := by
  -- both lists take the same items; where the shorter one is at its end a comma still follows
  induction ls generalizing ms first s required n found found' with
  | nil =>
    obtain ⟨m, ms, rfl⟩ := List.exists_cons_of_length_pos (Nat.zero_lt_of_lt hlt)
    obtain ⟨t, u, found, hmore, -, -⟩ := exists_item hrequired hms
    obtain rfl : s = r' := congrArg Prod.snd hls
    obtain ⟨⟨⟩, -⟩ | ⟨-, ⟨rfl, -⟩ | ⟨-, hcomma, -⟩⟩ := hasItem_eq_ok hmore
    · exact absurd rfl (hfirst rfl)
    · rw [hcomma]
      decide
  | cons l ls ih =>
    obtain ⟨m, ms, rfl⟩ := List.exists_cons_of_length_pos (Nat.zero_lt_of_lt hlt)
    obtain ⟨t, u, found, hmore, hcheck, hms⟩ := exists_item hrequired hms
    rw [fromArray, bind_ok hmore, if_pos rfl] at hls
    obtain ⟨_, _, ⟨⟩, hls⟩ := bind_eq_ok_iff.mp hls
    obtain ⟨_, u', hcheck', hls⟩ := bind_eq_ok_iff.mp hls
    obtain ⟨_, _, hls, ⟨⟩⟩ := bind_eq_ok_iff.mp hls
    obtain rfl : (l.check depth t).2 = u' := congrArg Prod.snd hcheck'
    have hrequired' : ms.length ≤ required - 1 := Nat.le_sub_one_of_lt hrequired
    obtain hsame | hbrace := htrails (m, l) List.mem_cons_self depth t u hcheck
    · rw [hsame] at hls
      exact ih (fun p hp => htrails p (List.mem_cons_of_mem _ hp)) (Nat.lt_of_succ_lt_succ hlt)
        (fun h => absurd h Bool.false_ne_true) hrequired' hms hls
    · exact not_close_of_brace hbrace hls

theorem trails_lenient {name : String} {decode : Decoder α} {x : Decoder β}
    (h : ∀ depth s a r, decode depth s = (.ok a, r) →
      (x depth s).2 = r ∨ nextSign (x depth s).2 = some '\x7b') :
    Trails (member name decode).check (lenient x) := by
  intro depth s r hcheck
  obtain ⟨a, _, ha, ⟨⟩⟩ := bind_eq_ok_iff.mp hcheck
  exact h depth s a r ha

theorem quote_or_brace_of_choice {named : String → Option α} {a : α}
    (h : choice named depth s = (.ok a, rest)) :
    nextSign s = some '"' ∧ ofText named depth (skipSpace s) = (.ok a, rest) ∨
      nextSign s = some '\x7b' := by
  rw [choice, peek_apply] at h
  revert h
  generalize nextSign s = c
  split
  · exact fun h => .inl ⟨rfl, h⟩
  · exact fun _ => .inr rfl
  · rintro ⟨⟩

/-- A named value is a text, or an object in front of which the reading of a text stops. -/
theorem text_of_choice {named : String → Option α} {a : α}
    (h : choice named depth s = (.ok a, rest)) :
    ((option text) depth s).2 = rest ∨ nextSign ((option text) depth s).2 = some '\x7b' := by
  rw [option, peek_apply]
  obtain ⟨hquote, h⟩ | hbrace := quote_or_brace_of_choice h
  · obtain ⟨t, htext, -⟩ := ofText_eq_ok h
    rw [hquote]
    exact .inl (congrArg Prod.snd (map_eq_ok_iff.mpr ⟨t, htext, rfl⟩))
  · have htext : text depth (skipSpace s) = (.error .dataFault, skipSpace s) := by
      rw [text, ofScalar, peek_apply, nextSign_skipSpace, skipSpace_skipSpace, hbrace]
      rfl
    have hunfit : (some <$> text) depth (skipSpace s) = (.error .dataFault, skipSpace s) := by
      show (text >>= fun t => pure (some t)) depth (skipSpace s) = _
      rw [bind_apply, htext]
    right
    rw [hbrace]
    show nextSign ((some <$> text) depth (skipSpace s)).2 = _
    rw [hunfit, nextSign_skipSpace, hbrace]

theorem raw_snd_of_shows {decode : Decoder α} {P : α → Json → Prop}
    (h : Shows decode P) {a : α} (ha : decode depth s = (.ok a, rest)) :
    (raw depth s).2 = rest := by
  obtain ⟨j, hj, -⟩ := h _ _ _ _ ha
  exact congrArg Prod.snd hj

/-- Where claims of our own are listed in an array, the registered ones end in its middle. -/
theorem trails_shape : ∀ p ∈ Claims.shape.zip registeredShape, Trails p.1.check p.2.check := by
  simp only [Claims.shape, registeredShape, List.zip_cons_cons, List.zip_nil_right,
    List.forall_mem_cons]
  refine ⟨trails_lenient fun _ _ _ _ h => ?_, trails_lenient fun _ _ _ _ h => ?_,
    trails_lenient fun _ _ _ _ h => text_of_choice h,
    trails_lenient fun _ _ _ _ h => .inl (raw_snd_of_shows (shows_choice _) h),
    trails_lenient fun _ _ _ _ h => .inl (raw_snd_of_shows (shows_option (shows_list _)) h),
    List.forall_mem_nil _⟩
  · obtain ⟨n, hn, -⟩ := map_eq_ok_iff.mp h
    exact .inl (time_of_scalar hn)
  · exact .inl (time_of_scalar h)

/-- **A payload with both kinds of claims is no array.** -/
theorem not_array {claims : Claims} {r r' : Bytes}
    (hclaims : Claims.decode depth s = (.ok claims, r))
    (hregistered : registered depth s = (.ok (), r')) : nextSign s ≠ some '[' := by
  intro harray
  obtain ⟨found, _, hfound, -⟩ := bind_eq_ok_iff.mp hclaims
  obtain ⟨found', _, hfound', ⟨⟩⟩ := bind_eq_ok_iff.mp hregistered
  rw [entries, peek_apply, harray] at hfound hfound'
  obtain ⟨d, t, rfl, hours, -, -⟩ := enclosed_eq_ok hfound
  obtain ⟨_, t', ⟨⟩, htheirs, hclose, -⟩ := enclosed_eq_ok hfound'
  exact not_close_of_length_lt trails_shape (by decide) (fun _ => List.cons_ne_nil _ _) (by decide)
    hours htheirs hclose

/-! ### The expiry of a payload -/

theorem shows_shape : ∀ m ∈ Claims.shape, Shows m.check fun _ _ => True := by
  simp only [Claims.shape, List.forall_mem_cons]
  exact ⟨shows_member ((shows_intIn _ _).map _), shows_member shows_text,
    shows_member (shows_choice _), shows_member (shows_choice _),
    shows_member (shows_option (shows_list _)), shows_member shows_text,
    shows_member (shows_intIn _ _), shows_member (shows_intIn _ _), shows_member shows_text,
    List.forall_mem_nil _⟩

/-- **The expiry of some claims is what the one member of that name says.** -/
theorem exists_expiry {bytes : Bytes} {claims : Claims}
    (hclaims : Claims.decode.runBytes bytes = .ok claims)
    (hregistered : registered.runBytes bytes = .ok ()) :
    (memberValues "exp").runBytes bytes = .ok [.int claims.expiresAt] := by
  obtain ⟨r, hclaims, hempty⟩ := runBytes_eq_ok_iff.mp hclaims
  obtain ⟨r', hregistered, -⟩ := runBytes_eq_ok_iff.mp hregistered
  obtain ⟨found, t, hfound, hneeded⟩ := bind_eq_ok_iff.mp hclaims
  have hobject := (nextSign_of_entries hfound).resolve_left (not_array hclaims hregistered)
  have hmember : ∃ m ∈ Claims.shape, m.name = "exp" :=
    ⟨member "exp" int64, by simp [Claims.shape], rfl⟩
  obtain ⟨values, hvalues, hlists⟩ := exists_memberValues shows_shape hmember hobject hfound
  -- reading a member takes nothing from the text, so all that counts is the member itself
  obtain ⟨userId, -, h⟩ := (stays_needed _ _ _).of_bind hneeded
  obtain ⟨username, -, h⟩ := (stays_needed _ _ _).of_bind h
  obtain ⟨kind, -, h⟩ := (stays_needed _ _ _).of_bind h
  obtain ⟨method, -, h⟩ := (stays_needed _ _ _).of_bind h
  obtain ⟨roles, -, h⟩ := (stays_orElse _ _ _ _).of_bind h
  obtain ⟨tokenId, -, h⟩ := (stays_needed _ _ _).of_bind h
  obtain ⟨issuedAt, -, h⟩ := (stays_needed _ _ _).of_bind h
  obtain ⟨expiresAt, hexpires, h⟩ := (stays_needed _ _ _).of_bind h
  obtain ⟨issuer, -, ⟨⟩⟩ := (stays_needed _ _ _).of_bind h
  obtain ⟨j, rfl, rfl, -⟩ := exists_of_needed (shows_intIn _ _) hlists hexpires
  exact runBytes_eq_ok_iff.mpr ⟨_, hvalues, hempty⟩

end Envelope

end Gatehouse
