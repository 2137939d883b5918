import Gatehouse.Proofs.Json.Value

/-!
# Reading records that were written

A record is written as an object with its members. When each member that the reader knows has a
value that passes its check, and all others are passed over (`Fits`), the members are collected
(`exists_entries`): every value is found under its name, and a member that was not written is
missing. From there on a value is read as if it stood alone (`needed_eq`, `orElse_eq`).
-/

namespace Gatehouse.Decoder

open Text

variable {α β : Type} {depth : Nat} {s rest : Bytes}

/-- Whether a written member of an object can be read into a record. -/
def Fits (shape : List Member) (least : Nat) (m : String × Json) : Prop :=
  match shape.find? (·.name == m.1) with
  | some known => Reads known.check least m.2 ()
  | none => Reads ignored least m.2 ()

/-- A known member fits if its value can be read. -/
theorem fits_member {shape : List Member} {least : Nat} {name : String} {j : Json}
    {decode : Decoder α} {a : α} (hknown : shape.find? (·.name == name) = some (member name decode))
    (h : Reads decode least j a) : Fits shape least (name, j) := by
  rw [Fits, hknown]
  intro depth rest hdepth hrest
  exact (bind_ok (h depth rest hdepth hrest)).trans rfl

/-- Whether a place is that of a written value, with enough depth. -/
def IsPlaceOf (least : Nat) (j : Json) (place : Place) : Prop :=
  least ≤ place.depth ∧ ∃ rest, Ends rest ∧ place.bytes = bytes j.chars ++ rest

/-- What has been collected out of written members, after what had been before. -/
structure Collects (shape : List Member) (least : Nat) (ms : List (String × Json))
    (before found : Entries) : Prop where
  holds : ∀ m ∈ ms, (shape.find? (·.name == m.1)).isSome = true →
    ∃ place, found.lookup m.1 = some place ∧ IsPlaceOf least m.2 place
  old : ∀ name, (∀ m ∈ ms, m.1 ≠ name) → found.lookup name = before.lookup name

/-! ### The text of an object -/

/-- The bytes of a member in front of other bytes. -/
def memberBytes (m : String × Json) (rest : Bytes) : Bytes :=
  0x22 :: (bytes (Json.escape m.1.toList) ++ 0x22 :: 0x3A :: (bytes m.2.chars ++ rest))

private theorem bytes_member (name : String) (j : Json) (more : List Char) (rest : Bytes) :
    bytes (Json.quote name ++ ':' :: (j.chars ++ more)) ++ rest =
      memberBytes (name, j) (bytes more ++ rest) := by
  have hquote : Json.quote name = '"' :: (Json.escape name.toList ++ ['"']) := rfl
  have hend : ∀ t, bytes (['"'] ++ ':' :: t) = 0x22 :: 0x3A :: bytes t := fun _ => rfl
  have hstart : ∀ t, bytes ('"' :: t) = 0x22 :: bytes t := fun _ => rfl
  rw [hquote, List.cons_append, List.append_assoc, hstart, bytes_append, hend, bytes_append]
  simp only [memberBytes, List.cons_append, List.append_assoc]

private theorem bytes_memberChars_cons (m : String × Json) (ms : List (String × Json))
    (rest : Bytes) :
    bytes (Json.memberChars (m :: ms)) ++ rest =
      0x2C :: memberBytes m (bytes (Json.memberChars ms) ++ rest) := by
  rw [Json.memberChars, ← bytes_member m.1 m.2 (Json.memberChars ms) rest]
  rfl

private theorem bytes_obj_cons (m : String × Json) (ms : List (String × Json)) (rest : Bytes) :
    bytes (Json.obj (m :: ms)).chars ++ rest =
      0x7B :: memberBytes m (bytes (Json.memberChars ms) ++ rest) := by
  rw [Json.chars, ← bytes_member m.1 m.2 (Json.memberChars ms) rest]
  rfl

/-- An object begins with its brace. -/
theorem begins_obj (ms : List (String × Json)) : Begins (fun b => b = 0x7B) (.obj ms) := by
  intro rest
  cases ms with
  | nil => exact ⟨0x7B, _, rfl, rfl⟩
  | cons m ms => exact ⟨0x7B, _, bytes_obj_cons m ms rest, rfl⟩

theorem length_le_memberBytes (m : String × Json) (rest : Bytes) :
    rest.length ≤ (memberBytes m rest).length := by
  simp only [memberBytes, List.length_cons, List.length_append]
  omega

private theorem ends_memberChars (ms : List (String × Json)) (rest : Bytes) :
    Ends (bytes (Json.memberChars ms) ++ rest) := by
  cases ms with
  | nil => exact ends_cons (by decide) rest
  | cons m ms =>
    rw [bytes_memberChars_cons]
    exact ends_cons (by decide) _

private theorem length_le_memberChars (ms : List (String × Json)) (rest : Bytes) :
    ms.length ≤ (bytes (Json.memberChars ms) ++ rest).length := by
  induction ms with
  | nil => exact Nat.zero_le _
  | cons m ms ih =>
    rw [bytes_memberChars_cons, List.length_cons, List.length_cons]
    exact Nat.succ_le_succ (Nat.le_trans ih (length_le_memberBytes m _))

/-! ### Collecting the members -/

variable {shape : List Member} {least : Nat}

/-- One member is taken: a known one is remembered, and any other is passed over. -/
private theorem exists_fromObject {m : String × Json} (hfits : Fits shape least m)
    (hdepth : least ≤ depth) (hrest : Ends rest) {before : Entries}
    (hnew : before.lookup m.1 = none) :
    ∃ found, fromObject shape before m.1 depth (0x3A :: (bytes m.2.chars ++ rest)) =
      (.ok found, rest) ∧ Collects shape least [m] before found := by
  rw [Fits] at hfits
  -- an unknown name leaves the collection as it was; a known one puts its place in front
  cases hknown : shape.find? (·.name == m.1) with
  | none =>
    rw [hknown] at hfits
    refine ⟨before, ?_, ⟨fun m' hm' h => ?_, fun name _ => rfl⟩⟩
    · have hvalued : valued ignored depth (0x3A :: (bytes m.2.chars ++ rest)) = (.ok (), rest) :=
        hfits depth rest hdepth hrest
      rw [fromObject, hknown]
      exact (bind_ok hvalued).trans rfl
    · cases List.mem_singleton.mp hm'
      rw [hknown] at h
      cases h
  | some known =>
    rw [hknown] at hfits
    have hcheck := hfits depth rest hdepth hrest
    refine ⟨(m.1, ⟨depth, bytes m.2.chars ++ rest⟩) :: before, ?_, ⟨fun m' hm' _ => ?_, ?_⟩⟩
    · rw [fromObject, hknown, hnew]
      show (known.check >>= fun _ =>
          pure ((m.1, Place.mk depth (bytes m.2.chars ++ rest)) :: before))
        depth (bytes m.2.chars ++ rest) = _
      rw [bind_ok hcheck]
      rfl
    · cases List.mem_singleton.mp hm'
      exact ⟨_, List.lookup_cons_self, hdepth, rest, hrest, rfl⟩
    · intro name hname
      have hne := hname m (List.mem_singleton_self m)
      rw [List.lookup_cons, beq_eq_false_iff_ne.mpr (Ne.symm hne)]

private theorem Collects.cons {m : String × Json} {ms : List (String × Json)}
    {before mid found : Entries} (hm : Collects shape least [m] before mid)
    (hms : Collects shape least ms mid found) (hnew : ∀ m' ∈ ms, m'.1 ≠ m.1) :
    Collects shape least (m :: ms) before found := by
  constructor
  · intro m' hm' hknown
    rcases List.mem_cons.mp hm' with rfl | hm'
    · rw [hms.old m'.1 hnew]
      exact hm.holds m' (List.mem_singleton_self m') hknown
    · exact hms.holds m' hm' hknown
  · intro name hname
    rw [hms.old name fun m' hm' => hname m' (List.mem_cons_of_mem m hm')]
    exact hm.old name fun m' hm' => List.mem_singleton.mp hm' ▸ hname m List.mem_cons_self

private theorem members_cons {σ : Type} {take : σ → String → Decoder σ} {bound : Nat}
    {first : Bool} {m : String × Json} {before mid found : σ} {s s' s'' : Bytes}
    (hmember : hasMember first depth s = (.ok true, memberBytes m s'))
    (htake : take before m.1 depth (0x3A :: (bytes m.2.chars ++ s')) = (.ok mid, s''))
    (hrest : members take bound false mid depth s'' = (.ok found, rest)) :
    members take (bound + 1) first before depth s = (.ok found, rest) := by
  have hname : ofReading JsonText.read depth (memberBytes m s').tail =
      (.ok m.1, 0x3A :: (bytes m.2.chars ++ s')) := JsonText.read_escape m.1 _
  rw [members, bind_ok hmember]
  show (ofReading JsonText.read >>= fun name => take before name >>= fun found =>
    members take bound false found) depth (memberBytes m s').tail = _
  rw [bind_ok hname, bind_ok htake, hrest]

/-- A member is read in front of members that can be read, whichever were read before. -/
private theorem exists_members_cons {m : String × Json} {ms : List (String × Json)}
    {before : Entries} {bound : Nat} {first : Bool}
    (hmember : hasMember first depth s =
      (.ok true, memberBytes m (bytes (Json.memberChars ms) ++ rest)))
    (hdepth : least ≤ depth) (hfits : Fits shape least m)
    (hnames : ((m :: ms).map (·.1)).Nodup) (hnew : ∀ m' ∈ m :: ms, before.lookup m'.1 = none)
    (hrest : ∀ mid : Entries, (∀ m' ∈ ms, mid.lookup m'.1 = none) →
      ∃ found, members (fromObject shape) bound false mid depth
          (bytes (Json.memberChars ms) ++ rest) = (.ok found, 0x7D :: rest) ∧
        Collects shape least ms mid found) :
    ∃ found, members (fromObject shape) (bound + 1) first before depth s =
        (.ok found, 0x7D :: rest) ∧ Collects shape least (m :: ms) before found := by
  obtain ⟨mid, htake, hmid⟩ := exists_fromObject hfits hdepth (ends_memberChars ms rest)
    (hnew m List.mem_cons_self)
  rw [List.map_cons, List.nodup_cons] at hnames
  have hother : ∀ m' ∈ ms, m'.1 ≠ m.1 := fun m' hm' heq =>
    hnames.1 (heq ▸ List.mem_map_of_mem hm')
  have hnew' : ∀ m' ∈ ms, mid.lookup m'.1 = none := fun m' hm' => by
    rw [hmid.old m'.1 fun x hx => by rw [List.mem_singleton.mp hx]; exact (hother m' hm').symm]
    exact hnew m' (List.mem_cons_of_mem m hm')
  obtain ⟨found, hmembers, hfound⟩ := hrest mid hnew'
  exact ⟨found, members_cons hmember htake hmembers, hmid.cons hfound hother⟩

private theorem exists_members (hdepth : least ≤ depth) {ms : List (String × Json)}
    (hfits : ∀ m ∈ ms, Fits shape least m) (hnames : (ms.map (·.1)).Nodup) {before : Entries}
    (hnew : ∀ m ∈ ms, before.lookup m.1 = none) {bound : Nat} (hbound : ms.length < bound) :
    ∃ found, members (fromObject shape) bound false before depth
        (bytes (Json.memberChars ms) ++ rest) = (.ok found, 0x7D :: rest) ∧
      Collects shape least ms before found := by
  -- `before` grows with each member, so it is no part of what the induction is about
  induction ms generalizing bound before with
  | nil =>
    cases bound with
    | zero => cases hbound
    | succ bound =>
      exact ⟨before, rfl, fun m hm => absurd hm List.not_mem_nil, fun _ _ => rfl⟩
  | cons m ms ih =>
    cases bound with
    | zero => cases hbound
    | succ bound =>
      rw [bytes_memberChars_cons]
      refine exists_members_cons rfl hdepth (hfits m List.mem_cons_self) hnames hnew
        fun mid hmid => ?_
      exact ih (fun m' hm' => hfits m' (List.mem_cons_of_mem m hm')) (List.nodup_cons.mp hnames).2
        hmid (Nat.lt_of_succ_lt_succ hbound)

private theorem entries_brace (required : Nat) (s : Bytes) :
    entries shape required depth (0x7B :: s) =
      enclosed '\x7d' (members (fromObject shape) (s.length + 2) true []) depth (0x7B :: s) := rfl

/-- **The members of a written object are collected**, each under its name. -/
theorem exists_entries (required : Nat) {ms : List (String × Json)}
    (hfits : ∀ m ∈ ms, Fits shape least m) (hnames : (ms.map (·.1)).Nodup)
    (hdepth : least + 1 ≤ depth) (rest : Bytes) :
    ∃ found, entries shape required depth (bytes (Json.obj ms).chars ++ rest) = (.ok found, rest) ∧
      Collects shape least ms [] found := by
  obtain ⟨depth, rfl⟩ : ∃ d, depth = d + 1 := ⟨depth - 1, by omega⟩
  have hleast : least ≤ depth := Nat.le_of_succ_le_succ hdepth
  cases ms with
  | nil =>
    refine ⟨[], ?_, fun m hm => absurd hm List.not_mem_nil, fun _ _ => rfl⟩
    exact (entries_brace _ _).trans (enclosed_ok (c := 0x7D) (by decide) (by decide) rfl _)
  | cons m ms =>
    rw [bytes_obj_cons, entries_brace]
    have hfirst : hasMember true depth (memberBytes m (bytes (Json.memberChars ms) ++ rest)) =
        (.ok true, memberBytes m (bytes (Json.memberChars ms) ++ rest)) := rfl
    have hbound : ms.length < (memberBytes m (bytes (Json.memberChars ms) ++ rest)).length + 1 :=
      Nat.lt_succ_of_le (Nat.le_trans (length_le_memberChars ms rest) (length_le_memberBytes m _))
    obtain ⟨found, hmembers, hfound⟩ := exists_members_cons hfirst hleast
      (hfits m List.mem_cons_self) hnames (fun _ _ => List.lookup_nil) fun mid hmid =>
        exists_members hleast (fun m' hm' => hfits m' (List.mem_cons_of_mem m hm'))
          (List.nodup_cons.mp hnames).2 hmid hbound
    exact ⟨found, enclosed_ok (c := 0x7D) (by decide) (by decide) hmembers _, hfound⟩

/-! ### The values of the members -/

private theorem readAt_eq {decode : Decoder α} {j : Json} {a : α} {place : Place}
    (hplace : IsPlaceOf least j place) (h : Reads decode least j a) :
    readAt place decode = pure a := by
  obtain ⟨hdepth, rest, hrest, hbytes⟩ := hplace
  funext _ s
  rw [readAt, hbytes, h place.depth rest hdepth hrest]
  rfl

variable {ms : List (String × Json)} {found : Entries} {name : String} {decode : Decoder α} {a : α}

/-- A member that was written and has to be there is read. -/
theorem needed_eq (hfound : Collects shape least ms [] found) {j : Json} (hm : (name, j) ∈ ms)
    (hknown : (shape.find? (·.name == name)).isSome = true) (h : Reads decode least j a) :
    found.needed name decode = pure a := by
  obtain ⟨place, hlookup, hplace⟩ := hfound.holds (name, j) hm hknown
  rw [Entries.needed, hlookup]
  exact readAt_eq hplace h

/-- A member that was written and may be missing is read. -/
theorem orElse_eq (hfound : Collects shape least ms [] found) {j : Json} (hm : (name, j) ∈ ms)
    (hknown : (shape.find? (·.name == name)).isSome = true) (h : Reads decode least j a)
    (default : α) : found.orElse name decode default = pure a := by
  obtain ⟨place, hlookup, hplace⟩ := hfound.holds (name, j) hm hknown
  rw [Entries.orElse, hlookup]
  exact readAt_eq hplace h

/-- A member that was not written has its default. -/
theorem orElse_eq_default (hfound : Collects shape least ms [] found)
    (hname : ∀ m ∈ ms, m.1 ≠ name) (decode : Decoder α) (default : α) :
    found.orElse name decode default = pure default := by
  rw [Entries.orElse, hfound.old name hname]
  rfl

end Gatehouse.Decoder
