import Gatehouse.Proofs.Decimal.Digits
import Gatehouse.Proofs.Json.Steps
import Gatehouse.Proofs.Text.Cut
import Gatehouse.Proofs.Text.Form
import Gatehouse.Url.Basic

/-!
# The query of an address

In the text of an address the query begins at the first question mark and ends at the first hash.
This is the query of the URL that the text was written for (`Url.queryIn?_text`), as long as neither
mark is left in what stands before the query, and no hash in the query. All URLs that were read are
so (`Url.marksApart_of_read`): names and paths are escaped, hosts may not have the marks, and all
else is made of letters and digits.
-/

namespace Gatehouse

open Text

namespace Url

/-! ### Marks -/

/-- A text in which neither a query nor a fragment begins. -/
def Unmarked (s : List Char) : Prop :=
  ∀ c ∈ s, c ≠ '?' ∧ c ≠ '#'

instance (s : List Char) : Decidable (Unmarked s) :=
  List.decidableBAll _ s

variable {s t : List Char}

@[simp] theorem unmarked_nil : Unmarked [] := by decide

@[simp] theorem unmarked_append : Unmarked (s ++ t) ↔ Unmarked s ∧ Unmarked t :=
  List.forall_mem_append

@[simp] theorem unmarked_cons {c : Char} :
    Unmarked (c :: s) ↔ (c ≠ '?' ∧ c ≠ '#') ∧ Unmarked s :=
  List.forall_mem_cons

/-- A text is unmarked if something holds of its characters that does not hold of the marks. -/
theorem unmarked_of_forall {P : Char → Prop} (hquestion : ¬ P '?') (hhash : ¬ P '#')
    (h : ∀ c ∈ s, P c) : Unmarked s :=
  fun c hc => ⟨fun heq => hquestion (heq ▸ h c hc), fun heq => hhash (heq ▸ h c hc)⟩

/-- Texts with an unmarked one between them. -/
theorem unmarked_join {sep : String} {parts : List String} (hsep : Unmarked sep.toList)
    (h : ∀ p ∈ parts, Unmarked p.toList) : Unmarked (sep.intercalate parts).toList := by
  rw [String.toList_intercalate]
  refine forall_mem_intercalate hsep fun p hp => ?_
  obtain ⟨part, hpart, rfl⟩ := List.mem_map.mp hp
  exact h part hpart

/-! ### Escapes -/

/-- A character that no escape has stands for a byte that is not escaped. -/
theorem exists_of_mem_escapeWhere {isEscaped : UInt8 → Bool} {c : Char} (hc : Percent.NoEscape c)
    (h : c ∈ (Percent.escapeWhere isEscaped s).toList) :
    ∃ b ∈ bytes s, isEscaped b = false ∧ c = Char.ofNat b.toNat := by
  rw [Percent.escapeWhere, String.toList_ofList, utf8_ofList] at h
  obtain ⟨b, hb, hmem⟩ := List.mem_flatMap.mp h
  split at hmem
  · exact absurd hmem (hc.notMem_escape b)
  · next hescaped =>
    exact ⟨b, hb, by simpa using hescaped, List.mem_singleton.mp hmem⟩

/-- No character that is escaped is left. -/
theorem notMem_escapeAll {special : String} {c : Char} (hc : Percent.NoEscape c)
    (hspecial : c ∈ special.toList) (s : List Char) : c ∉ (escapeAll special s).toList := by
  intro h
  obtain ⟨b, -, hescaped, rfl⟩ := exists_of_mem_escapeWhere hc h
  simp only [Bool.or_eq_false_iff] at hescaped
  rw [List.contains_iff_mem.mpr hspecial] at hescaped
  cases hescaped.2

theorem unmarked_escapeAll {special : String} (hquestion : '?' ∈ special.toList)
    (hhash : '#' ∈ special.toList) (s : List Char) : Unmarked (escapeAll special s).toList := by
  intro c hc
  constructor
  · rintro rfl
    exact notMem_escapeAll (by decide) hquestion s hc
  · rintro rfl
    exact notMem_escapeAll (by decide) hhash s hc

/-- A byte of ASCII among the bytes of a text is one of its characters. -/
theorem mem_of_mem_bytes {b : UInt8} (hb : b.toNat < 128) (h : b ∈ bytes s) :
    Char.ofNat b.toNat ∈ s := by
  obtain ⟨c, hc, hmem⟩ := List.mem_flatMap.mp h
  obtain ⟨hlt, hbytes⟩ | ⟨-, hbytes⟩ := utf8EncodeChar_cases c
  · rw [hbytes, List.mem_singleton] at hmem
    have hnat : b.toNat = c.toNat := by
      rw [hmem, UInt8.toNat_ofNat']
      omega
    rwa [hnat, Char.ofNat_toNat]
  · exact absurd (hbytes b hmem) (by omega)

theorem unmarked_escapeControls (h : Unmarked s) :
    Unmarked (Percent.escapeControls s).toList := by
  have hleft : ∀ c, Percent.NoEscape c → c.toNat < 128 →
      c ∈ (Percent.escapeControls s).toList → c ∈ s := by
    intro c hc hlt hmem
    obtain ⟨b, hb, -, rfl⟩ := exists_of_mem_escapeWhere hc hmem
    rw [toNat_ofNat_byte] at hlt
    exact mem_of_mem_bytes hlt hb
  intro c hc
  constructor
  · rintro rfl
    exact (h _ (hleft '?' (by decide) (by decide) hc)).1 rfl
  · rintro rfl
    exact (h _ (hleft '#' (by decide) (by decide) hc)).2 rfl

/-! ### Hosts -/

theorem unmarked_natText (n : Nat) : Unmarked (Decimal.natText n).toList := by
  rw [Decimal.natText, String.toList_ofList]
  exact unmarked_of_forall (by decide) (by decide) fun c => Decimal.isSome_digit?_of_mem_natDigits

private theorem unmarked_digitChar : ∀ d < 16, Unmarked [Nat.digitChar d] := by decide

theorem unmarked_groupText (n : Nat) : Unmarked (Host.groupText n).toList := by
  rw [Host.groupText, String.toList_ofList]
  induction n using Nat.strongRecOn with
  | ind n ih =>
    rw [Nat.toDigits_eq_if (by decide)]
    split
    · next hlt => exact unmarked_digitChar n hlt
    · exact unmarked_append.mpr ⟨ih _ (by omega), unmarked_digitChar _ (by omega)⟩

theorem unmarked_address32Text (n : Nat) : Unmarked (Host.address32Text n).toList := by
  refine unmarked_join (by decide) fun p hp => ?_
  obtain ⟨i, -, rfl⟩ := List.mem_map.mp hp
  exact unmarked_natText _

theorem unmarked_address128Text (groups : List Nat) :
    Unmarked (Host.address128Text groups).toList := by
  have hjoin : ∀ gs : List Nat, Unmarked (":".intercalate (gs.map Host.groupText)).toList := by
    intro gs
    refine unmarked_join (by decide) fun p hp => ?_
    obtain ⟨g, -, rfl⟩ := List.mem_map.mp hp
    exact unmarked_groupText g
  rw [Host.address128Text]
  dsimp only
  split
  all_goals
    simp only [String.toList_append, unmarked_append, hjoin]
    decide

theorem unmarked_of_toAscii? {name ascii : List Char} (h : Domain.toAscii? name = some ascii) :
    Unmarked ascii := by
  obtain ⟨-, hallowed⟩ := Option.filter_eq_some_iff.mp h
  have hforbidden : ∀ c ∈ ascii, Domain.isForbidden c = false := by simpa using hallowed
  exact unmarked_of_forall (by decide) (by decide) hforbidden

theorem unmarked_of_readName {host : String} (h : Host.readName s = .ok host) :
    Unmarked host.toList := by
  rw [Host.readName] at h
  split at h
  · cases h
  · cases h
  · next name _ hname =>
    obtain ⟨utf8, -, hascii⟩ := Option.bind_eq_some_iff.mp hname
    split at h
    · split at h
      · cases h
        exact unmarked_address32Text _
      · cases h
    · cases h
      rw [String.toList_ofList]
      exact unmarked_of_toAscii? hascii

theorem unmarked_of_readOpaque {host : String} (h : Host.readOpaque s = .ok host) :
    Unmarked host.toList := by
  rw [Host.readOpaque] at h
  split at h
  · cases h
  · next hallowed =>
    cases h
    have hforbidden : ∀ c ∈ s, Host.isForbidden c = false := by simpa using hallowed
    exact unmarked_escapeControls (unmarked_of_forall (by decide) (by decide) hforbidden)

theorem unmarked_of_readWith {readOther : List Char → Except UrlFault String} {host : String}
    (hother : ∀ {s}, readOther s = .ok host → Unmarked host.toList)
    (h : Host.readWith readOther s = .ok host) : Unmarked host.toList := by
  unfold Host.readWith at h
  split at h
  · split at h
    · cases h
      exact unmarked_address128Text _
    · cases h
  · exact hother h

theorem unmarked_of_readHost {isWeb mayBeEmpty : Bool} {host : String}
    (h : readHost isWeb mayBeEmpty s = .ok host) : Unmarked host.toList := by
  rw [readHost] at h
  split at h
  · split at h
    · cases h
      simp
    · cases h
  · refine unmarked_of_readWith (fun hother => ?_) h
    split at hother
    · exact unmarked_of_readName hother
    · exact unmarked_of_readOpaque hother

theorem unmarked_authorityText {a : Authority} (huser : Unmarked a.userInfo.toList)
    (hhost : Unmarked a.host.toList) : Unmarked (authorityText a).toList := by
  have hbefore : Unmarked (if a.userInfo = "" then "" else a.userInfo ++ "@").toList := by
    split
    · simp
    · simp [huser]
  simp only [authorityText, String.toList_append, unmarked_append]
  refine ⟨⟨⟨by decide, hbefore⟩, hhost⟩, ?_⟩
  cases a.port with
  | none => simp
  | some n => simp [unmarked_natText n]

theorem unmarked_of_readAuthority {scheme : String} {a : Authority}
    (h : readAuthority scheme s = .ok a) : Unmarked (authorityText a).toList := by
  rw [readAuthority] at h
  obtain ⟨host, hhost, h⟩ := except_bind_eq_ok_iff.mp h
  obtain ⟨port, -, h⟩ := except_bind_eq_ok_iff.mp h
  cases h
  exact unmarked_authorityText (unmarked_escapeAll (by decide) (by decide) _)
    (unmarked_of_readHost hhost)

/-! ### Schemes and paths -/

/-- A mark that comes before the letters in lower case is not made of another character. -/
private theorem toLower_ne {c mark : Char} (hc : c ≠ mark) (hmark : mark.val.toNat < 97) :
    c.toLower ≠ mark := by
  unfold Char.toLower
  split
  · next hupper =>
    rintro rfl
    have hlow : 65 ≤ c.val.toNat := UInt32.le_iff_toNat_le.mp hupper.1
    have hhigh : c.val.toNat ≤ 90 := UInt32.le_iff_toNat_le.mp hupper.2
    have hsum : (c.val + ('a'.val - 'A'.val)).toNat = (c.val.toNat + 32) % 2 ^ 32 :=
      UInt32.toNat_add ..
    simp only [hsum] at hmark
    omega
  · exact hc

theorem unmarked_of_cutScheme? {scheme : String} {rest : List Char}
    (h : cutScheme? s = some (scheme, rest)) : Unmarked scheme.toList := by
  rw [cutScheme?] at h
  split at h
  · next first others rest' _ =>
    split at h
    · next hchars =>
      cases h
      have hfirst : isSchemeChar first = true := by simp [isSchemeChar, Char.isAlphanum, hchars.1]
      have hall : Unmarked (first :: others) := unmarked_of_forall (by decide) (by decide)
        (List.forall_mem_cons.mpr ⟨hfirst, List.all_eq_true.mp hchars.2⟩)
      rw [String.toList_ofList]
      intro c hc
      obtain ⟨before, hbefore, rfl⟩ := List.mem_map.mp hc
      obtain ⟨hquestion, hhash⟩ := hall before hbefore
      exact ⟨toLower_ne hquestion (by decide), toLower_ne hhash (by decide)⟩
    · cases h
  · cases h

/-- What is left of the steps of a path are some of the steps, and empty ones. -/
theorem mem_walk {done steps : List String} {step : String} (h : step ∈ walk done steps) :
    step = "" ∨ step ∈ done ∨ step ∈ steps := by
  fun_induction walk done steps with
  | case1 done => exact .inr (.inl (by simpa using h))
  | case2 done last hup =>
    have hcases : step ∈ done.drop 1 ∨ step = "" := by simpa using h
    exact hcases.elim (fun h => .inr (.inl (List.mem_of_mem_drop h))) .inl
  | case3 done last hup hhere =>
    have hcases : step ∈ done ∨ step = "" := by simpa using h
    exact hcases.elim (fun h => .inr (.inl h)) .inl
  | case4 done last hup hhere =>
    have hcases : step ∈ done ∨ step = last := by simpa using h
    exact .inr (hcases.imp_right List.mem_singleton.mpr)
  | case5 done up rest hne hup ih =>
    exact (ih h).imp_right (Or.imp List.mem_of_mem_drop (List.mem_cons_of_mem up))
  | case6 done here rest hne hup hhere ih =>
    exact (ih h).imp_right (Or.imp_right (List.mem_cons_of_mem here))
  | case7 done name rest hne hup hhere ih =>
    rcases ih h with h | h | h
    · exact .inl h
    · rcases List.mem_cons.mp h with rfl | h
      · exact .inr (.inr List.mem_cons_self)
      · exact .inr (.inl h)
    · exact .inr (.inr (List.mem_cons_of_mem name h))

theorem unmarked_readPath (s : List Char) : Unmarked (readPath s).toList := by
  unfold readPath
  split
  · simp
  · rw [String.toList_append, unmarked_append]
    refine ⟨by decide, unmarked_join (by decide) fun step hstep => ?_⟩
    rcases mem_walk hstep with rfl | hstep | hstep
    · simp
    · cases hstep
    · obtain ⟨p, -, rfl⟩ := List.mem_map.mp hstep
      exact unmarked_escapeAll (by decide) (by decide) p

/-- What stands before the first hash. -/
def beforeHash (s : List Char) : List Char :=
  s.takeWhile (· ≠ '#')

theorem hash_notMem_beforeHash (s : List Char) : '#' ∉ beforeHash s := fun h => by
  simpa using List.mem_takeWhile_imp h

theorem beforeHash_of_notMem (h : '#' ∉ s) : beforeHash s = s :=
  List.takeWhile_eq_self_iff.mpr fun _ hc => decide_eq_true fun heq => h (heq ▸ hc)

theorem beforeHash_append (h : '#' ∉ s) (t : List Char) : beforeHash (s ++ '#' :: t) = s := by
  have htake : ∀ c ∈ s, decide (c ≠ '#') = true := fun c hc =>
    decide_eq_true fun heq => h (heq ▸ hc)
  rw [beforeHash, List.takeWhile_append_of_pos htake]
  simp

/-- Path and query are cut from what stands before the first hash. -/
theorem cutEnd_eq (s : List Char) : ∃ fragment, cutEnd s =
    (cutFirst? '?' (beforeHash s)).elim (beforeHash s, none, fragment)
      fun cut => (cut.1, some (escapeQuery cut.2), fragment) := by
  cases hhash : cutFirst? '#' s with
  | none =>
    have hbefore := beforeHash_of_notMem (cutFirst?_eq_none_iff.mp hhash)
    refine ⟨none, ?_⟩
    rw [cutEnd, hhash, hbefore]
    dsimp only
    cases cutFirst? '?' s <;> rfl
  | some cut =>
    obtain ⟨a, f⟩ := cut
    obtain ⟨rfl, ha⟩ := cutFirst?_eq_some_iff.mp hhash
    have hbefore := beforeHash_append (fun h => ha _ h rfl) f
    refine ⟨some (escapeFragment f), ?_⟩
    rw [cutEnd, hhash, hbefore]
    dsimp only
    cases cutFirst? '?' a <;> rfl

/-- The path ends before the first mark, and the query before the first hash. -/
theorem marks_cutEnd {path : List Char} {query fragment : Option String}
    (h : cutEnd s = (path, query, fragment)) :
    Unmarked path ∧ ∀ q ∈ query, '#' ∉ q.toList := by
  obtain ⟨fragment', hend⟩ := cutEnd_eq s
  have hhash := hash_notMem_beforeHash s
  rw [h] at hend
  cases hcut : cutFirst? '?' (beforeHash s) with
  | none =>
    rw [hcut] at hend
    cases hend
    have hquestion := cutFirst?_eq_none_iff.mp hcut
    exact ⟨fun c hc => ⟨fun heq => hquestion (heq ▸ hc), fun heq => hhash (heq ▸ hc)⟩,
      fun q hq => nomatch hq⟩
  | some cut =>
    obtain ⟨p, q⟩ := cut
    rw [hcut] at hend
    cases hend
    obtain ⟨happend, hquestion⟩ := cutFirst?_eq_some_iff.mp hcut
    rw [happend] at hhash
    refine ⟨fun c hc => ⟨hquestion c hc, fun heq => hhash (List.mem_append_left _ (heq ▸ hc))⟩, ?_⟩
    intro q' hq'
    cases hq'
    exact notMem_escapeAll (by decide) (by decide) q

/-! ### Whole URLs -/

/-- A URL in which no mark stands before the query, and no hash in it. -/
structure MarksApart (u : Url) : Prop where
  scheme : Unmarked u.scheme.toList
  authority : ∀ a ∈ u.authority, Unmarked (authorityText a).toList
  path : Unmarked u.path.toList
  query : ∀ q ∈ u.query, '#' ∉ q.toList

theorem marksApart_of_withAuthority {scheme : String} {isWeb : Bool} {u : Url}
    (hscheme : Unmarked scheme.toList) (h : withAuthority scheme isWeb s = .ok u) :
    u.MarksApart := by
  rw [withAuthority] at h
  obtain ⟨a, ha, h⟩ := except_bind_eq_ok_iff.mp h
  rcases hend : cutEnd (s.dropWhile (!endsAuthority ·)) with ⟨path, query, fragment⟩
  rw [hend] at h
  cases h
  refine ⟨hscheme, fun a' ha' => ?_, ?_, (marks_cutEnd hend).2⟩
  · cases ha'
    exact unmarked_of_readAuthority ha
  · dsimp only
    split
    · decide
    · exact unmarked_readPath path

theorem unmarked_of_readFileHost {host : String} (h : readFileHost s = .ok host) :
    Unmarked host.toList := by
  rw [readFileHost] at h
  split at h
  · cases h
    simp
  · obtain ⟨name, hname, h⟩ := except_bind_eq_ok_iff.mp h
    cases h
    split
    · simp
    · exact unmarked_of_readWith unmarked_of_readName hname

theorem marksApart_of_ofFile {scheme : String} {u : Url}
    (hscheme : Unmarked scheme.toList) (h : ofFile scheme s = .ok u) : u.MarksApart := by
  rw [ofFile] at h
  rcases hcut : cutFileHost s with ⟨name, rest⟩
  rw [hcut] at h
  obtain ⟨host, hhost, h⟩ := except_bind_eq_ok_iff.mp h
  rcases hend : cutEnd rest with ⟨path, query, fragment⟩
  rw [hend] at h
  cases h
  refine ⟨hscheme, fun a ha => ?_, ?_, (marks_cutEnd hend).2⟩
  · cases ha
    exact unmarked_authorityText (by simp) (unmarked_of_readFileHost hhost)
  · dsimp only
    split
    · decide
    · exact unmarked_readPath path

/-- **No mark is left before the query** of a URL that was read, and no hash in it. -/
theorem marksApart_of_read {address : String} {u : Url} (h : read address = .ok u) :
    u.MarksApart := by
  rw [read] at h
  split at h
  · cases h
  · next scheme rest hcut =>
    have hscheme := unmarked_of_cutScheme? hcut
    split at h
    · exact marksApart_of_ofFile hscheme h
    split at h
    · exact marksApart_of_withAuthority hscheme h
    split at h
    · exact marksApart_of_withAuthority hscheme h
    -- what is left are URLs without an authority, whose path may have no slashes
    rcases hend : cutEnd rest with ⟨path, query, fragment⟩
    rw [hend] at h
    cases h
    obtain ⟨hpath, hquery⟩ := marks_cutEnd hend
    refine ⟨hscheme, (fun a ha => nomatch ha), ?_, hquery⟩
    dsimp only
    split
    · exact unmarked_readPath path
    · exact unmarked_escapeControls hpath

/-! ### Fields that are added -/

theorem MarksApart.addFields {u : Url} (hu : u.MarksApart) (fields : List (String × String)) :
    (u.addFields fields).MarksApart := by
  refine ⟨hu.scheme, hu.authority, hu.path, fun q hq => ?_⟩
  have hadded : '#' ∉ Form.encodeFields fields :=
    Form.notMem_encodeFields (by decide) (by decide) (by decide) fields
  cases hq
  split
  · simpa using hadded
  · simpa using hadded
  · next _ old _ hold =>
    simpa using not_or.mpr ⟨hu.query old hold, hadded⟩

/-- Fields that are added to a URL are read behind the fields that it has. -/
theorem decodeFields_addFields (u : Url) (fields : List (String × String)) :
    Form.decodeFields ((u.addFields fields).query.getD "").toList =
      Form.decodeFields (u.query.getD "").toList ++ fields := by
  have hadded : Form.decodeFields (String.ofList (Form.encodeFields fields)).toList = fields := by
    rw [String.toList_ofList, Form.decodeFields_encodeFields]
  rw [addFields]
  split
  · next hquery => simpa [hquery, Form.decodeFields, pieces] using hadded
  · next hquery => simpa [hquery, Form.decodeFields, pieces] using hadded
  · next q _ hquery =>
    rw [hquery, Option.getD_some, Option.getD_some, String.toList_append, String.toList_append,
      List.append_assoc]
    exact (Form.decodeFields_append q.toList _).trans (congrArg _ hadded)

/-! ### The query in a text -/

/-- The query in the text of an address. -/
def queryIn? (address : String) : Option String :=
  (cutFirst? '?' (beforeHash address.toList)).map fun cut => String.ofList cut.2

/-- **The query in the text of a URL** is the query of the URL. -/
theorem queryIn?_text {u : Url} (hu : u.MarksApart) : queryIn? u.text = u.query := by
  -- the text is cut in three: what the query follows, the query, and the fragment
  let head := u.scheme ++ ":" ++ (u.authority.map authorityText).getD "" ++ u.path
  have hhead : Unmarked head.toList := by
    have hauthority : Unmarked ((u.authority.map authorityText).getD "").toList := by
      cases ha : u.authority with
      | none => simp
      | some a => exact hu.authority a ha
    simp only [head, String.toList_append, unmarked_append]
    exact ⟨⟨⟨hu.scheme, by decide⟩, hauthority⟩, hu.path⟩
  have hquery : '#' ∉ (partText "?" u.query).toList := by
    cases hq : u.query with
    | none => simp [partText]
    | some q => simp [partText, hu.query q hq]
  have hbefore : beforeHash u.text.toList = head.toList ++ (partText "?" u.query).toList := by
    have hhash : '#' ∉ head.toList ++ (partText "?" u.query).toList :=
      fun h => (List.mem_append.mp h).elim (fun h => (hhead _ h).2 rfl) hquery
    have htext : u.text.toList = head.toList ++ (partText "?" u.query).toList ++
        (partText "#" u.fragment).toList := by
      simp only [text, head, String.toList_append]
    rw [htext]
    cases u.fragment with
    | none => simpa [partText] using beforeHash_of_notMem hhash
    | some f => simpa [partText] using beforeHash_append hhash f.toList
  rw [queryIn?, hbefore]
  cases u.query with
  | none =>
    have hcut : cutFirst? '?' head.toList = none :=
      cutFirst?_eq_none_iff.mpr fun h => (hhead _ h).1 rfl
    simp [partText, hcut]
  | some q =>
    have hcut := cutFirst?_append_cons (fun c hc => (hhead c hc).1) q.toList
    simp [partText, hcut]

end Url

end Gatehouse
