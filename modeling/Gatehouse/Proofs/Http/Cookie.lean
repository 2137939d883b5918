import Gatehouse.Http.Cookie
import Gatehouse.Proofs.Text.Cut
import Gatehouse.Proofs.Text.Form
import Gatehouse.Proofs.Text.Trim

/-!
# Cookies that come back

A browser that was told to keep a cookie sends its name and its value back and nothing else of the
header. If both are made of letters, digits, hyphens and underscores, then no layer on the way needs
to escape anything, and the cookie that is found in the request is the one that was set
(`find?_sentBack`).
-/

namespace Gatehouse

/-- What a browser sends back for a header value that sets a cookie. -/
def SetCookie.sentBack (header : String) : String :=
  String.ofList (header.toList.takeWhile (· ≠ ';'))

namespace Cookie

/-- A character that stands in a cookie as it is: a letter, a digit, a hyphen or an underscore. -/
def IsBare (c : Char) : Prop :=
  ('A' ≤ c ∧ c ≤ 'Z') ∨ ('a' ≤ c ∧ c ≤ 'z') ∨ ('0' ≤ c ∧ c ≤ '9') ∨ c = '-' ∨ c = '_'

instance (c : Char) : Decidable (IsBare c) :=
  inferInstanceAs (Decidable (_ ∨ _))

/-- A text that stands in a cookie as it is. -/
def Bare (s : String) : Prop :=
  ∀ c ∈ s.toList, IsBare c

instance (s : String) : Decidable (Bare s) :=
  List.decidableBAll IsBare s.toList

/-- Such a character is visible, and is neither a separator nor the start of an escape. -/
theorem IsBare.bounds {c : Char} (h : IsBare c) :
    (0x20 < c.toNat ∧ c.toNat < 0x7F) ∧ c.toNat ≠ 0x25 ∧ c.toNat ≠ 0x3B ∧ c.toNat ≠ 0x3D := by
  have hle : ∀ {a b : Char}, a ≤ b → a.toNat ≤ b.toNat := id
  rcases h with ⟨hlow, hhigh⟩ | ⟨hlow, hhigh⟩ | ⟨hlow, hhigh⟩ | rfl | rfl
  · have hlow : 0x41 ≤ c.toNat := hle hlow
    have hhigh : c.toNat ≤ 0x5A := hle hhigh
    omega
  · have hlow : 0x61 ≤ c.toNat := hle hlow
    have hhigh : c.toNat ≤ 0x7A := hle hhigh
    omega
  · have hlow : 0x30 ≤ c.toNat := hle hlow
    have hhigh : c.toNat ≤ 0x39 := hle hhigh
    omega
  · decide
  · decide

theorem IsBare.ne {c d : Char} (h : IsBare c) (hd : d = '%' ∨ d = ';' ∨ d = '=') : c ≠ d := by
  obtain ⟨-, hpercent, hsemi, heq⟩ := h.bounds
  rintro rfl
  rcases hd with rfl | rfl | rfl
  · exact hpercent rfl
  · exact hsemi rfl
  · exact heq rfl

theorem IsBare.not_blank {c : Char} (h : IsBare c) : Text.isBlank c = false := by
  have hbounds := h.bounds
  simp only [Text.isBlank, Bool.or_eq_false_iff, Bool.and_eq_false_iff, decide_eq_false_iff_not,
    beq_eq_false_iff_ne]
  omega

variable {name value : String}

/-- No character of a pair ends it. -/
theorem ne_semicolon_of_mem (hname : Bare name) (hvalue : Bare value) :
    ∀ c ∈ (name ++ "=" ++ value).toList, c ≠ ';' := by
  intro c hc
  simp only [String.toList_append, List.mem_append] at hc
  rcases hc with (hc | hc) | hc
  · exact (hname c hc).ne (by decide)
  · rw [List.mem_singleton.mp hc]
    decide
  · exact (hvalue c hc).ne (by decide)

/-- The pair of a cookie comes back, and nothing of what follows it. -/
theorem sentBack_text {c : SetCookie} (hname : Bare c.name) (hvalue : Bare c.value) :
    SetCookie.sentBack c.text = c.name ++ "=" ++ c.value := by
  obtain ⟨rest, hrest⟩ :
      ∃ rest, c.text.toList = (c.name ++ "=" ++ c.value).toList ++ ';' :: rest := by
    have hend : "; HttpOnly; SameSite=Lax".toList = ';' :: " HttpOnly; SameSite=Lax".toList := rfl
    simp only [SetCookie.text, String.toList_append, hend, List.append_assoc, List.cons_append]
    exact ⟨_, rfl⟩
  have hpair : ∀ c' ∈ (c.name ++ "=" ++ c.value).toList, decide (c' ≠ ';') = true := fun c' hc =>
    decide_eq_true (ne_semicolon_of_mem hname hvalue c' hc)
  rw [SetCookie.sentBack, hrest, List.takeWhile_append_of_pos hpair,
    List.takeWhile_cons_of_neg (by decide), List.append_nil, String.ofList_toList]

/-! ### Reading a pair -/

theorem trimChars_of_bare {s : String} (h : Bare s) : Text.trimChars s.toList = s.toList := by
  have hsolid : Text.Solid s := fun c hc => (h c hc).not_blank
  exact hsolid.trimmed.trimChars_eq

theorem unescape?_of_bare {s : String} (h : Bare s) : unescape? s.toList = some s := by
  have hascii : ∀ c ∈ s.toList, c.toNat < 128 := fun c hc => by
    have hbounds := (h c hc).bounds
    omega
  have hplain : ∀ b ∈ Text.utf8 s, b ≠ Percent.mark := by
    intro b hb
    rw [Text.utf8_eq, Text.bytes_of_lt hascii] at hb
    obtain ⟨c, hc, rfl⟩ := List.mem_map.mp hb
    have hbounds := (h c hc).bounds
    intro hmark
    have hnat := congrArg UInt8.toNat hmark
    rw [UInt8.toNat_ofNat', Nat.mod_eq_of_lt (by omega)] at hnat
    exact hbounds.2.1 hnat
  rw [unescape?, String.ofList_toList, Percent.decode_of_forall_ne hplain, Text.ofUtf8?_utf8]

/-- A pair is read as it was set. -/
theorem read?_of_bare (hname : Bare name) (hne : name ≠ "") (hvalue : Bare value) :
    read? (name ++ "=" ++ value).toList = some ⟨name, value⟩ := by
  have hpair : (name ++ "=" ++ value).toList = name.toList ++ '=' :: value.toList := by simp
  have hfree : ∀ c ∈ name.toList, c ≠ '=' := fun c hc => (hname c hc).ne (by decide)
  have hcut := Text.cutFirst?_append_cons hfree value.toList
  have hempty : name.toList.isEmpty = false := by simpa using hne
  simp only [read?, hpair, hcut, trimChars_of_bare hname, trimChars_of_bare hvalue, hempty,
    unescape?_of_bare hname, unescape?_of_bare hvalue]
  rfl

theorem isReadable_of_bare (hname : Bare name) (hvalue : Bare value) :
    Request.isReadable (name ++ "=" ++ value) = true := by
  have hvisible : ∀ {c : Char}, IsBare c → (c == '\t' || (' ' ≤ c && c ≤ '~')) = true := by
    intro c hc
    have hbounds := hc.bounds
    have hlow : ' ' ≤ c := Nat.le_of_lt hbounds.1.1
    have hhigh : c ≤ '~' := Nat.le_of_lt_succ hbounds.1.2
    simp [hlow, hhigh]
  have hequals : Request.isReadable "=" = true := by decide
  simp only [Request.isReadable, String.toList_append, List.all_append, Bool.and_eq_true] at *
  exact ⟨⟨List.all_eq_true.mpr fun c hc => hvisible (hname c hc), hequals⟩,
    List.all_eq_true.mpr fun c hc => hvisible (hvalue c hc)⟩

/-- A header with a cookie that is read, as the last one of its name, is the last to be read. -/
theorem headerValues_append_cons {r : Request} {before after : List (String × String)}
    {name header value : String} (hr : r.headers = before ++ (header, value) :: after)
    (hheader : Text.sameLetters header name = true) (hvalue : Request.isReadable value = true)
    (hafter : ∀ h ∈ after, Text.sameLetters h.1 name = false) :
    ∃ earlier, r.headerValues name = earlier ++ [value] := by
  have hnone : after.filter (fun h => Text.sameLetters h.1 name && Request.isReadable h.2) = [] :=
    List.filter_eq_nil_iff.mpr fun h hh => by simp [hafter h hh]
  rw [Request.headerValues, hr, List.filter_append, List.filter_cons_of_pos (by simp [*]), hnone,
    List.map_append]
  exact ⟨_, rfl⟩

/-- **A cookie is found as it was set**, whatever cookies came before it. -/
theorem find?_sentBack {c : SetCookie} (hname : Bare c.name) (hne : c.name ≠ "")
    (hvalue : Bare c.value) {r : Request} {before after : List (String × String)} {header : String}
    (hheader : Text.sameLetters header "cookie" = true)
    (hafter : ∀ h ∈ after, Text.sameLetters h.1 "cookie" = false)
    (hr : r.headers = before ++ (header, SetCookie.sentBack c.text) :: after) :
    find? (ofRequest r) c.name = some c.value := by
  rw [sentBack_text hname hvalue] at hr
  obtain ⟨earlier, hvalues⟩ := headerValues_append_cons hr hheader
    (isReadable_of_bare hname hvalue) hafter
  -- cookies are looked up from the last one on
  have hlast : ofRequest r = ⟨c.name, c.value⟩ :: (earlier.flatMap fun value =>
      (Text.pieces ';' value.toList).filterMap read?).reverse := by
    rw [ofRequest, hvalues, List.flatMap_append, List.flatMap_singleton,
      Text.pieces_of_forall_ne (ne_semicolon_of_mem hname hvalue), List.reverse_append]
    simp only [List.filterMap_cons, read?_of_bare hname hne hvalue, List.filterMap_nil]
    rfl
  rw [hlast, find?, List.find?_cons_of_pos (by simp)]
  rfl

end Cookie

end Gatehouse
