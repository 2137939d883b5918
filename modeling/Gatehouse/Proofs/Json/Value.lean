import Gatehouse.Json.Decode
import Gatehouse.Json.Printer
import Gatehouse.Proofs.Json.Number
import Gatehouse.Proofs.Json.Typed

/-!
# Reading values that were written

A decoder reads a written value when it takes exactly the text of the value, whatever follows, as
long as what follows may stand behind a value (`Reads`). Scalars are read as themselves
(`reads_scalar`), so each simple decoder reads the scalars of its kind and leaves the text of all
others behind (`ofScalar_eq`). Lists are read item by item (`reads_list`), and what nobody asks for
is passed over (`passes_scalar`, `passes_list`).
-/

namespace Gatehouse

/-- Whether a value is one without parts, and can be read back as written. -/
def Json.IsScalar : Json → Prop
  | .null | .bool _ | .str _ => True
  | .int n => -(Decimal.maxInt64 : Int) - 1 ≤ n ∧ n ≤ Decimal.maxUInt64
  | .float _ | .arr _ | .obj _ => False

namespace Decoder

open Text

variable {α β : Type} {depth : Nat} {s rest : Bytes}

/-! ### Signs -/

theorem peek_cons {b : UInt8} (h : isSpace b = false) (rest : Bytes) :
    peek depth (b :: rest) = (.ok (some (sign b)), b :: rest) := by
  have hskip : skipSpace (b :: rest) = b :: rest := List.dropWhile_cons_of_neg (by simp [h])
  rw [peek, hskip]
  rfl

/-- What is done next is told by the next sign. -/
theorem peek_bind {b : UInt8} (h : isSpace b = false) {f : Option Char → Decoder α}
    {x : Decoder α} (hf : f (some (sign b)) = x) (rest : Bytes) :
    (peek >>= f) depth (b :: rest) = x depth (b :: rest) := by
  rw [bind_ok (peek_cons h rest), hf]

/-- Whether a value ends here: nothing follows, or a sign that may stand behind a value. -/
def Ends (rest : Bytes) : Prop :=
  ∀ b, rest.head? = some b → sign b = ',' ∨ sign b = ']' ∨ sign b = '\x7d'

theorem ends_nil : Ends [] := by
  intro b h
  cases h

theorem ends_cons {b : UInt8} (h : sign b = ',' ∨ sign b = ']' ∨ sign b = '\x7d') (rest : Bytes) :
    Ends (b :: rest) := by
  intro c hc
  cases hc
  exact h

/-- No number goes on where a value ends. -/
theorem Ends.number (h : Ends rest) : JsonNumber.Ends rest := by
  intro b hb
  rw [JsonNumber.digit?, JsonNumber.isExponentMark]
  rcases h b hb with h | h | h <;> rw [h] <;> decide

/-- Whether a byte may be the first of a value. -/
structure Opens (b : UInt8) : Prop where
  not_space : isSpace b = false
  ne_close : sign b ≠ ']'

/-- Whether a byte may be the first of a scalar. -/
structure OpensScalar (b : UInt8) : Prop extends Opens b where
  ne_array : sign b ≠ '['
  ne_object : sign b ≠ '\x7b'

instance (b : UInt8) : Decidable (OpensScalar b) :=
  decidable_of_iff
    (isSpace b = false ∧ sign b ≠ ']' ∧ sign b ≠ '[' ∧ sign b ≠ '\x7b')
    ⟨fun ⟨h, h', h'', h'''⟩ => ⟨⟨h, h'⟩, h'', h'''⟩, fun h => ⟨h.1.1, h.1.2, h.2, h.3⟩⟩

/-- Whether the text of a value begins with a byte of some kind. -/
def Begins (P : UInt8 → Prop) (j : Json) : Prop :=
  ∀ rest, ∃ b more, bytes j.chars ++ rest = b :: more ∧ P b

theorem Begins.imp {P Q : UInt8 → Prop} {j : Json} (h : Begins P j) (himp : ∀ b, P b → Q b) :
    Begins Q j := by
  intro rest
  obtain ⟨b, more, hb, hp⟩ := h rest
  exact ⟨b, more, hb, himp b hp⟩

/-- A decoder reads a written value as some value, at some depth and at all greater ones. -/
def Reads (decode : Decoder α) (least : Nat) (j : Json) (a : α) : Prop :=
  ∀ depth rest, least ≤ depth → Ends rest → decode depth (bytes j.chars ++ rest) = (.ok a, rest)

theorem Reads.mono {decode : Decoder α} {least more : Nat} {j : Json} {a : α}
    (h : Reads decode least j a) (hle : least ≤ more) : Reads decode more j a :=
  fun depth rest hdepth => h depth rest (Nat.le_trans hle hdepth)

theorem Reads.map {decode : Decoder α} {least : Nat} {j : Json} {a : α}
    (h : Reads decode least j a) (f : α → β) : Reads (f <$> decode) least j (f a) :=
  fun depth rest hdepth hrest => bind_ok (h depth rest hdepth hrest)

/-! ### Scalars -/

theorem exists_digit {b : UInt8} (h : (JsonNumber.digit? b).isSome = true) :
    ∃ d < 10, b = UInt8.ofNat (48 + d) := by
  have hrange : 48 ≤ b.toNat ∧ b.toNat < 58 := by
    rw [JsonNumber.digit?, Decimal.digit?] at h
    split at h
    · next hc =>
      have hlow : '0'.toNat ≤ (sign b).toNat := hc.1
      have hhigh : (sign b).toNat ≤ '9'.toNat := hc.2
      rw [toNat_sign] at hlow hhigh
      exact ⟨hlow, Nat.lt_succ_of_le hhigh⟩
    · cases h
  exact ⟨b.toNat - 48, by omega, by rw [Nat.add_sub_cancel' hrange.1, UInt8.ofNat_toNat]⟩

private theorem bytes_quote (s : String) (rest : Bytes) :
    bytes (Json.quote s) ++ rest = 0x22 :: (bytes (Json.escape s.toList) ++ 0x22 :: rest) := by
  have hquote : Json.quote s = '"' :: (Json.escape s.toList ++ ['"']) := rfl
  have hend : bytes ['"'] = [0x22] := rfl
  rw [hquote, bytes_cons, bytes_append, hend, List.append_assoc, List.append_assoc]
  rfl

private theorem bytes_intChars_of_neg {n : Int} (h : n < 0) :
    bytes (Decimal.intChars n) = 0x2D :: bytes (Decimal.natDigits n.natAbs) := by
  rw [Decimal.intChars, if_pos h]
  rfl

private theorem bytes_intChars_of_not {n : Int} (h : ¬ n < 0) :
    bytes (Decimal.intChars n) = bytes (Decimal.natDigits n.natAbs) := by
  rw [Decimal.intChars, if_neg h]

theorem begins_scalar {j : Json} (h : j.IsScalar) : Begins OpensScalar j := by
  intro rest
  match j, h with
  | .null, _ => exact ⟨0x6E, _, rfl, by decide⟩
  | .bool true, _ => exact ⟨0x74, _, rfl, by decide⟩
  | .bool false, _ => exact ⟨0x66, _, rfl, by decide⟩
  | .str s, _ => exact ⟨0x22, _, by rw [Json.chars, bytes_quote], by decide⟩
  | .int n, _ =>
    rw [Json.chars]
    by_cases hn : n < 0
    · exact ⟨0x2D, _, by rw [bytes_intChars_of_neg hn]; rfl, by decide⟩
    -- the first digit may be any of the ten
    · obtain ⟨b, more, hb, hdigit⟩ := JsonNumber.exists_bytes_natDigits n.natAbs rest
      obtain ⟨d, hd, rfl⟩ := exists_digit hdigit
      have hopens : ∀ d < 10, OpensScalar (UInt8.ofNat (48 + d)) := by decide
      exact ⟨_, more, by rw [bytes_intChars_of_not hn, hb], hopens d hd⟩

private theorem scalar_digit {d : Nat} (h : d < 10) (more : Bytes) :
    scalar depth (UInt8.ofNat (48 + d) :: more) =
      JsonNumber.read false (UInt8.ofNat (48 + d) :: more) := by
  match d, h with
  | 0, _ | 1, _ | 2, _ | 3, _ | 4, _ | 5, _ | 6, _ | 7, _ | 8, _ | 9, _ => rfl

private theorem scalar_int {n : Int} (h : (Json.int n).IsScalar) (hrest : Ends rest) :
    scalar depth (bytes (Json.int n).chars ++ rest) = (.ok (.int n), rest) := by
  obtain ⟨hlow, hhigh⟩ := h
  rw [Json.chars]
  by_cases hn : n < 0
  -- below zero the sign is taken off first, and what is left has a bound of its own
  · have hle : n.natAbs ≤ Decimal.maxUInt64 := by
      simp only [Decimal.maxInt64, Decimal.maxUInt64] at *
      omega
    have hkept : (JsonNumber.Kept.mk true n.natAbs 0).int? = some n := by
      have hrange : 0 < n.natAbs ∧ n.natAbs ≤ Decimal.maxInt64 + 1 := by omega
      have hvalue : -(n.natAbs : Int) = n := by omega
      simp only [JsonNumber.Kept.int?, Bool.not_true, Bool.false_eq_true, if_false, if_pos hrange,
        hvalue]
    rw [bytes_intChars_of_neg hn]
    exact JsonNumber.read_natDigits hle hrest.number hkept
  · obtain ⟨b, more, hb, hdigit⟩ := JsonNumber.exists_bytes_natDigits n.natAbs rest
    obtain ⟨d, hd, rfl⟩ := exists_digit hdigit
    have hkept : (JsonNumber.Kept.mk false n.natAbs 0).int? = some n := by
      have hvalue : (n.natAbs : Int) = n := by omega
      simp only [JsonNumber.Kept.int?, Bool.not_false, if_true, hvalue]
    rw [bytes_intChars_of_not hn, hb, scalar_digit hd, ← hb]
    exact JsonNumber.read_natDigits (by omega) hrest.number hkept

private theorem scalar_str (s : String) :
    scalar depth (bytes (Json.str s).chars ++ rest) = (.ok (.str s), rest) := by
  have hread : (ofReading JsonText.read) depth (bytes (Json.escape s.toList) ++ 0x22 :: rest) =
      (.ok s, rest) := JsonText.read_escape s rest
  rw [Json.chars, bytes_quote]
  exact bind_ok hread

/-- **A scalar is read as itself.** -/
theorem reads_scalar {j : Json} (h : j.IsScalar) : Reads scalar 0 j j := by
  intro depth rest _ hrest
  match j, h with
  | .null, _ => rfl
  | .bool true, _ => rfl
  | .bool false, _ => rfl
  | .str s, _ => exact scalar_str s
  | .int n, hn => exact scalar_int hn hrest

private theorem ofScalar_cons {b : UInt8} (h : OpensScalar b) (kind : Json → Option α)
    (more : Bytes) :
    ofScalar kind depth (b :: more) =
      (scalar >>= fun j => match kind j with
        | some a => pure a
        | none => unfit) depth (b :: more) := by
  refine peek_bind h.not_space ?_ more
  split
  · next hb => exact absurd (Option.some.inj hb) h.ne_array
  · next hb => exact absurd (Option.some.inj hb) h.ne_object
  · rfl

/-- A simple decoder reads the scalars of its kind, and refuses all others behind their text. -/
theorem ofScalar_eq {j : Json} (h : j.IsScalar) (kind : Json → Option α) (hrest : Ends rest) :
    ofScalar kind depth (bytes j.chars ++ rest) =
      ((kind j).elim (.error .dataFault) .ok, rest) := by
  have hscalar := reads_scalar h depth rest (Nat.zero_le _) hrest
  obtain ⟨b, more, hb, hopens⟩ := begins_scalar h rest
  rw [hb] at hscalar ⊢
  rw [ofScalar_cons hopens, bind_ok hscalar]
  cases kind j with
  | some a => rfl
  | none => rfl

theorem reads_ofScalar {j : Json} (h : j.IsScalar) {kind : Json → Option α} {a : α}
    (hkind : kind j = some a) : Reads (ofScalar kind) 0 j a := by
  intro depth rest _ hrest
  rw [ofScalar_eq h kind hrest, hkind]
  rfl

theorem reads_text (s : String) : Reads text 0 (.str s) s :=
  reads_ofScalar (j := .str s) trivial rfl

theorem isScalar_int {n : Int} (h : Decimal.IsInt64 n) : (Json.int n).IsScalar :=
  ⟨h.1, Int.le_trans h.2 (by decide)⟩

theorem reads_int64 {n : Int} (h : Decimal.IsInt64 n) : Reads int64 0 (.int n) n :=
  reads_ofScalar (isScalar_int h) (if_pos h)

theorem reads_ofText {read? : String → Option α} {s : String} {a : α} (h : read? s = some a) :
    Reads (ofText read?) 0 (.str s) a := by
  intro depth rest hdepth hrest
  rw [ofText, bind_ok (reads_text s depth rest hdepth hrest), h]
  rfl

theorem reads_choice {named : String → Option α} {s : String} {a : α} (h : named s = some a) :
    Reads (choice named) 0 (.str s) a := by
  intro depth rest hdepth hrest
  have hread := reads_ofText h depth rest hdepth hrest
  rw [Json.chars, bytes_quote] at hread ⊢
  exact (peek_bind (by decide) rfl _).trans hread

theorem reads_option_some {decode : Decoder α} {least : Nat} {j : Json} {a : α}
    (h : Reads decode least j a) (hj : Begins (fun b => isSpace b = false ∧ sign b ≠ 'n') j) :
    Reads (option decode) least j (some a) := by
  intro depth rest hdepth hrest
  have hread := h.map some depth rest hdepth hrest
  obtain ⟨b, more, hb, hspace, hnull⟩ := hj rest
  rw [hb] at hread ⊢
  refine (peek_bind (x := some <$> decode) hspace ?_ more).trans hread
  simp [hnull]

theorem reads_option_none (decode : Decoder α) : Reads (option decode) 0 .null none := by
  intro depth rest hdepth hrest
  have hunit : Reads unit 0 .null () := reads_ofScalar (j := .null) trivial rfl
  exact (peek_bind (b := 0x6E) (by decide) rfl _).trans (bind_ok (hunit depth rest hdepth hrest))

theorem reads_option_text (t : Option String) :
    Reads (option text) 0 (Json.ofOption .str t) t := by
  cases t with
  | none => exact reads_option_none text
  | some t =>
    have hquote : Begins (fun b => isSpace b = false ∧ sign b ≠ 'n') (.str t) := fun rest =>
      ⟨0x22, _, by rw [Json.chars, bytes_quote], by decide⟩
    exact reads_option_some (reads_text t) hquote

/-! ### Lists -/

/-- An array is read through its items and the closing bracket. -/
theorem enclosed_ok {bracket : Char} {body : Decoder α} {a : α} {s : Bytes} {c : UInt8}
    (hclose : isSpace c = false) (hc : sign c = bracket)
    (hbody : body depth s = (.ok a, c :: rest)) (b : UInt8) :
    enclosed bracket body (depth + 1) (b :: s) = (.ok a, rest) := by
  have hskip : skipSpace (c :: rest) = c :: rest := List.dropWhile_cons_of_neg (by simp [hclose])
  have hnext : nextSign (c :: rest) = some bracket := by rw [nextSign, hskip, ← hc]; rfl
  have henclosed := enclosed_of_eq_ok (s := b :: s) hbody hnext
  rwa [hskip] at henclosed

private theorem bytes_itemChars_cons (j : Json) (js : List Json) (rest : Bytes) :
    bytes (Json.itemChars (j :: js)) ++ rest =
      0x2C :: (bytes j.chars ++ (bytes (Json.itemChars js) ++ rest)) := by
  rw [Json.itemChars, bytes_cons, bytes_append, List.append_assoc, List.append_assoc]
  rfl

private theorem bytes_arr_cons (j : Json) (js : List Json) (rest : Bytes) :
    bytes (Json.arr (j :: js)).chars ++ rest =
      0x5B :: (bytes j.chars ++ (bytes (Json.itemChars js) ++ rest)) := by
  rw [Json.chars, bytes_cons, bytes_append, List.append_assoc, List.append_assoc]
  rfl

theorem begins_arr (js : List Json) : Begins (fun b => b = 0x5B) (.arr js) := by
  intro rest
  cases js with
  | nil => exact ⟨0x5B, _, rfl, rfl⟩
  | cons j js => exact ⟨0x5B, _, bytes_arr_cons j js rest, rfl⟩

private theorem ends_itemChars (js : List Json) (rest : Bytes) :
    Ends (bytes (Json.itemChars js) ++ rest) := by
  cases js with
  | nil => exact ends_cons (by decide) rest
  | cons j js =>
    rw [bytes_itemChars_cons]
    exact ends_cons (by decide) _

private theorem length_le_itemChars (js : List Json) (rest : Bytes) :
    js.length ≤ (bytes (Json.itemChars js) ++ rest).length := by
  induction js with
  | nil => exact Nat.zero_le _
  | cons j js ih =>
    rw [bytes_itemChars_cons]
    simp only [List.length_cons, List.length_append] at *
    omega

private theorem hasItem_false_comma (rest : Bytes) :
    hasItem false depth (0x2C :: rest) =
      (peek >>= fun
        | none => broken
        | some c => if c = ']' then broken else pure true) depth rest := rfl

private theorem hasItem_comma {b : UInt8} (h : Opens b) (more : Bytes) :
    hasItem false depth (0x2C :: b :: more) = (.ok true, b :: more) := by
  rw [hasItem_false_comma]
  exact (peek_bind (x := pure true) h.not_space (if_neg h.ne_close) more).trans rfl

private theorem hasItem_first {b : UInt8} (h : Opens b) (more : Bytes) :
    hasItem true depth (b :: more) = (.ok true, b :: more) :=
  (peek_bind (x := pure true) h.not_space (if_neg h.ne_close) more).trans rfl

private theorem items_cons {decode : Decoder α} {bound : Nat} {first : Bool} {a : α} {as : List α}
    {s s' s'' : Bytes} (hitem : hasItem first depth s = (.ok true, s'))
    (hread : decode depth s' = (.ok a, s''))
    (hrest : items decode bound false depth s'' = (.ok as, rest)) :
    items decode (bound + 1) first depth s = (.ok (a :: as), rest) := by
  rw [items, bind_ok hitem]
  show (decode >>= fun a => items decode bound false >>= fun as => pure (a :: as)) depth s' = _
  rw [bind_ok hread, bind_ok hrest]
  rfl

section Lists

variable {decode : Decoder α} {write : α → Json} {least : Nat}

private theorem items_itemChars (hdepth : least ≤ depth) {as : List α}
    (hread : ∀ a ∈ as, Reads decode least (write a) a) (hopens : ∀ a ∈ as, Begins Opens (write a))
    {bound : Nat} (hbound : as.length < bound) :
    items decode bound false depth (bytes (Json.itemChars (as.map write)) ++ rest) =
      (.ok as, 0x5D :: rest) := by
  -- the bound goes down with each item that is read, and stays above the number of those left
  induction as generalizing bound with
  | nil =>
    cases bound with
    | zero => cases hbound
    | succ bound => rfl
  | cons a as ih =>
    cases bound with
    | zero => cases hbound
    | succ bound =>
      have ha : a ∈ a :: as := List.mem_cons_self
      have hends := ends_itemChars (as.map write) rest
      obtain ⟨b, more, hb, hb'⟩ := hopens a ha (bytes (Json.itemChars (as.map write)) ++ rest)
      rw [List.map_cons, bytes_itemChars_cons]
      refine items_cons (by rw [hb]; exact hasItem_comma hb' more)
        (by rw [← hb]; exact hread a ha depth _ hdepth hends) ?_
      exact ih (fun x hx => hread x (List.mem_cons_of_mem a hx))
        (fun x hx => hopens x (List.mem_cons_of_mem a hx)) (Nat.lt_of_succ_lt_succ hbound)

private theorem list_bracket (s : Bytes) :
    list decode depth (0x5B :: s) =
      enclosed ']' (items decode (s.length + 2) true) depth (0x5B :: s) := rfl

/-- **A list is read item by item.** -/
theorem reads_list {as : List α} (hread : ∀ a ∈ as, Reads decode least (write a) a)
    (hopens : ∀ a ∈ as, Begins Opens (write a)) :
    Reads (list decode) (least + 1) (.arr (as.map write)) as := by
  intro depth rest hdepth hrest
  obtain ⟨depth, rfl⟩ : ∃ d, depth = d + 1 := ⟨depth - 1, by omega⟩
  have hleast : least ≤ depth := Nat.le_of_succ_le_succ hdepth
  -- the first item has no comma before it, and the others are read by `items_itemChars`
  cases as with
  | nil =>
    exact (list_bracket _).trans (enclosed_ok (c := 0x5D) (by decide) (by decide) rfl _)
  | cons a as =>
    have ha : a ∈ a :: as := List.mem_cons_self
    have hends := ends_itemChars (as.map write) rest
    obtain ⟨b, more, hb, hb'⟩ := hopens a ha (bytes (Json.itemChars (as.map write)) ++ rest)
    have hlength := length_le_itemChars (as.map write) rest
    rw [List.map_cons, bytes_arr_cons, list_bracket]
    refine enclosed_ok (c := 0x5D) (by decide) (by decide) ?_ _
    refine items_cons (by rw [hb]; exact hasItem_first hb' more)
      (by rw [← hb]; exact hread a ha depth _ hleast hends) ?_
    refine items_itemChars hleast (fun x hx => hread x (List.mem_cons_of_mem a hx))
      (fun x hx => hopens x (List.mem_cons_of_mem a hx)) ?_
    -- the bound is taken from the length of the text, in which each item has at least its comma
    have hbody := (List.sublist_append_right (bytes (write a).chars)
      (bytes (Json.itemChars (as.map write)) ++ rest)).length_le
    simp only [List.length_map] at hlength
    omega

end Lists

/-! ### Values that nobody asks for -/

theorem reads_raw {j : Json} (h : j.IsScalar) : Reads raw 0 j j := by
  intro depth rest hdepth hrest
  have hscalar := reads_scalar h depth rest hdepth hrest
  obtain ⟨b, more, hb, hopens⟩ := begins_scalar h rest
  rw [hb] at hscalar ⊢
  have hstep : raw depth (b :: more) = scalar depth (b :: more) :=
    peek_bind hopens.not_space (by simp [hopens.ne_array, hopens.ne_object]) more
  rw [hstep, hscalar]

theorem passes_scalar {j : Json} (h : j.IsScalar) : Reads ignored 0 j () :=
  fun depth rest hdepth hrest => ignored_of_raw (reads_raw h depth rest hdepth hrest)

/-- A list of scalars is passed over. -/
theorem passes_list {js : List Json} (h : ∀ j ∈ js, j.IsScalar) : Reads ignored 0 (.arr js) () := by
  intro depth rest _ hrest
  have hlist : Reads (list (ofScalar some)) 1 (.arr (js.map id)) js :=
    reads_list (fun j hj => reads_ofScalar (h j hj) rfl) fun j hj =>
      (begins_scalar (h j hj)).imp fun _ hb => hb.toOpens
  rw [List.map_id] at hlist
  -- reading the list takes a level, and passing over it does not
  have hread := hlist (depth + 1) rest (Nat.le_add_left 1 depth) hrest
  obtain ⟨j, hj, -⟩ := shows_list some _ _ _ _ hread
  exact ignored_of_raw hj

/-! ### Whole texts -/

/-- What is read from a written value is read from a text that is the written value. -/
theorem run_of_reads {decode : Decoder α} {least : Nat} {j : Json} {a : α}
    (h : Reads decode least j a) (hleast : least ≤ maxDepth) : decode.run j.render = .ok a := by
  have hread := h maxDepth [] hleast ends_nil
  rw [List.append_nil] at hread
  rw [run, Json.render, utf8_ofList, runBytes, hread]
  rfl

end Decoder

end Gatehouse
