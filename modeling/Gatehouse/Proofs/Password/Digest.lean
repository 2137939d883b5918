import Gatehouse.Password.Digest
import Gatehouse.Proofs.Base64
import Gatehouse.Proofs.Decimal.Digits
import Gatehouse.Proofs.Text.Cut
import Gatehouse.Proofs.Text.Utf8

/-!
# Reading digests that were written

A stored digest is written as fields behind dollar signs, and `read_text` says that it is read back
as the same digest, whichever of its fields are there. `IsWritable` is what this takes: each field
is one that a reader would accept, and the parameters cannot be taken for a version.

No field contains a dollar sign, so the text falls apart into the fields (`pieces_text`); within the
field of the parameters the same is so for the commas, and within a parameter for the equals sign.
-/

namespace Gatehouse.PasswordDigest

open Text Decimal

/-! ### Characters -/

theorem toNat_lt_of_le {c d : Char} (h : c.val ≤ d.val) (hd : d.toNat < 128) : c.toNat < 128 :=
  Nat.lt_of_le_of_lt (UInt32.le_iff_toNat_le.mp h) hd

theorem lt_of_isValueChar {c : Char} (h : isValueChar c = true) : c.toNat < 128 := by
  unfold isValueChar Char.isAlphanum Char.isAlpha Char.isUpper Char.isLower Char.isDigit at h
  simp only [Bool.or_eq_true, Bool.and_eq_true, decide_eq_true_eq, beq_iff_eq] at h
  rcases h with ((((((⟨-, h⟩ | ⟨-, h⟩) | ⟨-, h⟩) | rfl) | rfl) | rfl) | rfl)
  · exact toNat_lt_of_le h (by decide)
  · exact toNat_lt_of_le h (by decide)
  · exact toNat_lt_of_le h (by decide)
  all_goals decide

theorem isValueChar_of_isNameChar {c : Char} (h : isNameChar c = true) : isValueChar c = true := by
  unfold isValueChar Char.isAlphanum Char.isAlpha
  simp only [isNameChar, Bool.or_eq_true] at h ⊢
  rcases h with (h | h) | h <;> simp [h]

theorem isValueChar_of_isDigit {c : Char} (h : c.isDigit = true) : isValueChar c = true := by
  simp [isValueChar, Char.isAlphanum, h]

/-- What separates fields, parameters, and names from values stands in no value. -/
theorem ne_of_isValueChar {sep c : Char} (hsep : isValueChar sep = false)
    (h : isValueChar c = true) : c ≠ sep := by
  rintro rfl
  rw [h] at hsep
  cases hsep

theorem byteLength_eq {s : List Char} (h : ∀ c ∈ s, c.toNat < 128) : byteLength s = s.length := by
  rw [byteLength, utf8_ofList, bytes_of_lt h, List.length_map]

theorem byteLength_of_isValueChar {s : List Char} (h : ∀ c ∈ s, isValueChar c = true) :
    byteLength s = s.length :=
  byteLength_eq fun c hc => lt_of_isValueChar (h c hc)

/-! ### Names, values and numbers -/

/-- Whether a text may stand as a name. -/
structure IsName (s : String) : Prop where
  ne_nil : s.toList ≠ []
  length_le : s.toList.length ≤ 32
  chars : ∀ c ∈ s.toList, isNameChar c = true

/-- Whether a text may stand as a value. -/
structure IsValue (s : String) : Prop where
  length_le : s.toList.length ≤ 64
  chars : ∀ c ∈ s.toList, isValueChar c = true

theorem IsName.ne {s : String} (h : IsName s) {sep : Char} (hsep : isValueChar sep = false) :
    ∀ c ∈ s.toList, c ≠ sep :=
  fun c hc => ne_of_isValueChar hsep (isValueChar_of_isNameChar (h.chars c hc))

theorem IsValue.ne {s : String} (h : IsValue s) {sep : Char} (hsep : isValueChar sep = false) :
    ∀ c ∈ s.toList, c ≠ sep :=
  fun c hc => ne_of_isValueChar hsep (h.chars c hc)

theorem IsName.read {s : String} (h : IsName s) : readName s.toList = .ok s := by
  have hlength := byteLength_of_isValueChar fun c hc =>
    isValueChar_of_isNameChar (h.chars c hc)
  have hall : s.toList.all isNameChar = true := List.all_eq_true.mpr h.chars
  rw [readName, if_neg, String.ofList_toList]
  simp only [h.ne_nil, hlength, hall, Bool.not_true, Bool.false_eq_true, false_or, or_false]
  exact Nat.not_lt_of_le h.length_le

theorem IsValue.read {s : String} (h : IsValue s) : readValue s.toList = .ok s := by
  have hfind : s.toList.find? (fun c => !isValueChar c) = none :=
    List.find?_eq_none.mpr fun c hc => by simp [h.chars c hc]
  rw [readValue, byteLength_of_isValueChar h.chars, if_neg (Nat.not_lt_of_le h.length_le), hfind]
  simp only [String.ofList_toList]

theorem isValueChar_of_mem_natDigits {n : Nat} : ∀ c ∈ natDigits n, isValueChar c = true :=
  fun c hc => isValueChar_of_isDigit ((isDigits_natDigits n).isDigit c hc)

theorem length_natDigits_le_ten {n : Nat} (h : n ≤ 4294967295) : (natDigits n).length ≤ 10 :=
  length_natDigits_le (by decide) (Nat.lt_of_le_of_lt h (by decide))

/-- The digits of a number of 32 bits are a value. -/
theorem isValue_natText {n : Nat} (h : n ≤ 4294967295) : IsValue (natText n) where
  length_le := by
    rw [natText, String.toList_ofList]
    exact Nat.le_trans (length_natDigits_le_ten h) (by decide)
  chars := by
    rw [natText, String.toList_ofList]
    exact isValueChar_of_mem_natDigits

theorem readNumber_natDigits {n : Nat} (h : n ≤ 4294967295) : readNumber (natDigits n) = .ok n := by
  have hdigits := (isDigits_natDigits n).isDigit
  have hfind : (natDigits n).find? (fun c => !c.isDigit) = none :=
    List.find?_eq_none.mpr fun c hc => by simp [hdigits c hc]
  have hzero : ¬((natDigits n).head? = some '0' ∧ 1 < (natDigits n).length) := by
    rintro ⟨hhead, hlong⟩
    rcases Nat.eq_zero_or_pos n with rfl | hpos
    · have hone := length_natDigits_le (n := 0) Nat.one_pos (by decide)
      omega
    · exact head?_natDigits hpos hhead (by decide)
  have hread : readDigits 4294967295 .tooLarge 0 (natDigits n) = .ok n :=
    (readDigits_eq_ok_iff (Nat.zero_le _)).mpr ⟨hdigits, (ofDigitChars_natDigits n).symm, h⟩
  rw [readNumber, if_neg (natDigits_ne_nil n), hfind]
  simp only [if_neg hzero, hread]

/-! ### Parameters -/

/-- The characters of a parameter. -/
def parameterChars (p : String × String) : List Char :=
  p.1.toList ++ '=' :: p.2.toList

/-- The characters of the field of the parameters. -/
def parametersChars (ps : List (String × String)) : List Char :=
  List.intercalate [','] (ps.map parameterChars)

/-- The characters of a parameter stand in its name and its value, or between them. -/
theorem forall_mem_parameterChars {P : Char → Prop} {p : String × String}
    (h : IsName p.1 ∧ IsValue p.2) (hequals : P '=') (hvalue : ∀ c, isValueChar c = true → P c) :
    ∀ c ∈ parameterChars p, P c := by
  intro c hc
  rcases List.mem_append.mp hc with hc | hc
  · exact hvalue c (isValueChar_of_isNameChar (h.1.chars c hc))
  · rcases List.mem_cons.mp hc with rfl | hc
    · exact hequals
    · exact hvalue c (h.2.chars c hc)

theorem forall_mem_parametersChars {P : Char → Prop} {ps : List (String × String)}
    (h : ∀ p ∈ ps, IsName p.1 ∧ IsValue p.2) (hcomma : P ',') (hequals : P '=')
    (hvalue : ∀ c, isValueChar c = true → P c) : ∀ c ∈ parametersChars ps, P c := by
  refine forall_mem_intercalate (by simpa using hcomma) fun _ hmem => ?_
  obtain ⟨p, hp, rfl⟩ := List.mem_map.mp hmem
  exact forall_mem_parameterChars (h p hp) hequals hvalue

/-- Parameters begin with the name of the first. -/
theorem exists_parametersChars_cons (p : String × String) (ps : List (String × String)) :
    ∃ rest, parametersChars (p :: ps) = p.1.toList ++ '=' :: rest := by
  cases ps with
  | nil => exact ⟨p.2.toList, by simp [parametersChars, parameterChars]⟩
  | cons q ps =>
    exact ⟨p.2.toList ++ ',' :: parametersChars (q :: ps),
      by simp [parametersChars, parameterChars, List.intercalate_cons_cons]⟩

theorem equals_mem_parametersChars {ps : List (String × String)} (hne : ps ≠ []) :
    '=' ∈ parametersChars ps := by
  obtain ⟨p, ps, rfl⟩ := List.exists_cons_of_ne_nil hne
  obtain ⟨rest, hchars⟩ := exists_parametersChars_cons p ps
  simp [hchars]

/-- Only parameters that begin with one of this name begin like a version. -/
theorem eq_v_of_parametersChars {p : String × String} {ps : List (String × String)}
    (hname : IsName p.1) {version : List Char}
    (h : parametersChars (p :: ps) = 'v' :: '=' :: version) : p.1 = "v" := by
  obtain ⟨rest, hchars⟩ := exists_parametersChars_cons p ps
  have hne : ∀ c ∈ p.1.toList, c ≠ '=' := hname.ne (by decide)
  have hcut := cutFirst?_append_cons hne rest
  have hversion : cutFirst? '=' (['v'] ++ '=' :: version) = some (['v'], version) :=
    cutFirst?_append_cons (by simp) version
  rw [← hchars, h, ← List.singleton_append, hversion] at hcut
  have hlist : p.1.toList = ['v'] := (congrArg Prod.fst (Option.some.inj hcut)).symm
  rw [← String.ofList_toList (s := p.1), hlist]

theorem readParameter_chars {p : String × String} (hname : IsName p.1) (hvalue : IsValue p.2) :
    readParameter (parameterChars p) = .ok p := by
  rw [readParameter, parameterChars, pieces_append_cons (hname.ne (by decide)),
    pieces_of_forall_ne (hvalue.ne (by decide))]
  simp only [hname.read, hvalue.read]
  rfl

theorem readParameters_map {ps : List (String × String)}
    (h : ∀ p ∈ ps, IsName p.1 ∧ IsValue p.2) : readParameters (ps.map parameterChars) = .ok ps := by
  induction ps with
  | nil => rfl
  | cons p ps ih =>
    obtain ⟨⟨hname, hvalue⟩, hps⟩ := List.forall_mem_cons.mp h
    rw [List.map_cons, readParameters, readParameter_chars hname hvalue, ih hps]
    rfl

theorem readParameters_pieces {ps : List (String × String)} (hne : ps ≠ [])
    (h : ∀ p ∈ ps, IsName p.1 ∧ IsValue p.2) :
    readParameters (pieces ',' (parametersChars ps)) = .ok ps := by
  rw [parametersChars, pieces_intercalate (by simpa using hne), readParameters_map h]
  intro _ hmem
  obtain ⟨p, hp, rfl⟩ := List.mem_map.mp hmem
  exact forall_mem_parameterChars (P := (· ≠ ',')) (h p hp) (by decide)
    fun _ => ne_of_isValueChar (by decide)

/-! ### The salt and the result -/

theorem IsValue.readSalt {s : String} (h : IsValue s) (hlength : 4 ≤ s.toList.length) :
    readSalt s.toList = .ok s := by
  rw [PasswordDigest.readSalt, byteLength_of_isValueChar h.chars,
    if_neg (Nat.not_lt_of_le hlength), h.read]
  rfl

/-- The characters of the result. -/
def resultChars (bytes : Bytes) : List Char :=
  Base64.encodeChars Base64.standard bytes

theorem isValueChar_of_mem_encodeChars {bytes : Bytes} :
    ∀ c ∈ resultChars bytes, isValueChar c = true := by
  have hall := Base64.forall_mem_encode (a := Base64.standard) (P := (isValueChar · = true))
    (by decide) bytes
  rwa [Base64.encode, String.toList_ofList] at hall

/-- A salt of up to 48 bytes is a value. -/
theorem isValue_encode {bytes : Bytes} (h : bytes.length ≤ 48) :
    IsValue (Base64.encode Base64.standard bytes) where
  length_le := by
    rw [Base64.encode, String.toList_ofList, Base64.length_encodeChars]
    omega
  chars := by
    rw [Base64.encode, String.toList_ofList]
    exact isValueChar_of_mem_encodeChars

theorem readBytes_encodeChars {limit : Nat} {bytes : Bytes} (h : bytes.length ≤ limit) :
    readBytes limit (resultChars bytes) = .ok bytes := by
  have hlength : (resultChars bytes).length = (4 * bytes.length + 2) / 3 :=
    Base64.length_encodeChars _ _
  have hdecode : Base64.decodeChars Base64.standard (resultChars bytes) = some bytes := by
    have hread := Base64.decode?_encode Base64.legible_standard bytes
    rwa [Base64.decode?, Base64.encode, String.toList_ofList] at hread
  rw [readBytes, byteLength_of_isValueChar isValueChar_of_mem_encodeChars, hlength, hdecode]
  exact if_neg (by omega)

theorem readResult_encodeChars {bytes : Bytes} (hshort : 10 ≤ bytes.length)
    (hlong : bytes.length ≤ 64) : readResult (resultChars bytes) = .ok bytes := by
  rw [readResult, readBytes_encodeChars hlong]
  exact if_neg (Nat.not_lt_of_le hshort)

/-! ### Digests -/

/-- Whether a digest is read back once it is written. -/
structure IsWritable (d : PasswordDigest) : Prop where
  method : IsName d.method
  version : ∀ v ∈ d.version, v ≤ 4294967295
  parameters : ∀ p ∈ d.parameters, IsName p.1 ∧ IsValue p.2
  length_parameters : (parametersChars d.parameters).length ≤ 127
  /-- The parameters of a digest without a version are not taken for one. -/
  unversioned : d.version = none → ∀ p ∈ d.parameters, p.1 ≠ "v"
  salt : ∀ s ∈ d.salt, IsValue s ∧ 4 ≤ s.toList.length
  result : ∀ bytes ∈ d.result, d.salt ≠ none ∧ 10 ≤ bytes.length ∧ bytes.length ≤ 64

/-- The fields behind the version. -/
def tailFields (d : PasswordDigest) : List (List Char) :=
  (if d.parameters = [] then [] else [parametersChars d.parameters]) ++
    (d.salt.map String.toList).toList ++ (d.result.map resultChars).toList

/-- The fields behind the method. -/
def fields (d : PasswordDigest) : List (List Char) :=
  (d.version.map fun v => 'v' :: '=' :: natDigits v).toList ++ d.tailFields

theorem toList_comp_parameter :
    (String.toList ∘ fun p : String × String => p.1 ++ "=" ++ p.2) = parameterChars := by
  funext p
  simp [parameterChars]

/-- The text of a digest is its fields, each behind a dollar sign. -/
theorem toList_text (d : PasswordDigest) :
    d.text.toList = '$' :: (d.method.toList ++ d.fields.flatMap ('$' :: ·)) := by
  obtain ⟨method, version, parameters, salt, result⟩ := d
  cases version <;> cases salt <;> cases result <;> by_cases hp : parameters = [] <;>
    simp [text, fields, tailFields, hp, natText, parametersChars, toList_comp_parameter,
      resultChars, Base64.encode]

/-- Fields without a separator come apart where they were put together. -/
theorem pieces_flatMap {sep : Char} {first : List Char} {rest : List (List Char)}
    (hfirst : ∀ c ∈ first, c ≠ sep) (hrest : ∀ p ∈ rest, ∀ c ∈ p, c ≠ sep) :
    pieces sep (first ++ rest.flatMap (sep :: ·)) = first :: rest := by
  induction rest generalizing first with
  | nil => rw [List.flatMap_nil, List.append_nil, pieces_of_forall_ne hfirst]
  | cons p rest ih =>
    obtain ⟨hp, hrest⟩ := List.forall_mem_cons.mp hrest
    rw [List.flatMap_cons, List.cons_append, pieces_append_cons hfirst, ih hp hrest]

section

variable {d : PasswordDigest} (h : d.IsWritable)

include h

theorem IsWritable.ne_of_mem_fields : ∀ field ∈ d.fields, ∀ c ∈ field, c ≠ '$' := by
  intro field hfield c hc
  simp only [fields, tailFields, List.mem_append, Option.mem_toList, Option.map_eq_some_iff]
    at hfield
  rcases hfield with ⟨v, hv, rfl⟩ | (hfield | ⟨s, hs, rfl⟩) | ⟨bytes, hbytes, rfl⟩
  · rcases List.mem_cons.mp hc with rfl | hc
    · decide
    · rcases List.mem_cons.mp hc with rfl | hc
      · decide
      · exact ne_of_isValueChar (by decide) (isValueChar_of_mem_natDigits c hc)
  · split at hfield
    · cases hfield
    · rw [List.mem_singleton.mp hfield] at hc
      exact forall_mem_parametersChars (P := (· ≠ '$')) h.parameters (by decide) (by decide)
        (fun c => ne_of_isValueChar (by decide)) c hc
  · exact (h.salt s hs).1.ne (by decide) c hc
  · exact ne_of_isValueChar (by decide) (isValueChar_of_mem_encodeChars c hc)

/-- The fields of a text come apart. -/
theorem IsWritable.pieces_text : pieces '$' d.text.toList = [] :: d.method.toList :: d.fields := by
  rw [toList_text, ← List.nil_append ('$' :: _), pieces_append_cons (List.forall_mem_nil _),
    pieces_flatMap (h.method.ne (by decide)) h.ne_of_mem_fields]

/-- A result comes behind a salt. -/
theorem IsWritable.result_eq_none (hsalt : d.salt = none) : d.result = none :=
  Option.eq_none_iff_forall_ne_some.mpr fun bytes hbytes => (h.result bytes hbytes).1 hsalt

theorem IsWritable.readEnd :
    PasswordDigest.readEnd
        ((d.salt.map String.toList).toList ++ (d.result.map resultChars).toList) =
      .ok (d.salt, d.result) := by
  cases hsalt : d.salt with
  | none =>
    rw [h.result_eq_none hsalt]
    rfl
  | some salt =>
    obtain ⟨hvalue, hlength⟩ := h.salt salt hsalt
    show PasswordDigest.readEnd (salt.toList :: _) = _
    rw [PasswordDigest.readEnd, hvalue.readSalt hlength]
    cases hresult : d.result with
    | none => rfl
    | some bytes =>
      obtain ⟨-, hshort, hlong⟩ := h.result bytes hresult
      show (readResult (resultChars bytes) >>= fun result => _) = _
      rw [readResult_encodeChars hshort hlong]
      rfl

theorem IsWritable.readTail :
    PasswordDigest.readTail d.method d.version d.tailFields = .ok d := by
  have hend := h.readEnd
  by_cases hp : d.parameters = []
  · rw [tailFields, if_pos hp, List.nil_append]
    cases hsalt : d.salt with
    | none =>
      have hresult := h.result_eq_none hsalt
      have hd : ⟨d.method, d.version, [], none, none⟩ = d := by rw [← hp, ← hsalt, ← hresult]
      rw [hresult]
      exact congrArg Except.ok hd
    | some salt =>
      have hequals : '=' ∉ salt.toList := fun hmem =>
        (h.salt salt hsalt).1.ne (by decide) '=' hmem rfl
      have hd : ⟨d.method, d.version, [], some salt, d.result⟩ = d := by rw [← hp, ← hsalt]
      rw [hsalt] at hend
      simp only [Option.map_some, Option.toList_some, List.cons_append, List.nil_append] at hend ⊢
      rw [PasswordDigest.readTail, if_neg hequals, hend]
      exact congrArg Except.ok hd
  · rw [tailFields, if_neg hp, List.append_assoc, List.singleton_append, PasswordDigest.readTail,
      if_pos (equals_mem_parametersChars hp), if_neg, readParameters_pieces hp h.parameters, hend]
    · rfl
    · rw [byteLength_eq (forall_mem_parametersChars h.parameters (by decide) (by decide)
        fun c => lt_of_isValueChar)]
      exact Nat.not_lt_of_le h.length_parameters

/-- Without a version nothing is taken for one. -/
theorem IsWritable.tailFields_ne (hversion : d.version = none) (version : List Char)
    (rest : List (List Char)) : d.tailFields ≠ ('v' :: '=' :: version) :: rest := by
  intro hfields
  cases hp : d.parameters with
  | nil =>
    rw [tailFields, if_pos hp, List.nil_append] at hfields
    cases hsalt : d.salt with
    | none =>
      rw [hsalt, h.result_eq_none hsalt] at hfields
      cases hfields
    | some salt =>
      rw [hsalt] at hfields
      have hhead : salt.toList = 'v' :: '=' :: version := (List.cons.inj hfields).1
      exact (h.salt salt hsalt).1.ne (by decide) '=' (by simp [hhead]) rfl
  | cons p ps =>
    rw [tailFields, hp, if_neg (List.cons_ne_nil p ps)] at hfields
    have hhead : parametersChars (p :: ps) = 'v' :: '=' :: version := (List.cons.inj hfields).1
    have hmem : p ∈ d.parameters := hp ▸ List.mem_cons_self
    exact h.unversioned hversion p hmem (eq_v_of_parametersChars (h.parameters p hmem).1 hhead)

/-- **A digest that was written is read back.** -/
theorem IsWritable.read_text : PasswordDigest.read d.text = .ok d := by
  have htail := h.readTail
  rw [PasswordDigest.read, h.pieces_text]
  show (readName d.method.toList >>= fun method => _) = _
  rw [h.method.read]
  cases hversion : d.version with
  | none =>
    have hfields : d.fields = d.tailFields := by
      rw [fields, hversion]
      rfl
    rw [hversion] at htail
    rw [hfields]
    dsimp only [bind, Except.bind]
    split
    · next version rest hlike => exact absurd hlike (h.tailFields_ne hversion version rest)
    · exact htail
  | some v =>
    have hfields : d.fields = ('v' :: '=' :: natDigits v) :: d.tailFields := by
      rw [fields, hversion]
      rfl
    have hcomma : ',' ∉ natDigits v := fun hmem =>
      ne_of_isValueChar (by decide) (isValueChar_of_mem_natDigits ',' hmem) rfl
    have hread := (isValue_natText (h.version v hversion)).read
    rw [natText, String.toList_ofList] at hread
    rw [hversion] at htail
    rw [hfields]
    simp only [bind, Except.bind, if_neg hcomma, hread, Except.mapError, String.toList_ofList,
      readNumber_natDigits (h.version v hversion)]
    exact htail

end

end Gatehouse.PasswordDigest
