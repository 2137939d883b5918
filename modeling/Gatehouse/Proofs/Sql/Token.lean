/-!
# The tokens of SQL text

SQL text is scanned character by character into words, quoted texts and single symbols.
Placeholders, numbers and keywords are words. Words end where another kind of character begins, and
a quote inside a quoted text is written twice.

Comments are refused, and so is a quote right after a word, which would start a text with escapes
of its own. Both are ways in which text that is appended could be swallowed or read differently,
so text that ends in one of them is not text that something can be appended to.

`scan_lexemes` is the law that everything here is for: text that is spelled out of blanks, words
and plain symbols, with a blank or a symbol between any two words, is scanned to these words and
symbols, whatever stood before it.
-/

namespace Gatehouse.Sql

/-! ### Tokens -/

/-- The two quotes: one for texts, one for names. -/
inductive Quote where
  | single
  | double
  deriving DecidableEq, Repr

/-- The character of a quote. -/
def Quote.char : Quote → Char
  | .single => '\''
  | .double => '"'

/-- The quote of a character. -/
def quote? (c : Char) : Option Quote :=
  if c = '\'' then some .single else if c = '"' then some .double else none

/-- A piece of SQL text. -/
inductive Token where
  /-- A keyword, a name, a number or a placeholder. -/
  | word (text : String)
  /-- A quoted text, without its quotes. -/
  | quoted (quote : Quote) (text : String)
  /-- Any other character that is not blank. -/
  | symbol (c : Char)
  deriving DecidableEq, Repr

/-- The characters that separate tokens and mean nothing else. -/
def isBlank (c : Char) : Bool :=
  c == ' ' || c == '\t' || c == '\n' || c == '\r' || c == '\x0b' || c == '\x0c'

/-- The characters of words. Every character beyond ASCII is one. -/
def isWordChar (c : Char) : Bool :=
  c.isAlphanum || c == '_' || c == '$' || 128 ≤ c.toNat

/-! ### Scanning -/

/-- What is being scanned. -/
inductive Mode where
  | blank
  | word (run : List Char)
  | symbol (c : Char)
  /-- Inside a quoted text. -/
  | inside (quote : Quote) (run : List Char)
  /-- After a quote that ends a quoted text, unless another one follows. -/
  | closed (quote : Quote) (run : List Char)
  deriving DecidableEq, Repr

namespace Mode

/-- The tokens that are still to come when nothing follows; none for a text without its end. -/
def finish : Mode → Option (List Token)
  | .blank => some []
  | .word run => some [.word (String.ofList run)]
  | .symbol c => some [.symbol c]
  | .inside _ _ => none
  | .closed quote run => some [.quoted quote (String.ofList run)]

/-- How scanning begins at a character. -/
def start (c : Char) : Mode :=
  if isBlank c then .blank
  else if isWordChar c then .word [c]
  else match quote? c with
    | some quote => .inside quote []
    | none => .symbol c

/-- How scanning goes on if a character belongs to what is being scanned. -/
def extend? : Mode → Char → Option Mode
  | .word run, c => if isWordChar c then some (.word (run ++ [c])) else none
  | .inside quote run, c =>
    some (if c = quote.char then .closed quote run else .inside quote (run ++ [c]))
  | .closed quote run, c => if c = quote.char then some (.inside quote (run ++ [c])) else none
  | _, _ => none

/-- Whether a character must not follow: it would start a comment, or a text with escapes. -/
def refuses : Mode → Char → Bool
  | .word _, c => (quote? c).isSome
  | .symbol d, c => (d == '-' && c == '-') || (d == '/' && c == '*')
  | _, _ => false

end Mode

/-- The tokens so far, and what is being scanned. -/
structure Scan where
  tokens : List Token
  mode : Mode
  deriving DecidableEq, Repr

/-- Scans a character. -/
def Scan.step (s : Scan) (c : Char) : Option Scan :=
  match s.mode.extend? c with
  | some mode => some { s with mode := mode }
  | none =>
    if s.mode.refuses c then none
    else s.mode.finish.map fun last => ⟨s.tokens ++ last, .start c⟩

/-- All tokens when nothing follows. -/
def Scan.finish (s : Scan) : Option (List Token) :=
  s.mode.finish.map (s.tokens ++ ·)

/-- Scans characters. -/
def scan (s : Scan) (text : List Char) : Option Scan :=
  text.foldlM Scan.step s

/-- The tokens of a text. -/
def tokens? (text : String) : Option (List Token) :=
  (scan ⟨[], .blank⟩ text.toList).bind Scan.finish

theorem scan_append (s : Scan) (a b : List Char) :
    scan s (a ++ b) = (scan s a).bind fun s => scan s b :=
  List.foldlM_append

/-- The tokens of a text lie behind the scan of its first part. -/
theorem exists_scan_of_tokens? {text : String} {ts : List Token} (h : tokens? text = some ts) :
    ∃ s, scan ⟨[], .blank⟩ text.toList = some s ∧ s.finish = some ts :=
  Option.bind_eq_some_iff.mp h

/-- A character that does not belong to what was being scanned starts anew. -/
theorem Scan.step_of_finish {s : Scan} {ts : List Token} {c : Char} (hs : s.finish = some ts)
    (hextend : s.mode.extend? c = none) (hrefuses : s.mode.refuses c = false) :
    s.step c = some ⟨ts, .start c⟩ := by
  obtain ⟨last, hlast, rfl⟩ := Option.map_eq_some_iff.mp hs
  simp [Scan.step, hextend, hrefuses, hlast]

/-! ### Spelling -/

/-- What text is spelled of. -/
inductive Lexeme where
  | blank
  | word (text : String)
  | symbol (c : Char)
  deriving DecidableEq, Repr

namespace Lexeme

/-- The characters of a lexeme. -/
def chars : Lexeme → List Char
  | .blank => [' ']
  | .word text => text.toList
  | .symbol c => [c]

/-- The token of a lexeme; a blank has none. -/
def token? : Lexeme → Option Token
  | .blank => none
  | .word text => some (.word text)
  | .symbol c => some (.symbol c)

end Lexeme

/-- The text of some lexemes. -/
def spell (ls : List Lexeme) : List Char :=
  ls.flatMap Lexeme.chars

/-- The tokens of some lexemes. -/
def tokensOf (ls : List Lexeme) : List Token :=
  ls.filterMap Lexeme.token?

@[simp] theorem tokensOf_nil : tokensOf [] = [] := rfl

@[simp] theorem tokensOf_blank (ls : List Lexeme) : tokensOf (.blank :: ls) = tokensOf ls := rfl

@[simp] theorem tokensOf_word (text : String) (ls : List Lexeme) :
    tokensOf (.word text :: ls) = .word text :: tokensOf ls := rfl

@[simp] theorem tokensOf_symbol (c : Char) (ls : List Lexeme) :
    tokensOf (.symbol c :: ls) = .symbol c :: tokensOf ls := rfl

@[simp] theorem tokensOf_append (ls ms : List Lexeme) :
    tokensOf (ls ++ ms) = tokensOf ls ++ tokensOf ms :=
  List.filterMap_append

/-- A symbol that is no other kind of character and starts and ends no comment. -/
def IsPlain (c : Char) : Prop :=
  isBlank c = false ∧ isWordChar c = false ∧ quote? c = none ∧ c ≠ '-' ∧ c ≠ '*'

instance (c : Char) : Decidable (IsPlain c) :=
  inferInstanceAs (Decidable (_ ∧ _))

/-- Whether something is a word. -/
def IsWord (text : String) : Prop :=
  text.toList ≠ [] ∧ ∀ c ∈ text.toList, isWordChar c = true

instance (text : String) : Decidable (IsWord text) :=
  decidable_of_iff (text.toList ≠ [] ∧ text.toList.all isWordChar = true) (by simp [IsWord])

/-- No two words touch, the first of them being perhaps one that stands before the lexemes. -/
def Spaced : (afterWord : Bool) → List Lexeme → Prop
  | _, [] => True
  | _, .blank :: ls => Spaced false ls
  | afterWord, .word text :: ls => afterWord = false ∧ IsWord text ∧ Spaced true ls
  | _, .symbol c :: ls => IsPlain c ∧ Spaced false ls

/-- What stands after a symbol may be judged on its own. -/
theorem spaced_append_symbol {b : Bool} {ls ms : List Lexeme} {c : Char} (hls : Spaced b ls)
    (hc : IsPlain c) (hms : Spaced false ms) : Spaced b (ls ++ .symbol c :: ms) := by
  fun_induction Spaced b ls with
  | case1 b => exact ⟨hc, hms⟩
  | case2 b ls ih => exact ih hls
  | case3 b text ls ih => exact ⟨hls.1, hls.2.1, ih hls.2.2⟩
  | case4 b d ls ih => exact ⟨hls.1, ih hls.2⟩

/-- What stands after a blank may be judged on its own. -/
theorem spaced_append_blank {b : Bool} {ls ms : List Lexeme} (hls : Spaced b ls)
    (hms : Spaced false ms) : Spaced b (ls ++ .blank :: ms) := by
  fun_induction Spaced b ls with
  | case1 b => exact hms
  | case2 b ls ih => exact ih hls
  | case3 b text ls ih => exact ⟨hls.1, hls.2.1, ih hls.2.2⟩
  | case4 b d ls ih => exact ⟨hls.1, ih hls.2⟩

/-- Whether a word is being scanned. -/
def Mode.isWord : Mode → Bool
  | .word _ => true
  | _ => false

theorem quote?_eq_none_of_isWordChar {c : Char} (h : isWordChar c = true) : quote? c = none := by
  unfold quote?
  split
  · next hc => subst hc; revert h; decide
  · split
    · next hc => subst hc; revert h; decide
    · rfl

theorem isBlank_eq_false_of_isWordChar {c : Char} (h : isWordChar c = true) :
    isBlank c = false := by
  rw [Bool.eq_false_iff]
  intro hb
  simp only [isBlank, Bool.or_eq_true, beq_iff_eq] at hb
  rcases hb with ((((rfl | rfl) | rfl) | rfl) | rfl) | rfl <;> revert h <;> decide

theorem ne_char_of_quote?_eq_none {c : Char} (h : quote? c = none) (quote : Quote) :
    c ≠ quote.char := by
  rintro rfl
  cases quote <;> simp [quote?, Quote.char] at h

/-- What ends a quoted text is followed by no character of another kind of token. -/
theorem Mode.extend?_eq_none {m : Mode} {c : Char} {last : List Token}
    (hm : m.finish = some last) (hc : m.isWord = false ∨ isWordChar c = false)
    (hq : quote? c = none) : m.extend? c = none := by
  cases m with
  | blank => rfl
  | word run => simpa [extend?, Mode.isWord] using hc
  | symbol d => rfl
  | inside quote run => simp [finish] at hm
  | closed quote run => simp [extend?, ne_char_of_quote?_eq_none hq quote]

/-- The rest of a word. -/
theorem scan_run (ts : List Token) (run : List Char) {cs : List Char}
    (h : ∀ c ∈ cs, isWordChar c = true) :
    scan ⟨ts, .word run⟩ cs = some ⟨ts, .word (run ++ cs)⟩ := by
  induction cs generalizing run with
  | nil => simp [scan]
  | cons c cs ih =>
    have hc : isWordChar c = true := h c (by simp)
    have hstep : Scan.step ⟨ts, .word run⟩ c = some ⟨ts, .word (run ++ [c])⟩ := by
      simp [Scan.step, Mode.extend?, hc]
    rw [scan, List.foldlM_cons, hstep]
    have hrest := ih (run ++ [c]) fun d hd => h d (by simp [hd])
    simpa [scan] using hrest

/-- **Spelled text is scanned to its lexemes.** -/
theorem scan_lexemes {ls : List Lexeme} (s : Scan) {ts : List Token} (hs : s.finish = some ts)
    (hls : Spaced s.mode.isWord ls) :
    ∃ s', scan s (spell ls) = some s' ∧ s'.finish = some (ts ++ tokensOf ls) := by
  -- what is scanned so far ends where the next lexeme starts, whatever the mode is
  induction ls generalizing s ts with
  | nil => exact ⟨s, rfl, by simpa using hs⟩
  | cons l ls ih =>
    obtain ⟨last, hlast, -⟩ := Option.map_eq_some_iff.mp hs
    cases l with
    | blank =>
      have hstep : s.step ' ' = some ⟨ts, .blank⟩ :=
        Scan.step_of_finish hs (Mode.extend?_eq_none hlast (.inr (by decide)) (by decide))
          (by cases s.mode <;> simp [Mode.refuses, quote?])
      have hfinish : Scan.finish ⟨ts, .blank⟩ = some ts := by simp [Scan.finish, Mode.finish]
      obtain ⟨s', hs', hts⟩ := ih ⟨ts, .blank⟩ hfinish hls
      refine ⟨s', ?_, by simpa using hts⟩
      simpa [spell, Lexeme.chars, scan, hstep] using hs'
    | symbol c =>
      obtain ⟨⟨hblank, hword, hquote, hdash, hstar⟩, hls⟩ := hls
      have hstart : Mode.start c = .symbol c := by simp [Mode.start, hblank, hword, hquote]
      have hstep : s.step c = some ⟨ts, .symbol c⟩ := by
        rw [Scan.step_of_finish hs (Mode.extend?_eq_none hlast (.inr hword) hquote)
          (by cases s.mode <;> simp [Mode.refuses, hquote, hdash, hstar]), hstart]
      have hfinish : Scan.finish ⟨ts, .symbol c⟩ = some (ts ++ [.symbol c]) := by
        simp [Scan.finish, Mode.finish]
      obtain ⟨s', hs', hts⟩ := ih ⟨ts, .symbol c⟩ hfinish hls
      refine ⟨s', ?_, by simpa using hts⟩
      simpa [spell, Lexeme.chars, scan, hstep] using hs'
    | word text =>
      obtain ⟨hfresh, ⟨hne, hchars⟩, hls⟩ := hls
      obtain ⟨c, cs, htext⟩ := List.exists_cons_of_ne_nil hne
      have hc : isWordChar c = true := hchars c (by simp [htext])
      have hquote := quote?_eq_none_of_isWordChar hc
      have hstart : Mode.start c = .word [c] := by
        simp [Mode.start, isBlank_eq_false_of_isWordChar hc, hc]
      have hstep : s.step c = some ⟨ts, .word [c]⟩ := by
        rw [Scan.step_of_finish hs (Mode.extend?_eq_none hlast (.inl hfresh) hquote) ?_, hstart]
        cases hm : s.mode with
        | symbol d =>
          have hdash : c ≠ '-' := by rintro rfl; revert hc; decide
          have hstar : c ≠ '*' := by rintro rfl; revert hc; decide
          simp [Mode.refuses, hdash, hstar]
        | _ => simp [Mode.refuses, hquote]
      have hrun : scan ⟨ts, .word [c]⟩ cs = some ⟨ts, .word text.toList⟩ := by
        rw [scan_run ts [c] fun d hd => hchars d (by simp [htext, hd]), htext]
        rfl
      have hfinish : Scan.finish ⟨ts, .word text.toList⟩ = some (ts ++ [.word text]) := by
        simp [Scan.finish, Mode.finish]
      obtain ⟨s', hs', hts⟩ := ih ⟨ts, .word text.toList⟩ hfinish hls
      refine ⟨s', ?_, by simpa using hts⟩
      calc scan s (spell (.word text :: ls))
          = scan s ((c :: cs) ++ spell ls) := by simp [spell, Lexeme.chars, htext]
        _ = (scan ⟨ts, .word [c]⟩ cs).bind fun s => scan s (spell ls) := by
            rw [scan_append]; simp [scan, hstep]
        _ = some s' := by rw [hrun]; exact hs'

/-- Text that is spelled has the tokens of its lexemes. -/
theorem tokens?_of_spell {text : String} {ls : List Lexeme} (htext : text.toList = spell ls)
    (hls : Spaced false ls) : tokens? text = some (tokensOf ls) := by
  have hstart : Scan.finish ⟨[], .blank⟩ = some [] := rfl
  obtain ⟨s, hscan, hfinish⟩ := scan_lexemes ⟨[], .blank⟩ hstart hls
  rw [tokens?, htext, hscan, Option.bind_some, hfinish, List.nil_append]

end Gatehouse.Sql
