import Gatehouse.Proofs.Sql.Condition

/-!
# Building conditions from fragments

A fragment is a list of lexemes with a meaning of its own. There are two kinds, after the two
operators: `MeansFactors` is said of text that may stand as factors of an alternative, whatever
factors stand before it, and `MeansAlternatives` of text that may stand as alternatives. Factors are
put together by `AND`, alternatives by `OR`, and parentheses turn alternatives into a factor. These
are the only ways up, so a fragment cannot be built with a meaning that it does not have when it is
read.

Each law is proved for pieces first, where it is about the precedence of the operators, and then
for lexemes, where it is about brackets and spaces as well.
-/

namespace Gatehouse.Sql

section

variable {isAtom : List Tree → Bool} {binds : List String}

/-! ### Reading in parts -/

theorem pieces_append (items more : List Tree) :
    pieces isAtom (items ++ more) = pieces isAtom items ++ pieces isAtom more := by
  induction items with
  | nil => simp [pieces]
  | cons tree rest ih => simp [pieces, ih]

namespace Reading

theorem steps_append (r : Reading) (ps qs : List Piece) :
    r.steps isAtom (ps ++ qs) = (r.steps isAtom ps).bind fun r => r.steps isAtom qs :=
  List.foldlM_append

/-- Pieces that are no operators all belong to the current factor. -/
theorem steps_current {before factors : Option Condition} (current : List Piece) {ps : List Piece}
    (h : ∀ p ∈ ps, ∀ name ∈ ["OR", "AND", "BETWEEN"], p.isKeyword name = false) :
    steps isAtom ⟨before, factors, current, false⟩ ps =
      some ⟨before, factors, current ++ ps, false⟩ := by
  induction ps generalizing current with
  | nil => simp [steps]
  | cons p ps ih =>
    have hp := h p (by simp)
    have hstep : step isAtom ⟨before, factors, current, false⟩ p =
        some ⟨before, factors, current ++ [p], false⟩ := by
      simp [step, hp "OR" (by simp), hp "AND" (by simp), hp "BETWEEN" (by simp)]
    have hrest := ih (current ++ [p]) fun q hq => h q (by simp [hq])
    rw [List.append_assoc] at hrest
    rw [steps, List.foldlM_cons, hstep]
    exact hrest

/-- After an `AND` the alternative so far is the factors before the next one. -/
theorem step_and {r : Reading} {c : Condition} (h : r.alternative? isAtom = some c) :
    r.step isAtom ⟨.leaf (.word "AND"), none⟩ = some ⟨r.before, some c, [], false⟩ := by
  have hbetween : r.between = false := by
    rw [alternative?, Option.ite_none_left_eq_some] at h
    simpa using h.1
  have hor : Piece.isKeyword ⟨.leaf (.word "AND"), none⟩ "OR" = false := by decide
  have hand : Piece.isKeyword ⟨.leaf (.word "AND"), none⟩ "AND" = true := by decide
  simp [step, hor, hand, hbetween, h]

/-- After an `OR` the alternative so far is one of those before the next one. -/
theorem step_or {r : Reading} {c : Condition} (h : r.alternative? isAtom = some c) :
    r.step isAtom ⟨.leaf (.word "OR"), none⟩ =
      some ⟨some (joined .or r.before c), none, [], false⟩ := by
  have hor : Piece.isKeyword ⟨.leaf (.word "OR"), none⟩ "OR" = true := by decide
  simp [step, hor, h]

end Reading

/-! ### The meaning of what stands before -/

/-- Whether the factors before the current one are true; without factors they are. -/
def factorsHold (binds : List String) (row : TableRow) : Option Condition → Bool
  | none => true
  | some c => c.holds binds row

/-- Whether one of the alternatives before the current one is true. -/
def alternativesHold (binds : List String) (row : TableRow) : Option Condition → Bool
  | none => false
  | some c => c.holds binds row

theorem holds_joined_and (binds : List String) (row : TableRow) (before : Option Condition)
    (c : Condition) :
    (joined .and before c).holds binds row =
      (factorsHold binds row before && c.holds binds row) := by
  cases before <;> simp [joined, factorsHold, Condition.holds]

theorem holds_joined_or (binds : List String) (row : TableRow) (before : Option Condition)
    (c : Condition) :
    (joined .or before c).holds binds row =
      (alternativesHold binds row before || c.holds binds row) := by
  cases before <;> simp [joined, alternativesHold, Condition.holds]

/-! ### Pieces -/

variable (isAtom binds) in
/-- Pieces that may stand among the factors of an alternative, and add what they mean to them. -/
def MeansFactors (ps : List Piece) (truth : TableRow → Bool) : Prop :=
  ∀ before factors, ∃ r c, Reading.steps isAtom ⟨before, factors, [], false⟩ ps = some r ∧
    r.before = before ∧ r.alternative? isAtom = some c ∧
      ∀ row, c.holds binds row = (factorsHold binds row factors && truth row)

variable (isAtom binds) in
/-- Pieces that may stand among the alternatives of a condition, and add what they mean to them. -/
def MeansAlternatives (ps : List Piece) (truth : TableRow → Bool) : Prop :=
  ∀ before, ∃ r c, Reading.steps isAtom ⟨before, none, [], false⟩ ps = some r ∧
    r.alternative? isAtom = some c ∧
      ∀ row, (alternativesHold binds row r.before || c.holds binds row) =
        (alternativesHold binds row before || truth row)

/-- An atom is a factor. -/
theorem meansFactors_atom {ps : List Piece} {a : Atom} {truth : TableRow → Bool}
    (hps : ∀ p ∈ ps, ∀ name ∈ ["OR", "AND", "BETWEEN"], p.isKeyword name = false)
    (ha : factor? isAtom ps = some (.atom a)) (hholds : ∀ row, a.holds binds row = truth row) :
    MeansFactors isAtom binds ps truth := by
  intro before factors
  refine ⟨_, joined .and factors (.atom a), Reading.steps_current [] hps, rfl, ?_, fun row => ?_⟩
  · simp [Reading.alternative?, ha]
  · rw [holds_joined_and, Condition.holds, hholds]

/-- A condition in parentheses is a factor. -/
theorem meansFactors_round {items : List Tree} {c : Condition} {truth : TableRow → Bool}
    (hc : conditionOf? isAtom (pieces isAtom items) = some c)
    (hholds : ∀ row, c.holds binds row = truth row) :
    MeansFactors isAtom binds (pieces isAtom [.group .round items]) truth := by
  intro before factors
  refine ⟨_, joined .and factors (.enclosed c), rfl, rfl, ?_, fun row => ?_⟩
  · simp [Reading.alternative?, factor?, Tree.inner, hc, Piece.isKeyword]
  · rw [holds_joined_and, Condition.holds, hholds]

namespace MeansFactors

variable {ps qs : List Piece} {s t : TableRow → Bool}

/-- Factors on both sides of an `AND`. -/
theorem and (hps : MeansFactors isAtom binds ps s) (hqs : MeansFactors isAtom binds qs t) :
    MeansFactors isAtom binds (ps ++ ⟨.leaf (.word "AND"), none⟩ :: qs)
      fun row => s row && t row := by
  intro before factors
  obtain ⟨r, c, hsteps, hbefore, halt, hholds⟩ := hps before factors
  obtain ⟨r', c', hsteps', hbefore', halt', hholds'⟩ := hqs r.before (some c)
  refine ⟨r', c', ?_, hbefore'.trans hbefore, halt', fun row => ?_⟩
  · rw [Reading.steps_append, hsteps, Option.bind_some, Reading.steps, List.foldlM_cons,
      Reading.step_and halt]
    exact hsteps'
  · rw [hholds', factorsHold, hholds, Bool.and_assoc]

/-- Factors are an alternative. -/
theorem alternatives (hps : MeansFactors isAtom binds ps s) :
    MeansAlternatives isAtom binds ps s := by
  intro before
  obtain ⟨r, c, hsteps, hbefore, halt, hholds⟩ := hps before none
  refine ⟨r, c, hsteps, halt, fun row => ?_⟩
  rw [hbefore, hholds, factorsHold, Bool.true_and]

end MeansFactors

namespace MeansAlternatives

variable {ps qs : List Piece} {s t : TableRow → Bool}

/-- Alternatives before an `OR`, and factors after it. -/
theorem or (hps : MeansAlternatives isAtom binds ps s) (hqs : MeansFactors isAtom binds qs t) :
    MeansAlternatives isAtom binds (ps ++ ⟨.leaf (.word "OR"), none⟩ :: qs)
      fun row => s row || t row := by
  intro before
  obtain ⟨r, c, hsteps, halt, hholds⟩ := hps before
  obtain ⟨r', c', hsteps', hbefore', halt', hholds'⟩ := hqs (some (joined .or r.before c)) none
  refine ⟨r', c', ?_, halt', fun row => ?_⟩
  · rw [Reading.steps_append, hsteps, Option.bind_some, Reading.steps, List.foldlM_cons,
      Reading.step_or halt]
    exact hsteps'
  · rw [hbefore', alternativesHold, holds_joined_or, hholds, hholds', factorsHold, Bool.true_and,
      Bool.or_assoc]

/-- Alternatives with nothing around them are a condition. -/
theorem conditionOf (hps : MeansAlternatives isAtom binds ps s) :
    ∃ c, conditionOf? isAtom ps = some c ∧ ∀ row, c.holds binds row = s row := by
  obtain ⟨r, c, hsteps, halt, hholds⟩ := hps none
  refine ⟨joined .or r.before c, ?_, fun row => ?_⟩
  · rw [conditionOf?, Reading.start, hsteps, Option.bind_some, Reading.finish, halt,
      Option.map_some]
  · rw [holds_joined_or, hholds, alternativesHold, Bool.false_or]

end MeansAlternatives

/-! ### Lexemes -/

variable (isAtom binds) in
/-- Lexemes that are read as factors. -/
def ReadsFactors (ls : List Lexeme) (truth : TableRow → Bool) : Prop :=
  Spaced false ls ∧
    ∃ items, Nests (tokensOf ls) items ∧ MeansFactors isAtom binds (pieces isAtom items) truth

variable (isAtom binds) in
/-- Lexemes that are read as alternatives. -/
def ReadsAlternatives (ls : List Lexeme) (truth : TableRow → Bool) : Prop :=
  Spaced false ls ∧
    ∃ items, Nests (tokensOf ls) items ∧ MeansAlternatives isAtom binds (pieces isAtom items) truth

/-- A keyword with blanks around it. -/
def operatorLexemes (name : String) : List Lexeme :=
  [.blank, .word name, .blank]

/-- Lexemes after an operator may be judged on their own. -/
private theorem spaced_operator {name : String} {ls ms : List Lexeme} (hname : IsWord name)
    (hls : Spaced false ls) (hms : Spaced false ms) :
    Spaced false (ls ++ (operatorLexemes name ++ ms)) :=
  spaced_append_blank hls ⟨rfl, hname, hms⟩

/-- An operator is a token between those around it. -/
private theorem nests_operator {name : String} {ls ms : List Lexeme} {items more : List Tree}
    (ho : (Token.word name).opens? = none) (hc : (Token.word name).closes? = none)
    (hls : Nests (tokensOf ls) items) (hms : Nests (tokensOf ms) more) :
    Nests (tokensOf (ls ++ (operatorLexemes name ++ ms)))
      (items ++ .leaf (.word name) :: more) := by
  rw [tokensOf_append]
  exact hls.append (Nests.cons ho hc hms)

namespace ReadsFactors

variable {ls ms : List Lexeme} {s t : TableRow → Bool}

theorem and (hls : ReadsFactors isAtom binds ls s) (hms : ReadsFactors isAtom binds ms t) :
    ReadsFactors isAtom binds (ls ++ (operatorLexemes "AND" ++ ms))
      fun row => s row && t row := by
  obtain ⟨hspaced, items, hnests, hmeans⟩ := hls
  obtain ⟨hspaced', more, hnests', hmeans'⟩ := hms
  refine ⟨spaced_operator (by decide) hspaced hspaced', _,
    nests_operator (by decide) (by decide) hnests hnests', ?_⟩
  rw [pieces_append, pieces, Tree.inner]
  exact hmeans.and hmeans'

theorem alternatives (hls : ReadsFactors isAtom binds ls s) :
    ReadsAlternatives isAtom binds ls s := by
  obtain ⟨hspaced, items, hnests, hmeans⟩ := hls
  exact ⟨hspaced, items, hnests, hmeans.alternatives⟩

/-- Factors may be added to a conjunction. -/
theorem append_conjunction (hls : ReadsFactors isAtom binds ls s) {text text' : String}
    {c : Condition} (hc : condition? isAtom text = some c) (hconj : c.isConjunction = true)
    (htext : text'.toList = text.toList ++ spell (operatorLexemes "AND" ++ ls)) :
    ∃ c', condition? isAtom text' = some c' ∧
      ∀ row, c'.holds binds row = (c.holds binds row && s row) := by
  obtain ⟨hspaced, items, hnests, hmeans⟩ := hls
  -- the tokens, trees and pieces of the text that is there
  obtain ⟨before, hbefore, hread⟩ := Option.bind_eq_some_iff.mp hc
  obtain ⟨ts, hts, htrees⟩ := Option.bind_eq_some_iff.mp hbefore
  obtain ⟨r, hsteps, hfinish⟩ := Option.bind_eq_some_iff.mp hread
  obtain ⟨last, halt, hjoined⟩ := Option.map_eq_some_iff.mp hfinish
  -- a conjunction has no alternatives, so all of its factors stand before the new ones
  have hfirst : r.before = none ∧ last = c := by
    cases hr : r.before with
    | none => exact ⟨rfl, by rw [hr] at hjoined; exact hjoined⟩
    | some other =>
      rw [hr] at hjoined
      subst hjoined
      exact absurd hconj (by simp [joined, Condition.isConjunction])
  obtain ⟨hnone, rfl⟩ := hfirst
  obtain ⟨r', c', hsteps', hbefore', halt', hholds⟩ := hmeans none (some last)
  refine ⟨c', ?_, hholds⟩
  -- the lexemes are scanned, nested and read behind what is there
  have htokens : tokens? text' = some (ts ++ tokensOf (operatorLexemes "AND" ++ ls)) := by
    obtain ⟨scanned, hscan, hfinished⟩ := exists_scan_of_tokens? hts
    have hls : Spaced scanned.mode.isWord (operatorLexemes "AND" ++ ls) :=
      ⟨rfl, by decide, hspaced⟩
    obtain ⟨scanned', hscan', hfinished'⟩ := scan_lexemes scanned hfinished hls
    rw [tokens?, htext, scan_append, hscan, Option.bind_some, hscan', Option.bind_some, hfinished']
  have hnested : Nests (tokensOf (operatorLexemes "AND" ++ ls)) (.leaf (.word "AND") :: items) :=
    Nests.cons (by decide) (by decide) hnests
  have hall : Reading.start.steps isAtom
      (pieces isAtom (before ++ .leaf (.word "AND") :: items)) = some r' := by
    rw [pieces_append, Reading.steps_append, hsteps, Option.bind_some, pieces, Tree.inner,
      Reading.steps, List.foldlM_cons, Reading.step_and halt, hnone]
    exact hsteps'
  rw [condition?, htokens, Option.bind_some, trees?_append htrees hnested, Option.bind_some,
    conditionOf?, hall, Option.bind_some, Reading.finish, halt', hbefore']
  rfl

end ReadsFactors

namespace ReadsAlternatives

variable {ls ms : List Lexeme} {s t : TableRow → Bool}

theorem or (hls : ReadsAlternatives isAtom binds ls s) (hms : ReadsFactors isAtom binds ms t) :
    ReadsAlternatives isAtom binds (ls ++ (operatorLexemes "OR" ++ ms))
      fun row => s row || t row := by
  obtain ⟨hspaced, items, hnests, hmeans⟩ := hls
  obtain ⟨hspaced', more, hnests', hmeans'⟩ := hms
  refine ⟨spaced_operator (by decide) hspaced hspaced', _,
    nests_operator (by decide) (by decide) hnests hnests', ?_⟩
  rw [pieces_append, pieces, Tree.inner]
  exact hmeans.or hmeans'

/-- Alternatives in parentheses are a factor. -/
theorem enclosed (hls : ReadsAlternatives isAtom binds ls s) :
    ReadsFactors isAtom binds (.symbol '(' :: (ls ++ [.symbol ')'])) s := by
  obtain ⟨hspaced, items, hnests, hmeans⟩ := hls
  obtain ⟨c, hc, hholds⟩ := hmeans.conditionOf
  refine ⟨⟨by decide, spaced_append_symbol hspaced (by decide) trivial⟩, [.group .round items],
    ?_, meansFactors_round hc hholds⟩
  rw [tokensOf_symbol, tokensOf_append]
  exact hnests.round

/-- Alternatives alone are the text of a condition. -/
theorem condition (hls : ReadsAlternatives isAtom binds ls s) {text : String}
    (htext : text.toList = spell ls) :
    ∃ c, condition? isAtom text = some c ∧ ∀ row, c.holds binds row = s row := by
  obtain ⟨hspaced, items, hnests, hmeans⟩ := hls
  obtain ⟨c, hc, hholds⟩ := hmeans.conditionOf
  refine ⟨c, ?_, hholds⟩
  rw [condition?, tokens?_of_spell htext hspaced, Option.bind_some, trees?_of_nests hnests,
    Option.bind_some, hc]

end ReadsAlternatives

end

end Gatehouse.Sql
