/-!
# Blank characters and trimming

`isBlank` is the Unicode property `White_Space`, and `trim` takes blank characters off both ends
of a text. Texts are treated as lists of characters here; the `String` versions are wrappers.
-/

namespace Gatehouse.Text

/-- The characters with the Unicode property `White_Space`. -/
def isBlank (c : Char) : Bool :=
  let n := c.toNat
  (0x09 ≤ n && n ≤ 0x0D) || n == 0x20 || n == 0x85 || n == 0xA0 || n == 0x1680 ||
    (0x2000 ≤ n && n ≤ 0x200A) || n == 0x2028 || n == 0x2029 || n == 0x202F || n == 0x205F ||
    n == 0x3000

/-- Drops the blank characters at the start. -/
def trimStart (s : List Char) : List Char :=
  s.dropWhile isBlank

/-- Drops the blank characters at the end. -/
def trimEnd (s : List Char) : List Char :=
  (s.reverse.dropWhile isBlank).reverse

/-- Drops the blank characters at both ends. -/
def trimChars (s : List Char) : List Char :=
  trimEnd (trimStart s)

/-- Drops the blank characters at both ends of a string. -/
def trim (s : String) : String :=
  String.ofList (trimChars s.toList)

/-- Cuts a text at every occurrence of a separator; the pieces between may be empty. -/
def pieces (sep : Char) : List Char → List (List Char)
  | [] => [[]]
  | c :: rest =>
    if c = sep then [] :: pieces sep rest
    else
      match pieces sep rest with
      | [] => [[c]]
      | p :: ps => (c :: p) :: ps

/-- Cuts a string at every occurrence of a separator. -/
def splitAt (sep : Char) (s : String) : List String :=
  (pieces sep s.toList).map String.ofList

/-- The parts before and after the first occurrence of a separator, if it occurs. -/
def cutFirst? (sep : Char) (s : List Char) : Option (List Char × List Char) :=
  match s.dropWhile (· ≠ sep) with
  | [] => none
  | _ :: rest => some (s.takeWhile (· ≠ sep), rest)

/-- The parts before and after the last occurrence of a separator, if it occurs. -/
def cutLast? (sep : Char) (s : List Char) : Option (List Char × List Char) :=
  (cutFirst? sep s.reverse).map fun p => (p.2.reverse, p.1.reverse)

/-- Whether two texts are equal up to the case of ASCII letters. -/
def sameLetters (a b : String) : Bool :=
  a.toList.map Char.toLower == b.toList.map Char.toLower

/-! ### Small laws -/

@[simp] theorem pieces_nil (sep : Char) : pieces sep [] = [[]] := rfl

/-- A text has at least one piece. -/
theorem pieces_ne_nil (sep : Char) (s : List Char) : pieces sep s ≠ [] := by
  cases s with
  | nil => simp
  | cons c rest =>
    unfold pieces
    split
    · simp
    · split <;> simp

/-- A text without the separator is one piece. -/
theorem pieces_of_forall_ne {sep : Char} {s : List Char} (h : ∀ c ∈ s, c ≠ sep) :
    pieces sep s = [s] := by
  induction s with
  | nil => rfl
  | cons c rest ih =>
    have hc : c ≠ sep := h c (by simp)
    have hr := ih fun d hd => h d (by simp [hd])
    simp [pieces, hc, hr]

/-- The first piece ends at the first separator. -/
theorem pieces_append_cons {sep : Char} {s : List Char} (h : ∀ c ∈ s, c ≠ sep) (rest : List Char) :
    pieces sep (s ++ sep :: rest) = s :: pieces sep rest := by
  induction s with
  | nil => simp [pieces]
  | cons c s ih =>
    have hc : c ≠ sep := h c (by simp)
    have hr := ih fun d hd => h d (by simp [hd])
    simp [pieces, hc, hr]

end Gatehouse.Text
