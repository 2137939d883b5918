/-!
# Scopes

A scope names one namespace or project, or all of them. Codes are compared exactly; the text `*`
stands for the scope of all.
-/

namespace Gatehouse

/-- Which namespaces or projects something applies to. -/
inductive Scope where
  /-- All of them. -/
  | any
  /-- The one with this code. -/
  | exact (code : String)
  deriving DecidableEq, Repr, Inhabited

namespace Scope

/-- The text that stands for all codes. -/
def wildcard : String := "*"

/-- Reads a scope; every text is one. -/
def ofText (s : String) : Scope :=
  if s = wildcard then .any else .exact s

/-- The text of a scope. -/
def text : Scope → String
  | .any => wildcard
  | .exact code => code

/-- Whether a scope is the scope of all codes. -/
def isAny : Scope → Bool
  | .any => true
  | .exact _ => false

/-- The one code of a scope, unless it is the scope of all. -/
def code? : Scope → Option String
  | .any => none
  | .exact code => some code

/-- Whether a scope takes in a code. -/
def admits (s : Scope) (code : String) : Bool :=
  match s with
  | .any => true
  | .exact own => own == code

/-- The scope of all comes first; other scopes are in the order of their codes. -/
def precedes : Scope → Scope → Bool
  | .any, _ => true
  | .exact _, .any => false
  | .exact a, .exact b => a ≤ b

/-- Scopes in ascending order. -/
def sorted (scopes : List Scope) : List Scope :=
  scopes.mergeSort precedes

/-! ### Small laws -/

@[simp] theorem ofText_text_any : ofText (text .any) = .any := by
  simp [ofText, text]

/-- A scope reads back from its text unless it is the exact scope of the wildcard's own text. -/
theorem ofText_text {s : Scope} (h : s ≠ .exact wildcard) : ofText (text s) = s := by
  cases s with
  | any => simp
  | exact code =>
    have : code ≠ wildcard := fun hc => h (by rw [hc])
    simp [ofText, text, this]

@[simp] theorem admits_any (code : String) : admits .any code = true := rfl

theorem admits_exact (own code : String) : admits (.exact own) code = true ↔ own = code := by
  simp [admits]

end Scope

end Gatehouse
