import Gatehouse.Json.Printer
import Gatehouse.Text.Printable

/-!
# Quoted texts for people to read

A text is shown between quotes. A quote and a backslash are escaped, and so is everything that
would not be seen for what it is: unprintable characters, and characters that combine with the one
before them.
-/

namespace Gatehouse.Text

/-- The digits of a number in base 16, most significant first. -/
def hexDigits (n : Nat) : List Char :=
  if n < 16 then [Json.hexDigit n] else hexDigits (n / 16) ++ [Json.hexDigit (n % 16)]
termination_by n

/-- A character as shown in a quoted text. -/
def showChar (c : Char) : List Char :=
  if c = '"' ∨ c = '\\' then ['\\', c]
  else if c = '\t' then ['\\', 't']
  else if c = '\x0d' then ['\\', 'r']
  else if c = '\n' then ['\\', 'n']
  else if c = '\x00' then ['\\', '0']
  else if isPrintable c && !isExtending c then [c]
  else '\\' :: 'u' :: '\x7b' :: (hexDigits c.toNat ++ ['\x7d'])

/-- A text as shown to people. -/
def quoted (s : String) : String :=
  String.ofList ('"' :: s.toList.flatMap showChar ++ ['"'])

/-- A text that may be missing, as shown to people. -/
def quotedOption : Option String → String
  | none => "None"
  | some s => "Some(" ++ quoted s ++ ")"

/-- Named parts as shown to people; `more` says that some parts are left out. -/
def shownRecord (name : String) (parts : List (String × String)) (more : Bool) : String :=
  let body := parts.map fun p => p.1 ++ ": " ++ p.2
  let body := if more then body ++ [".."] else body
  name ++ " \x7b " ++ ", ".intercalate body ++ " \x7d"

end Gatehouse.Text
