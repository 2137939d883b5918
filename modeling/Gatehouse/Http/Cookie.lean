import Gatehouse.Decimal.Integer
import Gatehouse.Http.Message
import Gatehouse.Text.Form

/-!
# Cookies

A browser sends its cookies as pairs of names and values, separated by semicolons. Pairs without
`=` or without a name are skipped. Of two cookies of one name the later one counts.
-/

namespace Gatehouse

/-- A cookie that a browser sends. -/
structure Cookie where
  name : String
  value : String
  deriving DecidableEq, Repr

namespace Cookie

/-- The text of escaped bytes, if it is UTF-8. -/
def unescape? (s : List Char) : Option String :=
  Text.ofUtf8? (Percent.decode (Text.utf8 (String.ofList s)))

/-- Reads one pair. -/
def read? (pair : List Char) : Option Cookie :=
  match Text.cutFirst? '=' pair with
  | none => none
  | some (name, value) =>
    if (Text.trimChars name).isEmpty then none
    else
      match unescape? (Text.trimChars name), unescape? (Text.trimChars value) with
      | some name, some value => some ⟨name, value⟩
      | _, _ => none

/-- The cookies of a request, the latest first. -/
def ofRequest (r : Request) : List Cookie :=
  ((r.headerValues "cookie").flatMap fun value =>
    (Text.pieces ';' value.toList).filterMap read?).reverse

/-- The value of the cookie of a name. -/
def find? (cookies : List Cookie) (name : String) : Option String :=
  (cookies.find? (·.name == name)).map (·.value)

end Cookie

/-- A cookie that a browser is told to keep. It is hidden from scripts, is sent on top-level
navigation from other sites, and is good for all paths. -/
structure SetCookie where
  name : String
  /-- The value; it has no characters that would need an escape. -/
  value : String
  /-- Whether the cookie is sent over secure connections only. -/
  secure : Bool
  /-- For how many seconds the browser keeps the cookie; it drops it if this is negative. -/
  maxAge : Int
  deriving DecidableEq, Repr

/-- The header value that sets a cookie. -/
def SetCookie.text (c : SetCookie) : String :=
  c.name ++ "=" ++ c.value ++ "; HttpOnly; SameSite=Lax" ++ (if c.secure then "; Secure" else "") ++
    "; Path=/; Max-Age=" ++ Decimal.intText c.maxAge

end Gatehouse
