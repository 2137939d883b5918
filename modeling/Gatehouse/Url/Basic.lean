import Gatehouse.Url.Host

/-!
# URLs

A URL is read into its parts, which are brought to one form: the scheme and the host in lower case,
without the port that the scheme has anyway, without the steps `.` and `..` in the path, and with
escapes for characters that may not stand in it. `Url.text` writes it again.
-/

namespace Gatehouse

/-- Where a URL points to: user information, a host and a port. -/
structure Authority where
  userInfo : String
  host : String
  port : Option Nat
  deriving DecidableEq, Repr

/-- A URL. -/
structure Url where
  scheme : String
  authority : Option Authority
  path : String
  query : Option String
  fragment : Option String
  deriving DecidableEq, Repr

namespace Url

/-! ### Escapes -/

/-- Writes a text with escapes for all but visible ASCII characters, and for some of these. -/
def escapeAll (special : String) : List Char → String :=
  Percent.escapeWhere fun b =>
    b ≤ 0x20 || 0x7F ≤ b || special.toList.contains (Char.ofNat b.toNat)

/-- The escapes of a path. -/
def escapePath : List Char → String :=
  escapeAll "\"#<>?^\x60\x7b\x7d"

/-- The escapes of a query. -/
def escapeQuery : List Char → String :=
  escapeAll "\"#<>'"

/-- The escapes of a fragment. -/
def escapeFragment : List Char → String :=
  escapeAll "\"<>\x60"

/-- The escapes of user information. -/
def escapeUserInfo : List Char → String :=
  escapeAll "\"#<>?^\x60\x7b\x7d/;=@[\\]|"

/-! ### Schemes -/

/-- The schemes of the web with their ports. -/
def webPorts : List (String × Nat) :=
  [("http", 80), ("https", 443), ("ws", 80), ("wss", 443), ("ftp", 21)]

/-- Whether a character may stand in a scheme. -/
def isSchemeChar (c : Char) : Bool :=
  c.isAlphanum || c == '+' || c == '-' || c == '.'

/-- Cuts the scheme off. -/
def cutScheme? (s : List Char) : Option (String × List Char) :=
  match Text.cutFirst? ':' s with
  | some (c :: cs, rest) =>
    if c.isAlpha ∧ cs.all isSchemeChar then
      some (String.ofList ((c :: cs).map Char.toLower), rest)
    else none
  | _ => none

/-! ### Parts -/

/-- Reads a port. -/
def readPort (scheme : String) (s : List Char) : Except UrlFault (Option Nat) :=
  if !s.all Char.isDigit then .error .port
  else if s.isEmpty then .ok none
  else
    let n := Decimal.digitsValue s
    if 65535 < n then .error .port
    else if webPorts.lookup scheme = some n then .ok none else .ok (some n)

/-- Cuts a host from the port that follows it. A colon between brackets belongs to the host. -/
def cutPort (bracketed : Bool) : List Char → List Char × List Char
  | [] => ([], [])
  | c :: rest =>
    if c = ':' ∧ !bracketed then ([], c :: rest)
    else
      let (host, port) := cutPort (c == '[' || (bracketed && c != ']')) rest
      (c :: host, port)

/-- Reads the host of a URL. Outside the web it may be empty if nothing else is there. -/
def readHost (isWeb mayBeEmpty : Bool) (s : List Char) : Except UrlFault String :=
  if s.isEmpty then (if !isWeb && mayBeEmpty then .ok "" else .error .emptyHost)
  else Host.readWith (if isWeb then Host.readName else Host.readOpaque) s

/-- Reads what stands between the slashes and the path. -/
def readAuthority (scheme : String) (s : List Char) : Except UrlFault Authority := do
  let (userInfo, rest) := (Text.cutLast? '@' s).getD ([], s)
  let (host, port) := cutPort false rest
  let host ← readHost (webPorts.lookup scheme).isSome (userInfo.isEmpty && port.isEmpty) host
  let port ← readPort scheme (port.drop 1)
  pure ⟨escapeUserInfo userInfo, host, port⟩

/-- Whether a step of a path stays where it is. -/
def isHere (step : String) : Bool :=
  step == "." || Text.sameLetters step "%2e"

/-- Whether a step of a path goes up. -/
def isUp (step : String) : Bool :=
  [".%2e", "%2e.", "%2e%2e", ".."].any (Text.sameLetters step)

/-- Follows the steps of a path. The steps so far are given in reverse. -/
def walk (done : List String) : List String → List String
  | [] => done.reverse
  | [last] =>
    if isUp last then ("" :: done.drop 1).reverse
    else if isHere last then ("" :: done).reverse
    else (last :: done).reverse
  | step :: rest =>
    if isUp step then walk (done.drop 1) rest
    else if isHere step then walk done rest
    else walk (step :: done) rest

/-- The path of a URL with slashes. -/
def readPath (s : List Char) : String :=
  match s with
  | [] => ""
  | _ => "/" ++ "/".intercalate (walk [] ((Text.pieces '/' (s.drop 1)).map escapePath))

/-! ### Whole URLs -/

/-- Drops what does not count: blanks and control characters at both ends, and line ends and tabs
everywhere. -/
def clean (s : String) : List Char :=
  let isOuter := fun c : Char => c ≤ ' '
  let trimmed := ((s.toList.dropWhile isOuter).reverse.dropWhile isOuter).reverse
  trimmed.filter fun c => c ≠ '\t' ∧ c ≠ '\n' ∧ c ≠ '\r'

/-- Whether a character ends the authority. -/
def endsAuthority (c : Char) : Bool :=
  c == '/' || c == '?' || c == '#'

/-- Cuts the query and the fragment off. -/
def cutEnd (s : List Char) : List Char × Option String × Option String :=
  let (address, fragment) := match Text.cutFirst? '#' s with
    | some (a, f) => (a, some (escapeFragment f))
    | none => (s, none)
  match Text.cutFirst? '?' address with
  | some (p, q) => (p, some (escapeQuery q), fragment)
  | none => (address, none, fragment)

/-- The URL with an authority. -/
def withAuthority (scheme : String) (isWeb : Bool) (s : List Char) : Except UrlFault Url := do
  let authority ← readAuthority scheme (s.takeWhile (!endsAuthority ·))
  let (path, query, fragment) := cutEnd (s.dropWhile (!endsAuthority ·))
  let path := readPath path
  pure ⟨scheme, some authority, if isWeb ∧ path = "" then "/" else path, query, fragment⟩

/-- Puts slashes for backslashes before the query. -/
def turnSlashes (s : List Char) : List Char :=
  let isEnd := fun c : Char => c == '?' || c == '#'
  (s.takeWhile (!isEnd ·)).map (fun c => if c = '\\' then '/' else c) ++ s.dropWhile (!isEnd ·)

/-- Whether a text names a drive: a letter, and a colon or a bar. -/
def isDrive : List Char → Bool
  | [letter, mark] => letter.isAlpha && (mark == ':' || mark == '|')
  | _ => false

/-- Cuts the host of a file from its path. A file has a host only after two slashes. -/
def cutFileHost : List Char → List Char × List Char
  | '/' :: '/' :: rest =>
    let host := rest.takeWhile (!endsAuthority ·)
    if isDrive host then ([], '/' :: rest) else (host, rest.dropWhile (!endsAuthority ·))
  | '/' :: rest => ([], '/' :: rest)
  | rest => ([], '/' :: rest)

/-- Reads the host of a file, which may be missing. This machine is no host. -/
def readFileHost (s : List Char) : Except UrlFault String :=
  if s.isEmpty then .ok ""
  else do
    let host ← Host.readWith Host.readName s
    pure (if host = "localhost" then "" else host)

/-- The URL of a file. -/
def ofFile (scheme : String) (s : List Char) : Except UrlFault Url := do
  let (host, rest) := cutFileHost s
  let host ← readFileHost host
  let (path, query, fragment) := cutEnd rest
  pure ⟨scheme, some ⟨"", host, none⟩, if path.isEmpty then "/" else readPath path, query,
    fragment⟩

/-- The scheme of files. -/
def fileScheme : String := "file"

/-- Reads a URL. -/
def read (s : String) : Except UrlFault Url :=
  match cutScheme? (clean s) with
  | none => .error .relative
  | some (scheme, rest) =>
    if scheme = fileScheme then ofFile scheme (turnSlashes rest)
    else if (webPorts.lookup scheme).isSome then
      withAuthority scheme true ((turnSlashes rest).dropWhile (· == '/'))
    else
      match rest with
      | '/' :: '/' :: rest => withAuthority scheme false rest
      | _ =>
        let (path, query, fragment) := cutEnd rest
        let path := if path.head? = some '/' then readPath path else Percent.escapeControls path
        .ok ⟨scheme, none, path, query, fragment⟩

/-- The text of an authority. -/
def authorityText (a : Authority) : String :=
  "//" ++ (if a.userInfo = "" then "" else a.userInfo ++ "@") ++ a.host ++
    match a.port with
    | none => ""
    | some n => ":" ++ Decimal.natText n

/-- The text of a part that may be missing. -/
def partText (mark : String) : Option String → String
  | none => ""
  | some s => mark ++ s

/-- The text of a URL. -/
def text (u : Url) : String :=
  u.scheme ++ ":" ++ (u.authority.map authorityText).getD "" ++ u.path ++ partText "?" u.query ++
    partText "#" u.fragment

/-- Adds fields to the query. -/
def addFields (u : Url) (fields : List (String × String)) : Url :=
  let added := String.ofList (Form.encodeFields fields)
  { u with query := some (match u.query with
      | none | some "" => added
      | some q => q ++ "&" ++ added) }

end Url

end Gatehouse
