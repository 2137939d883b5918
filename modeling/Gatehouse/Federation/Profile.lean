import Gatehouse.Federation.Error
import Gatehouse.Json.Decode
import Gatehouse.Text.Blank

/-!
# Profiles of federated users

A profile is read out of the claims of an ID token. Only a subject is needed. The names are the
given and the family name, or else the two sides of the first space of the full name. Roles are
looked up along a path of names through nested objects.
-/

namespace Gatehouse

/-- The claims of an ID token: the members of its payload. -/
abbrev ClaimSet := List (String × Json)

namespace ClaimSet

/-- Reads claims; only an object has them. -/
def decode : Decoder ClaimSet := do
  match ← Decoder.any with
  | .obj members => pure members
  | _ => Decoder.unfit

/-- A claim that is a text; anything else reads as the empty text. -/
def text (claims : ClaimSet) (name : String) : String :=
  ((claims.lookup name).bind Json.text?).getD ""

/-- Follows names from a value on, each of them to a member of the object that was come to. -/
def follow (start : Json) (names : List String) : Option Json :=
  names.foldlM (fun cursor name => cursor.member? name) start

/-- The texts of an array; other items are left out. -/
def textItems : Json → Option (List String)
  | .arr items => some (items.filterMap Json.text?)
  | _ => none

/-- The roles at the end of a path, whose names are separated by dots. The first name is one of a
claim, and the others are followed from there. -/
def rolesAt (claims : ClaimSet) (path : String) : Option (List String) :=
  match Text.splitAt '.' path with
  | [] => none
  | first :: rest => do
    let claim ← claims.lookup first
    let found ← follow claim rest
    textItems found

end ClaimSet

/-- What a provider tells about a user. -/
structure Profile where
  subject : String
  email : String
  firstName : String
  lastName : String
  name : String
  /-- The roles at the configured path; none if there is no path or nothing at its end. -/
  roles : Option (List String)
  deriving DecidableEq, Repr

namespace Profile

/-- The failure of claims without a subject. -/
def noSubject : ProviderError :=
  .claimsUnreadable "missing sub claim"

/-- The two names of a full name: what stands before and after its first space. -/
def splitName (name : String) : String × String :=
  match Text.cutFirst? ' ' name.toList with
  | some (first, last) => (String.ofList first, String.ofList last)
  | none => (name, "")

/-- The first and the last name in some claims. -/
def namesOf (claims : ClaimSet) : String × String :=
  let given := claims.text "given_name"
  let family := claims.text "family_name"
  let name := claims.text "name"
  if given = "" ∧ family = "" ∧ name ≠ "" then splitName name else (given, family)

/-- Reads the profile out of claims. -/
def ofClaims (claims : ClaimSet) (rolesPath : Option String) : Except ProviderError Profile :=
  let subject := claims.text "sub"
  if subject = "" then .error noSubject
  else .ok {
    subject := subject
    email := claims.text "email"
    firstName := (namesOf claims).1
    lastName := (namesOf claims).2
    name := claims.text "name"
    roles := rolesPath.bind claims.rolesAt }

/-- The name of the user here: the email, or the subject if there is none. -/
def username (p : Profile) : String :=
  if p.email = "" then p.subject else p.email

/-- The record of a profile. -/
def toJson (p : Profile) : Json :=
  .obj [("subject", .str p.subject), ("email", .str p.email), ("first_name", .str p.firstName),
    ("last_name", .str p.lastName), ("name", .str p.name),
    ("roles", Json.ofOption Json.ofTexts p.roles)]

end Profile

end Gatehouse
