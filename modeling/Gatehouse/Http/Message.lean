import Gatehouse.Http.Address
import Gatehouse.Http.Problem
import Gatehouse.Json.Printer

/-!
# Requests and responses

A request is read as far as the service looks at it: the method, the path, the query, the headers
and the body. Bodies of responses are JSON; a response without one says all by its status.
-/

namespace Gatehouse

/-- A request. -/
structure Request where
  method : String
  path : String
  /-- What follows the path after `?`. -/
  query : String
  headers : List (String × String)
  body : String
  deriving DecidableEq, Repr

namespace Request

/-- The path and the query of a target; a fragment is not part of either. -/
def splitTarget (target : String) : String × String :=
  let address := (Address.localPart target.toList).takeWhile (· ≠ '#')
  match Text.cutFirst? '?' address with
  | some (path, query) => (String.ofList path, String.ofList query)
  | none => (String.ofList address, "")

/-- The request for a target. -/
def ofTarget (method target : String) (headers : List (String × String)) (body : String) :
    Request :=
  ⟨method, (splitTarget target).1, (splitTarget target).2, headers, body⟩

/-- Whether a header value can be read as a text: it has visible ASCII characters, spaces and tabs
only. -/
def isReadable (value : String) : Bool :=
  value.toList.all fun c => c == '\t' || (' ' ≤ c && c ≤ '~')

/-- The readable values of a header, in order. -/
def headerValues (r : Request) (name : String) : List String :=
  (r.headers.filter fun h => Text.sameLetters h.1 name && isReadable h.2).map (·.2)

/-- The first value of a header, if it can be read. -/
def header? (r : Request) (name : String) : Option String :=
  ((r.headers.find? fun h => Text.sameLetters h.1 name).map (·.2)).filter isReadable

end Request

/-- A response. -/
structure Response where
  status : Nat
  headers : List (String × String)
  body : Option Json

namespace Response

/-- A response that says all by its status. -/
def empty (status : Nat) : Response :=
  ⟨status, [], none⟩

/-- The response with a JSON body. -/
def ofJson (status : Nat) (body : Json) : Response :=
  ⟨status, [], some body⟩

/-- The response to a request that was not carried out. -/
def ofProblem (p : Problem) : Response :=
  ofJson p.shown.1 (.obj [("error", .str p.shown.2)])

/-- Adds a header. -/
def withHeader (r : Response) (name value : String) : Response :=
  { r with headers := r.headers ++ [(name, value)] }

/-- Leaves the body out. -/
def withoutBody (r : Response) : Response :=
  { r with body := none }

end Response

end Gatehouse
