import Gatehouse.Http.Address
import Gatehouse.Json.Decode
import Gatehouse.Json.Basic

/-!
# Talking to a provider

A provider is asked by requests over HTTP. It answers in JSON, and says so if it says anything
about the type of its answer.
-/

namespace Gatehouse

/-- A request to a provider. -/
structure ProviderRequest where
  method : String
  url : String
  /-- The name and the password that the request is signed with. -/
  credentials : Option (String × String)
  /-- The fields of the form that is sent. -/
  form : List (String × String)
  deriving DecidableEq, Repr

/-- The request that fetches a document. -/
def ProviderRequest.fetch (url : String) : ProviderRequest :=
  ⟨"GET", url, none, []⟩

/-- The answer of a provider. -/
structure ProviderReply where
  status : Nat
  contentType : Option String
  body : String
  deriving DecidableEq, Repr

/-- Sends requests. An answer that is missing did not come. -/
structure Transport (m : Type → Type) where
  send : ProviderRequest → m (Option ProviderReply)

/-- A network that reaches nobody. -/
def Transport.offline {m : Type → Type} [Monad m] : Transport m where
  send _ := pure none

/-- Why a document was not fetched. -/
inductive FetchFault where
  /-- No request can be sent to the address. -/
  | unsendable (fault : AddressFault)
  /-- There was no answer. -/
  | noReply
  /-- The answer is not one with a document. -/
  | badReply (reason : String)
  /-- The document is not what it should be. -/
  | unreadable
  /-- The document contradicts what is known of the provider. -/
  | invalid (reason : String)
  deriving DecidableEq, Repr

/-- The text of a fault. -/
def FetchFault.message : FetchFault → String
  | .unsendable fault => "Other error: failed to prepare request: " ++ fault.message
  | .noReply => "Request failed"
  | .badReply reason => "Server returned invalid response: " ++ reason
  | .unreadable => "Failed to parse server response"
  | .invalid reason => "Validation error: " ++ reason

namespace ProviderReply

/-- The type that answers have. -/
def jsonType : String := "application/json"

/-- Whether the declared type of an answer is JSON, or there is none. -/
def isJson (r : ProviderReply) : Bool :=
  match r.contentType with
  | none => true
  | some declared => jsonType.toList.isPrefixOf (declared.toList.map Char.toLower)

/-- The reason against an answer of another type. -/
def typeReason (r : ProviderReply) : String :=
  "Unexpected response Content-Type: `" ++ r.contentType.getD "" ++ "`, should be `" ++ jsonType ++
    "`"

/-- The document in an answer. -/
def document (r : ProviderReply) : Except FetchFault Json :=
  if r.status ≠ 200 then
    .error (.badReply ("HTTP status code " ++ Decimal.natText r.status))
  else if !r.isJson then .error (.badReply r.typeReason)
  else (Json.read r.body).mapError fun _ => .unreadable

end ProviderReply

/-- Sends a request if its address is one for requests. -/
def Transport.trySend {m : Type → Type} [Monad m] (t : Transport m) (r : ProviderRequest) :
    m (Except FetchFault ProviderReply) :=
  match Address.fault? r.url with
  | some fault => pure (.error (.unsendable fault))
  | none => do
    match ← t.send r with
    | none => return .error .noReply
    | some reply => return .ok reply

/-- Fetches a document. -/
def Transport.fetch {m : Type → Type} [Monad m] (t : Transport m) (url : String) :
    ExceptT FetchFault m Json :=
  ExceptT.mk do
    return (← t.trySend (.fetch url)).bind ProviderReply.document

end Gatehouse
