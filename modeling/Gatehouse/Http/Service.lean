import Gatehouse.Config.Settings
import Gatehouse.Federation.SignIn
import Gatehouse.Http.Cookie
import Gatehouse.Http.MediaType
import Gatehouse.Permission.Authorizer
import Gatehouse.Permission.Record
import Gatehouse.Session.Authenticator

/-!
# The service

Each route has one handler, and `Service.respond` finds the route of a request by its path. The
time and all drawn values come in with the request as an `Occasion`, so a handler has no other
effect than its calls to the stores and to the provider. A handler in which the program stops gives
no response: the connection is dropped.
-/

namespace Gatehouse

/-- What answering a request needs besides the request: the time and drawn values. -/
structure Occasion where
  issuance : Issuance
  state : Draw
  nonce : Draw
  verifier : Draw

/-- The parts that answer requests. -/
structure Service (m : Type → Type) where
  sessions : SessionService m
  /-- Sign-in by a provider, if it is offered. -/
  federation : Option (FederationService m)
  openId : OpenIdSettings
  authenticator : Authenticator m
  permissions : PermissionStore m
  secureCookies : Bool

/-- The routes of the service. -/
inductive Route where
  | login
  | refresh
  | logout
  | me
  | openId
  | openIdLogin
  | openIdCallback
  deriving DecidableEq, Repr

namespace Route

/-- The route of a path. -/
def ofPath? : String → Option Route
  | "/auth/login" => some .login
  | "/auth/refresh" => some .refresh
  | "/auth/logout" => some .logout
  | "/auth/me" => some .me
  | "/auth/openid" => some .openId
  | "/auth/openid/login" => some .openIdLogin
  | "/auth/openid/callback" => some .openIdCallback
  | _ => none

/-- Whether a route changes what it is asked with, so that it needs to be posted to. -/
def isPosted : Route → Bool
  | .login | .refresh | .logout => true
  | .me | .openId | .openIdLogin | .openIdCallback => false

/-- The methods of a route. -/
def methods (route : Route) : List String :=
  if route.isPosted then ["POST"] else ["GET", "HEAD"]

end Route

/-! ### Reading requests -/

/-- The parameters of a callback. Missing ones are empty. -/
structure CallbackQuery where
  code : String
  state : String
  /-- Present, even if empty, when the provider ends the sign-in without a code. -/
  error : Option String
  deriving DecidableEq, Repr

/-- The value of a field, none if it is missing. A field that is there twice is an error. -/
def onlyValue? (fields : List (String × String)) (name : String) : Option (Option String) :=
  match fields.filter (·.1 == name) with
  | [] => some none
  | [field] => some (some field.2)
  | _ => none

/-- Reads the query of a callback. -/
def CallbackQuery.read? (query : String) : Option CallbackQuery := do
  let fields := Form.decodeFields query.toList
  let code ← onlyValue? fields "code"
  let state ← onlyValue? fields "state"
  let error ← onlyValue? fields "error"
  pure ⟨code.getD "", state.getD "", error⟩

/-- The status for a body that is not what a route needs. -/
def bodyStatus : JsonFault → Nat
  | .syntaxFault => 400
  | .dataFault => 422

/-- Reads the JSON body of a request, or gives the response to a body that cannot be read. -/
def Request.readBody {α : Type} (r : Request) (decode : Decoder α) : Except Response α :=
  if (r.header? "content-type").any MediaType.isJson then
    (decode.run r.body).mapError fun fault => .empty (bodyStatus fault)
  else .error (.empty 415)

/-- A username and a password. -/
def decodeCredentials : Decoder (String × String) := do
  let found ← Decoder.entries
    [Decoder.member "username" Decoder.text, Decoder.member "password" Decoder.text] 2
  pure (← found.needed "username" Decoder.text, ← found.needed "password" Decoder.text)

/-- A refresh token. -/
def decodeRefreshToken : Decoder String := do
  let found ← Decoder.entries [Decoder.member "refresh_token" Decoder.text] 1
  found.needed "refresh_token" Decoder.text

namespace Service

variable {m : Type → Type} [Monad m]

/-- The service with some settings. The provider is not used unless the settings enable it. -/
def ofSettings (settings : ServiceSettings) (users : UserStore m) (permissions : PermissionStore m)
    (hasher : PasswordHasher) (provider : Option (IdentityProvider m)) :
    Except TokenError (Service m) := do
  let codec ← TokenCodec.ofSettings settings.token
  pure {
    sessions := ⟨users, codec, hasher⟩
    federation :=
      (provider.filter fun _ => settings.openId.enabled).map fun p => ⟨p, users, codec⟩
    openId := settings.openId
    authenticator := ⟨codec, users, settings.token.headerName⟩
    permissions := permissions
    secureCookies := settings.secureCookies }

/-! ### Handlers -/

/-- The response to an operation that gives a value or a problem. -/
def answer {α : Type} (write : α → Option Response) : Except Problem α → Option Response
  | .ok a => write a
  | .error p => some (.ofProblem p)

/-- Carries out an operation on sessions. -/
def attempt {α : Type} (write : α → Option Response) (run : ExceptT AuthError m α) :
    m (Option Response) := do
  return answer write ((← run.run).mapError .auth)

/-- The response with a session. -/
def sessionResponse (s : Session) : Response :=
  .ofJson 200 s.toJson

/-- Recognises the caller of a request. -/
def caller (s : Service m) (o : Occasion) (r : Request) : ExceptT AuthError m Caller :=
  s.authenticator.authenticate o.issuance.now (r.header? s.authenticator.headerName)

/-- Signs in with a password. -/
def login (s : Service m) (o : Occasion) (r : Request) : m (Option Response) :=
  match r.readBody decodeCredentials with
  | .error refusal => pure (some refusal)
  | .ok (username, password) =>
    attempt (Option.map sessionResponse) (s.sessions.login o.issuance username password)

/-- Exchanges a refresh token. -/
def refresh (s : Service m) (o : Occasion) (r : Request) : m (Option Response) :=
  match r.readBody decodeRefreshToken with
  | .error refusal => pure (some refusal)
  | .ok token => attempt (Option.map sessionResponse) (s.sessions.refresh o.issuance token)

/-- Signs the caller out. -/
def logout (s : Service m) (o : Occasion) (r : Request) : m (Option Response) :=
  attempt (fun _ => some (.empty 204)) do
    let c ← s.caller o r
    s.sessions.logout c.userId

/-- Tells the caller who it is and what it may do. -/
def me (s : Service m) (o : Occasion) (r : Request) : m (Option Response) := do
  match ← (s.caller o r).run with
  | .error e => pure (some (.ofProblem (.auth e)))
  | .ok c =>
    let held ← s.permissions.permissions (.username c.username)
    pure (answer (fun p => some (.ofJson 200 (.obj (c.members ++ [("permissions", p.toJson)]))))
      (held.mapError .store))

/-- Tells how the login page presents sign-in by a provider. -/
def openIdInfo (s : Service m) : Response :=
  .ofJson 200 <| .obj <|
    [("enabled", .bool s.federation.isSome), ("name", .str s.openId.name)] ++
    match s.openId.icon with
    | none => []
    | some icon => [("icon", .str icon)]

/-- The name of the cookie that ties a callback to the browser that began the sign-in. -/
def bindingCookieName : String := "openid_state"

/-- How many seconds a browser may take for a sign-in. -/
def bindingMaxAge : Int := 300

/-- Whether the cookie of a response is sent over secure connections only. -/
def isSecure (s : Service m) (r : Request) : Bool :=
  s.secureCookies || (r.header? "x-forwarded-proto").any fun proto => Text.sameLetters proto "https"

/-- Adds the cookie for a sign-in. -/
def withBindingCookie (s : Service m) (r : Request) (value : String) (maxAge : Int)
    (response : Response) : Response :=
  response.withHeader "set-cookie"
    (SetCookie.text ⟨bindingCookieName, value, s.isSecure r, maxAge⟩)

/-- Begins a sign-in: sends the browser to the provider with a fresh binding in its cookie. The
program stops if the provider has no address for the binding. -/
def openIdLogin (s : Service m) (o : Occasion) (r : Request) : Option Response :=
  match s.federation with
  | none => some (.ofProblem .federationDisabled)
  | some federation =>
    (federation.beginSignIn o.state o.nonce o.verifier).map fun start =>
      s.withBindingCookie r start.binding.encode bindingMaxAge
        ((Response.empty 303).withHeader "location" start.url)

/-- The binding in the cookie of a request; an empty one if there is none. -/
def requestBinding (r : Request) : LoginBinding :=
  ((Cookie.find? (Cookie.ofRequest r) bindingCookieName).bind LoginBinding.decode).getD ⟨"", "", ""⟩

/-- Completes a sign-in, unless the provider ended it without a code. -/
def completeSignIn (s : Service m) (o : Occasion) (r : Request) (q : CallbackQuery) :
    m (Option Response) :=
  match s.federation with
  | none => pure (some (.ofProblem .federationDisabled))
  | some federation =>
    match q.error with
    | some reason => pure (some (.ofProblem (.signInAborted reason)))
    | none =>
      if q.code = "" then pure (some (.ofProblem (.signInAborted "missing code")))
      else attempt (Option.map sessionResponse)
        (federation.complete o.issuance q.code q.state (requestBinding r))

/-- Answers the browser that comes back from the provider. An answer clears its cookie, whatever
came of the sign-in. -/
def openIdCallback (s : Service m) (o : Occasion) (r : Request) : m (Option Response) :=
  match CallbackQuery.read? r.query with
  | none => pure (some (.empty 400))
  | some q => return (← s.completeSignIn o r q).map (s.withBindingCookie r "" (-1))

/-! ### Answering -/

/-- Carries out the handler of a route. -/
def handle (s : Service m) (o : Occasion) (r : Request) : Route → m (Option Response)
  | .login => s.login o r
  | .refresh => s.refresh o r
  | .logout => s.logout o r
  | .me => s.me o r
  | .openId => pure (some s.openIdInfo)
  | .openIdLogin => pure (s.openIdLogin o r)
  | .openIdCallback => s.openIdCallback o r

/-- Answers a request. None if the program stops, and the connection is dropped. -/
def respond (s : Service m) (o : Occasion) (r : Request) : m (Option Response) :=
  match Route.ofPath? r.path with
  | none => pure (some (.empty 404))
  | some route =>
    if r.method ∉ route.methods then
      pure (some ((Response.empty 405).withHeader "allow" (",".intercalate route.methods)))
    else if r.method = "HEAD" then return (← s.handle o r route).map Response.withoutBody
    else s.handle o r route

end Service

end Gatehouse
