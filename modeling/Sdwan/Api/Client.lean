/-
The client of one controller: where it is, which session it is in, and
how it calls endpoints.

A call checks the endpoint's constraint on versions, fills in its path,
and sends the request until the outcome is final or the retries are used
up. A method that may have done its work before the failure is repeated
only when the controller cannot have seen the request or has refused it.
-/
import Sdwan.Api.Config
import Sdwan.Api.Endpoint
import Sdwan.Api.Retry
import Sdwan.Api.Session
import Sdwan.Files
import Sdwan.Http.Agent
import Sdwan.Platform

namespace Sdwan

-- ============================================== the client

/-- A client of a controller. -/
structure Client where
  /-- The address of the controller; its path ends with a slash. -/
  hostUrl : Url
  /-- Where the interface lies. -/
  apiUrl : Url
  settings : Settings
  userAgent : String
  pinnedVersion : Option Version
  session : Session
deriving Repr

/-- The settings of a client that is still to be made. -/
structure ClientBuilder where
  hostUrl : Url
  settings : Settings := {}
  userAgent : String := "vmanage-rust/0.1.0"
  tlsVerify : Bool := true
  caCert : Option String := none
  pinnedVersion : Option Version := none
  session : Session := {}
deriving Repr

variable [Platform]

namespace ClientBuilder

/-- Begins with the address of a controller. -/
def new (address : String) : Result ClientBuilder :=
  match Url.parse address with
  | .error e =>
    .error (.config ("Invalid vManage URL " ++ Text.backquoted address ++ ": " ++ e.message))
  | .ok url =>
    if url.isWeb then .ok { hostUrl := url.withSlash }
    else
      .error (.config ("Unsupported scheme " ++ Text.backquoted (String.ofList url.scheme)
        ++ " for vManage URL"))

/-- Begins with a configuration. -/
def ofConfig (c : Config) : Result ClientBuilder := do
  let b ← new c.url
  .ok { b with
    settings := { timeout := c.timeoutMillis, retry := { maxRetries := c.maxRetries } }
    tlsVerify := c.tlsVerify
    caCert := c.caCert
    pinnedVersion := c.apiVersion
    session := { vsessionId := c.vsessionId } }

/-- Checks the file with the certificate, if there is one. -/
def checkCertificate (b : ClientBuilder) (files : Files) : Result Unit :=
  match b.caCert with
  | none => .ok ()
  | some path =>
    match files path with
    | .error fault =>
      .error (.config ("Failed to read CA certificate " ++ path ++ ": " ++ fault.message))
    | .ok bytes =>
      match Tls.Certificates.fault? bytes with
      | none => .ok ()
      | some reason => .error (.config ("Invalid CA certificate: " ++ reason))

/-- Makes the client. -/
def build (b : ClientBuilder) (files : Files) : Result Client := do
  b.checkCertificate files
  if !Http.isHeaderValue b.userAgent then
    throw (.config "Failed to build HTTP client: builder error")
  let apiUrl ← b.hostUrl.resolve "dataservice/"
  return {
    hostUrl := b.hostUrl
    apiUrl
    settings := b.settings
    userAgent := b.userAgent
    pinnedVersion := b.pinnedVersion
    session := b.session }

end ClientBuilder

namespace Client

/-- The agent that carries the requests of a new client. -/
def agent (c : Client) : Http.Agent :=
  { userAgent := c.userAgent, compression := c.settings.compression }

-- ============================================== sessions

/-- The release of the controller: the pinned one, else the one that the
login found. -/
def apiVersion? (c : Client) : Option Version := c.pinnedVersion.or c.session.apiVersion

/-- The client in a new session. The provider's session with a tenant is
kept unless the new session has one of its own. -/
def inSession (c : Client) (s : Session) : Client :=
  { c with session := { s with vsessionId := s.vsessionId.or c.session.vsessionId } }

/-- Begins a session; a login that fails changes nothing. -/
def establish (c : Client) (authenticate : Action Session) : Action Client := do
  let s ← authenticate
  return c.inSession s

/-- The login with a form. -/
def formLogin (c : Client) (username password : String) : Login :=
  ⟨c.hostUrl, c.apiUrl, username, password⟩

/-- The client of a configuration, before its login. -/
def ofConfig (config : Config) (files : Files) : Result Client := do
  let b ← ClientBuilder.ofConfig config
  b.build files

/-- Makes the client of a configuration and logs it in. -/
def connect (config : Config) (files : Files) : Action Client := do
  let c ← ofConfig config files
  let password ← config.requirePassword
  c.establish (c.formLogin config.username password).authenticate

-- ============================================== requests

/-- Whether repeating a request does no harm. -/
def isIdempotent (m : Http.Method) : Bool := m != .post && m != .patch

/-- Whether a status is worth another attempt. -/
def isRetryable (s : Http.Status) (idempotent : Bool) : Bool :=
  if idempotent then s.code == 429 || s.isServerError else s.code == 429 || s.code == 503

/-- What an attempt amounts to. -/
inductive Verdict where
  | success (r : Http.Reply)
  | final (e : Error)
  /-- Failed, but another attempt may succeed. -/
  | again (e : Error)
deriving DecidableEq, Repr

/-- The verdict on an attempt. -/
def judge (idempotent : Bool) : Http.Outcome → Verdict
  | .reply r =>
    if r.status.isSuccess then .success r
    else
      let e := Error.ofReply r.status (r.text?.getD "Unknown error")
      if isRetryable r.status idempotent then .again e else .final e
  | .refused => .again (.ofFailure .refused)
  | .unreachable => .again (.ofFailure .unreachable)
  | .timedOut => if idempotent then .again (.ofFailure .timedOut) else .final (.ofFailure .timedOut)
  | .broken => if idempotent then .again (.ofFailure .broken) else .final (.ofFailure .broken)

/-- Sends a request until the verdict is final, `left` times more at most;
`attempt` attempts have been made. -/
def attempts (p : RetryPolicy) (r : Http.Request) (attempt : Nat) :
    (left : Nat) → Http.Dialogue (Result Http.Reply)
  | 0 =>
    .send r fun o =>
      match judge (isIdempotent r.method) o with
      | .success reply => .done (.ok reply)
      | .final e => .done (.error e)
      | .again e => .done (.error e)
  | left + 1 =>
    .send r fun o =>
      match judge (isIdempotent r.method) o with
      | .success reply => .done (.ok reply)
      | .final e => .done (.error e)
      | .again _ => .pause (p.delay (attempt + 1)) (attempts p r (attempt + 1) left)

/-- The URL of a path below the interface. -/
def buildUrl (c : Client) (path : String) : Result Url :=
  (c.apiUrl.join (String.ofList (path.toList.dropWhile (· == '/')))).mapError fun e =>
    .invalidEndpoint ("Invalid path " ++ Text.backquoted path ++ ": " ++ e.message)

/-- What a call adds to its request. -/
structure Payload where
  accept : Option String := none
  body : Http.Body := .empty

/-- The request to a URL, with the headers of the session. -/
def request (c : Client) (method : Http.Method) (url : Url) (params : List (String × String))
    (payload : Payload) : Http.Request :=
  let bare : Http.Request := { method, url := url.appendQuery params, body := payload.body }
  ((bare.withHeaderIf "x-xsrf-token" c.session.xsrfToken).withHeaderIf "vsessionid"
    c.session.vsessionId).withHeaderIf "accept" payload.accept

/-- Sends a request to a path, repeating it as the policy allows. -/
def execute (c : Client) (method : Http.Method) (path : String) (params : List (String × String))
    (payload : Payload) : Action Http.Reply := do
  let url ← c.buildUrl path
  ExceptT.mk (attempts c.settings.retry (c.request method url params payload) 0
    c.settings.retry.maxRetries.toNat)

-- ============================================== calls

/-- Refuses an endpoint that the controller's release does not have. A
release that is not known is taken to have it. -/
def ensureSupported (c : Client) (e : Endpoint) : Result Unit := do
  match ← e.constraint? with
  | none => .ok ()
  | some constraint =>
    match c.apiVersion? with
    | none => .ok ()
    | some v =>
      if constraint.holds v then .ok ()
      else .error (.unsupportedVersion e.path constraint.text v.text)

/-- Calls an endpoint. -/
def call (c : Client) (e : Endpoint) (args params : List (String × String)) (payload : Payload) :
    Action Http.Reply := do
  c.ensureSupported e
  let path ← e.renderPath args
  c.execute e.verb.method path params payload

/-- A payload that is JSON, or none, where JSON is expected back. -/
def jsonPayload (body : Option Json) : Payload :=
  { accept := some "application/json"
    body := match body with
      | none => .empty
      | some j => .json j }

/-- Calls an endpoint and reads its result. -/
def callWith {α : Type} (c : Client) (e : Endpoint) (read : Json.Reader α)
    (args params : List (String × String)) (body : Option Json) : Action α := do
  let reply ← c.call e args params (jsonPayload body)
  let bytes ← reply.readBody
  e.readWith read bytes

/-- Calls an endpoint and reads its result. -/
def callJson (c : Client) (e : Endpoint) (α : Type) [Json.Coded α]
    (args params : List (String × String)) (body : Option Json) : Action α :=
  c.callWith e Json.Coded.read args params body

/-- Calls an endpoint whose answer does not matter. -/
def callEmpty (c : Client) (e : Endpoint) (args params : List (String × String))
    (body : Option Json) : Action Unit := do
  let _ ← c.call e args params (jsonPayload body)
  return ()

/-- Calls an endpoint that answers with a text. -/
def callText (c : Client) (e : Endpoint) (args params : List (String × String)) :
    Action String := do
  let reply ← c.call e args params {}
  reply.readText

/-- Calls an endpoint that answers with bytes. -/
def callBytes (c : Client) (e : Endpoint) (args params : List (String × String)) :
    Action (List UInt8) := do
  let reply ← c.call e args params { accept := some "application/octet-stream" }
  reply.readBody

end Client

end Sdwan
