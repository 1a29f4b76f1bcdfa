/-
Sessions with a controller, and the login with a form that begins one:
the credentials are posted, a token is fetched, and the controller is
asked which release it is.
-/
import Sdwan.Api.Envelope
import Sdwan.Http.Dialogue
import Sdwan.Url.Parse
import Sdwan.Version

namespace Sdwan

open Json

/-- What a session adds to every request, and what it knows about the
controller. -/
structure Session where
  xsrfToken : Option String := none
  apiVersion : Option Version := none
  vsessionId : Option String := none
deriving DecidableEq, Repr

/-- A computation that talks to a controller and may fail. -/
abbrev Action (α : Type) := ExceptT Error Http.Dialogue α

namespace Action

/-- Sends one request. -/
def ask (r : Http.Request) : Action Http.Outcome := ExceptT.lift (Http.Dialogue.ask r)

end Action

-- ============================================== outcomes

variable [Platform]

/-- The error for a request that brought no reply. -/
def Error.ofFailure : Http.Outcome → Error
  | .reply r => .ofReply r.status ((r.text?).getD "")
  | .refused => .serviceUnavailable "transport"
  | .unreachable => .timeout "transport"
  | .timedOut => .timeout "transport"
  | .broken => .http "transport"

/-- The error for a body that did not come to its end. -/
def Error.unreadableBody : Error := .parse "error decoding response body"

/-- The reply an outcome has to be. -/
def Http.Outcome.replyOrFail : Http.Outcome → Result Http.Reply
  | .reply r => .ok r
  | o => .error (.ofFailure o)

/-- The bytes of a reply, which have to be all there. -/
def Http.Reply.readBody (r : Http.Reply) : Result (List UInt8) :=
  match r.body with
  | some bytes => .ok bytes
  | none => .error .unreadableBody

/-- The text of a reply, which has to be all there. -/
def Http.Reply.readText (r : Http.Reply) : Result String :=
  match r.text? with
  | some t => .ok t
  | none => .error .unreadableBody

/-- What a text means where a URL is the base. -/
def Url.resolve (base : Url) (text : String) : Result Url :=
  (base.join text).mapError fun e => .invalidEndpoint e.message

-- ============================================== the controller's release

/-- What a controller says about itself. -/
structure ServerInfo where
  platformVersion : Option String
  tenancyMode : Option String
  user : Option String
deriving DecidableEq, Repr

namespace ServerInfo

/-- The members of the answer. -/
def members : Members ServerInfo ServerInfo :=
  ServerInfo.mk <$> .optional "platformVersion" ServerInfo.platformVersion
    <*> .optional "tenancyMode" ServerInfo.tenancyMode
    <*> .optional "user" ServerInfo.user

instance : Coded ServerInfo := members.coded "ServerInfo"

/-- The answer stands inside an object of its own. -/
def wrapped : Members ServerInfo ServerInfo := .required "data" id

/-- Reads the bytes of an answer. -/
def ofBytes? (body : List UInt8) : Option ServerInfo :=
  (Json.readBytes (wrapped.readRecord "ServerInfoEnvelope") body).toOption

/-- The release, if the answer names one that can be read. -/
def apiVersion? (i : ServerInfo) : Option Version :=
  i.platformVersion.bind fun raw => (Version.parse raw).toOption

end ServerInfo

-- ============================================== login

/-- Where to log in, and as whom. -/
structure Login where
  hostUrl : Url
  apiUrl : Url
  username : String
  password : String
deriving Repr

/-- Whether a body is a page for people instead of an answer. -/
def looksLikeHtml (body : String) : Bool :=
  let head := (Text.trimStart body.toList).map Text.lowerAscii
  "<html".toList.isPrefixOf head || "<!doctype".toList.isPrefixOf head

namespace Login

/-- Posts the credentials. A controller that does not accept them may
answer with its login page. -/
def submit (l : Login) : Action Unit := do
  let url ← l.hostUrl.resolve "j_security_check"
  let outcome ← Action.ask
    { method := .post, url
      body := .form [("j_username", l.username), ("j_password", l.password)] }
  let reply ← outcome.replyOrFail
  let body := reply.text?.getD ""
  if !reply.status.isSuccess || looksLikeHtml body then
    throw (.authentication ("login rejected for user " ++ Text.backquoted l.username))

/-- Fetches the token; old controllers have none. -/
def fetchToken (l : Login) : Action (Option String) := do
  let url ← l.apiUrl.resolve "client/token"
  let outcome ← Action.ask { method := .get, url }
  let reply ← outcome.replyOrFail
  if reply.status.code == 404 then return none
  let body ← reply.readText
  if !reply.status.isSuccess || looksLikeHtml body then
    throw (.authentication ("failed to obtain XSRF token (" ++ reply.status.text ++ ")"))
  return some (Text.trimmed body)

/-- Asks the controller about itself. -/
def fetchServerInfo (l : Login) (token : Option String) : Action ServerInfo := do
  let url ← l.apiUrl.resolve "client/server"
  let request : Http.Request := { method := .get, url, headers := [("accept", "application/json")] }
  let outcome ← Action.ask (request.withHeaderIf "x-xsrf-token" token)
  let reply ← outcome.replyOrFail
  if !reply.status.isSuccess then throw (.ofReply reply.status (reply.text?.getD ""))
  match reply.body.bind ServerInfo.ofBytes? with
  | some info => return info
  | none => throw (.parse "invalid /client/server response")

/-- The whole login. -/
def authenticate (l : Login) : Action Session := do
  l.submit
  let token ← l.fetchToken
  let info ← l.fetchServerInfo token
  return { xsrfToken := token, apiVersion := info.apiVersion? }

end Login

end Sdwan
