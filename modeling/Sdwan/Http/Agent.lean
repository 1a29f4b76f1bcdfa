/-
The agent between a dialogue and the wire. It adds the headers that every
request has, keeps the cookies, and follows redirects; a request that no
connection can carry ends here.
-/
import Sdwan.Http.Cookie
import Sdwan.Http.Dialogue
import Sdwan.Url.Parse

namespace Sdwan.Http

/-- The settings of an agent, and its cookies. -/
structure Agent where
  userAgent : String
  /-- Whether compressed replies are welcome. -/
  compression : Bool
  jar : Jar := []
deriving Repr

namespace Agent

/-- The request as it goes over the wire. -/
def dress (a : Agent) (r : Request) : Request :=
  let accept := if (r.header? "accept").isSome then r else r.withHeader "accept" "*/*"
  let typed := accept.withHeaderIf "content-type" r.body.mediaType
  let named := typed.withHeader "user-agent" a.userAgent
  let packed := if a.compression then named.withHeader "accept-encoding" "gzip" else named
  packed.withHeaderIf "cookie" (a.jar.header? r.url)

/-- The number of redirects that are followed. -/
def redirectLimit : Nat := 10

/-- How a redirect goes on: with the same request, or with one that only
fetches the new place. -/
inductive Redirect where
  | same
  | plain
deriving DecidableEq, Repr

/-- The redirect a status stands for. A post that has been carried out is
not repeated at the new place unless the status asks for it. -/
def Redirect.ofStatus? (m : Method) (s : Status) : Option Redirect :=
  if s.code == 301 || s.code == 302 then some (if m == .post then plain else same)
  else if s.code == 303 then some plain
  else if s.code == 307 || s.code == 308 then some same
  else none

/-- The request to a new place. -/
def Redirect.apply (d : Redirect) (r : Request) (u : Url) : Request :=
  match d with
  | same => { r with url := u }
  | plain =>
    { r with
      url := u
      method := if r.method == .head then .head else .get
      body := .empty }

/-- Whether a request can be sent as it was. A form with files is gone
once it has been sent. -/
def isRepeatable : Body → Bool
  | .multipart _ => false
  | _ => true

/-- The request a reply sends the agent to, if any. -/
def redirected? [Url.Idna] (r : Request) (reply : Reply) : Option Request := do
  let d ← Redirect.ofStatus? r.method reply.status
  guard (d == .plain || isRepeatable r.body)
  let place ← reply.headers.lookup "location"
  let u ← (r.url.join place).toOption
  some (d.apply r u)

/-- Sends a request and follows redirects, `left` of them at most. -/
def exchange [Url.Idna] : (left : Nat) → Agent → Request → Dialogue (Outcome × Agent)
  | left, a, r =>
    if r.isSendable then
      .send (a.dress r) fun
        | .reply reply =>
          let a := { a with jar := a.jar.learn r.url reply.headers }
          match redirected? r reply with
          | none => .done (.reply reply, a)
          | some r =>
            match left with
            | 0 => .done (.broken, a)
            | left + 1 => exchange left a r
        | o => .done (o, a)
    else .done (.broken, a)

/-- A dialogue as it goes over the wire. -/
def speak [Url.Idna] {α : Type} (a : Agent) : Dialogue α → Dialogue (α × Agent)
  | .done value => .done (value, a)
  | .pause ms next => .pause ms (speak a next)
  | .send r next => (exchange redirectLimit a r).bind fun (o, a) => speak a (next o)

end Agent

end Sdwan.Http
