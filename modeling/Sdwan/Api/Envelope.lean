/-
What a controller says about a request that it did not carry out: an
object with a message, details and a code, none of which has to be there.
-/
import Sdwan.Error
import Sdwan.Http.Status

namespace Sdwan

open Json

/-- The controller's account of a failure. -/
structure Envelope where
  message : Option String
  details : Option String
  code : Option String
deriving DecidableEq, Repr

namespace Envelope

/-- The members of the account. -/
def members : Members Envelope Envelope :=
  Envelope.mk <$> .optional "message" Envelope.message
    <*> .optional "details" Envelope.details
    <*> .optional "code" Envelope.code

instance : Coded Envelope := members.coded "VmanageErrorBody"

/-- The account stands inside an object of its own. -/
def wrapped : Members Envelope Envelope := .required "error" id

/-- The account in the body of a reply, if there is one. -/
def ofText? (body : String) : Option Envelope :=
  (readText (wrapped.readRecord "VmanageErrorEnvelope") body).toOption

/-- The account in one line. -/
def describe (e : Envelope) : String :=
  " ".intercalate
    ((e.code.map fun c => "[" ++ c ++ "]").toList
      ++ e.message.toList
      ++ (e.details.map fun d => "(" ++ d ++ ")").toList)

end Envelope

/-- The error for a reply that is not a success, from its status and the
text of its body. -/
def Error.ofReply (status : Http.Status) (body : String) : Error :=
  let text := ((Envelope.ofText? body).map Envelope.describe).getD body
  match status.code with
  | 404 => .notFound text
  | 400 => .badRequest text
  | 401 | 403 => .authentication text
  | 409 => .conflict text
  | 429 | 502 | 503 | 504 => .serviceUnavailable ("vManage temporarily unavailable: " ++ text)
  | _ =>
    if status.isServerError then
      .serviceUnavailable ("vManage server error " ++ status.text ++ ": " ++ text)
    else .http ("vManage error " ++ status.text ++ ": " ++ text)

end Sdwan
