/-
HTTP requests and what comes back for them: a reply, or no reply and the
reason.
-/
import Sdwan.Http.Status
import Sdwan.Json.Basic
import Sdwan.Platform
import Sdwan.Url.Basic

namespace Sdwan.Http

-- ============================================== requests

/-- What a request asks for. -/
inductive Method where
  | get | post | put | delete | patch | head
  /-- Any other, by name. -/
  | other (name : String)
deriving DecidableEq, Repr

/-- The name in the request line. -/
def Method.name : Method → String
  | .get => "GET"
  | .post => "POST"
  | .put => "PUT"
  | .delete => "DELETE"
  | .patch => "PATCH"
  | .head => "HEAD"
  | .other name => name

/-- The method of a name. -/
def Method.ofName (name : String) : Method :=
  match [Method.get, .post, .put, .delete, .patch, .head].find? (·.name == name) with
  | some m => m
  | none => .other name

/-- A file as one part of a form. -/
structure Part where
  field : String
  fileName : String
  content : List UInt8
deriving DecidableEq, Repr

/-- A character of a file name, between quotation marks. -/
def Part.nameChar (c : Char) : List Char :=
  if c == '"' || c == '\\' || c == '\r' || c == '\n' then ['\\', c] else [c]

/-- The line in front of the content. -/
def Part.head (p : Part) : String :=
  "Content-Disposition: form-data; name=\"" ++ p.field ++ "\"; filename=\""
    ++ String.ofList (p.fileName.toList.flatMap nameChar) ++ "\""

/-- What a request carries. -/
inductive Body where
  | empty
  | json (value : Json)
  | text (value : String)
  | form (pairs : List (String × String))
  | multipart (parts : List Part)
deriving BEq, Repr

/-- The media type of a body. -/
def Body.mediaType : Body → Option String
  | .empty => none
  | .json _ => some "application/json"
  | .text _ => some "text/plain"
  | .form _ => some "application/x-www-form-urlencoded"
  | .multipart _ => some "multipart/form-data"

/-- Headers in order; names are in lower case. -/
abbrev Headers := List (String × String)

/-- A request. -/
structure Request where
  method : Method
  url : Url
  headers : Headers := []
  body : Body := .empty
deriving BEq, Repr

/-- The value of a header. -/
def Request.header? (r : Request) (name : String) : Option String := r.headers.lookup name

/-- Adds a header. -/
def Request.withHeader (r : Request) (name value : String) : Request :=
  { r with headers := r.headers ++ [(name, value)] }

/-- Adds a header if it has a value. -/
def Request.withHeaderIf (r : Request) (name : String) : Option String → Request
  | none => r
  | some value => r.withHeader name value

/-- Whether a text may be the value of a header: no control characters
but the tab. -/
def isHeaderValue (s : String) : Bool :=
  s.toList.all fun c => (32 ≤ c.toNat && c.toNat != 127) || c == '\t'

/-- Whether the request can be put on a connection at all. -/
def Request.isSendable (r : Request) : Bool :=
  r.url.isWeb && r.headers.all fun h => isHeaderValue h.2

-- ============================================== replies

/-- A reply. The body is missing when the connection ended before all of
it had come. -/
structure Reply where
  status : Status
  headers : Headers := []
  body : Option (List UInt8)
deriving DecidableEq, Repr

/-- The text of the body, if there is one. The media type may say in which
encoding it is. -/
def Reply.text? [Charsets] (r : Reply) : Option String :=
  r.body.map (Charsets.decode (r.headers.lookup "content-type"))

/-- What comes of a request. -/
inductive Outcome where
  | reply (r : Reply)
  /-- No connection could be made, so the request was not sent. -/
  | refused
  /-- No connection came about in time, so the request was not sent. -/
  | unreachable
  /-- Nothing came in time. -/
  | timedOut
  /-- Any other failure. -/
  | broken
deriving DecidableEq, Repr

end Sdwan.Http
