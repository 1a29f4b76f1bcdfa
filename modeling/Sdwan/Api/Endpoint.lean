/-
Endpoints: what one operation of the interface is called with, and where
in the answer its result lies.

The path of an endpoint is a template. A name in braces stands for an
argument, whose value is form encoded, so that it adds neither slashes
nor question marks.
-/
import Sdwan.Http.Message
import Sdwan.Url.Form
import Sdwan.Version.Constraint

namespace Sdwan

open Json

-- ============================================== templates

/-- A part of a path template. -/
inductive Template.Piece where
  | text (cs : List Char)
  | hole (name : List Char)
  /-- A brace that is not closed, and all behind it. -/
  | unclosed
deriving DecidableEq, Repr

namespace Template

/-- Puts a character in front of a text piece, or of one that is made for
it. -/
def addChar (c : Char) : List Piece → List Piece
  | .text cs :: ps => .text (c :: cs) :: ps
  | ps => .text [c] :: ps

/-- The pieces of a template. `name` holds the characters since the brace
that is open, the last one first. -/
def pieces : (name : Option (List Char)) → List Char → List Piece
  | none, [] => []
  | some _, [] => [.unclosed]
  | none, c :: cs => if c == '\x7b' then pieces (some []) cs else addChar c (pieces none cs)
  | some name, c :: cs =>
    if c == '\x7d' then .hole name.reverse :: pieces none cs else pieces (some (c :: name)) cs

/-- Why a template cannot be filled in. -/
inductive FillError where
  | missing (name : List Char)
  | unclosed
deriving DecidableEq, Repr

/-- The value of the first argument of a name. -/
def argument? (args : List (String × String)) (name : List Char) : Option String :=
  (args.find? (·.1.toList == name)).map (·.2)

/-- The pieces with their holes filled in, the first fault first. -/
def fill (args : List (String × String)) : List Piece → Except FillError (List Char)
  | [] => .ok []
  | .text cs :: ps => (fill args ps).map (cs ++ ·)
  | .hole name :: ps =>
    match argument? args name with
    | none => .error (.missing name)
    | some value => (fill args ps).map (Url.Form.encodePart value.toList ++ ·)
  | .unclosed :: _ => .error .unclosed

end Template

-- ============================================== endpoints

/-- The methods that endpoints use. -/
inductive Verb where
  | get | post | put | delete
deriving DecidableEq, Repr

/-- The method of a verb. -/
def Verb.method : Verb → Http.Method
  | .get => .get
  | .post => .post
  | .put => .put
  | .delete => .delete

/-- The name of a verb. -/
def Verb.name (v : Verb) : String := v.method.name

/-- One operation of the interface. -/
structure Endpoint where
  verb : Verb
  path : String
  /-- The member of the answer that holds the result. -/
  resultBody : Option String := none
  /-- The releases that have the operation. -/
  versions : Option String := none
deriving DecidableEq, Repr

namespace Endpoint

/-- How an endpoint is named in messages. -/
def text (e : Endpoint) : String := e.verb.name ++ " " ++ e.path

/-- The constraint on versions, if the endpoint declares one. -/
def constraint? (e : Endpoint) : Result (Option Version.Constraint) :=
  match e.versions with
  | none => .ok none
  | some raw =>
    match Version.Constraint.parse raw with
    | .ok c => .ok (some c)
    | .error err => .error (.invalidEndpoint (e.text ++ ": " ++ err.message))

/-- The path with its arguments filled in and without slashes in front. -/
def renderPath (e : Endpoint) (args : List (String × String)) : Result String :=
  match Template.fill args (Template.pieces none (e.path.toList.dropWhile (· == '/'))) with
  | .ok cs => .ok (String.ofList cs)
  | .error .unclosed =>
    .error (.invalidRequest ("unbalanced placeholder in " ++ Text.backquoted e.path))
  | .error (.missing name) =>
    .error (.invalidRequest ("missing path argument " ++ Text.backquoted (String.ofList name)
      ++ " for " ++ Text.backquoted e.path))

/-- The error for an answer without a value of the type asked for. -/
def decodeFailure (e : Endpoint) (err : DecodeError) : Error :=
  .parse (e.text ++ ": " ++ err.message)

/-- Reads the result out of the bytes of an answer. -/
def readWith {α : Type} (e : Endpoint) (read : Reader α) (body : List UInt8) : Result α :=
  match e.resultBody with
  | none => (readBytes read body).mapError e.decodeFailure
  | some key =>
    match readBytes readJson body with
    | .error err => .error (e.decodeFailure err)
    | .ok answer =>
      match answer.member? key with
      | none =>
        .error (.parse (e.text ++ ": response has no " ++ Text.backquoted key ++ " member"))
      | some result => (readValue read result).mapError e.decodeFailure

/-- Reads the result out of the bytes of an answer. -/
def decode (e : Endpoint) (α : Type) [Coded α] (body : List UInt8) : Result α :=
  e.readWith Coded.read body

end Endpoint

end Sdwan
