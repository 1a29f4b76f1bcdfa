/-
URLs: their parts and their one text.

A path is a list of segments, so `/a/b` has two and `/a/b/` three, the
last of them empty. A scheme without a fixed structure may also have a
plain path, which is a text without segments.
-/
import Sdwan.Url.Form
import Sdwan.Url.Host

namespace Sdwan

/-- The path of a URL. -/
inductive Url.Path where
  | plain (text : List Char)
  | segments (items : List (List Char))
deriving DecidableEq, Repr

/-- A URL; every part is already encoded. -/
structure Url where
  scheme : List Char
  username : List Char := []
  password : Option (List Char) := none
  host : Option Url.Host := none
  /-- Only when it is not the scheme's own. -/
  port : Option Nat := none
  path : Url.Path
  query : Option (List Char) := none
  fragment : Option (List Char) := none
deriving DecidableEq, Repr

namespace Url

-- ============================================== schemes

/-- How a scheme lays out its URLs. -/
inductive Layout where
  /-- A host, and a path that begins with a slash. -/
  | fixed
  /-- The same, but the host may be missing. -/
  | file
  /-- Whatever the text says. -/
  | free
deriving DecidableEq, Repr

/-- The layout of a scheme in lower case. -/
def layout (scheme : List Char) : Layout :=
  if ["http", "https", "ws", "wss", "ftp"].any (·.toList == scheme) then .fixed
  else if scheme == "file".toList then .file
  else .free

/-- The port a scheme has when the URL does not name one. -/
def defaultPort (scheme : List Char) : Option Nat :=
  if scheme == "http".toList || scheme == "ws".toList then some 80
  else if scheme == "https".toList || scheme == "wss".toList then some 443
  else if scheme == "ftp".toList then some 21
  else none

/-- Whether the scheme is one that requests are made with. -/
def isWeb (u : Url) : Bool := u.scheme == "http".toList || u.scheme == "https".toList

/-- The port a connection goes to. -/
def effectivePort (u : Url) : Option Nat := u.port.or (defaultPort u.scheme)

-- ============================================== text

/-- The characters of a path. -/
def Path.chars : Path → List Char
  | .plain text => text
  | .segments items => items.flatMap ('/' :: ·)

/-- The user name and password with the at sign behind them; nothing when
neither is there. -/
def userinfo (u : Url) : List Char :=
  match u.username, u.password with
  | [], none => []
  | name, none => name ++ ['@']
  | name, some word => name ++ ':' :: word ++ ['@']

/-- The text from the two slashes up to the path. Without a host, a path
that begins with two slashes is kept apart from them by a dot. -/
def authority (u : Url) : List Char :=
  match u.host with
  | some h =>
    '/' :: '/' :: u.userinfo ++ h.chars
      ++ (match u.port with | none => [] | some p => ':' :: Nat.toDigits 10 p)
  | none =>
    match u.path with
    | .segments ([] :: _ :: _) => ['/', '.']
    | _ => []

/-- The query with the question mark before it. -/
def queryPart (u : Url) : List Char :=
  match u.query with
  | none => []
  | some q => '?' :: q

/-- The fragment with the number sign before it. -/
def fragmentPart (u : Url) : List Char :=
  match u.fragment with
  | none => []
  | some f => '#' :: f

/-- The characters of a URL. -/
def chars (u : Url) : List Char :=
  u.scheme ++ ':' :: u.authority ++ u.path.chars ++ u.queryPart ++ u.fragmentPart

/-- The text of a URL. -/
def text (u : Url) : String := String.ofList u.chars

/-- What a request line names: the path and the query. -/
def target (u : Url) : String := String.ofList (u.path.chars ++ u.queryPart)

-- ============================================== changes

/-- The same path with a slash at its end. -/
def Path.withSlash : Path → Path
  | .plain text => .plain text
  | .segments items =>
    if items.getLast? == some [] then .segments items else .segments (items ++ [[]])

/-- The same URL with a slash at the end of its path. -/
def withSlash (u : Url) : Url := { u with path := u.path.withSlash }

/-- Adds pairs to the query. A query that is still empty then is dropped. -/
def appendQuery (u : Url) (pairs : List (String × String)) : Url :=
  let before := u.query.getD []
  let added := Form.encodePairs pairs
  let whole :=
    if pairs.isEmpty then before
    else if before.isEmpty then added
    else before ++ '&' :: added
  { u with query := if whole.isEmpty then none else some whole }

end Url

end Sdwan
