/-
Cookies: what a reply's `Set-Cookie` header says, which requests a cookie
goes with, and the jar that keeps them.
-/
import Sdwan.Http.Message

namespace Sdwan.Http

/-- A cookie and the requests it belongs to. -/
structure Cookie where
  name : String
  value : String
  /-- The host that set it, or the domain that it named. -/
  domain : List Char
  /-- Whether hosts below the domain get it too. -/
  withSubdomains : Bool
  path : List Char
  secureOnly : Bool
deriving DecidableEq, Repr

namespace Cookie

-- ============================================== reading

/-- The attributes behind the first pair: names in lower case. -/
def attributes (parts : List (List Char)) : List (String × String) :=
  parts.map fun p =>
    match Text.splitFirst (· == '=') p with
    | none => (String.ofList ((Text.trim p).map Text.lowerAscii), "")
    | some (k, v) =>
      (String.ofList ((Text.trim k).map Text.lowerAscii), String.ofList (Text.trim v))

/-- The last value of an attribute. -/
def attribute? (attrs : List (String × String)) (name : String) : Option String :=
  attrs.reverse.lookup name

/-- The path of a request up to its last slash. -/
def defaultPath (path : List Char) : List Char :=
  match path with
  | '/' :: _ =>
    let upTo := (path.reverse.dropWhile (· != '/')).drop 1
    if upTo.isEmpty then ['/'] else upTo.reverse
  | _ => ['/']

/-- The path an attribute names; one without a slash in front counts as
none. -/
def pathOr (fallback : List Char) : Option String → List Char
  | none => fallback
  | some p =>
    match p.toList with
    | '/' :: rest => '/' :: rest
    | _ => fallback

/-- The age at which an attribute ends a cookie. A negative number is zero,
and what is not a number says nothing. -/
def maxAge? (value : List Char) : Option Nat :=
  match value with
  | '-' :: digits => if digits.all Text.isDigit then some 0 else none
  | digits => Text.readDigits? digits

/-- The year of a date: its one number of four digits. -/
def yearOf? (value : List Char) : Option Nat :=
  ((Text.pieces (fun c => Text.isBlank c || c == '-' || c == ',') value).find? fun p =>
    p.length == 4 && p.all Text.isDigit).map Text.digitsValue

/-- No cookie of this library is older, so a date before this year has
passed. -/
def firstYear : Nat := 2025

/-- Whether a cookie is over when it comes. An age counts more than a
date. -/
def isExpired (attrs : List (String × String)) : Bool :=
  match (attribute? attrs "max-age").bind fun v => maxAge? v.toList with
  | some age => age == 0
  | none =>
    ((attribute? attrs "expires").bind fun v => yearOf? v.toList).any (· < firstYear)

/-- Whether a host lies in a domain. -/
def inDomain (domain host : List Char) : Bool :=
  host == domain || (domain.reverse ++ ['.']).isPrefixOf host.reverse

/-- The cookie a header line sets for a URL, and whether it is a deletion.
Nothing when the line is not one or names a domain of others. -/
def ofHeader (u : Url) (line : String) : Option (Cookie × Bool) :=
  match Text.pieces (· == ';') line.toList with
  | [] => none
  | pair :: parts =>
    match Text.splitFirst (· == '=') pair with
    | none => none
    | some (name, value) =>
      let name := Text.trim name
      let attrs := attributes parts
      let host := (u.host.map Url.Host.chars).getD []
      let named := ((attribute? attrs "domain").map fun d =>
        match d.toList.map Text.lowerAscii with
        | '.' :: rest => rest
        | d => d).filter (!·.isEmpty)
      if name.isEmpty then none
      else if named.any (!inDomain · host) then none
      else
        let isName : Bool := match u.host with | some (.domain _) => true | _ => false
        some
          (⟨String.ofList name, String.ofList (Text.trim value), named.getD host,
              named.isSome && isName, pathOr (defaultPath u.path.chars) (attribute? attrs "path"),
              (attribute? attrs "secure").isSome⟩,
            isExpired attrs)

-- ============================================== use

/-- Whether a path lies at or below another. -/
def inPath (limit path : List Char) : Bool :=
  path == limit
    || (limit.isPrefixOf path
      && (limit.getLast? == some '/' || path[limit.length]? == some '/'))

/-- Whether nobody else can read what goes to a host: it is this machine. -/
def isLoopback : Url.Host → Bool
  | .domain name => name == "localhost".toList
  | .ipv4 a => a.a == 127
  | .ipv6 a => a.toNat == 1

/-- Whether a URL is safe enough for secure cookies. -/
def isSecure (u : Url) : Bool := u.scheme == "https".toList || u.host.any isLoopback

/-- Whether a cookie goes with a request to a URL. -/
def goesTo (c : Cookie) (u : Url) : Bool :=
  let host := (u.host.map Url.Host.chars).getD []
  (if c.withSubdomains then inDomain c.domain host else host == c.domain)
    && inPath c.path u.path.chars
    && (!c.secureOnly || isSecure u)

/-- Whether two cookies take the same place. -/
def samePlace (a b : Cookie) : Bool :=
  a.name == b.name && a.domain == b.domain && a.path == b.path

end Cookie

/-- The cookies that are kept, in the order in which they first came. -/
abbrev Jar := List Cookie

namespace Jar

/-- Keeps a cookie, in the place of the one it replaces. -/
def insert (c : Cookie) : Jar → Jar
  | [] => [c]
  | d :: ds => if c.samePlace d then c :: ds else d :: insert c ds

/-- Drops a cookie. -/
def erase (c : Cookie) (jar : Jar) : Jar := jar.filter (!c.samePlace ·)

/-- What one header line of a reply does to the jar. -/
def learnLine (u : Url) (jar : Jar) (line : String) : Jar :=
  match Cookie.ofHeader u line with
  | none => jar
  | some (c, true) => erase c jar
  | some (c, false) => insert c jar

/-- What a reply for a URL does to the jar. -/
def learn (u : Url) (headers : Headers) (jar : Jar) : Jar :=
  ((headers.filter (·.1 == "set-cookie")).map (·.2)).foldl (learnLine u) jar

/-- The header for a request to a URL, if any cookie goes with it. -/
def header? (jar : Jar) (u : Url) : Option String :=
  match jar.filter (·.goesTo u) with
  | [] => none
  | cookies => some ("; ".intercalate (cookies.map fun c => c.name ++ "=" ++ c.value))

end Jar

end Sdwan.Http
