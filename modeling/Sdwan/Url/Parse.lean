/-
Reading URLs, absolute ones and ones relative to a base, as the URL
standard for the web lays it down.

A text goes from left to right: scheme, user name and password, host and
port, path, query, fragment. In schemes with a fixed layout a backslash
counts as a slash in front of the query. Dots as segments are resolved
while a path is read.
-/
import Sdwan.Url.Basic

namespace Sdwan.Url

-- ============================================== preparing

/-- Control characters and the blank. -/
def isEdge (c : Char) : Bool := c.toNat ≤ 0x20

/-- The text without controls and blanks at its ends, and without tabs
and line ends anywhere. -/
def prepared (cs : List Char) : List Char :=
  let cs := cs.dropWhile isEdge
  let cs := (cs.reverse.dropWhile isEdge).reverse
  cs.filter fun c => !(c == '\t' || c == '\n' || c == '\r')

-- ============================================== scheme

/-- Letters, and behind the first one also digits and three marks. -/
def isSchemeChar (c : Char) : Bool :=
  ('a' ≤ c && c ≤ 'z') || ('A' ≤ c && c ≤ 'Z') || Text.isDigit c || c == '+' || c == '-' || c == '.'

/-- A scheme in lower case, and the text behind its colon. -/
def schemeHead? (cs : List Char) : Option (List Char × List Char) :=
  match cs with
  | [] => none
  | c :: _ =>
    if ('a' ≤ c && c ≤ 'z') || ('A' ≤ c && c ≤ 'Z') then
      match Text.splitFirst (· == ':') cs with
      | none => none
      | some (name, rest) =>
        if name.all isSchemeChar then some (name.map Text.lowerAscii, rest) else none
    else none

-- ============================================== query and fragment

/-- The query and the fragment that a text of the form `?query#fragment`
holds, either of which may be missing. -/
def tail (l : Layout) (cs : List Char) : Option (List Char) × Option (List Char) :=
  let query (q : List Char) := encodeWith (if l == .free then inQuery else inSpecialQuery) q
  let fragment (f : List Char) := encodeWith inFragment f
  match cs with
  | '#' :: f => (none, some (fragment f))
  | '?' :: rest =>
    match Text.splitFirst (· == '#') rest with
    | none => (some (query rest), none)
    | some (q, f) => (some (query q), some (fragment f))
  | _ => (none, none)

/-- Adds the query and the fragment of a text to a URL. -/
def withTail (u : Url) (l : Layout) (cs : List Char) : Url :=
  { u with query := (tail l cs).1, fragment := (tail l cs).2 }

/-- Whether a character ends the path. -/
def endsPath (c : Char) : Bool := c == '?' || c == '#'

-- ============================================== path

/-- Whether a character separates segments. -/
def isSlash (l : Layout) (c : Char) : Bool := c == '/' || (c == '\\' && l != .free)

/-- The texts of one dot. -/
def singleDots : List (List Char) := [".".toList, "%2e".toList, "%2E".toList]

/-- Whether a segment stands for its own place. -/
def isSingleDot (s : List Char) : Bool := singleDots.contains s

/-- Whether a segment stands for the place above. -/
def isDoubleDot (s : List Char) : Bool :=
  singleDots.any fun a => singleDots.any fun b => s == a ++ b

/-- A letter followed by a colon or a bar. -/
def isDrive : List Char → Bool
  | [c, m] => (('a' ≤ c && c ≤ 'z') || ('A' ≤ c && c ≤ 'Z')) && (m == ':' || m == '|')
  | _ => false

/-- A segment as it is kept. In a path of files a drive has a colon. -/
def keptSegment (l : Layout) (s : List Char) : List Char :=
  let s := encodeWith inPath s
  if l == .file && isDrive s then s.take 1 ++ [':'] else s

/-- The segments before the last; a drive is not left. -/
def leaveSegment (l : Layout) (done : List (List Char)) : List (List Char) :=
  if l == .file && (done.getLast?.any isDrive) then done else done.dropLast

/-- The segments `done` followed by more, with the dots resolved. Behind
a dot at the end stands an empty segment. -/
def addSegments (l : Layout) (done : List (List Char)) : List (List Char) → List (List Char)
  | [] => done
  | [s] =>
    if isDoubleDot s then leaveSegment l done ++ [[]]
    else if isSingleDot s then done ++ [[]]
    else done ++ [keptSegment l s]
  | s :: ss =>
    if isDoubleDot s then addSegments l (leaveSegment l done) ss
    else if isSingleDot s then addSegments l done ss
    else addSegments l (done ++ [keptSegment l s]) ss

/-- The segments `done` followed by those of a text, and what comes behind
the path. In a path of files the empty segments at the start are dropped. -/
def readPath (l : Layout) (done : List (List Char)) (cs : List Char) : Path × List Char :=
  let segments := addSegments l done (Text.pieces (isSlash l) (cs.takeWhile (!endsPath ·)))
  let segments :=
    if l == .file then
      match segments.dropWhile (·.isEmpty) with
      | [] => [[]]
      | kept => kept
    else segments
  (.segments segments, cs.dropWhile (!endsPath ·))

/-- The path behind a host. It is empty only in a free layout. -/
def pathAfterHost (l : Layout) (cs : List Char) : Path × List Char :=
  match cs with
  | [] => if l == .free then (.segments [], []) else readPath l [] []
  | c :: rest =>
    if isSlash l c then readPath l [] rest
    else if l == .free && endsPath c then (.segments [], cs)
    else readPath l [] cs

-- ============================================== authority

/-- Splits at the last at sign. -/
def splitAtLast (cs : List Char) : Option (List Char × List Char) :=
  match Text.splitFirst (· == '@') cs.reverse with
  | none => none
  | some (after, before) => some (before.reverse, after.reverse)

/-- Whether a character ends the authority. -/
def endsAuthority (l : Layout) (c : Char) : Bool := isSlash l c || endsPath c

/-- The user name and the password, which is nothing when it is empty. -/
def credentials (cs : List Char) : List Char × Option (List Char) :=
  match Text.splitFirst (· == ':') cs with
  | none => (encodeWith inUserinfo cs, none)
  | some (name, word) =>
    (encodeWith inUserinfo name,
      if word.isEmpty then none else some (encodeWith inUserinfo word))

/-- The characters of the host: up to a colon that is not in brackets. -/
def hostHead : (inBrackets : Bool) → List Char → List Char × List Char
  | _, [] => ([], [])
  | inBrackets, c :: cs =>
    if c == ':' && !inBrackets then ([], c :: cs)
    else
      let (h, rest) := hostHead (c == '[' || (inBrackets && c != ']')) cs
      (c :: h, rest)

/-- The port behind a colon, and what follows it. -/
def portHead (scheme cs : List Char) : Parsed (Option Nat × List Char) :=
  let digits := cs.takeWhile Text.isDigit
  let rest := cs.dropWhile Text.isDigit
  let n := Text.digitsValue digits
  if 65535 < n then .error .invalidPort
  else if rest.head?.any fun c => !(endsPath c || c == '/' || c == '\\') then .error .invalidPort
  else .ok (if digits.isEmpty || defaultPort scheme == some n then none else some n, rest)

/-- The URL whose authority begins the text. -/
def afterSlashes [Idna] (scheme : List Char) (cs : List Char) : Parsed Url := do
  let l := layout scheme
  let place := cs.takeWhile (!endsAuthority l ·)
  let behind := cs.dropWhile (!endsAuthority l ·)
  let (user, place) := (splitAtLast place).getD ([], place)
  let (name, word) := credentials user
  if (splitAtLast (cs.takeWhile (!endsAuthority l ·))).isSome && user.isEmpty && place.isEmpty
      && !behind.isEmpty then
    .error .emptyHost
  else
    let (hostText, rest) := hostHead false place
    if l == .fixed && hostText.isEmpty then .error .emptyHost
    else
      let host ← if l == .free then Host.parseOpaque hostText else Host.parse hostText
      if hostText.isEmpty && (rest.head? == some ':' || !name.isEmpty || word.isSome) then
        .error .emptyHost
      else
        let (port, rest) ←
          match rest with
          | ':' :: digits => portHead scheme (digits ++ behind)
          | rest => .ok (none, rest ++ behind)
        let (path, rest) := pathAfterHost l rest
        .ok (withTail { scheme, username := name, password := word, host := some host, port, path }
          l rest)

-- ============================================== files

/-- The URL of a file. A drive in the path leaves no host. -/
def fileUrl (host : Option Host) (path : Path × List Char) : Url :=
  let hasDrive : Bool :=
    match path.1 with
    | .segments items => items.any isDrive
    | .plain _ => false
  let host := if hasDrive then none else host
  withTail { scheme := "file".toList, host := some (host.getD (.domain [])), path := path.1 }
    .file path.2

/-- The URL of a file whose scheme has been read. -/
def afterFileScheme [Idna] (cs : List Char) : Parsed Url :=
  match cs with
  | a :: b :: rest =>
    if isSlash .file a && isSlash .file b then
      let place := rest.takeWhile (!endsAuthority .file ·)
      let behind := rest.dropWhile (!endsAuthority .file ·)
      if isDrive place then .ok (fileUrl none (readPath .file [] rest))
      else if place.isEmpty then .ok (fileUrl none (readPath .file [] behind))
      else do
        let host ← Host.parse place
        .ok (fileUrl (if host == .domain "localhost".toList then none else some host)
          (pathAfterHost .file behind))
    else .ok (fileUrl none (readPath .file [] cs))
  | cs => .ok (fileUrl none (readPath .file [] cs))

-- ============================================== relative references

/-- The number of slashes at the start of a text. -/
def slashes (cs : List Char) : Nat := (cs.takeWhile (isSlash .fixed)).length

/-- The segments of a path without the last one. -/
def Path.parent : Path → List (List Char)
  | .plain _ => []
  | .segments items => items.dropLast

/-- A text without a scheme, relative to a base that has segments. -/
def relative [Idna] (base : Url) (cs : List Char) : Parsed Url :=
  let l := layout base.scheme
  match cs with
  | [] => .ok { base with fragment := none }
  | '?' :: _ => .ok (withTail base l cs)
  | '#' :: _ => .ok { base with fragment := (tail l cs).2 }
  | c :: rest =>
    if c == '/' || c == '\\' then
      if l == .file then afterFileScheme cs
      else if 2 ≤ slashes cs then
        afterSlashes base.scheme
          (match Text.afterPrefix? ['/', '/'] cs with
            | some rest => rest
            | none => cs.dropWhile (isSlash .fixed))
      else
        let (p, rest) := readPath l [] rest
        .ok (withTail { base with path := p } l rest)
    else
      let (p, rest) := readPath l base.path.parent cs
      .ok (withTail { base with path := p } l rest)

-- ============================================== the whole

/-- A URL whose scheme has been read. A fixed layout takes the parts that
the text leaves out from a base of its own scheme. -/
def afterScheme [Idna] (base : Option Url) (scheme cs : List Char) : Parsed Url :=
  match layout scheme with
  | .file => afterFileScheme cs
  | .fixed =>
    match base with
    | some b =>
      if b.scheme == scheme && slashes cs < 2 then relative b cs
      else afterSlashes scheme (cs.dropWhile (isSlash .fixed))
    | none => afterSlashes scheme (cs.dropWhile (isSlash .fixed))
  | .free =>
    match Text.afterPrefix? ['/', '/'] cs with
    | some rest => afterSlashes scheme rest
    | none =>
      match cs with
      | '/' :: rest =>
        let (p, rest) := readPath .free [] rest
        .ok (withTail { scheme, path := p } .free rest)
      | cs =>
        let path := Path.plain (encodeWith inControls (cs.takeWhile (!endsPath ·)))
        .ok (withTail { scheme, path } .free (cs.dropWhile (!endsPath ·)))

/-- Reads a text, relative to a base if there is one. -/
def parseWith [Idna] (base : Option Url) (text : String) : Parsed Url :=
  let cs := prepared text.toList
  match schemeHead? cs with
  | some (scheme, rest) => afterScheme base scheme rest
  | none =>
    match base with
    | none => .error .relativeWithoutBase
    | some b =>
      match b.path, cs with
      | _, '#' :: _ => .ok { b with fragment := (tail (layout b.scheme) cs).2 }
      | .plain _, _ => .error .relativeWithOpaqueBase
      | .segments _, cs => relative b cs

/-- Reads an absolute URL. -/
def parse [Idna] (text : String) : Parsed Url := parseWith none text

/-- What a text means where this URL is the base. -/
def join [Idna] (base : Url) (text : String) : Parsed Url := parseWith (some base) text

end Sdwan.Url
