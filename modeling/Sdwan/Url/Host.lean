/-
The host of a URL: a domain name, an address, or for schemes without a
fixed structure an opaque text.

A domain name is brought into one form: percent-encoding is undone, and
the name is written in ASCII. A name whose last label is a number is an
IPv4 address, with one to four parts in decimal, octal or hexadecimal.
-/
import Sdwan.Net.Address
import Sdwan.Platform
import Sdwan.Url.Percent

namespace Sdwan.Url

/-- Why a text is not a URL. -/
inductive ParseError where
  | emptyHost
  | invalidDomainName
  | invalidPort
  | invalidIpv4
  | invalidIpv6
  | invalidHostCharacter
  | relativeWithoutBase
  | relativeWithOpaqueBase
deriving DecidableEq, Repr

/-- What is wrong with the text. -/
def ParseError.message : ParseError → String
  | emptyHost => "empty host"
  | invalidDomainName => "invalid international domain name"
  | invalidPort => "invalid port number"
  | invalidIpv4 => "invalid IPv4 address"
  | invalidIpv6 => "invalid IPv6 address"
  | invalidHostCharacter => "invalid domain character"
  | relativeWithoutBase => "relative URL without a base"
  | relativeWithOpaqueBase => "relative URL with a cannot-be-a-base base"

/-- What parsing a part of a URL gives. -/
abbrev Parsed (α : Type) := Except ParseError α

/-- A host. An opaque host is kept like a domain name. -/
inductive Host where
  | domain (name : List Char)
  | ipv4 (addr : Net.Ipv4)
  | ipv6 (addr : Net.Ipv6)
deriving DecidableEq, Repr

namespace Host

-- ============================================== printing

/-- Eight groups without points, the first longest run of zeros as `::`. -/
def ipv6Chars (x : Net.Ipv6) : List Char :=
  let (start, n) := Net.longestZeros 0 (0, 0) x.groups
  if 1 < n then
    Net.groupChars (x.groups.take start) ++ ':' :: ':'
      :: Net.groupChars (x.groups.drop (start + n))
  else Net.groupChars x.groups

/-- The characters of a host. -/
def chars : Host → List Char
  | .domain name => name
  | .ipv4 x => x.chars
  | .ipv6 x => '[' :: ipv6Chars x ++ [']']

-- ============================================== domain names

/-- ASCII characters that no domain name holds. -/
def isForbidden (c : Char) : Bool :=
  c.toNat ≤ 0x20 || c.toNat == 0x7F
    || c ∈ ['#', '/', ':', '<', '>', '?', '@', '[', '\\', ']', '^', '|', '%']

/-- The one form of a domain name. -/
def domainToAscii [Idna] (cs : List Char) : Parsed (List Char) :=
  match Idna.toAscii cs with
  | none => .error .invalidDomainName
  | some name => .ok name

-- ============================================== IPv4 addresses

/-- An octal digit. -/
def isOctal (c : Char) : Bool := '0' ≤ c && c ≤ '7'

/-- A part of an IPv4 address: decimal, octal behind a zero, hexadecimal
behind `0x`. -/
def ipv4Part? (cs : List Char) : Option Nat :=
  let read (isDigit : Char → Bool) (base : Nat) (ds : List Char) : Option Nat :=
    if ds.all isDigit then some (Text.valueInBase base ds) else none
  match cs with
  | [] => none
  | '0' :: 'x' :: ds => read Text.isHexDigit 16 ds
  | '0' :: 'X' :: ds => read Text.isHexDigit 16 ds
  | '0' :: d :: ds => read isOctal 8 (d :: ds)
  | ds => read Text.isDigit 10 ds

/-- Whether the last label, an empty one at the end not counted, is a
number. -/
def endsInNumber (name : List Char) : Bool :=
  let isNumber (p : List Char) : Bool :=
    (!p.isEmpty && p.all Text.isDigit) || (ipv4Part? p).isSome
  match (Text.pieces (· == '.') name).reverse with
  | [] => false
  | [] :: [] => false
  | [] :: p :: _ => isNumber p
  | p :: _ => isNumber p

/-- The address of 32 bits. -/
def ipv4OfNat (n : Nat) : Net.Ipv4 :=
  ⟨UInt8.ofNat (n / 16777216), UInt8.ofNat (n / 65536), UInt8.ofNat (n / 256), UInt8.ofNat n⟩

/-- The parts before the last one are octets. -/
def octetsValue : (place : Nat) → List Nat → Nat
  | _, [] => 0
  | place, n :: ns => n * Nat.pow 256 place + octetsValue (place - 1) ns

/-- The address these parts stand for; the last one fills what the others
leave. -/
def ipv4OfParts (parts : List Nat) : Parsed Net.Ipv4 :=
  match parts.reverse with
  | [] => .error .invalidIpv4
  | last :: front =>
    let front := front.reverse
    if 3 < front.length || Nat.pow 256 (4 - front.length) ≤ last || front.any (256 ≤ ·) then
      .error .invalidIpv4
    else .ok (ipv4OfNat (octetsValue 3 front + last))

/-- The address that a name which ends in a number stands for. -/
def ipv4OfName (name : List Char) : Parsed Net.Ipv4 :=
  let parts := Text.pieces (· == '.') name
  let parts := if parts.getLast? == some [] then parts.dropLast else parts
  match parts.mapM ipv4Part? with
  | none => .error .invalidIpv4
  | some ns => ipv4OfParts ns

-- ============================================== hosts

/-- An address in brackets. -/
def bracketed (cs : List Char) : Parsed Host :=
  if cs.getLast? == some ']' then
    match Net.whole (Net.ipv6Head false (cs.drop 1).dropLast) with
    | some x => .ok (.ipv6 x)
    | none => .error .invalidIpv6
  else .error .invalidIpv6

/-- The host of a scheme with a fixed structure. -/
def parse [Idna] (cs : List Char) : Parsed Host :=
  if cs.head? == some '[' then bracketed cs
  else do
    let name ← domainToAscii (Text.decodeUtf8 (percentDecode cs))
    if name.isEmpty then .error .emptyHost
    else if endsInNumber name then (ipv4OfName name).map .ipv4
    else .ok (.domain name)

/-- Characters that no opaque host holds. -/
def isForbiddenOpaque (c : Char) : Bool :=
  c.toNat == 0 || c ∈ ['\t', '\n', '\r', ' ', '#', '/', ':', '<', '>', '?', '@', '[', '\\', ']',
    '^', '|']

/-- The host of any other scheme. -/
def parseOpaque (cs : List Char) : Parsed Host :=
  if cs.head? == some '[' then bracketed cs
  else if cs.any isForbiddenOpaque then .error .invalidHostCharacter
  else .ok (.domain (encodeWith inControls cs))

end Host

end Sdwan.Url
