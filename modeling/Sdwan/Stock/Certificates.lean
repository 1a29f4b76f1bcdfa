/-
A stand-in for what reads files with certificates. Such a file holds a block
of text between two marks, in it the bytes of a certificate in base 64.

Of a certificate only the form is looked at: which elements it is made
of, not what they say.
-/
import Sdwan.Platform
import Sdwan.Stock.Base64
import Sdwan.Text.Blank
import Sdwan.Text.Utf8

namespace Sdwan.Stock

-- ============================================== the block

/-- The line before a certificate. -/
def beginMark : List Char := "-----BEGIN CERTIFICATE-----".toList

/-- The line behind a certificate. -/
def endMark : List Char := "-----END CERTIFICATE-----".toList

/-- The characters between the two marks, line ends left out. Nothing
when either mark is missing. -/
def block? (text : List Char) : Option (List Char) :=
  let lines := (Text.pieces (· == '\n') text).map Text.trimEnd
  match lines.dropWhile (· != beginMark) with
  | [] => none
  | _ :: rest =>
    if rest.contains endMark then some (rest.takeWhile (· != endMark)).flatten else none

-- ============================================== elements

/-- An element: what it is, and its content. -/
structure Element where
  tag : UInt8
  content : List UInt8
deriving DecidableEq, Repr

/-- The length in front of a content: one byte, or the number of bytes
that hold it. -/
def length? : List UInt8 → Option (Nat × List UInt8)
  | [] => none
  | b :: rest =>
    if b < 0x80 then some (b.toNat, rest)
    else
      let n := b.toNat - 0x80
      if n == 0 || 4 < n || rest.length < n then none
      else some ((rest.take n).foldl (fun acc x => 256 * acc + x.toNat) 0, rest.drop n)

/-- The first element, and the bytes behind it. -/
def element? : List UInt8 → Option (Element × List UInt8)
  | [] => none
  | tag :: rest => do
    let (n, rest) ← length? rest
    if rest.length < n then none else some (⟨tag, rest.take n⟩, rest.drop n)

/-- Elements up to the end of the bytes, `fuel` of them at most. -/
def elements? : (fuel : Nat) → List UInt8 → Option (List Element)
  | _, [] => some []
  | 0, _ :: _ => none
  | fuel + 1, bytes => do
    let (e, rest) ← element? bytes
    let es ← elements? fuel rest
    some (e :: es)

/-- The elements that a content is made of. -/
def Element.parts? (e : Element) : Option (List Element) := elements? e.content.length e.content

-- ============================================== certificates

/-- A sequence. -/
def sequenceTag : UInt8 := 0x30

/-- Whether elements have these tags, in order. -/
def haveTags (tags : List UInt8) (es : List Element) : Bool := es.map (·.tag) == tags

/-- The signed part: a version that may be missing, a number, an
algorithm, an issuer, a time span, a subject, a key, and extensions. -/
def isSignedPart (e : Element) : Bool :=
  match e.parts? with
  | none => false
  | some es =>
    let es := match es with
      | v :: rest => if v.tag == 0xA0 then rest else v :: rest
      | [] => []
    e.tag == sequenceTag && haveTags [0x02, 0x30, 0x30, 0x30, 0x30, 0x30] (es.take 6)
      && (es.drop 6).all fun x => x.tag == 0x81 || x.tag == 0x82 || x.tag == 0xA1 || x.tag == 0xA2
        || x.tag == 0xA3

/-- A certificate: the signed part, an algorithm and a signature. -/
def isCertificate (bytes : List UInt8) : Bool :=
  match element? bytes with
  | none => false
  | some (e, _) =>
    match e.parts? with
    | some [signed, algorithm, signature] =>
      e.tag == sequenceTag && isSignedPart signed && haveTags [0x30, 0x03] [algorithm, signature]
    | _ => false

/-- Whether a file holds a certificate. -/
def holdsCertificate (file : List UInt8) : Bool :=
  match (block? (Text.decodeUtf8 file)).bind base64? with
  | none => false
  | some bytes => isCertificate bytes

/-- Files with certificates, by their form. -/
@[reducible] def certificates : Tls.Certificates where
  fault? file := if holdsCertificate file then none else some "builder error"

end Sdwan.Stock
