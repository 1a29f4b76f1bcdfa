/-
A stand-in for what reads bodies as text. It knows UTF-8, UTF-16 in either
order of bytes, and the Western alphabet of one byte a character. A mark at
the start of the bytes goes before what the media type says, and an encoding
that it does not know is taken for UTF-8.
-/
import Sdwan.Platform
import Sdwan.Text.Blank
import Sdwan.Text.Utf8

namespace Sdwan.Stock

-- ============================================== encodings

/-- An encoding. -/
inductive Charset where
  | utf8
  /-- Units of sixteen bits, the low byte first or the high one. -/
  | utf16 (lowFirst : Bool)
  /-- One byte for each character. -/
  | western
deriving DecidableEq, Repr

/-- The labels of UTF-16 with the low byte first. -/
def utf16Labels : List String :=
  ["csunicode", "iso-10646-ucs-2", "ucs-2", "unicode", "unicodefeff", "utf-16", "utf-16le"]

/-- The labels of the Western alphabet. -/
def westernLabels : List String :=
  ["ansi_x3.4-1968", "ascii", "cp1252", "cp819", "csisolatin1", "ibm819", "iso-8859-1",
    "iso-ir-100", "iso8859-1", "iso88591", "iso_8859-1", "iso_8859-1:1987", "l1", "latin1",
    "us-ascii", "windows-1252", "x-cp1252"]

/-- The encoding of a label. -/
def Charset.ofLabel (label : List Char) : Charset :=
  let name := String.ofList ((Text.trim label).map Text.lowerAscii)
  if utf16Labels.contains name then .utf16 true
  else if name == "utf-16be" || name == "unicodefffe" then .utf16 false
  else if westernLabels.contains name then .western
  else .utf8

/-- The label behind `charset=`, without quotation marks. -/
def charsetLabel? (mediaType : String) : Option (List Char) :=
  let parts := (Text.pieces (· == ';') mediaType.toList).drop 1
  (parts.findSome? fun p =>
    match Text.splitFirst (· == '=') (Text.trim p) with
    | some (name, value) =>
      if name.map Text.lowerAscii == "charset".toList then some (value.filter (· != '"')) else none
    | none => none)

-- ============================================== texts

/-- The characters of units of sixteen bits, `fuel` of them at most. Half a
pair is broken. -/
def utf16Chars : (fuel : Nat) → List Nat → List Char
  | 0, _ => []
  | _, [] => []
  | fuel + 1, u :: us =>
    if 0xD800 ≤ u && u < 0xDC00 then
      match us with
      | v :: rest =>
        if 0xDC00 ≤ v && v < 0xE000 then
          Char.ofNat (0x10000 + (u - 0xD800) * 0x400 + (v - 0xDC00)) :: utf16Chars fuel rest
        else Text.replacement :: utf16Chars fuel us
      | [] => [Text.replacement]
    else if 0xDC00 ≤ u && u < 0xE000 then Text.replacement :: utf16Chars fuel us
    else Char.ofNat u :: utf16Chars fuel us

/-- The units that bytes make up. A byte that is left over is broken, like
half a pair. -/
def units (lowFirst : Bool) : List UInt8 → List Nat
  | [] => []
  | [_] => [0xDC00]
  | a :: b :: rest =>
    (if lowFirst then a.toNat + 256 * b.toNat else 256 * a.toNat + b.toNat) :: units lowFirst rest

/-- What the bytes from 0x80 to 0x9F stand for in the Western alphabet. -/
def westernMarks : List Nat :=
  [0x20AC, 0x81, 0x201A, 0x192, 0x201E, 0x2026, 0x2020, 0x2021, 0x2C6, 0x2030, 0x160, 0x2039,
    0x152, 0x8D, 0x17D, 0x8F, 0x90, 0x2018, 0x2019, 0x201C, 0x201D, 0x2022, 0x2013, 0x2014,
    0x2DC, 0x2122, 0x161, 0x203A, 0x153, 0x9D, 0x17E, 0x178]

/-- The character of a byte in the Western alphabet. -/
def westernChar (b : UInt8) : Char :=
  Char.ofNat (if 0x80 ≤ b && b < 0xA0 then westernMarks.getD (b.toNat - 0x80) 0 else b.toNat)

/-- The text of bytes in an encoding. -/
def Charset.decode (bytes : List UInt8) : Charset → String
  | .utf8 => Text.textOf bytes
  | .utf16 lowFirst =>
    String.ofList (utf16Chars bytes.length (units lowFirst bytes))
  | .western => String.ofList (bytes.map westernChar)

/-- The text of a body. -/
def bodyText (mediaType : Option String) (bytes : List UInt8) : String :=
  match bytes with
  | 0xEF :: 0xBB :: 0xBF :: rest => Charset.utf8.decode rest
  | 0xFF :: 0xFE :: rest => (Charset.utf16 true).decode rest
  | 0xFE :: 0xFF :: rest => (Charset.utf16 false).decode rest
  | bytes => (((mediaType.bind charsetLabel?).map Charset.ofLabel).getD .utf8).decode bytes

/-- Bodies in the encodings above. -/
@[reducible] def charsets : Http.Charsets where
  decode := bodyText

end Sdwan.Stock
