/-
Percent-encoding: which characters a part of a URL writes as the bytes of
their UTF-8 form, three characters to a byte, and how such a text is read
back into bytes.
-/
import Sdwan.Text.Numeral
import Sdwan.Text.Utf8

namespace Sdwan.Url

-- ============================================== encode sets

/-- Control characters, and everything beyond ASCII. -/
def inControls (c : Char) : Bool := c.toNat < 0x20 || 0x7F ≤ c.toNat

/-- What a fragment encodes. -/
def inFragment (c : Char) : Bool := inControls c || c ∈ [' ', '"', '<', '>', '\x60']

/-- What a query encodes. -/
def inQuery (c : Char) : Bool := inControls c || c ∈ [' ', '"', '#', '<', '>']

/-- What a query encodes in the schemes with a fixed structure. -/
def inSpecialQuery (c : Char) : Bool := inQuery c || c == '\''

/-- What a path encodes. -/
def inPath (c : Char) : Bool := inFragment c || c ∈ ['#', '?', '^', '\x7b', '\x7d']

/-- What user names and passwords encode. -/
def inUserinfo (c : Char) : Bool :=
  inPath c || c ∈ ['/', ':', ';', '=', '@', '[', '\\', ']', '|']

-- ============================================== encoding

/-- A byte as a percent sign and two upper case hexadecimal digits. -/
def percentByte (b : UInt8) : List Char :=
  ['%', Text.hexDigitUpper (b.toNat / 16), Text.hexDigitUpper (b.toNat % 16)]

/-- One character, encoded if it is in the set. -/
def encodeChar (set : Char → Bool) (c : Char) : List Char :=
  if set c then (String.utf8EncodeChar c).flatMap percentByte else [c]

/-- A text with the characters of the set encoded. -/
def encodeWith (set : Char → Bool) (cs : List Char) : List Char := cs.flatMap (encodeChar set)

-- ============================================== decoding

/-- The bytes of a text in which two hexadecimal digits behind a percent
sign stand for a byte; a percent sign without them stands for itself. -/
def percentDecode : List Char → List UInt8
  | [] => []
  | '%' :: a :: b :: cs =>
    if Text.isHexDigit a && Text.isHexDigit b then
      UInt8.ofNat (16 * Text.hexValue a + Text.hexValue b) :: percentDecode cs
    else String.utf8EncodeChar '%' ++ percentDecode (a :: b :: cs)
  | c :: cs => String.utf8EncodeChar c ++ percentDecode cs

end Sdwan.Url
