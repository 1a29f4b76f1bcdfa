/-
Universally unique identifiers: 32 hexadecimal digits, written in lower
case with hyphens, and read in four forms with digits of either case.
-/
import Sdwan.Text.Numeral

namespace Sdwan.Net

/-- An identifier of 128 bits, as its hexadecimal digits. -/
structure Uuid where
  digits : List (Fin 16)
  length_eq : digits.length = 32
deriving DecidableEq, Repr

namespace Uuid

/-- The lower case character of a digit. -/
def digitChar (d : Fin 16) : Char := Text.hexDigit d.val

/-- The digit of a character of either case. -/
def charDigit? (c : Char) : Option (Fin 16) :=
  if Text.isHexDigit c then
    if h : Text.hexValue c < 16 then some ⟨Text.hexValue c, h⟩ else none
  else none

/-- Five groups of 8, 4, 4, 4 and 12 digits with hyphens between them. -/
def chars (u : Uuid) : List Char :=
  let cs := u.digits.map digitChar
  cs.take 8 ++ '-' :: (cs.drop 8).take 4 ++ '-' :: (cs.drop 12).take 4
    ++ '-' :: (cs.drop 16).take 4 ++ '-' :: cs.drop 20

/-- The text of an identifier. -/
def text (u : Uuid) : String := String.ofList u.chars

/-- The identifier with these 32 digits. -/
def ofDigits? (cs : List Char) : Option Uuid :=
  match cs.mapM charDigit? with
  | some ds => if h : ds.length = 32 then some ⟨ds, h⟩ else none
  | none => none

/-- The digits of a text with hyphens at the four places. -/
def withoutHyphens? (cs : List Char) : Option (List Char) :=
  if cs.length == 36 && (cs.drop 8).head? == some '-' && (cs.drop 13).head? == some '-'
      && (cs.drop 18).head? == some '-' && (cs.drop 23).head? == some '-' then
    some (cs.take 8 ++ (cs.drop 9).take 4 ++ (cs.drop 14).take 4 ++ (cs.drop 19).take 4
      ++ cs.drop 24)
  else none

/-- The text without the braces around it. -/
def withoutBraces? : List Char → Option (List Char)
  | '\x7b' :: cs => if cs.getLast? == some '\x7d' then some cs.dropLast else none
  | _ => none

/-- The text behind `urn:uuid:`, in letters of either case. -/
def withoutUrn? (cs : List Char) : Option (List Char) :=
  if (cs.take 9).map Text.lowerAscii == "urn:uuid:".toList then some (cs.drop 9) else none

/-- Reads 32 digits; the form with hyphens; that form in braces; and that
form behind `urn:uuid:`. -/
def ofChars? (cs : List Char) : Option Uuid :=
  match cs.length with
  | 32 => ofDigits? cs
  | 36 => (withoutHyphens? cs).bind ofDigits?
  | 38 => ((withoutBraces? cs).bind withoutHyphens?).bind ofDigits?
  | 45 => ((withoutUrn? cs).bind withoutHyphens?).bind ofDigits?
  | _ => none

/-- Reads an identifier. -/
def parse? (s : String) : Option Uuid := ofChars? s.toList

end Uuid

end Sdwan.Net
