/-
A text between double quotation marks, as it appears in messages: the
marks and the backslash are escaped, the common control characters have
letters, and whatever has no glyph is shown by its code point.
-/
import Sdwan.Text.Numeral
import Sdwan.Text.Unprintable

namespace Sdwan.Text

/-- How one character stands inside quotation marks. -/
def quotedChar (c : Char) : List Char :=
  if c == '"' || c == '\\' then ['\\', c]
  else if c == '\t' then ['\\', 't']
  else if c == '\n' then ['\\', 'n']
  else if c == '\r' then ['\\', 'r']
  else if c.toNat == 0 then ['\\', '0']
  else if c.toNat < 32 || c.toNat == 127 || (128 ≤ c.toNat && isUnprintable c) then
    ['\\', 'u', '\x7b'] ++ hexDigits c.toNat ++ ['\x7d']
  else [c]

/-- The text between quotation marks. -/
def quoted (s : String) : String :=
  String.ofList ('"' :: s.toList.flatMap quotedChar ++ ['"'])

/-- The text between backquotes, with nothing escaped. -/
def backquoted (s : String) : String := String.ofList ('\x60' :: s.toList ++ ['\x60'])

end Sdwan.Text
