/-
A stand-in for what brings the names of domains into their one form. Letters
are folded, and labels beyond ASCII are written in Punycode.

It is right for names in which every character stands for itself or for what
the table of foldings says. Accents that are characters of their own are not
put together with the letter in front of them, the direction of scripts is of
no account, and what was never assigned is taken like any other character.
-/
import Sdwan.Stock.Folding
import Sdwan.Text.Unprintable
import Sdwan.Url.Host
import Sdwan.Url.Punycode

namespace Sdwan.Stock

/-- Characters beyond ASCII that no domain name holds: controls, those
for private use and those that only steer a display. -/
def isUnassignable (c : Char) : Bool :=
  let n := c.toNat
  (0x80 ≤ n && n < 0xA0) || (0x2000 ≤ n && n < 0x2010) || (0x2028 ≤ n && n < 0x2030)
    || (0x205F ≤ n && n < 0x2070) || (0x2FF0 ≤ n && n < 0x3000) || (0xE000 ≤ n && n < 0xF900)
    || 0xE0000 ≤ n || n % 0x10000 ≥ 0xFFFE || n == 0xFFFD

/-- Whether a folded label beyond ASCII is one that may be written. -/
def isSound (label : List Char) : Bool :=
  label.all (fun c => Folding.fold c == [c] && !isUnassignable c)
    && !(label.head?.any fun c => 128 ≤ c.toNat && Text.isUnprintable c)

/-- The most characters that a label may have to be written in Url.Punycode. -/
def longestWritten : Nat := 1000

/-- The most characters of Punycode that are read. -/
def longestRead : Nat := 2000

/-- A folded label in ASCII. One that is already in Punycode has to be
what its own text is written as. -/
def asciiLabel (label : List Char) : Option (List Char) :=
  match Text.afterPrefix? "xn--".toList label with
  | some code =>
    if label.all (·.toNat < 128) && code.length ≤ longestRead then
      match Url.Punycode.decode code with
      | none => none
      | some text =>
        if text.any (128 ≤ ·.toNat) && isSound text && Url.Punycode.encode text == code then
          some label
        else none
    else none
  | none =>
    if label.all (·.toNat < 128) then some label
    else if label.length ≤ longestWritten && isSound label then
      some ("xn--".toList ++ Url.Punycode.encode label)
    else none

/-- The labels of a name in ASCII. -/
def asciiLabels : List (List Char) → Option (List (List Char))
  | [] => some []
  | l :: ls => do
    let a ← asciiLabel l
    let as ← asciiLabels ls
    pure (a :: as)

/-- The labels with points between them. -/
def joinLabels : List (List Char) → List Char
  | [] => []
  | [l] => l
  | l :: ls => l ++ '.' :: joinLabels ls

/-- The one form of a domain name. -/
def asciiName (cs : List Char) : Option (List Char) :=
  match asciiLabels (Text.pieces (· == '.') (cs.flatMap Folding.fold)) with
  | none => none
  | some labels =>
    let name := joinLabels labels
    if name.any Url.Host.isForbidden then none else some name

/-- The names of domains, by their alphabets. -/
@[reducible] def names : Url.Idna where
  toAscii := asciiName

end Sdwan.Stock
