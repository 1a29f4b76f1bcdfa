/-
Form encoding: name and value pairs as a text of letters, digits, four
marks, plus signs for blanks, and percent-encoded bytes. It serves for
queries, for posted forms and for arguments in a path.
-/
import Sdwan.Url.Percent

namespace Sdwan.Url.Form

/-- The bytes that are written as their ASCII characters. -/
def isPlain (b : UInt8) : Bool :=
  (0x30 ≤ b && b ≤ 0x39) || (0x41 ≤ b && b ≤ 0x5A) || (0x61 ≤ b && b ≤ 0x7A)
    || b == 0x2A || b == 0x2D || b == 0x2E || b == 0x5F

/-- One byte of a name or value. -/
def encodeByte (b : UInt8) : List Char :=
  if isPlain b then [Char.ofNat b.toNat]
  else if b == 0x20 then ['+']
  else percentByte b

/-- A name or value. -/
def encodePart (cs : List Char) : List Char := (Text.utf8 cs).flatMap encodeByte

/-- A pair. -/
def encodePair (p : String × String) : List Char :=
  encodePart p.1.toList ++ '=' :: encodePart p.2.toList

/-- Pairs with ampersands between them. -/
def encodePairs : List (String × String) → List Char
  | [] => []
  | [p] => encodePair p
  | p :: ps => encodePair p ++ '&' :: encodePairs ps

/-- A plus sign is a blank. -/
def plusToSpace (c : Char) : Char := if c == '+' then ' ' else c

/-- Reads a name or value. -/
def decodePart (cs : List Char) : String :=
  Text.textOf (percentDecode (cs.map plusToSpace))

/-- Reads a pair; without an equals sign the value is empty. -/
def decodePair (cs : List Char) : String × String :=
  match Text.splitFirst (· == '=') cs with
  | some (k, v) => (decodePart k, decodePart v)
  | none => (decodePart cs, "")

/-- Reads pairs; empty ones are passed over. -/
def decodePairs (cs : List Char) : List (String × String) :=
  ((Text.pieces (· == '&') cs).filter (!·.isEmpty)).map decodePair

end Sdwan.Url.Form
