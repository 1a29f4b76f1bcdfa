/-
Versions of the controller's interface: numbers with points between them,
compared component by component as if endless zeros followed.

Reading takes the longest head of the form `digits(.digits)*`; a build
label behind it is ignored.
-/
import Sdwan.Error

namespace Sdwan

open Json

/-- A version such as `20.12.1`. -/
structure Version where
  components : List UInt64
deriving DecidableEq, Repr, Inhabited

namespace Version

-- ============================================== order

/-- A component, zero behind the last one. -/
def component (v : Version) (i : Nat) : UInt64 := v.components.getD i 0

/-- The first component. -/
def major (v : Version) : UInt64 := v.component 0

/-- The second component. -/
def minor (v : Version) : UInt64 := v.component 1

/-- Compares component by component; a missing one counts as zero. -/
def compareComponents : List UInt64 → List UInt64 → Ordering
  | [], [] => .eq
  | [], b :: bs => (compare 0 b).then (compareComponents [] bs)
  | a :: as, [] => (compare a 0).then (compareComponents as [])
  | a :: as, b :: bs => (compare a b).then (compareComponents as bs)

/-- The order of versions. -/
def cmp (v w : Version) : Ordering := compareComponents v.components w.components

/-- Without the zeros at the end. -/
def dropTrailingZeros (cs : List UInt64) : List UInt64 :=
  (cs.reverse.dropWhile (· == 0)).reverse

/-- What two versions share iff they compare equal. -/
def significant (v : Version) : List UInt64 := dropTrailingZeros v.components

-- ============================================== text

/-- The texts with points between them. -/
def withPoints : List (List Char) → List Char
  | [] => []
  | [x] => x
  | x :: xs => x ++ '.' :: withPoints xs

/-- The characters of a version. -/
def chars (v : Version) : List Char :=
  withPoints (v.components.map fun c => Nat.toDigits 10 c.toNat)

/-- The text of a version. -/
def text (v : Version) : String := String.ofList v.chars

/-- Why a text is not a version. -/
inductive ReadError where
  /-- Nothing but blanks. -/
  | empty
  /-- No digit at the start. -/
  | noNumber
  /-- A component of more than 64 bits. -/
  | tooLarge
deriving DecidableEq, Repr

/-- The components that the pieces between points begin with. Reading
ends behind the first piece that is not all digits; a piece without any
digit at its start gives no component. -/
def readPieces : List (List Char) → Option (List UInt64)
  | [] => some []
  | p :: ps =>
    let digits := p.takeWhile Text.isDigit
    if digits.isEmpty then some []
    else
      let n := Text.digitsValue digits
      if n < UInt64.size then
        if digits.length == p.length then (readPieces ps).map (UInt64.ofNat n :: ·)
        else some [UInt64.ofNat n]
      else none

/-- Reads a version, blanks around it allowed. -/
def ofChars (cs : List Char) : Except ReadError Version :=
  let cs := Text.trim cs
  if cs.isEmpty then .error .empty
  else
    match readPieces (Text.pieces (· == '.') cs) with
    | none => .error .tooLarge
    | some [] => .error .noNumber
    | some components => .ok ⟨components⟩

/-- What is wrong with a text that is not a version. -/
def ReadError.describe (s : String) : ReadError → String
  | .empty => "empty version string"
  | .noNumber => "invalid version " ++ Text.backquoted s
  | .tooLarge =>
    "invalid version " ++ Text.backquoted s ++ ": number too large to fit in target type"

/-- Reads a version. -/
def parse (s : String) : Result Version :=
  match ofChars s.toList with
  | .ok v => .ok v
  | .error e => .error (.parse (e.describe s))

/-- A version in a JSON document; a text that is none is an error with
the reason in it. -/
def read : Reader Version := fun o d => do
  let s ← readString o d
  match parse s with
  | .ok v => .ok v
  | .error e => .error (.rejected e.message)

instance : Coded Version := ⟨fun v => .string v.text, read⟩

end Version

end Sdwan
