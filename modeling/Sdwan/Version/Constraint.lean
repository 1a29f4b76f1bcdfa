/-
Constraints on versions: comparisons with commas between them, all of
which have to hold. An endpoint that only some releases have declares
one, such as `>=20.9, <20.13`.
-/
import Sdwan.Version

namespace Sdwan.Version

/-- A comparison. -/
inductive Op where
  | lt | le | gt | ge | eq | ne
deriving DecidableEq, Repr

namespace Op

/-- How the comparison is written. -/
def symbol : Op → List Char
  | lt => ['<']
  | le => ['<', '=']
  | gt => ['>']
  | ge => ['>', '=']
  | eq => ['=', '=']
  | ne => ['!', '=']

/-- Whether the comparison holds for values in this order. -/
def holds : Op → Ordering → Bool
  | lt, o => o == .lt
  | le, o => o != .gt
  | gt, o => o == .gt
  | ge, o => o != .lt
  | eq, o => o == .eq
  | ne, o => o != .eq

/-- The comparison at the head of a text, of two characters if possible,
and the text behind it. -/
def head? : List Char → Option (Op × List Char)
  | '<' :: '=' :: cs => some (le, cs)
  | '>' :: '=' :: cs => some (ge, cs)
  | '=' :: '=' :: cs => some (eq, cs)
  | '!' :: '=' :: cs => some (ne, cs)
  | '<' :: cs => some (lt, cs)
  | '>' :: cs => some (gt, cs)
  | _ => none

end Op

/-- A comparison with a version. -/
structure Specifier where
  op : Op
  version : Version
deriving DecidableEq, Repr

namespace Specifier

/-- Whether a version satisfies the specifier. -/
def holds (s : Specifier) (v : Version) : Bool := s.op.holds (v.cmp s.version)

/-- The characters of a specifier. -/
def chars (s : Specifier) : List Char := s.op.symbol ++ s.version.chars

/-- The text of a specifier. -/
def text (s : Specifier) : String := String.ofList s.chars

/-- Reads a specifier, blanks around it and its version allowed. -/
def ofChars (cs : List Char) : Result Specifier :=
  let cs := Text.trim cs
  match Op.head? cs with
  | none =>
    .error (.parse
      ("version specifier " ++ Text.backquoted (String.ofList cs) ++ " has no operator"))
  | some (op, rest) =>
    match Version.ofChars rest with
    | .ok v => .ok ⟨op, v⟩
    | .error e => .error (.parse (e.describe (String.ofList rest)))

end Specifier

/-- Specifiers all of which have to hold. -/
structure Constraint where
  specifiers : List Specifier
deriving DecidableEq, Repr

namespace Constraint

/-- Whether a version satisfies every specifier. -/
def holds (c : Constraint) (v : Version) : Bool := c.specifiers.all (·.holds v)

/-- Texts with commas between them. -/
def withCommas : List (List Char) → List Char
  | [] => []
  | [x] => x
  | x :: xs => x ++ ',' :: withCommas xs

/-- The text of a constraint. -/
def text (c : Constraint) : String :=
  String.ofList (withCommas (c.specifiers.map Specifier.chars))

/-- The specifiers of the parts, the first error first. -/
def readParts : List (List Char) → Result (List Specifier)
  | [] => .ok []
  | p :: ps => do
    let s ← Specifier.ofChars p
    let ss ← readParts ps
    .ok (s :: ss)

/-- Reads a constraint. Blank parts are passed over, but one has to be
left. -/
def parse (s : String) : Result Constraint := do
  let parts := (Text.pieces (· == ',') s.toList).filter fun p => !(Text.trim p).isEmpty
  match ← readParts parts with
  | [] => .error (.parse ("empty version constraint " ++ Text.backquoted s))
  | specifiers => .ok ⟨specifiers⟩

end Constraint

end Sdwan.Version
