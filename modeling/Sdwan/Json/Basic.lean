/-
JSON values. An object keeps its members in the order they came in, and
a number is either an integer of at most 64 bits or a double.
-/
import Sdwan.Json.Binary64

namespace Sdwan

/-- A JSON number: an integer from `-2 ^ 63` up to but not including
`2 ^ 64`, or a finite double given by its bits. -/
inductive Json.Number where
  | int (value : Int)
  | float (bits : UInt64)
deriving DecidableEq, Repr, Inhabited

/-- A JSON value. -/
inductive Json where
  | null
  | bool (value : Bool)
  | number (value : Json.Number)
  | string (value : String)
  | array (items : List Json)
  | object (members : List (String × Json))
deriving BEq, Repr, Inhabited

namespace Json

/-- A natural number as a JSON number. -/
def nat (n : Nat) : Json := .number (.int n)

/-- An integer as a JSON number. -/
def int (i : Int) : Json := .number (.int i)

/-- `null` for `none`. -/
def optional {α : Type} (f : α → Json) : Option α → Json
  | none => .null
  | some a => f a

/-- A string, or `null`. -/
def optString : Option String → Json := optional .string

-- ============================================== members

/-- The value of a member of an object. -/
def member? (name : String) : Json → Option Json
  | .object ms => ms.lookup name
  | _ => none

/-- Puts a member in its place: an existing one keeps its position and
gets the new value, a new one comes last. -/
def insertMember {α : Type} (name : String) (value : α) :
    List (String × α) → List (String × α)
  | [] => [(name, value)]
  | (k, v) :: ms =>
    if k == name then (k, value) :: ms else (k, v) :: insertMember name value ms

/-- One member of an object, present only when it has a value. -/
def memberIf {α : Type} (name : String) (f : α → Json) : Option α → List (String × Json)
  | none => []
  | some a => [(name, f a)]

-- ============================================== text

/-- The text of a number. -/
def Number.text : Number → List Char
  | .int i => (toString i).toList
  | .float bits => Binary64.render bits

/-- One character inside a JSON string. -/
def escapeChar (c : Char) : List Char :=
  if c == '"' || c == '\\' then ['\\', c]
  else if c.toNat == 8 then ['\\', 'b']
  else if c == '\t' then ['\\', 't']
  else if c == '\n' then ['\\', 'n']
  else if c.toNat == 12 then ['\\', 'f']
  else if c == '\r' then ['\\', 'r']
  else if c.toNat < 32 then
    ['\\', 'u', '0', '0', Text.hexDigit (c.toNat / 16), Text.hexDigit (c.toNat % 16)]
  else [c]

/-- A string with its quotation marks. -/
def quote (s : String) : List Char := '"' :: s.toList.flatMap escapeChar ++ ['"']

/-- The items with a comma between any two. -/
def commaSeparated : List (List Char) → List Char
  | [] => []
  | [x] => x
  | x :: xs => x ++ ',' :: commaSeparated xs

mutual

/-- The compact text of a value. -/
def text : Json → List Char
  | .null => "null".toList
  | .bool true => "true".toList
  | .bool false => "false".toList
  | .number n => n.text
  | .string s => quote s
  | .array xs => '[' :: commaSeparated (itemTexts xs) ++ [']']
  | .object ms => '\x7b' :: commaSeparated (memberTexts ms) ++ ['\x7d']

/-- The texts of the items of an array. -/
def itemTexts : List Json → List (List Char)
  | [] => []
  | x :: xs => text x :: itemTexts xs

/-- The texts of the members of an object. -/
def memberTexts : List (String × Json) → List (List Char)
  | [] => []
  | (k, v) :: ms => (quote k ++ ':' :: text v) :: memberTexts ms

end

/-- The compact text of a value, as a string. -/
def render (j : Json) : String := String.ofList j.text

end Json

end Sdwan
