/-
The checks that the models share: integers written as text, groups of
fields of which at most one may be set, lengths and ranges.

A check gives `none` when the value passes.
-/
import Sdwan.Json.Codec
import Sdwan.Validation.Report

namespace Sdwan.Validation

open Json

-- ============================================== issues

/-- An issue with a message. -/
def Issue.worded (code message : String) : Issue := ⟨code, some message, []⟩

/-- The same issue with the value it is about. -/
def Issue.about (i : Issue) (value : Json) : Issue :=
  { i with params := i.params ++ [("value", value)] }

/-- The issues of a check on the text of one field. -/
def onText (name value : String) (check : String → Option Issue) : Report :=
  atField name ((check value).map (·.about (.string value))).toList

/-- The same for a field that may be unset. -/
def onTextIf (name : String) (value : Option String) (check : String → Option Issue) : Report :=
  match value with
  | none => []
  | some v => onText name v check

-- ============================================== integers as text

/-- The integers of 128 bits. -/
def fits128 (i : Int) : Bool := -(Nat.pow 2 127 : Nat) ≤ i && i < (Nat.pow 2 127 : Nat)

/-- The integer of at most 128 bits that a text denotes, blanks around it
allowed. -/
def readInteger? (raw : String) : Option Int :=
  (Text.readInt? (Text.trim raw.toList)).filter fits128

/-- An integer from `min` to `max`, written as text. -/
def checkIntRange (raw : String) (min max : Int) (label : String) : Option Issue :=
  match readInteger? raw with
  | none => some (.worded "not_integer" (label ++ " must be an integer"))
  | some i =>
    if i < min ∨ max < i then
      some (.worded "range"
        (label ++ " should be in range " ++ toString min ++ "-" ++ toString max))
    else none

-- ============================================== groups of fields

/-- A list of names in brackets. -/
def bracketed (names : List String) : String := "[" ++ ", ".intercalate names ++ "]"

/-- Of the fields, given with whether they are set, at most one is set;
exactly one when `atLeastOne`. -/
def checkExclusive (fields : List (String × Bool)) (atLeastOne : Bool) : Option Issue :=
  let assigned := (fields.filter (·.2)).length
  let names := bracketed (fields.map (·.1))
  if atLeastOne && assigned != 1 then
    some (.worded "exclusive_fields" ("Exactly one of " ++ names ++ " must be assigned"))
  else if 1 < assigned then
    some (.worded "exclusive_fields" ("At most one of " ++ names ++ " can be assigned"))
  else none

/-- The first issue of several checks. -/
def firstIssue : List (Option Issue) → Option Issue
  | [] => none
  | some i :: _ => some i
  | none :: rest => firstIssue rest

-- ============================================== lengths and ranges

/-- The bounds of a check as it reports them. -/
def boundParams (min max : Option Nat) : List (String × Json) :=
  Json.memberIf "min" Json.nat min ++ Json.memberIf "max" Json.nat max

/-- Whether a number lies within the bounds that are given. -/
def within (n : Nat) (min max : Option Nat) : Bool :=
  min.all (· ≤ n) && max.all (n ≤ ·)

/-- A number within bounds. -/
def checkRange (code : String) (n : Nat) (min max : Option Nat) (value : Json) : Option Issue :=
  if within n min max then none
  else some ⟨code, none, boundParams min max ++ [("value", value)]⟩

/-- The length of a text in characters. -/
def onLength (name : String) (min max : Option Nat) (value : String) : Report :=
  atField name (checkRange "length" value.length min max (.string value)).toList

/-- The number of items of a list, which is reported by its JSON form. -/
def onCount (name : String) (min max : Option Nat) (count : Nat) (value : Json) : Report :=
  atField name (checkRange "length" count min max value).toList

/-- The same for a list that may be unset. -/
def onItemsIf {α : Type} [Coded α] (name : String) (min max : Option Nat) :
    Option (List α) → Report
  | none => []
  | some items => onCount name min max items.length (encode items)

/-- A number. -/
def onRange (name : String) (min max : Option Nat) (value : Nat) : Report :=
  atField name (checkRange "range" value min max (.nat value)).toList

/-- The same for a number that may be unset. -/
def onRangeIf (name : String) (min max : Option Nat) : Option Nat → Report
  | none => []
  | some n => onRange name min max n

end Sdwan.Validation
