/-
What checking a value finds: a list of findings, each an issue at a place
inside the value. A report without findings is success.

Places are named by the fields of the checked types, not by the members
of their JSON form.
-/
import Sdwan.Json.Basic

namespace Sdwan.Validation

/-- One step into a value. -/
inductive Step where
  | field (name : String)
  | index (i : Nat)
deriving DecidableEq, Repr

/-- What is wrong at a place: a code, a message for the checks that have
one, and the values the message is about. -/
structure Issue where
  code : String
  message : Option String := none
  params : List (String × Json) := []
deriving BEq, Repr

/-- An issue and where it is. -/
structure Finding where
  path : List Step
  issue : Issue
deriving BEq, Repr

/-- All findings for a value. -/
abbrev Report := List Finding

/-- Two reports were made for one field, one of its own value and one of
the values inside it, and the second would replace the first. -/
structure Clash where
  field : String
deriving DecidableEq, Repr

/-- The message of a clash. -/
def Clash.message (_ : Clash) : String := "Attempt to replace non-empty ValidationErrors entry"

-- ============================================== places

/-- The text of a path: fields with points between them, indices in
brackets. -/
def pathText : List Step → List Char
  | [] => []
  | .index i :: rest =>
    '[' :: (toString i).toList ++ [']'] ++ separated rest
  | .field f :: rest => f.toList ++ separated rest
where
  /-- The rest of a path, with the point that comes before a field. -/
  separated : List Step → List Char
    | [] => []
    | .index i :: rest => '[' :: (toString i).toList ++ [']'] ++ separated rest
    | .field f :: rest => '.' :: f.toList ++ separated rest

/-- The place of a finding as text. -/
def Finding.place (f : Finding) : String := String.ofList (pathText f.path)

/-- A finding in words: the place, and what is wrong there. -/
def Finding.text (f : Finding) : String := f.place ++ ": " ++ f.issue.message.getD f.issue.code

/-- An issue at a place, for programs. -/
def Issue.json (i : Issue) (place : String) : Json :=
  .object [("path", .string place), ("code", .string i.code),
    ("message", Json.optString i.message), ("params", .object i.params)]

/-- A report for programs, in the order of the places. -/
def Report.json (r : Report) : Json :=
  let sorted := r.mergeSort fun a b => !(b.place < a.place)
  .array (sorted.map fun f => f.issue.json f.place)

/-- A report in words, one finding to a line. -/
def Report.text (r : Report) : String := "\n".intercalate (r.map Finding.text)

/-- The place of a check on a whole record. -/
def whole : List Step := [.field "__all__"]

/-- A type whose values are checked. -/
class Checked (α : Type) where
  check : α → Report

export Checked (check)

-- ============================================== building reports

/-- The issues of one field. -/
def atField (name : String) (issues : List Issue) : Report :=
  issues.map fun i => ⟨[.field name], i⟩

/-- The report of a record inside a field. -/
def inside (name : String) (report : Report) : Report :=
  report.map fun f => { f with path := .field name :: f.path }

/-- The reports of the items of a list, numbered from `i`. -/
def numbered : (i : Nat) → List Report → Report
  | _, [] => []
  | i, r :: rs =>
    r.map (fun f => { f with path := .index i :: f.path }) ++ numbered (i + 1) rs

/-- The reports of the records in a list field. -/
def insideEach {α : Type} (name : String) (check : α → Report) (items : List α) : Report :=
  inside name (numbered 0 (items.map check))

/-- Adds the check of the whole record, which is made only when nothing
else was found. -/
def thenWhole (report : Report) (check : Option Issue) : Report :=
  if report.isEmpty then
    match check with
    | none => []
    | some issue => [⟨whole, issue⟩]
  else report

/-- The issues of a field and those inside it; one place cannot hold
both. -/
def ownAndInside (name : String) (own inner : Report) : Except Clash Report :=
  if !own.isEmpty && !inner.isEmpty then .error ⟨name⟩ else .ok (own ++ inner)

end Sdwan.Validation
