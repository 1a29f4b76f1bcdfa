/-
Query parameters, as pairs of texts in order.
-/
import Sdwan.Error

namespace Sdwan

open Json

/-- The parameters of a query. -/
structure Query where
  pairs : List (String × String) := []
deriving DecidableEq, Repr

namespace Query

/-- Adds a pair. -/
def push (q : Query) (key value : String) : Query := ⟨q.pairs ++ [(key, value)]⟩

/-- Adds a pair if it has a value. -/
def pushIf (q : Query) (key : String) : Option String → Query
  | none => q
  | some value => q.push key value

/-- The pair of a member: none for `null`, an error for what is not a
single value. -/
def ofMember (key : String) : Json → Result (Option (String × String))
  | .null => .ok none
  | .string s => .ok (some (key, s))
  | .bool b => .ok (some (key, (Json.bool b).render))
  | .number n => .ok (some (key, (Json.number n).render))
  | .array _ | .object _ =>
    .error (.invalidRequest ("query parameter " ++ Text.backquoted key ++ " is not a scalar"))

/-- The pairs of the members, the first error first. -/
def ofMembers : List (String × Json) → Result (List (String × String))
  | [] => .ok []
  | (k, v) :: ms => do
    let p ← ofMember k v
    let ps ← ofMembers ms
    .ok (p.toList ++ ps)

/-- The parameters that an object stands for. -/
def ofJson : Json → Result Query
  | .object ms => (ofMembers ms).map Query.mk
  | _ => .error (.invalidRequest "query parameters must serialize to an object")

end Query

end Sdwan
