/-
Template definitions. A controller does not take a template as a flat
object: each value stands in a descriptor that says of what kind it is,
and each descriptor stands at a place of its own in a tree of containers.

A scalar becomes an object descriptor, a flag a node, a list of scalars a
list and a list of records a tree. An object becomes a container of the
descriptors of its members.
-/
import Sdwan.Json.Basic

namespace Sdwan.Feature

open Json

/-- The members of an object in a definition. -/
abbrev Node := List (String × Json)

-- ============================================== descriptors

/-- The kinds of descriptors. -/
inductive Kind where
  | object | list | tree | flag
deriving DecidableEq, Repr

/-- The name of a kind. -/
def Kind.name : Kind → String
  | object => "object"
  | list => "list"
  | tree => "tree"
  | flag => "node-only"

/-- A descriptor of a constant value. -/
def descriptor (k : Kind) (value : Json) : Node :=
  [("vipObjectType", .string k.name), ("vipType", .string "constant"), ("vipValue", value)]

/-- The member that names the key of a tree. -/
def primaryKeyMember : String := "vipPrimaryKey"

/-- The member that lists the other members of an entry in order. -/
def orderMember : String := "priority-order"

/-- Whether a value is an object. -/
def isRecord : Json → Bool
  | .object _ => true
  | _ => false

/-- Whether a value is `null`, which stands for no value. -/
def isUnset : Json → Bool
  | .null => true
  | _ => false

/-- The key of a list of records: the first member that is set in the
first record. -/
def primaryKey : List Json → List String
  | .object ms :: _ => ((ms.find? fun m => !isUnset m.2).map (·.1)).toList
  | _ => []

/-- A list of names. -/
def names (ns : List String) : Json := .array (ns.map .string)

/-- An entry of a tree: a container that also lists its members. -/
def ordered (members : Node) : Node :=
  insertMember orderMember (names (members.map (·.1))) members

mutual

/-- The node of a value. -/
def node : Json → Node
  | .bool b => descriptor .flag (.string (if b then "true" else "false"))
  | .array items =>
    if !items.isEmpty && items.all isRecord then
      descriptor .tree (.array (entries items)) ++ [(primaryKeyMember, names (primaryKey items))]
    else descriptor .list (.array items)
  | .object ms => container ms
  | scalar => descriptor .object scalar

/-- The nodes of the members that are set. -/
def container : List (String × Json) → Node
  | [] => []
  | (k, v) :: ms =>
    if isUnset v then container ms else (k, .object (node v)) :: container ms

/-- The entries of the tree of a list of records. -/
def entries : List Json → List Json
  | [] => []
  | .object ms :: rest => .object (ordered (container ms)) :: entries rest
  | _ :: rest => entries rest

end

-- ============================================== places

/-- Where a field stands in the definition. -/
structure Placement where
  field : String
  /-- The containers around it, the outermost one first. -/
  containers : List String := []
  /-- Its name there, if it has another one. -/
  alias? : Option String := none
deriving DecidableEq, Repr

/-- The name of a field in its container. -/
def Placement.key (p : Placement) : String := p.alias?.getD p.field

/-- The places of fields that stand in one container under their own
names. -/
def Placement.under (containers fields : List String) : List Placement :=
  fields.map fun f => ⟨f, containers, none⟩

/-- The place of a field: the first one in the table, else its own name
at the root. -/
def placeOf (table : List Placement) (field : String) : Placement :=
  (table.find? (·.field == field)).getD { field }

/-- The members of the object at a name, none if there is no object. -/
def membersAt (root : Node) (name : String) : Node :=
  match root.lookup name with
  | some (.object ms) => ms
  | _ => []

/-- Puts the members of one object into another. -/
def merge (old new : Node) : Node :=
  new.foldl (fun ms m => insertMember m.1 m.2 ms) old

/-- Puts a node at its place. What stands there already, as a container of
other nodes, stays beside it. -/
def place (key : String) (n : Node) : (containers : List String) → Node → Node
  | [], root => insertMember key (.object (merge (membersAt root key) n)) root
  | c :: cs, root => insertMember c (.object (place key n cs (membersAt root c))) root

/-- Puts a field at its place, unless it is not set. -/
def placeField (table : List Placement) (root : Node) (field : String × Json) : Node :=
  if isUnset field.2 then root
  else
    let p := placeOf table field.1
    place p.key (node field.2) p.containers root

/-- The definition of a template with these fields. -/
def definition (table : List Placement) (fields : List (String × Json)) : Node :=
  fields.foldl (placeField table) []

end Sdwan.Feature
