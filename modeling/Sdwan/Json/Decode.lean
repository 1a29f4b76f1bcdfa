/-
Reading typed values out of JSON documents: the causes for which that
fails, their wording, and the readers of the basic types.

A reader is told where its document comes from. The three origins differ
in what may be left over: an array in a text ends where its reader stops
asking, the same array as a value or as a part set aside for later has a
length of its own.
-/
import Sdwan.Json.Draft
import Sdwan.Text.Quoted

namespace Sdwan.Json

-- ============================================== errors

/-- The kind of a JSON value, with the value itself where it is short. -/
inductive Kind where
  | null
  | bool (value : Bool)
  | number (value : Number)
  | string (value : String)
  | array
  | object
deriving DecidableEq, Repr

/-- Why a document does not hold a value of the type asked for. -/
inductive DecodeError where
  | missingField (name : String)
  | duplicateField (name : String)
  | unknownVariant (given : String) (known : List String)
  | invalidType (given : Kind) (expected : String)
  | invalidValue (given : Kind) (expected : String)
  | invalidLength (length : Nat) (expected : String)
  /-- The text is not JSON, or not only JSON. -/
  | syntaxError
  /-- A string or number that does not denote a value of its type. -/
  | meaningless
  /-- As `meaningless`, with a reason of its own. -/
  | rejected (reason : String)
deriving DecidableEq, Repr

/-- How a value is named in a message. -/
def Kind.describe : Kind → String
  | .null => "null"
  | .bool true => "boolean `true`"
  | .bool false => "boolean `false`"
  | .number (.int i) => "integer " ++ Text.backquoted (toString i)
  | .number (.float bits) =>
    "floating point " ++ Text.backquoted (String.ofList (Binary64.render bits))
  | .string s => "string " ++ Text.quoted s
  | .array => "sequence"
  | .object => "map"

/-- The names a message offers in place of an unknown one. -/
def oneOf : List String → String
  | [] => "nothing"
  | [a] => Text.backquoted a
  | [a, b] => Text.backquoted a ++ " or " ++ Text.backquoted b
  | names => "one of " ++ ", ".intercalate (names.map Text.backquoted)

/-- The wording of an error. What a broken text or a meaningless string
is called is fixed, whatever is wrong with it. -/
def DecodeError.message : DecodeError → String
  | .missingField name => "missing field " ++ Text.backquoted name
  | .duplicateField name => "duplicate field " ++ Text.backquoted name
  | .unknownVariant given known =>
    "unknown variant " ++ Text.backquoted given ++ ", expected " ++ oneOf known
  | .invalidType given expected => "invalid type: " ++ given.describe ++ ", expected " ++ expected
  | .invalidValue given expected => "invalid value: " ++ given.describe ++ ", expected " ++ expected
  | .invalidLength n expected => "invalid length " ++ toString n ++ ", expected " ++ expected
  | .syntaxError => "syntax"
  | .meaningless => "data"
  | .rejected reason => reason

-- ============================================== readers

/-- Where a document comes from. -/
inductive Origin where
  /-- A complete value. -/
  | value
  /-- A text that is read as it is decoded. -/
  | text
  /-- Members set aside while the others were read. -/
  | buffer
deriving DecidableEq, Repr

/-- What reading gives. -/
abbrev Decoded (α : Type) := Except DecodeError α

/-- A reader for the values of a type. -/
abbrev Reader (α : Type) := Origin → Draft → Decoded α

/-- The kind of a draft; nothing for one that is broken where it begins. -/
def Draft.kind? : Draft → Option Kind
  | .null => some .null
  | .bool b => some (.bool b)
  | .number n => some (.number n)
  | .string s => some (.string s)
  | .array _ _ => some .array
  | .object _ _ => some .object
  | .hugeNumber | .brokenString | .tooDeep _ | .fault => none

/-- The error for a document of another kind than the expected one. -/
def wrongType {α : Type} (d : Draft) (expected : String) : Decoded α :=
  match d.kind? with
  | some k => .error (.invalidType k expected)
  | none => .error .syntaxError

/-- Any JSON value. -/
def readJson : Reader Json := fun _ d =>
  match d.toJson? with
  | some j => .ok j
  | none => .error .syntaxError

/-- A string, described as `expected` when there is none. -/
def readStringAs (expected : String) : Reader String := fun _ d =>
  match d with
  | .string s => .ok s
  | d => wrongType d expected

/-- A string. -/
def readString : Reader String := readStringAs "a string"

/-- A string that `parse` gives a meaning to. -/
def readParsed {α : Type} (expected : String) (parse : String → Option α) : Reader α :=
  fun o d => do
    let s ← readStringAs expected o d
    match parse s with
    | some a => .ok a
    | none => .error .meaningless

/-- A boolean. -/
def readBool : Reader Bool := fun _ d =>
  match d with
  | .bool b => .ok b
  | d => wrongType d "a boolean"

/-- An integer from 0 up to but not including `bound`. -/
def readNatBelow (bound : Nat) (expected : String) : Reader Nat := fun _ d =>
  match d with
  | .number (.int i) =>
    if 0 ≤ i ∧ i < bound then .ok i.toNat
    else .error (.invalidValue (.number (.int i)) expected)
  | d => wrongType d expected

/-- `null`, or a value. -/
def readNullable {α : Type} (read : Reader α) : Reader (Option α) := fun o d =>
  match d with
  | .null => .ok none
  | d => (read o d).map some

/-- The items one by one, the first error first. -/
def readItems {α : Type} (read : Reader α) (o : Origin) : List Draft → Decoded (List α)
  | [] => .ok []
  | d :: ds => do
    let a ← read o d
    let as ← readItems read o ds
    .ok (a :: as)

/-- An array. -/
def readList {α : Type} (read : Reader α) : Reader (List α) := fun o d =>
  match d with
  | .array xs closed => do
    let as ← readItems read o xs
    if closed then .ok as else .error .syntaxError
  | d => wrongType d "a sequence"

-- ============================================== names

/-- What stands beside the name of a variant in an object has to be
`null`; a part set aside may also hold an empty object. -/
def readUnit : Reader Unit := fun o d =>
  match d with
  | .null => .ok ()
  | .object [] _ => if o == .buffer then .ok () else wrongType d "unit"
  | d => wrongType d "unit"

/-- One of the given names. -/
def pickVariant {α : Type} (variants : List (String × α)) (name : String) : Decoded α :=
  match variants.lookup name with
  | some a => .ok a
  | none => .error (.unknownVariant name (variants.map Prod.fst))

/-- A name out of a fixed set, alone or as the only member of an object. -/
def readVariant {α : Type} (variants : List (String × α)) : Reader α := fun o d =>
  match d with
  | .string s => pickVariant variants s
  | .object ms closed =>
    if o == .text then
      match ms with
      | (some k, v) :: rest => do
        let a ← pickVariant variants k
        let _ ← readUnit o v
        if rest.isEmpty && closed then .ok a else .error .syntaxError
      | _ => .error .syntaxError
    else
      match ms with
      | [(some k, v)] => do
        let a ← pickVariant variants k
        let _ ← readUnit o v
        .ok a
      | _ => .error (.invalidValue .object "map with a single key")
  | d => if o == .text then .error .syntaxError else wrongType d "string or map"

-- ============================================== entry points

/-- Reads a complete value. -/
def readValue {α : Type} (read : Reader α) (j : Json) : Decoded α := read .value (.ofJson j)

/-- Reads bytes; behind the value only blanks may follow. -/
def readBytes {α : Type} (read : Reader α) (bytes : List UInt8) : Decoded α :=
  match Draft.ofBytes bytes with
  | (d, clean) => do
    let a ← read .text d
    if clean then .ok a else .error .syntaxError

/-- Reads a text. -/
def readText {α : Type} (read : Reader α) (s : String) : Decoded α :=
  readBytes read (Text.bytesOf s)

end Sdwan.Json
