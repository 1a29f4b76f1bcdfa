/-
Types that are written as JSON and read back, and records described
member by member.

A `Members σ α` reads an `α` out of the members of an object, or out of
the items of an array by position, and writes the members of a `σ`. It is
applicative in `α`: a record type lists its members once, in order, and
both directions come from that list.

Reading an object takes two steps. The members are checked in the order
in which the document has them, so the first wrong one is the error; then
the value is put together in the order of the description, which finds
the first that is missing.
-/
import Sdwan.Json.Decode

namespace Sdwan.Json

/-- A type with a JSON form. -/
class Coded (α : Type) where
  encode : α → Json
  read : Reader α

export Coded (encode)

/-- Reads a complete value of the type. -/
def decode {α : Type} [Coded α] (j : Json) : Decoded α := readValue Coded.read j

/-- Reads a text that holds a value of the type. -/
def decodeText {α : Type} [Coded α] (s : String) : Decoded α := readText Coded.read s

-- ============================================== basic types

instance : Coded Json := ⟨id, readJson⟩
instance : Coded String := ⟨.string, readString⟩
instance : Coded Bool := ⟨.bool, readBool⟩

instance : Coded UInt8 :=
  ⟨fun n => .nat n.toNat, fun o d => (readNatBelow UInt8.size "u8" o d).map UInt8.ofNat⟩
instance : Coded UInt16 :=
  ⟨fun n => .nat n.toNat, fun o d => (readNatBelow UInt16.size "u16" o d).map UInt16.ofNat⟩
instance : Coded UInt32 :=
  ⟨fun n => .nat n.toNat, fun o d => (readNatBelow UInt32.size "u32" o d).map UInt32.ofNat⟩
instance : Coded UInt64 :=
  ⟨fun n => .nat n.toNat, fun o d => (readNatBelow UInt64.size "u64" o d).map UInt64.ofNat⟩

instance {α : Type} [Coded α] : Coded (Option α) :=
  ⟨optional Coded.encode, readNullable Coded.read⟩

instance {α : Type} [Coded α] : Coded (List α) :=
  ⟨fun as => .array (as.map Coded.encode), readList Coded.read⟩

/-- A finite type whose values are written by name. -/
@[reducible] def codedByName {α : Type} (variants : List (String × α)) (name : α → String) :
    Coded α :=
  ⟨fun a => .string (name a), readVariant variants⟩

/-- A type written as text that `parse` reads. -/
@[reducible] def codedByText {α : Type} (expected : String) (print : α → String)
    (parse : String → Option α) : Coded α :=
  ⟨fun a => .string (print a), readParsed expected parse⟩

-- ============================================== members of records

/-- What a record asks of one of its members. -/
structure Slot where
  name : String
  check : Origin → Draft → Decoded Unit

/-- The items of an array that are still to be read, and how many have
been asked for. -/
structure Cursor where
  rest : List Draft
  closed : Bool
  index : Nat

/-- A description of some members of a record type `σ` that together make
up an `α`. -/
structure Members (σ α : Type) where
  slots : List Slot
  write : σ → List (String × Json)
  build : Origin → (String → Option Draft) → Decoded α
  /-- Reads by position; `expected` describes the whole record. -/
  take : Origin → String → Cursor → Decoded (α × Cursor)

namespace Members

variable {σ τ α β : Type}

/-- No member. -/
def const (a : α) : Members σ α where
  slots := []
  write _ := []
  build _ _ := .ok a
  take _ _ c := .ok (a, c)

/-- The members of both, in order. -/
def seq (f : Members σ (α → β)) (x : Members σ α) : Members σ β where
  slots := f.slots ++ x.slots
  write s := f.write s ++ x.write s
  build o find := do
    let g ← f.build o find
    let a ← x.build o find
    .ok (g a)
  take o expected c := do
    let (g, c) ← f.take o expected c
    let (a, c) ← x.take o expected c
    .ok (g a, c)

/-- The same members, made into something else. -/
def map (f : α → β) (x : Members σ α) : Members σ β where
  slots := x.slots
  write := x.write
  build o find := (x.build o find).map f
  take o expected c := (x.take o expected c).map fun (a, c) => (f a, c)

/-- The same members for a larger record. -/
def within (part : τ → σ) (x : Members σ α) : Members τ α where
  slots := x.slots
  write t := x.write (part t)
  build := x.build
  take := x.take

instance : Functor (Members σ) where
  map := map

instance : Applicative (Members σ) where
  pure := const
  seq f x := seq f (x ())

/-- One member. `absent` is its value when the object does not have it,
`short` when the array is too short for it; `none` makes either an error.
`write` leaves it out when it gives `none`. -/
def member (name : String) (read : Reader α) (absent short : Option α)
    (write : σ → Option Json) : Members σ α where
  slots := [⟨name, fun o d => (read o d).map fun _ => ()⟩]
  write s := memberIf name id (write s)
  build o find :=
    match find name with
    | some d => read o d
    | none =>
      match absent with
      | some a => .ok a
      | none => .error (.missingField name)
  take o expected c :=
    match c.rest with
    | d :: rest => (read o d).map fun a => (a, ⟨rest, c.closed, c.index + 1⟩)
    | [] =>
      if !c.closed then .error .syntaxError
      else match short with
        | some a => .ok (a, ⟨[], true, c.index + 1⟩)
        | none => .error (.invalidLength c.index expected)

variable [Coded α]

/-- A member that has to be there. -/
def required (name : String) (get : σ → α) : Members σ α :=
  member name Coded.read none none fun s => some (encode (get s))

/-- A member with a value of its own when it is not there. -/
def defaulted (name : String) (fallback : α) (get : σ → α) : Members σ α :=
  member name Coded.read (some fallback) (some fallback) fun s => some (encode (get s))

/-- A member that is left out when it has no value. -/
def optional (name : String) (get : σ → Option α) : Members σ (Option α) :=
  member name Coded.read (some none) (some none) fun s => (get s).map encode

/-- A member that may be missing in an object but not in an array, and is
written as `null` when it has no value. -/
def nullable (name : String) (get : σ → Option α) : Members σ (Option α) :=
  member name Coded.read (some none) none fun s => some (encode (get s))

end Members

-- ============================================== reading objects

/-- The first member of a name. -/
def findMember (ms : List (Option String × Draft)) (name : String) : Option Draft :=
  ms.lookup (some name)

/-- Checks the members in the order of the document: a known one must not
be repeated and has to pass its check, another only has to be passed
over. -/
def scan (slots : List Slot) (o : Origin) :
    (seen : List String) → List (Option String × Draft) → Decoded Unit
  | _, [] => .ok ()
  | _, (none, _) :: _ => .error .syntaxError
  | seen, (some k, d) :: ms =>
    match slots.find? (·.name == k) with
    | some slot =>
      if seen.contains k then .error (.duplicateField k)
      else do
        slot.check o d
        scan slots o (k :: seen) ms
    | none =>
      if o == .text && !d.skippable then .error .syntaxError
      else scan slots o seen ms

/-- As `scan`, but sets the other members aside, which therefore have to
be readable, and gives them in order. -/
def partition (slots : List Slot) (o : Origin) :
    (seen : List String) → List (Option String × Draft) →
      Decoded (List (Option String × Draft))
  | _, [] => .ok []
  | _, (none, _) :: _ => .error .syntaxError
  | seen, (some k, d) :: ms =>
    match slots.find? (·.name == k) with
    | some slot =>
      if seen.contains k then .error (.duplicateField k)
      else do
        slot.check o d
        partition slots o (k :: seen) ms
    | none =>
      if d.toJson?.isNone then .error .syntaxError
      else do
        let rest ← partition slots o seen ms
        .ok ((some k, d) :: rest)

namespace Members

variable {σ α β γ : Type}

/-- Reads the members of an object. -/
def readMembers (m : Members σ α) (o : Origin) (ms : List (Option String × Draft))
    (closed : Bool) : Decoded α := do
  scan m.slots o [] ms
  if closed then m.build o (findMember ms) else .error .syntaxError

/-- The part of an object that a description owns: its value, and the
members left over for other parts. -/
def readOwn (m : Members σ α) (o : Origin) (ms : List (Option String × Draft))
    (closed : Bool) : Decoded (α × List (Option String × Draft)) := do
  let rest ← partition m.slots o [] ms
  if closed then
    let a ← m.build o (findMember ms)
    .ok (a, rest)
  else .error .syntaxError

/-- What a message says about a record of so many members. -/
def describe (m : Members σ α) (name : String) : String :=
  let n := m.slots.length
  "struct " ++ name ++ " with " ++ toString n ++ (if n == 1 then " element" else " elements")

/-- What follows when all members have been read by position. -/
def finish (o : Origin) (c : Cursor) : Decoded Unit :=
  if c.rest.isEmpty then
    if c.closed then .ok () else .error .syntaxError
  else match o with
    | .text => .error .syntaxError
    | .value => .error (.invalidLength (c.index + c.rest.length) "fewer elements in array")
    | .buffer =>
      .error (.invalidLength (c.index + c.rest.length)
        (toString c.index ++ (if c.index == 1 then " element" else " elements")
          ++ " in sequence"))

/-- A record, as an object or as an array in the order of the members. -/
def readRecord (m : Members σ α) (name : String) : Reader α := fun o d =>
  match d with
  | .object ms closed => m.readMembers o ms closed
  | .array xs closed => do
    let (a, c) ← m.take o (m.describe name) ⟨xs, closed, 0⟩
    finish o c
    .ok a
  | d => wrongType d ("struct " ++ name)

/-- The object with the members of a record. -/
def toObject (m : Members σ α) (s : σ) : Json := .object (m.write s)

/-- The JSON form of a record with these members. -/
@[reducible] def coded (m : Members σ σ) (name : String) : Coded σ :=
  ⟨m.toObject, m.readRecord name⟩

/-- What a description leaves of the members of an object: those that have
none of its names. -/
def leave (m : Members σ α) (ms : List (Option String × Draft)) :
    List (Option String × Draft) :=
  ms.filter fun f => !m.slots.any fun slot => f.1 == some slot.name

/-- A record whose object is shared by three descriptions: `own` takes its
members first, then `fst` and `snd`, one after the other, read from those
left over. Only an object can be shared. -/
def readShared (own : Members σ α) (fst : Members σ β) (snd : Members σ γ)
    (name : String) : Reader (α × β × γ) := fun o d =>
  match d with
  | .object ms closed => do
    let (a, rest) ← own.readOwn o ms closed
    let b ← fst.readMembers .buffer rest true
    let c ← snd.readMembers .buffer (fst.leave rest) true
    .ok (a, b, c)
  | d => wrongType d ("struct " ++ name)

/-- The JSON form of such a record; its own members are written last. -/
@[reducible] def codedShared (own : Members σ α) (fst : Members σ β) (snd : Members σ γ)
    (combine : α → β → γ → σ) (name : String) : Coded σ :=
  ⟨fun s => .object (fst.write s ++ snd.write s ++ own.write s),
    fun o d => (own.readShared fst snd name o d).map fun (a, b, c) => combine a b c⟩

end Members

end Sdwan.Json
