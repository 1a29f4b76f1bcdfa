/-
Identifiers of the controller's objects. One type for each kind of
object, so that none is taken for another.
-/
import Sdwan.Error
import Sdwan.Net.Coded

namespace Sdwan

open Json

/-- The identifier of a policy list. -/
structure ListId where
  uuid : Net.Uuid
deriving DecidableEq, Repr

/-- The identifier of a policy definition. -/
structure DefinitionId where
  uuid : Net.Uuid
deriving DecidableEq, Repr

/-- The identifier of a feature template. -/
structure TemplateId where
  uuid : Net.Uuid
deriving DecidableEq, Repr

/-- Reads an identifier. -/
def parseUuid (s : String) : Result Net.Uuid :=
  match Net.Uuid.parse? s with
  | some u => .ok u
  | none => .error (.invalidUuid s)

namespace ListId

/-- The text of an identifier. -/
def text (i : ListId) : String := i.uuid.text

/-- Reads an identifier. -/
def parse (s : String) : Result ListId := (parseUuid s).map ListId.mk

instance : Coded ListId := ⟨fun i => encode i.uuid, fun o d => (Coded.read o d).map ListId.mk⟩

end ListId

namespace DefinitionId

/-- The text of an identifier. -/
def text (i : DefinitionId) : String := i.uuid.text

/-- Reads an identifier. -/
def parse (s : String) : Result DefinitionId := (parseUuid s).map DefinitionId.mk

instance : Coded DefinitionId :=
  ⟨fun i => encode i.uuid, fun o d => (Coded.read o d).map DefinitionId.mk⟩

end DefinitionId

namespace TemplateId

/-- The text of an identifier. -/
def text (i : TemplateId) : String := i.uuid.text

/-- Reads an identifier. -/
def parse (s : String) : Result TemplateId := (parseUuid s).map TemplateId.mk

instance : Coded TemplateId :=
  ⟨fun i => encode i.uuid, fun o d => (Coded.read o d).map TemplateId.mk⟩

end TemplateId

end Sdwan
