/-
The operations on policy lists and policy definitions. Whatever is sent
is checked first; what does not pass is not sent.
-/
import Sdwan.Api.Client
import Sdwan.Api.Valid
import Sdwan.Policy.Definition

namespace Sdwan.Policy

open Json

variable [Platform]

-- ============================================== lists

/-- The operations on lists of one kind. -/
structure ListClient (k : ListKind) where
  client : Client

namespace ListClient

variable {k : ListKind}

/-- Where lists of all kinds are. -/
def root : String := "/template/policy/list/\x7bkind\x7d"

def createEndpoint : Endpoint := { verb := .post, path := root }
def deleteEndpoint : Endpoint := { verb := .delete, path := root ++ "/\x7bid\x7d" }
def deleteTaggedEndpoint : Endpoint := { verb := .delete, path := root }
def editEndpoint : Endpoint := { verb := .put, path := root ++ "/\x7bid\x7d" }
def getEndpoint : Endpoint := { verb := .get, path := root ++ "/\x7bid\x7d" }
def allEndpoint : Endpoint := { verb := .get, path := root, resultBody := some "data" }
def taggedEndpoint : Endpoint :=
  { verb := .get, path := root ++ "/filtered", resultBody := some "data" }
def previewEndpoint : Endpoint := { verb := .post, path := root ++ "/preview" }
def previewByIdEndpoint : Endpoint := { verb := .get, path := root ++ "/preview/\x7bid\x7d" }

/-- The argument that names the kind. -/
def kindArgument (_ : ListClient k) : String × String := ("kind", k.segment)

/-- The arguments that name the kind and one list. -/
def idArguments (c : ListClient k) (id : ListId) : List (String × String) :=
  [c.kindArgument, ("id", id.text)]

/-- Makes a list. -/
def create (c : ListClient k) (list : PolicyList k) : Action ListCreated := do
  requireValid list
  c.client.callJson createEndpoint ListCreated [c.kindArgument] [] (some (encode list))

/-- Removes a list. -/
def delete (c : ListClient k) (id : ListId) : Action Unit :=
  c.client.callEmpty deleteEndpoint (c.idArguments id) [] none

/-- Removes the lists with a mark. -/
def deleteTagged (c : ListClient k) (tag : InfoTag) : Action Unit :=
  c.client.callEmpty deleteTaggedEndpoint [c.kindArgument] tag.query none

/-- Changes a list. -/
def edit (c : ListClient k) (id : ListId) (payload : ListEdit k) : Action Unit := do
  requireValid payload.list
  c.client.callEmpty editEndpoint (c.idArguments id) [] (some (encode payload))

/-- Fetches a list. -/
def get (c : ListClient k) (id : ListId) : Action (ListRecord k) :=
  c.client.callJson getEndpoint (ListRecord k) (c.idArguments id) [] none

/-- Fetches all lists of the kind. -/
def all (c : ListClient k) : Action (List (ListRecord k)) :=
  c.client.callJson allEndpoint (List (ListRecord k)) [c.kindArgument] [] none

/-- Fetches the lists with a mark. -/
def tagged (c : ListClient k) (tag : InfoTag) : Action (List (ListRecord k)) :=
  c.client.callJson taggedEndpoint (List (ListRecord k)) [c.kindArgument] tag.query none

/-- Asks what a new list would look like. -/
def preview (c : ListClient k) (list : PolicyList k) : Action ListPreview := do
  requireValid list
  c.client.callJson previewEndpoint ListPreview [c.kindArgument] [] (some (encode list))

/-- Asks what a list looks like. -/
def previewById (c : ListClient k) (id : ListId) : Action ListPreview :=
  c.client.callJson previewByIdEndpoint ListPreview (c.idArguments id) [] none

end ListClient

-- ============================================== definitions

/-- The operations on rule sets. -/
structure DefinitionClient where
  client : Client

namespace DefinitionClient

/-- Where definitions of all kinds are. -/
def root : String := "/template/policy/definition/\x7bkind\x7d"

def createEndpoint : Endpoint := { verb := .post, path := root }
def deleteEndpoint : Endpoint := { verb := .delete, path := root ++ "/\x7bid\x7d" }
def editMultipleEndpoint : Endpoint := { verb := .put, path := root ++ "/multiple/\x7bid\x7d" }
def editEndpoint : Endpoint := { verb := .put, path := root ++ "/\x7bid\x7d" }
def allEndpoint : Endpoint := { verb := .get, path := root, resultBody := some "data" }
def getEndpoint : Endpoint := { verb := .get, path := root ++ "/\x7bid\x7d" }
def previewEndpoint : Endpoint := { verb := .post, path := root ++ "/preview" }
def previewByIdEndpoint : Endpoint := { verb := .get, path := root ++ "/preview/\x7bid\x7d" }
def bulkEndpoint : Endpoint := { verb := .put, path := root ++ "/bulk" }

/-- The argument that names the kind. -/
def kindArgument : String × String := ("kind", RuleSet.segment)

/-- The arguments that name the kind and one definition. -/
def idArguments (id : DefinitionId) : List (String × String) := [kindArgument, ("id", id.text)]

/-- Makes a definition. -/
def create (c : DefinitionClient) (set : RuleSet) : Action DefinitionCreated := do
  requireValid set
  c.client.callJson createEndpoint DefinitionCreated [kindArgument] [] (some (encode set))

/-- Removes a definition. -/
def delete (c : DefinitionClient) (id : DefinitionId) : Action Unit :=
  c.client.callEmpty deleteEndpoint (idArguments id) [] none

/-- Changes a definition for several templates at once. -/
def editMultiple (c : DefinitionClient) (id : DefinitionId) (payload : DefinitionEdit) :
    Action DefinitionEdited := do
  requireValid payload.definition
  c.client.callJson editMultipleEndpoint DefinitionEdited (idArguments id) []
    (some (encode payload))

/-- Changes a definition. -/
def edit (c : DefinitionClient) (id : DefinitionId) (payload : DefinitionEdit) :
    Action DefinitionEdited := do
  requireValid payload.definition
  c.client.callJson editEndpoint DefinitionEdited (idArguments id) [] (some (encode payload))

/-- Fetches all definitions. -/
def all (c : DefinitionClient) : Action (List DefinitionRecord) :=
  c.client.callJson allEndpoint (List DefinitionRecord) [kindArgument] [] none

/-- Fetches a definition. -/
def get (c : DefinitionClient) (id : DefinitionId) : Action DefinitionRecord :=
  c.client.callJson getEndpoint DefinitionRecord (idArguments id) [] none

/-- Asks what a new definition would look like. -/
def preview (c : DefinitionClient) (set : RuleSet) : Action DefinitionPreview := do
  requireValid set
  c.client.callJson previewEndpoint DefinitionPreview [kindArgument] [] (some (encode set))

/-- Asks what a definition looks like. -/
def previewById (c : DefinitionClient) (id : DefinitionId) : Action DefinitionPreview :=
  c.client.callJson previewByIdEndpoint DefinitionPreview (idArguments id) [] none

/-- Refuses definitions of which one does not pass its checks. -/
def requireAllValid : List DefinitionEdit → Result Unit
  | [] => .ok ()
  | p :: ps => do
    requireValid p.definition
    requireAllValid ps

/-- Changes several definitions at once. -/
def saveInBulk (c : DefinitionClient) (payloads : List DefinitionEdit) : Action Unit := do
  requireAllValid payloads
  c.client.callEmpty bulkEndpoint [kindArgument] [] (some (encode payloads))

end DefinitionClient

end Sdwan.Policy
