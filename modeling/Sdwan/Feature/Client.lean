/-
The operations on feature templates. The payload is checked before it is
sent; what does not pass is not sent.
-/
import Sdwan.Api.Client
import Sdwan.Api.Valid
import Sdwan.Feature.Template

namespace Sdwan.Feature

open Json

/-- The operations on feature templates. -/
structure TemplateClient where
  client : Client

variable [Platform]

namespace TemplateClient

-- ============================================== endpoints

def createEndpoint : Endpoint := { verb := .post, path := "/template/feature" }
def editEndpoint : Endpoint := { verb := .put, path := "/template/feature/\x7bid\x7d" }
def deleteEndpoint : Endpoint := { verb := .delete, path := "/template/feature/\x7bid\x7d" }
def allEndpoint : Endpoint :=
  { verb := .get, path := "/template/feature", resultBody := some "data" }
def getEndpoint : Endpoint := { verb := .get, path := "/template/feature/object/\x7bid\x7d" }

-- ============================================== operations

/-- The payload of a template, if it passes its checks. -/
def validPayload (t : Template) : Result Payload := do
  let p ← t.payload
  requireValid p
  .ok p

/-- Makes a template. -/
def create (c : TemplateClient) (t : Template) : Action TemplateId := do
  let p ← validPayload t
  let created ← c.client.callJson createEndpoint Created [] [] (some (encode p))
  return created.templateId

/-- Changes a template. The answer is empty when nothing holds it. -/
def edit (c : TemplateClient) (id : TemplateId) (t : Template) : Action Edited := do
  let p ← validPayload t
  let reply ← c.client.call editEndpoint [("id", id.text)] [] { body := .json (encode p) }
  let bytes ← reply.readBody
  if bytes.isEmpty then return {}
  else editEndpoint.decode Edited bytes

/-- Removes a template. -/
def delete (c : TemplateClient) (id : TemplateId) : Action Unit :=
  c.client.callEmpty deleteEndpoint [("id", id.text)] [] none

/-- Fetches what the controller lists. -/
def all (c : TemplateClient) : Action (List Info) :=
  c.client.callJson allEndpoint (List Info) [] [] none

/-- Fetches the payload of a template. -/
def get (c : TemplateClient) (id : TemplateId) : Action Payload :=
  c.client.callJson getEndpoint Payload [("id", id.text)] [] none

end TemplateClient

end Sdwan.Feature
