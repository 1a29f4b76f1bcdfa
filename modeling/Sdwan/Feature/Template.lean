/-
Feature templates, the payload that a controller stores of them, and what
it lists.
-/
import Sdwan.Api.Id
import Sdwan.Feature.Definition
import Sdwan.Feature.Device
import Sdwan.Validation.Check

namespace Sdwan.Feature

open Json Validation

/-- A template: what it is called, what it applies to, and its fields with
the places that they go to. -/
structure Template where
  kind : String
  placements : List Placement := []
  name : String
  description : String
  devices : List DeviceModel
  minVersion : String := "15.0.0"
  fields : Json
deriving Repr

-- ============================================== payloads

/-- What is sent to make or to change a template. -/
structure Payload where
  name : String
  description : String
  kind : String
  devices : List DeviceModel
  minVersion : String
  definition : Json
  factoryDefault : Bool
deriving Repr

namespace Payload

/-- The members of a payload. -/
def members : Members Payload Payload :=
  Payload.mk <$> .required "templateName" Payload.name
    <*> .required "templateDescription" Payload.description
    <*> .required "templateType" Payload.kind
    <*> .required "deviceType" Payload.devices
    <*> .required "templateMinVersion" Payload.minVersion
    <*> .required "templateDefinition" Payload.definition
    <*> .defaulted "factoryDefault" false Payload.factoryDefault

instance : Coded Payload := members.coded "FeatureTemplatePayload"

instance : Checked Payload :=
  ⟨fun p =>
    onLength "template_name" (some 1) (some 128) p.name
      ++ onLength "template_description" (some 1) (some 2048) p.description
      ++ onCount "device_type" (some 1) none p.devices.length (encode p.devices)⟩

end Payload

namespace Template

/-- The definition, if the fields are the members of an object. -/
def definition (t : Template) : Result Json :=
  match t.fields with
  | .object fields => .ok (.object (Feature.definition t.placements fields))
  | _ => .error (.invalidRequest (t.kind ++ " template must serialise to an object"))

/-- The payload, which is not that of a factory default. -/
def payload (t : Template) : Result Payload := do
  let definition ← t.definition
  .ok {
    name := t.name
    description := t.description
    kind := t.kind
    devices := t.devices
    minVersion := t.minVersion
    definition
    factoryDefault := false }

end Template

-- ============================================== answers

/-- The answer to a new template. -/
structure Created where
  templateId : TemplateId
deriving DecidableEq, Repr

instance : Coded Created :=
  (Created.mk <$> .required "templateId" Created.templateId : Members _ _).coded
    "FeatureTemplateId"

/-- The answer to a changed template: the device templates that hold it. -/
structure Edited where
  affected : List String := []
deriving DecidableEq, Repr

instance : Coded Edited :=
  (Edited.mk <$> .defaulted "masterTemplatesAffected" [] Edited.affected : Members _ _).coded
    "FeatureTemplateEditResponse"

/-- What a controller lists of a template. -/
structure Info where
  templateId : TemplateId
  name : String
  description : String
  kind : String
  devices : List DeviceModel
  updatedBy : Option String
  updatedOn : Option Instant
  factoryDefault : Bool
  devicesAttached : UInt32
  mastersAttached : UInt32
  minVersion : Option String
  configType : Option String
deriving DecidableEq, Repr

namespace Info

/-- The members of a listed template. -/
def members : Members Info Info :=
  Info.mk <$> .required "templateId" Info.templateId
    <*> .required "templateName" Info.name
    <*> .defaulted "templateDescription" "" Info.description
    <*> .required "templateType" Info.kind
    <*> .defaulted "deviceType" [] Info.devices
    <*> .defaulted "lastUpdatedBy" none Info.updatedBy
    <*> .defaulted "lastUpdatedOn" none Info.updatedOn
    <*> .defaulted "factoryDefault" false Info.factoryDefault
    <*> .defaulted "devicesAttached" 0 Info.devicesAttached
    <*> .defaulted "attachedMastersCount" 0 Info.mastersAttached
    <*> .defaulted "templateMinVersion" none Info.minVersion
    <*> .defaulted "configType" none Info.configType

instance : Coded Info := members.coded "FeatureTemplateInfo"

end Info

end Sdwan.Feature
