/-
What the controller keeps about a policy definition beside the definition
itself, and the objects that hold both. The definitions are rule sets.
-/
import Sdwan.Policy.Record
import Sdwan.Policy.RuleSet

namespace Sdwan.Policy

open Json

/-- The controller's record of a definition. -/
structure DefinitionInfo where
  definitionId : DefinitionId
  lastUpdated : Option Instant
  owner : Option String
  infoTag : Option String
  mode : Option String
  optimized : Option String
  referenceCount : UInt32
  references : List Reference
  activatedIds : List String
  activated : Bool
deriving DecidableEq, Repr

namespace DefinitionInfo

/-- The members of a record. -/
def members : Members DefinitionInfo DefinitionInfo :=
  DefinitionInfo.mk <$> .required "definitionId" DefinitionInfo.definitionId
    <*> .optional "lastUpdated" DefinitionInfo.lastUpdated
    <*> .optional "owner" DefinitionInfo.owner
    <*> .optional "infoTag" DefinitionInfo.infoTag
    <*> .optional "mode" DefinitionInfo.mode
    <*> .optional "optimized" DefinitionInfo.optimized
    <*> .defaulted "referenceCount" 0 DefinitionInfo.referenceCount
    <*> .defaulted "references" [] DefinitionInfo.references
    <*> .defaulted "activatedId" [] DefinitionInfo.activatedIds
    <*> .defaulted "isActivatedByVsmart" false DefinitionInfo.activated

instance : Coded DefinitionInfo := members.coded "PolicyDefinitionInfo"

end DefinitionInfo

/-- A definition and the controller's record of it. -/
structure DefinitionRecord where
  definition : RuleSet
  info : DefinitionInfo
deriving DecidableEq, Repr

instance : Coded DefinitionRecord :=
  Members.codedShared (pure ())
    (RuleSet.members.within DefinitionRecord.definition)
    (DefinitionInfo.members.within DefinitionRecord.info)
    (fun _ definition info => ⟨definition, info⟩) "PolicyDefinitionInfoRecord"

/-- A definition that takes the place of an old one. -/
structure DefinitionEdit where
  definition : RuleSet
  definitionId : DefinitionId
deriving DecidableEq, Repr

instance : Coded DefinitionEdit :=
  Members.codedShared (.required "definitionId" DefinitionEdit.definitionId)
    (RuleSet.members.within DefinitionEdit.definition)
    (pure ())
    (fun definitionId definition _ => ⟨definition, definitionId⟩) "PolicyDefinitionEditPayload"

/-- The answer to a new definition. -/
structure DefinitionCreated where
  definitionId : DefinitionId
deriving DecidableEq, Repr

instance : Coded DefinitionCreated :=
  (DefinitionCreated.mk <$> .required "definitionId" DefinitionCreated.definitionId
    : Members _ _).coded "PolicyDefinitionId"

/-- The answer to a changed definition: the templates that it touches. -/
structure DefinitionEdited where
  affectedTemplates : List String
deriving DecidableEq, Repr

instance : Coded DefinitionEdited :=
  (DefinitionEdited.mk <$> .defaulted "masterTemplatesAffected" []
    DefinitionEdited.affectedTemplates : Members _ _).coded "PolicyDefinitionEditResponse"

/-- The preview of a definition. -/
structure DefinitionPreview where
  preview : Preview
deriving DecidableEq, Repr

instance : Coded DefinitionPreview :=
  ((DefinitionPreview.mk <$> Preview.members).within DefinitionPreview.preview
    : Members _ _).coded "PolicyDefinitionPreview"

end Sdwan.Policy
