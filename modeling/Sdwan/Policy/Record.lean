/-
What the controller keeps about a policy list beside the list itself, and
the objects that hold both.

List and record share one object. Each side reads the members that it
knows.
-/
import Sdwan.Api.Id
import Sdwan.Policy.PolicyList

namespace Sdwan.Policy

open Json

/-- Something that uses a list. -/
structure Reference where
  id : String
  kind : String
deriving DecidableEq, Repr

namespace Reference

/-- The members of a reference. -/
def members : Members Reference Reference :=
  Reference.mk <$> .required "id" Reference.id
    <*> .required "type" Reference.kind

instance : Coded Reference := members.coded "PolicyReference"

end Reference

/-- The controller's record of a list. -/
structure ListInfo where
  listId : ListId
  lastUpdated : Option Instant
  owner : Option String
  readOnly : Bool
  version : Option String
  referenceCount : UInt32
  references : List Reference
  activated : Bool
  infoTag : Option String
deriving DecidableEq, Repr

namespace ListInfo

/-- The members of a record. -/
def members : Members ListInfo ListInfo :=
  ListInfo.mk <$> .required "listId" ListInfo.listId
    <*> .optional "lastUpdated" ListInfo.lastUpdated
    <*> .optional "owner" ListInfo.owner
    <*> .defaulted "readOnly" false ListInfo.readOnly
    <*> .optional "version" ListInfo.version
    <*> .defaulted "referenceCount" 0 ListInfo.referenceCount
    <*> .defaulted "references" [] ListInfo.references
    <*> .defaulted "isActivatedByVsmart" false ListInfo.activated
    <*> .optional "infoTag" ListInfo.infoTag

instance : Coded ListInfo := members.coded "PolicyListInfo"

end ListInfo

/-- A list and the controller's record of it. -/
structure ListRecord (k : ListKind) where
  list : PolicyList k
  info : ListInfo

namespace ListRecord

instance (k : ListKind) : Coded (ListRecord k) :=
  Members.codedShared (pure ())
    ((PolicyList.members k).within ListRecord.list)
    (ListInfo.members.within ListRecord.info)
    (fun _ list info => ⟨list, info⟩) "PolicyListInfoRecord"

end ListRecord

/-- A list that takes the place of an old one. -/
structure ListEdit (k : ListKind) where
  list : PolicyList k
  listId : ListId

namespace ListEdit

instance (k : ListKind) : Coded (ListEdit k) :=
  Members.codedShared (.required "listId" ListEdit.listId)
    ((PolicyList.members k).within ListEdit.list)
    (pure ())
    (fun listId list _ => ⟨list, listId⟩) "PolicyListEditPayload"

end ListEdit

/-- The answer to a new list. -/
structure ListCreated where
  listId : ListId
deriving DecidableEq, Repr

instance : Coded ListCreated :=
  (ListCreated.mk <$> .required "listId" ListCreated.listId : Members _ _).coded "PolicyListId"

/-- What a list would look like on a device. -/
structure Preview where
  preview : String
deriving DecidableEq, Repr

/-- The members of a preview. -/
def Preview.members : Members Preview Preview :=
  Preview.mk <$> .required "preview" Preview.preview

/-- The preview of a list. -/
structure ListPreview where
  preview : Preview
deriving DecidableEq, Repr

instance : Coded ListPreview :=
  ((ListPreview.mk <$> Preview.members).within ListPreview.preview : Members _ _).coded
    "PolicyListPreview"

/-- A mark by which objects are found again. -/
structure InfoTag where
  tag : String
deriving DecidableEq, Repr

instance : Coded InfoTag :=
  (InfoTag.mk <$> .required "infoTag" InfoTag.tag : Members _ _).coded "InfoTag"

/-- The query for a mark. -/
def InfoTag.query (t : InfoTag) : List (String × String) := [("infoTag", t.tag)]

end Sdwan.Policy
