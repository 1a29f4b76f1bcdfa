/-
The JSON forms of the policy models are faithful: lists of every kind, rule
sets and tenants, and what is sent or answered about them.

Most of it is found from the descriptions of the records; what is left for
each record is that its members have different names. A list and a rule set
write a tag that says nothing but their kind, so a list is refused where one
of another kind is read (`decode_otherKind`). An edit shares its object
between the identifier and what it puts in place, which works because no
list has a member of the identifier's name; so does a record between the
list and what the controller keeps about it.
-/
import Sdwan.Policy.Definition
import Sdwan.Proofs.Json.Faithful
import Sdwan.Proofs.Net.Coded
import Sdwan.Tenant.Basic

namespace Sdwan

open Json Members

-- ============================================== small types

instance : Faithful InterfaceType := faithful_byName fun t => by cases t <;> rfl

namespace Policy

instance : Faithful ExceedAction := faithful_byName fun a => by cases a <;> rfl
instance : Faithful Encap := faithful_byName fun e => by cases e <;> rfl
instance : Faithful PathPreference := faithful_byName fun p => by cases p <;> rfl
instance : Faithful Family := faithful_byName fun f => by cases f <;> rfl
instance : Faithful RuleAction := faithful_byName fun a => by cases a; rfl

end Policy

-- ============================================== identifiers

/-- An identifier is written as the UUID that it is. -/
theorem read_map_uuid {α : Type} {mk : Net.Uuid → α} {uuid : α → Net.Uuid}
    (h : ∀ i, mk (uuid i) = i) (o : Origin) (i : α) :
    (Coded.read o (Draft.ofJson (encode (uuid i)))).map mk = .ok i := by
  rw [Faithful.read_encode]
  exact congrArg Except.ok (h i)

instance : Faithful ListId := ⟨read_map_uuid fun _ => rfl⟩
instance : Faithful DefinitionId := ⟨read_map_uuid fun _ => rfl⟩
instance : Faithful TemplateId := ⟨read_map_uuid fun _ => rfl⟩

instance : Writes IsSet ListId := ⟨fun _ => nofun⟩

namespace Policy

-- ============================================== parts of entries

instance : ColorDscp.members.Describes := by
  unfold ColorDscp.members
  constructor <;> infer_instance
instance : Faithful ColorDscp := faithful_coded (by decide) _

instance : ColorPreference.members.Describes := by
  unfold ColorPreference.members
  constructor <;> infer_instance
instance : Faithful ColorPreference := faithful_coded (by decide) _

instance : FallbackTunnel.members.Describes := by
  unfold FallbackTunnel.members
  constructor <;> infer_instance
instance : Faithful FallbackTunnel := faithful_coded (by decide) _

-- ============================================== entries

instance : AppEntry.members.Describes := by
  unfold AppEntry.members
  constructor <;> infer_instance
instance : Faithful AppEntry := faithful_coded (by decide) _

instance : LocalAppEntry.members.Describes := by
  unfold LocalAppEntry.members
  constructor <;> infer_instance
instance : Faithful LocalAppEntry := faithful_coded (by decide) _

instance : AppProbeClassEntry.members.Describes := by
  unfold AppProbeClassEntry.members
  constructor <;> infer_instance
instance : Faithful AppProbeClassEntry := faithful_coded (by decide) _

instance : PrefixEntry.members.Describes := by
  unfold PrefixEntry.members
  constructor <;> infer_instance
instance : Faithful PrefixEntry := faithful_coded (by decide) _

instance : Ipv6PrefixEntry.members.Describes := by
  unfold Ipv6PrefixEntry.members
  constructor <;> infer_instance
instance : Faithful Ipv6PrefixEntry := faithful_coded (by decide) _

instance : GeoLocationEntry.members.Describes := by
  unfold GeoLocationEntry.members
  constructor <;> infer_instance
instance : Faithful GeoLocationEntry := faithful_coded (by decide) _

instance : IpsSignatureEntry.members.Describes := by
  unfold IpsSignatureEntry.members
  constructor <;> infer_instance
instance : Faithful IpsSignatureEntry := faithful_coded (by decide) _

instance : MirrorEntry.members.Describes := by
  unfold MirrorEntry.members
  constructor <;> infer_instance
instance : Faithful MirrorEntry := faithful_coded (by decide) _

instance : PolicerEntry.members.Describes := by
  unfold PolicerEntry.members
  constructor <;> infer_instance
instance : Faithful PolicerEntry := faithful_coded (by decide) _

instance : ColorGroupEntry.members.Describes := by
  unfold ColorGroupEntry.members
  constructor <;> infer_instance
instance : Faithful ColorGroupEntry := faithful_coded (by decide) _

instance : SlaClassEntry.members.Describes := by
  unfold SlaClassEntry.members
  constructor <;> infer_instance
instance : Faithful SlaClassEntry := faithful_coded (by decide) _

instance : TlocEntry.members.Describes := by
  unfold TlocEntry.members
  constructor <;> infer_instance
instance : Faithful TlocEntry := faithful_coded (by decide) _

instance : ZoneEntry.members.Describes := by
  unfold ZoneEntry.members
  constructor <;> infer_instance
instance : Faithful ZoneEntry := faithful_coded (by decide) _

instance : Faithful AsPathEntry := faithful_record (fun _ => rfl) (by decide) _
instance : Faithful ClassMapEntry := faithful_record (fun _ => rfl) (by decide) _
instance : Faithful ColorEntry := faithful_record (fun _ => rfl) (by decide) _
instance : Faithful CommunityEntry := faithful_record (fun _ => rfl) (by decide) _
instance : Faithful DataIpv6PrefixEntry := faithful_record (fun _ => rfl) (by decide) _
instance : Faithful DataPrefixEntry := faithful_record (fun _ => rfl) (by decide) _
instance : Faithful FqdnEntry := faithful_record (fun _ => rfl) (by decide) _
instance : Faithful LocalDomainEntry := faithful_record (fun _ => rfl) (by decide) _
instance : Faithful PortEntry := faithful_record (fun _ => rfl) (by decide) _
instance : Faithful ProtocolNameEntry := faithful_record (fun _ => rfl) (by decide) _
instance : Faithful SiteEntry := faithful_record (fun _ => rfl) (by decide) _
instance : Faithful UrlEntry := faithful_record (fun _ => rfl) (by decide) _
instance : Faithful VpnEntry := faithful_record (fun _ => rfl) (by decide) _

/-- The entries of lists of every kind are faithful. -/
instance (k : ListKind) : Faithful k.Entry := by
  cases k <;> infer_instance

-- ============================================== lists

namespace ListKind

/-- A tag says which kind it is of. -/
theorem ofTag?_tag (k : ListKind) : ofTag? k.tag = some k := by cases k <;> rfl

/-- Two kinds have different tags. -/
theorem tag_injective : Function.Injective tag := fun k k' h =>
  Option.some.inj ((ofTag?_tag k).symm.trans ((congrArg ofTag? h).trans (ofTag?_tag k')))

end ListKind

section Lists

variable (k : ListKind)

instance : Faithful (PolicyList.Tag k) := faithful_byName fun _ => by
  rw [List.lookup_cons_self]

instance : (PolicyList.members k).Orderly := by
  unfold PolicyList.members
  infer_instance

instance : (PolicyList.members k).Restores fun l => l := by
  unfold PolicyList.members
  infer_instance

/-- The members of a list, which are the same for every kind. -/
theorem names_list : (PolicyList.members k).names = ["name", "description", "type", "entries"] := rfl

instance : Faithful (PolicyList k) :=
  have : (PolicyList.members k).Describes := ⟨inferInstance, inferInstance⟩
  faithful_coded (names_list k ▸ by decide) _

/-- No list has a member of the identifier's name. -/
theorem nodup_edit : ((PolicyList.members k).within ListEdit.list).names
    ++ (pure () : Members (ListEdit k) Unit).names
    ++ (required "listId" (ListEdit.listId (k := k))).names |>.Nodup := by
  show (["name", "description", "type", "entries"] ++ [] ++ ["listId"]).Nodup
  decide

instance : Faithful (ListEdit k) :=
  faithful_codedShared (nodup_edit k) (fun listId list _ => ⟨list, listId⟩) (fun _ => rfl) _

/-- The tag of a list of another kind is refused. -/
theorem decode_otherKind {k' : ListKind} (h : k' ≠ k) (l : PolicyList k) :
    (decode (encode l) : Decoded (PolicyList k')) = .error (.unknownVariant k.tag [k'.tag]) := by
  have htag : (k.tag == k'.tag) = false :=
    beq_eq_false_iff_ne.mpr fun heq => h (ListKind.tag_injective heq).symm
  -- The members before the tag are read first, and both are good.
  show (pickVariant [(k'.tag, (PolicyList.Tag.mk : PolicyList.Tag k'))] k.tag).map
    (fun _ => ()) >>= _ >>= _ = _
  rw [pickVariant, List.lookup_cons, htag]
  rfl

end Lists

-- ============================================== records of lists

instance : Reference.members.Describes := by
  unfold Reference.members
  constructor <;> infer_instance
instance : Faithful Reference := faithful_coded (by decide) _

instance : ListInfo.members.Orderly := by
  unfold ListInfo.members
  infer_instance

set_option synthInstance.maxSize 1000 in
instance : ListInfo.members.Restores fun i => i := by
  unfold ListInfo.members
  infer_instance

instance : Faithful ListInfo := faithful_record (fun _ => rfl) (by decide) _

/-- A list and its record have no member in common. -/
theorem nodup_record (k : ListKind) : ((PolicyList.members k).within ListRecord.list).names
    ++ (ListInfo.members.within (ListRecord.info (k := k))).names
    ++ (pure () : Members (ListRecord k) Unit).names |>.Nodup := by
  show (["name", "description", "type", "entries"] ++ ListInfo.members.names ++ []).Nodup
  decide

instance (k : ListKind) : Faithful (ListRecord k) :=
  faithful_codedShared (nodup_record k) (fun _ list info => ⟨list, info⟩) (fun _ => rfl) _

-- ============================================== rule sets

set_option synthInstance.maxSize 1000 in
instance : Rule.members.Describes := by
  unfold Rule.members
  constructor <;> infer_instance
instance : Faithful Rule := faithful_coded (by decide) _

instance : Faithful RuleSetDefinition := faithful_record (fun _ => rfl) (by decide) _

instance : Faithful RuleSet.Tag := faithful_byName fun _ => rfl

instance : RuleSet.members.Orderly := by
  unfold RuleSet.members
  infer_instance

instance : RuleSet.members.Restores fun s => s := by
  unfold RuleSet.members
  infer_instance

instance : Faithful RuleSet :=
  have : RuleSet.members.Describes := ⟨inferInstance, inferInstance⟩
  faithful_coded (by decide) _

/-- No rule set has a member of the identifier's name. -/
theorem nodup_definitionEdit : (RuleSet.members.within DefinitionEdit.definition).names
    ++ (pure () : Members DefinitionEdit Unit).names
    ++ (required "definitionId" DefinitionEdit.definitionId).names |>.Nodup := by
  decide

instance : Faithful DefinitionEdit :=
  faithful_codedShared nodup_definitionEdit
    (fun definitionId definition _ => ⟨definition, definitionId⟩) (fun _ => rfl) _

instance : DefinitionInfo.members.Orderly := by
  unfold DefinitionInfo.members
  infer_instance

set_option synthInstance.maxSize 1000 in
instance : DefinitionInfo.members.Restores fun i => i := by
  unfold DefinitionInfo.members
  infer_instance

instance : Faithful DefinitionInfo := faithful_record (fun _ => rfl) (by decide) _

/-- A rule set and its record have no member in common. -/
theorem nodup_definitionRecord : (RuleSet.members.within DefinitionRecord.definition).names
    ++ (DefinitionInfo.members.within DefinitionRecord.info).names
    ++ (pure () : Members DefinitionRecord Unit).names |>.Nodup := by
  decide

instance : Faithful DefinitionRecord :=
  faithful_codedShared nodup_definitionRecord (fun _ definition info => ⟨definition, info⟩)
    (fun _ => rfl) _

end Policy

-- ============================================== tenants

set_option synthInstance.maxSize 1000 in
instance : Tenant.members.Describes := by
  unfold Tenant.members
  constructor <;> infer_instance
instance : Faithful Tenant := faithful_coded (by decide) _

end Sdwan
