/-
The JSON forms of interface templates, and of the payloads that a controller
stores of them, are faithful.

Choices are written by name, records and settings member by member, so most
is found from the descriptions. For two types there is a proviso. The header
of a template is not in its JSON form, so what is read is the template
without one (`Interface.withoutHeader`). And the definition in a payload may
be any value: it is read as it is when no object in it repeats a name
(`Json.Proper`).
-/
import Sdwan.Proofs.Feature.Interface
import Sdwan.Proofs.Json.Faithful
import Sdwan.Proofs.Net.Coded

namespace Sdwan

open Json Members

-- ============================================== small types

instance : Faithful TextBool := faithful_byName fun b => by
  obtain ⟨value⟩ := b
  cases value <;> rfl

instance : Faithful DeviceModel := ⟨fun _ _ => rfl⟩

namespace Feature

namespace Interface

instance : Faithful NatChoice := faithful_byName fun c => by cases c <;> rfl
instance : Faithful NatDirection := faithful_byName fun d => by cases d <;> rfl
instance : Faithful Transport := faithful_byName fun t => by cases t <;> rfl
instance : Faithful CoreRegion := faithful_byName fun r => by cases r <;> rfl
instance : Faithful SecondaryRegion := faithful_byName fun r => by cases r <;> rfl
instance : Faithful Encap := faithful_byName fun e => by cases e <;> rfl
instance : Faithful TunnelMode := faithful_byName fun m => by cases m <;> rfl
instance : Faithful Color := faithful_byName fun c => by cases c <;> rfl
instance : Faithful Carrier := faithful_byName fun c => by cases c <;> rfl
instance : Faithful MediaType := faithful_byName fun t => by cases t <;> rfl
instance : Faithful Speed := faithful_byName fun s => by cases s <;> rfl
instance : Faithful Duplex := faithful_byName fun d => by cases d <;> rfl
instance : Faithful Direction := faithful_byName fun d => by cases d <;> rfl
instance : Faithful TrackAction := faithful_byName fun a => by cases a <;> rfl

-- ============================================== records

section Records

-- Settings have more members than the bound on instances allows for.
set_option synthInstance.maxSize 2000

instance : Faithful SecondaryIpv4 := faithful_record (fun _ => rfl) (by decide) _
instance : Faithful SecondaryIpv6 := faithful_record (fun _ => rfl) (by decide) _
instance : Faithful DhcpHelperV6 := faithful_record (fun _ => rfl) (by decide) _
instance : Faithful ArpEntry := faithful_record (fun _ => rfl) (by decide) _
instance : Faithful AccessList := faithful_record (fun _ => rfl) (by decide) _
instance : Faithful StaticNat66 := faithful_record (fun _ => rfl) (by decide) _
instance : Faithful StaticNat := faithful_record (fun _ => rfl) (by decide) _
instance : Faithful StaticPortForward := faithful_record (fun _ => rfl) (by decide) _
instance : Faithful Encapsulation := faithful_record (fun _ => rfl) (by decide) _
instance : Faithful GroupAddress := faithful_record (fun _ => rfl) (by decide) _
instance : Faithful TrackingObject := faithful_record (fun _ => rfl) (by decide) _
instance : Faithful Vrrp := faithful_record (fun _ => rfl) (by decide) _
instance : Faithful Ipv6VrrpAddress := faithful_record (fun _ => rfl) (by decide) _
instance : Faithful Ipv6Vrrp := faithful_record (fun _ => rfl) (by decide) _

instance : Addressing.members.Restores fun s => s := by unfold Addressing.members; infer_instance
instance : NatSettings.members.Restores fun s => s := by unfold NatSettings.members; infer_instance
instance : Tunnel.members.Restores fun s => s := by unfold Tunnel.members; infer_instance
instance : Services.members.Restores fun s => s := by unfold Services.members; infer_instance
instance : Link.members.Restores fun s => s := by unfold Link.members; infer_instance
instance : Shaping.members.Restores fun s => s := by unfold Shaping.members; infer_instance
instance : Neighbourhood.members.Restores fun s => s := by
  unfold Neighbourhood.members
  infer_instance
instance : TrustSec.members.Restores fun s => s := by unfold TrustSec.members; infer_instance

-- ============================================== interfaces

/-- The same settings in a template without a header. -/
def withoutHeader (i : Interface) : Interface :=
  { i with templateName := "", templateDescription := "", devices := [] }

instance : members.Restores withoutHeader := by
  have : members.Restores fun i =>
      { i with templateName := "", templateDescription := "", devices := [] } := by
    unfold members
    infer_instance
  exact this

end Records

/-- The settings of a template are read back, and its header is not. -/
theorem decode_encode_interface (i : Interface) :
    (decode (encode i) : Decoded Interface) = .ok i.withoutHeader :=
  -- Settings of different places have different names.
  have hnames : members.names.Nodup := .of_map _ separates_places.nodup
  read_encode_coded hnames _ .value i

end Interface

-- ============================================== payloads

namespace Payload

/-- The payloads in whose definition no object repeats a name. -/
abbrev Distinct := { p : Payload // p.definition.Proper }

instance : Restores (required "templateDefinition" fun p : Distinct => p.1.definition)
    fun p => p.1.definition :=
  restores_member (fun p _ hv o => Option.some.inj hv ▸ readJson_proper p.2 o) fun _ h => nomatch h

instance : (members.within fun p : Distinct => p.1).Restores fun p => p.1 := by
  have : (Payload.mk <$> required "templateName" (fun p : Distinct => p.1.name)
      <*> required "templateDescription" (fun p => p.1.description)
      <*> required "templateType" (fun p => p.1.kind)
      <*> required "deviceType" (fun p => p.1.devices)
      <*> required "templateMinVersion" (fun p => p.1.minVersion)
      <*> required "templateDefinition" (fun p => p.1.definition)
      <*> defaulted "factoryDefault" false (fun p => p.1.factoryDefault)).Restores
        fun p => p.1 := inferInstance
  exact this

instance : members.Orderly := by
  unfold members
  infer_instance

/-- A payload whose definition is proper is read back. -/
theorem decode_encode_payload {p : Payload} (h : p.definition.Proper) :
    decode (encode p) = .ok p :=
  have hnames : members.names.Nodup := by decide
  readMembers_of_agree (m := members.within fun p : Distinct => p.1) hnames .value
    (members.nodup_write hnames p) ⟨p, h⟩ fun _ _ => rfl

end Payload

end Feature

end Sdwan
