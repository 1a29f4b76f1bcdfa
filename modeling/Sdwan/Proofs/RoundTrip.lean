/-
Decoding undoes encoding, for every model that is sent or stored.

The provisos are in the types: a point in time is a number of milliseconds
(`Instant`), and a device model is its identifier (`DeviceModel`). What is
left of them stands in the statement. An interface template comes back
without its header, which is not in its JSON form, and the definition in a
payload must not repeat a name in one of its objects. A list says its kind,
so it comes back only where a list of this kind is read.
-/
import Sdwan.Proofs.Feature.Faithful
import Sdwan.Proofs.Models

namespace Sdwan

open Json Policy Feature

/-- What is encoded decodes to the value that it was encoded from: lists of
every kind, rule sets, what is sent to change them and what is answered
about them, tenants, interface templates and the payloads of templates. A
list of one kind is refused where one of another kind is read. -/
theorem decode_encode_models :
    (∀ k : ListKind,
      (∀ l : PolicyList k, decode (encode l) = .ok l)
        ∧ (∀ e : ListEdit k, decode (encode e) = .ok e)
        ∧ (∀ r : ListRecord k, decode (encode r) = .ok r)
        ∧ ∀ (l : PolicyList k) (k' : ListKind), k' ≠ k →
            (decode (encode l) : Decoded (PolicyList k'))
              = .error (.unknownVariant k.tag [k'.tag]))
      ∧ (∀ s : RuleSet, decode (encode s) = .ok s)
      ∧ (∀ e : DefinitionEdit, decode (encode e) = .ok e)
      ∧ (∀ r : DefinitionRecord, decode (encode r) = .ok r)
      ∧ (∀ t : Tenant, decode (encode t) = .ok t)
      ∧ (∀ i : Interface, decode (encode i) = .ok i.withoutHeader)
      ∧ ∀ p : Payload, p.definition.Proper → decode (encode p) = .ok p := by
  refine ⟨fun k => ⟨decode_encode, decode_encode, decode_encode, ?_⟩, decode_encode,
    decode_encode, decode_encode, decode_encode, Interface.decode_encode_interface, ?_⟩
  · intro l k' hk
    exact decode_otherKind k hk l
  · intro p hp
    exact Payload.decode_encode_payload hp

/-- The payload of a template for two device models, one of which is not
known. -/
def Feature.Payload.sample : Payload where
  name := "wan"
  description := "uplink"
  kind := "cisco_vpn_interface"
  devices := [⟨"vedge-C8000V"⟩, ⟨"vedge-of-tomorrow"⟩]
  minVersion := "15.0.0"
  definition := .object [("mtu", .object [("vipType", .string "constant"), ("vipValue", .nat 1500)])]
  factoryDefault := false

/-- The payload comes back, and a list of sites is not one of VPNs. -/
theorem decode_encode_models_sample :
    Payload.sample.definition.Proper
      ∧ decode (encode Payload.sample) = .ok Payload.sample
      ∧ ListKind.vpn ≠ ListKind.site
      ∧ (decode (encode (PolicyList.new .site "branches")) : Decoded (PolicyList .vpn))
        = .error (.unknownVariant "site" ["vpn"]) := by
  have hproper : Payload.sample.definition.Proper := by
    refine .object (by decide) ?_
    simp only [List.forall_mem_cons, List.not_mem_nil, false_implies, implies_true, and_true]
    refine .object (by decide) ?_
    simp only [List.forall_mem_cons, List.not_mem_nil, false_implies, implies_true, and_true]
    exact ⟨.string _, .number _⟩
  have hkinds : ListKind.vpn ≠ ListKind.site := by decide
  obtain ⟨hlists, -, -, -, -, -, hpayload⟩ := decode_encode_models
  exact ⟨hproper, hpayload _ hproper, hkinds, (hlists .site).2.2.2 _ .vpn hkinds⟩

end Sdwan
