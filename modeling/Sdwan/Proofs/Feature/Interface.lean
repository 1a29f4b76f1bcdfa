/-
The definition of an interface template holds all its settings.

The types of the settings are scalars, lists of scalars and lists of records.
Every record begins with a member that has to be there, so all settings are
keyed, and with this tabular; the table of places separates their names. The
rest is true of every template like that.
-/
import Sdwan.Feature.Interface.Basic
import Sdwan.Proofs.Feature.Keyed
import Sdwan.Proofs.Feature.Lossless
import Sdwan.Proofs.Json.Members

namespace Sdwan.Feature

open Json

-- ============================================== scalar types

instance : Writes Scalar String := ⟨.text⟩
instance : Writes Scalar Bool := ⟨.flag⟩
instance : Writes Scalar UInt8 := ⟨fun _ => .number _⟩
instance : Writes Scalar UInt16 := ⟨fun _ => .number _⟩
instance : Writes Scalar UInt32 := ⟨fun _ => .number _⟩

/-- What is written by name is a scalar. -/
instance {α : Type} (variants : List (String × α)) (name : α → String) :
    @Writes Scalar α (codedByName variants name) :=
  @Writes.mk Scalar α (codedByName variants name) fun a => .text (name a)

/-- What is written as text is a scalar. -/
instance {α : Type} (expected : String) (print : α → String) (parse : String → Option α) :
    @Writes Scalar α (codedByText expected print parse) :=
  @Writes.mk Scalar α (codedByText expected print parse) fun a => .text (print a)

-- ============================================== keyed types

/-- An object that can be an entry of a tree with this key. -/
def IsRow (key : String) (v : Json) : Prop :=
  ∃ r, v = .object r ∧ (keys r).head? = some key ∧ (keys r).Nodup ∧ orderMember ∉ keys r
    ∧ ∀ m ∈ r, Keyed m.2

/-- Records that can be the entries of a tree. -/
class IsRecord (α : Type) [Coded α] : Prop where
  isRow : ∃ key, ∀ a : α, IsRow key (encode a)

/-- Records of keyed members whose first one is always there, and that have
room for the list of their names. -/
theorem isRecord_coded {σ : Type} (m : Members σ σ) (name : String) {key : String} [m.Begins key]
    [m.Orderly] [m.AllOf Keyed] (hnd : m.names.Nodup) (horder : orderMember ∉ m.names) :
    @IsRecord σ (m.coded name) :=
  @IsRecord.mk σ (m.coded name) ⟨key, fun s => ⟨m.write s, rfl, Members.Begins.head_write s,
    m.nodup_write hnd s, m.notMem_write horder s, Members.AllOf.form s⟩⟩

section Types

variable {α : Type} [Coded α]

instance [Writes Scalar α] : Writes Keyed α := ⟨fun a => .scalar (Writes.form a)⟩

instance [Writes Scalar α] : Writes Keyed (List α) where
  form as := by
    refine .list fun x hx => ?_
    obtain ⟨a, -, rfl⟩ := List.mem_map.mp hx
    exact Writes.form a

/-- A list of rows is the list of their objects. -/
theorem exists_rows {key : String} (h : ∀ a : α, IsRow key (encode a)) (as : List α) :
    ∃ rows : List Node, as.map encode = rows.map .object ∧ ∀ r ∈ rows,
      (keys r).head? = some key ∧ (keys r).Nodup ∧ orderMember ∉ keys r ∧ ∀ m ∈ r, Keyed m.2 := by
  induction as with
  | nil => exact ⟨[], rfl, List.forall_mem_nil _⟩
  | cons a as ih =>
      obtain ⟨rows, heq, hrows⟩ := ih
      obtain ⟨r, hr, hrow⟩ := h a
      exact ⟨r :: rows, by rw [List.map_cons, List.map_cons, heq, hr],
        List.forall_mem_cons.mpr ⟨hrow, hrows⟩⟩

instance [IsRecord α] : Writes Keyed (List α) where
  form as := by
    obtain ⟨key, hrow⟩ := @IsRecord.isRow α _ _
    obtain ⟨rows, heq, hrows⟩ := exists_rows hrow as
    show Keyed (.array (as.map encode))
    cases as with
    | nil => exact .list (List.forall_mem_nil _)
    | cons a as =>
        rw [heq]
        refine .table ?_ (fun r hr => (hrows r hr).1) (fun r hr => (hrows r hr).2.1)
          (fun r hr => (hrows r hr).2.2.1) fun r hr => (hrows r hr).2.2.2
        rintro rfl
        cases heq

instance [Writes Keyed α] : Writes KeyedIfSet α := ⟨fun a _ => Writes.form a⟩

instance [Writes Keyed α] : Writes KeyedIfSet (Option α) where
  form
    | none => fun h => by cases h
    | some a => fun _ => Writes.form a

end Types

namespace Interface

-- ============================================== records

instance : IsRecord SecondaryIpv4 := isRecord_coded _ _ (by decide) (by decide)
instance : IsRecord SecondaryIpv6 := isRecord_coded _ _ (by decide) (by decide)
instance : IsRecord DhcpHelperV6 := isRecord_coded _ _ (by decide) (by decide)
instance : IsRecord ArpEntry := isRecord_coded _ _ (by decide) (by decide)
instance : IsRecord AccessList := isRecord_coded _ _ (by decide) (by decide)
instance : IsRecord StaticNat66 := isRecord_coded _ _ (by decide) (by decide)
instance : IsRecord StaticNat := isRecord_coded _ _ (by decide) (by decide)
instance : IsRecord StaticPortForward := isRecord_coded _ _ (by decide) (by decide)
instance : IsRecord Encapsulation := isRecord_coded _ _ (by decide) (by decide)
instance : IsRecord GroupAddress := isRecord_coded _ _ (by decide) (by decide)
instance : IsRecord TrackingObject := isRecord_coded _ _ (by decide) (by decide)
instance : IsRecord Vrrp := isRecord_coded _ _ (by decide) (by decide)
instance : IsRecord Ipv6VrrpAddress := isRecord_coded _ _ (by decide) (by decide)
instance : IsRecord Ipv6Vrrp := isRecord_coded _ _ (by decide) (by decide)

-- ============================================== settings

instance : Addressing.members.AllOf KeyedIfSet := by unfold Addressing.members; infer_instance
instance : NatSettings.members.AllOf KeyedIfSet := by unfold NatSettings.members; infer_instance
set_option synthInstance.maxSize 1000 in
instance : Tunnel.members.AllOf KeyedIfSet := by unfold Tunnel.members; infer_instance
instance : Services.members.AllOf KeyedIfSet := by unfold Services.members; infer_instance
instance : Link.members.AllOf KeyedIfSet := by unfold Link.members; infer_instance
instance : Shaping.members.AllOf KeyedIfSet := by unfold Shaping.members; infer_instance
instance : Neighbourhood.members.AllOf KeyedIfSet := by unfold Neighbourhood.members; infer_instance
instance : TrustSec.members.AllOf KeyedIfSet := by unfold TrustSec.members; infer_instance
instance : members.AllOf KeyedIfSet := by unfold members; infer_instance

instance : Addressing.members.Complete := by unfold Addressing.members; infer_instance
instance : NatSettings.members.Complete := by unfold NatSettings.members; infer_instance
instance : Tunnel.members.Complete := by unfold Tunnel.members; infer_instance
instance : Services.members.Complete := by unfold Services.members; infer_instance
instance : Link.members.Complete := by unfold Link.members; infer_instance
instance : Shaping.members.Complete := by unfold Shaping.members; infer_instance
instance : Neighbourhood.members.Complete := by unfold Neighbourhood.members; infer_instance
instance : TrustSec.members.Complete := by unfold TrustSec.members; infer_instance
instance : members.Complete := by unfold members; infer_instance

/-- The table of places separates the settings. -/
theorem separates_places : Separates places members.names :=
  ⟨by decide +kernel, by decide +kernel⟩

theorem keyed_of_mem_write {i : Interface} {f : String × Json} (hf : f ∈ members.write i)
    (hs : isUnset f.2 = false) : Keyed f.2 :=
  Members.AllOf.form (P := KeyedIfSet) i f hf hs

/-- The settings can be read back from a definition. -/
theorem legible (i : Interface) : Legible places (members.write i) where
  separates := by
    rw [Members.Complete.keys_write (m := members) i]
    exact separates_places
  settable f hf hs := (keyed_of_mem_write hf hs).tabular

-- ============================================== definitions

/-- The definition of the template, which always exists. -/
theorem template_definition (i : Interface) :
    i.template.definition = .ok (.object (definition places (members.write i))) := rfl

/-- The definition of an interface template loses nothing.

Every setting is found at its place, with all members of its node. An
object of the definition that has a member of descriptors stands at the
place of exactly one setting, and its descriptor is the node of this
setting. And equal definitions come from equal settings. -/
theorem definition_lossless (i : Interface) :
    ∃ root, i.template.definition = .ok (.object root)
      ∧ (∀ f ∈ members.write i, isUnset f.2 = false →
          ∃ ms, walk root (placeOf places f.1).location = some ms
            ∧ ∀ m ∈ node f.2, ms.lookup m.1 = some m.2)
      ∧ (∀ path ms, walk root path = some ms → ∀ x ∈ descriptorNames, x ∈ keys ms →
          ∃! f, f ∈ members.write i ∧ isUnset f.2 = false
            ∧ (placeOf places f.1).location = path
            ∧ ∀ y ∈ descriptorNames, ms.lookup y = (node f.2).lookup y)
      ∧ ∀ (j : Interface) (root' : Node), j.template.definition = .ok (.object root') →
          Same (.object root) (.object root') → encode i = encode j := by
  refine ⟨_, template_definition i, fun f hf hs => ?_, fun path ms hwalk x hx hmem => ?_,
    fun j root' hj hsame => ?_⟩
  · exact i.legible.walk_definition hf hs
  · exact i.legible.existsUnique_of_walk hwalk hx hmem
  · have hroot : definition places (members.write j) = root' :=
      Json.object.inj (Except.ok.inj ((template_definition j).symm.trans hj))
    subst hroot
    have hkeys : keys (members.write i) = keys (members.write j) := by
      rw [Members.Complete.keys_write (m := members) i, Members.Complete.keys_write (m := members) j]
    exact congrArg Json.object (definition_injective i.legible j.legible hkeys hsame)

end Interface

end Sdwan.Feature
