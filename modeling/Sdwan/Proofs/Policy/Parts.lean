/-
A list and the controller's record of it share one object, and so do a list
and the identifier of the one it takes the place of. Rule sets are the same.

# Reading

The shared object is read exactly when each side is read from it, and gives
the two (`decode_parts`): no side loses a member to the other, and none is
read by both. The list is read as a part that was set aside (`decodePart`).
That is how it is read by itself, except that an empty object may stand
beside the name of a variant; without such an object there is no difference.

# Writing

The shared object has no member twice.
-/
import Sdwan.Proofs.Json.Passage
import Sdwan.Proofs.Json.Shared
import Sdwan.Proofs.Models

namespace Sdwan

open Json Members

-- ============================================== parts

/-- Reads a value that shares its object with others. -/
def Json.decodePart {α : Type} [Coded α] (j : Json) : Decoded α :=
  Coded.read .buffer (Draft.ofJson j)

variable {p : Passage}

section Types

variable {α : Type} [Coded α] {j : Json} {a : α}

/-- What is read of a value by itself is read of it as a part. -/
theorem decodePart_of_decode [Passes .aside α] (h : decode j = .ok a) : decodePart j = .ok a :=
  Passes.refines (p := .aside) (Draft.ofJson j) trivial a h

/-- What is read of a part is read of it by itself when it is not braced. -/
theorem decode_of_decodePart [Passes .unbraced α] (hj : ¬ j.Braced) (h : decodePart j = .ok a) :
    decode j = .ok a :=
  Passes.refines (p := .unbraced) (Draft.ofJson j) ⟨j, hj, rfl⟩ a h

/-- A type without names of variants is read alike in both ways. -/
theorem decodePart_eq_ok [Passes .aside α] [Passes .back α] :
    decodePart j = .ok a ↔ decode j = .ok a :=
  ⟨fun h => Passes.refines (p := .back) (Draft.ofJson j) trivial a h, decodePart_of_decode⟩

end Types

-- ============================================== lists

instance : Passes p Instant := ⟨fun _ _ => .refl _⟩
instance : Passes p ListId := ⟨fun _ _ => .refl _⟩
instance : Passes p DefinitionId := ⟨fun _ _ => .refl _⟩

namespace Policy

section Entries

variable [PassesUnit p]

instance : ColorDscp.members.Passes p := by unfold ColorDscp.members; infer_instance
instance : ColorPreference.members.Passes p := by unfold ColorPreference.members; infer_instance
instance : FallbackTunnel.members.Passes p := by unfold FallbackTunnel.members; infer_instance
instance : AppEntry.members.Passes p := by unfold AppEntry.members; infer_instance
instance : LocalAppEntry.members.Passes p := by unfold LocalAppEntry.members; infer_instance
instance : AppProbeClassEntry.members.Passes p := by unfold AppProbeClassEntry.members; infer_instance
instance : PrefixEntry.members.Passes p := by unfold PrefixEntry.members; infer_instance
instance : Ipv6PrefixEntry.members.Passes p := by unfold Ipv6PrefixEntry.members; infer_instance
instance : GeoLocationEntry.members.Passes p := by unfold GeoLocationEntry.members; infer_instance
instance : IpsSignatureEntry.members.Passes p := by unfold IpsSignatureEntry.members; infer_instance
instance : MirrorEntry.members.Passes p := by unfold MirrorEntry.members; infer_instance
instance : PolicerEntry.members.Passes p := by unfold PolicerEntry.members; infer_instance
instance : ColorGroupEntry.members.Passes p := by unfold ColorGroupEntry.members; infer_instance
instance : SlaClassEntry.members.Passes p := by unfold SlaClassEntry.members; infer_instance
instance : TlocEntry.members.Passes p := by unfold TlocEntry.members; infer_instance
instance : ZoneEntry.members.Passes p := by unfold ZoneEntry.members; infer_instance

instance (k : ListKind) : Passes p k.Entry := by cases k <;> infer_instance

instance (k : ListKind) : (PolicyList.members k).Passes p := by
  unfold PolicyList.members
  infer_instance

set_option synthInstance.maxSize 1000 in
instance : Rule.members.Passes p := by unfold Rule.members; infer_instance

instance : RuleSet.members.Passes p := by unfold RuleSet.members; infer_instance

end Entries

-- ============================================== records of the controller

instance : Reference.members.Passes p := by unfold Reference.members; infer_instance
instance : ListInfo.members.Passes p := by unfold ListInfo.members; infer_instance
instance : DefinitionInfo.members.Passes p := by unfold DefinitionInfo.members; infer_instance

instance (k : ListKind) : (PolicyList.members k).Local := by
  unfold PolicyList.members
  infer_instance

instance : RuleSet.members.Local := by unfold RuleSet.members; infer_instance
instance : ListInfo.members.Local := by unfold ListInfo.members; infer_instance
instance : DefinitionInfo.members.Local := by unfold DefinitionInfo.members; infer_instance

-- ============================================== shared objects

section Shared

variable (ms : List (String × Json))

/-- A list and its record are both read from the object that they share. -/
theorem decode_listRecord {k : ListKind} (l : PolicyList k) (i : ListInfo) :
    decode (.object ms) = .ok (⟨l, i⟩ : ListRecord k)
      ↔ decodePart (.object ms) = .ok l ∧ decode (.object ms) = .ok i := by
  rw [← decodePart_eq_ok (a := i)]
  exact read_sides_eq_ok _ .value ms (nodup_record k) ListRecord.mk.inj l i

/-- So are a rule set and its record. -/
theorem decode_definitionRecord (s : RuleSet) (i : DefinitionInfo) :
    decode (.object ms) = .ok (⟨s, i⟩ : DefinitionRecord)
      ↔ decodePart (.object ms) = .ok s ∧ decode (.object ms) = .ok i := by
  rw [← decodePart_eq_ok (a := i)]
  exact read_sides_eq_ok _ .value ms nodup_definitionRecord DefinitionRecord.mk.inj s i

/-- A list and the identifier of an old one are both read from the object
that they share. -/
theorem decode_listEdit {k : ListKind} (l : PolicyList k) (id : ListId) :
    decode (.object ms) = .ok (⟨l, id⟩ : ListEdit k)
      ↔ decodePart (.object ms) = .ok l ∧ decode (.object ms) = .ok (⟨id⟩ : ListCreated) := by
  have hid : decode (.object ms) = .ok (⟨id⟩ : ListCreated)
      ↔ (required "listId" (ListEdit.listId (k := k))).readMembers .value (Draft.ofMembers ms) true
        = .ok id :=
    read_map_eq_ok _ .value ms ListCreated.mk.inj id
  rw [hid]
  exact read_extended_eq_ok _ .value ms (nodup_edit k) ListEdit.mk.inj l id

/-- So are a rule set and the identifier of an old one. -/
theorem decode_definitionEdit (s : RuleSet) (id : DefinitionId) :
    decode (.object ms) = .ok (⟨s, id⟩ : DefinitionEdit)
      ↔ decodePart (.object ms) = .ok s ∧ decode (.object ms) = .ok (⟨id⟩ : DefinitionCreated) := by
  have hid : decode (.object ms) = .ok (⟨id⟩ : DefinitionCreated)
      ↔ (required "definitionId" DefinitionEdit.definitionId).readMembers .value
        (Draft.ofMembers ms) true = .ok id :=
    read_map_eq_ok _ .value ms DefinitionCreated.mk.inj id
  rw [hid]
  exact read_extended_eq_ok _ .value ms nodup_definitionEdit DefinitionEdit.mk.inj s id

/-- A shared object is read exactly when both sides are read from it, and is
then made up of the two. The side that is a list or a rule set is read as a
part, which gives what it gives by itself, and no more than that unless the
object is braced. And what is written has no member twice. -/
theorem decode_parts :
    (∀ (k : ListKind) (l : PolicyList k),
      (∀ i : ListInfo, decode (.object ms) = .ok (⟨l, i⟩ : ListRecord k)
          ↔ decodePart (.object ms) = .ok l ∧ decode (.object ms) = .ok i)
        ∧ (∀ id : ListId, decode (.object ms) = .ok (⟨l, id⟩ : ListEdit k)
          ↔ decodePart (.object ms) = .ok l ∧ decode (.object ms) = .ok (⟨id⟩ : ListCreated))
        ∧ (decode (.object ms) = .ok l → decodePart (.object ms) = .ok l)
        ∧ (¬ (object ms).Braced → decodePart (.object ms) = .ok l → decode (.object ms) = .ok l))
      ∧ (∀ s : RuleSet,
        (∀ i : DefinitionInfo, decode (.object ms) = .ok (⟨s, i⟩ : DefinitionRecord)
            ↔ decodePart (.object ms) = .ok s ∧ decode (.object ms) = .ok i)
          ∧ (∀ id : DefinitionId, decode (.object ms) = .ok (⟨s, id⟩ : DefinitionEdit)
            ↔ decodePart (.object ms) = .ok s
              ∧ decode (.object ms) = .ok (⟨id⟩ : DefinitionCreated))
          ∧ (decode (.object ms) = .ok s → decodePart (.object ms) = .ok s)
          ∧ (¬ (object ms).Braced → decodePart (.object ms) = .ok s → decode (.object ms) = .ok s))
      ∧ (∀ (k : ListKind) (r : ListRecord k), ∃ ns, encode r = .object ns ∧ (keys ns).Nodup)
      ∧ (∀ (k : ListKind) (e : ListEdit k), ∃ ns, encode e = .object ns ∧ (keys ns).Nodup)
      ∧ (∀ r : DefinitionRecord, ∃ ns, encode r = .object ns ∧ (keys ns).Nodup)
      ∧ ∀ e : DefinitionEdit, ∃ ns, encode e = .object ns ∧ (keys ns).Nodup := by
  refine ⟨fun k l => ⟨decode_listRecord ms l, decode_listEdit ms l, decodePart_of_decode,
      decode_of_decodePart⟩,
    fun s => ⟨decode_definitionRecord ms s, decode_definitionEdit ms s, decodePart_of_decode,
      decode_of_decodePart⟩,
    fun k r => ⟨_, rfl, nodup_shared (nodup_record k) r⟩,
    fun k e => ⟨_, rfl, nodup_shared (nodup_edit k) e⟩,
    fun r => ⟨_, rfl, nodup_shared nodup_definitionRecord r⟩,
    fun e => ⟨_, rfl, nodup_shared nodup_definitionEdit e⟩⟩

end Shared

/-- The members of a list with one entry, and the identifier of an old one. -/
def plainMembers : List (String × Json) :=
  [("listId", .string "550e8400-e29b-41d4-a716-446655440000"), ("name", .string "x"),
    ("entries", .array [.object [("vpn", .string "512")]])]

theorem not_braced_plainMembers : ¬ (object plainMembers).Braced := by
  rintro (_ | _ | ⟨hf, hbraced⟩)
  simp only [plainMembers, List.mem_cons, List.not_mem_nil, or_false] at hf
  rcases hf with rfl | rfl | rfl
  · cases hbraced
  · cases hbraced
  · obtain _ | ⟨hx, hbraced⟩ | _ := hbraced
    obtain rfl := List.mem_singleton.mp hx
    obtain _ | _ | ⟨hf, hbraced⟩ := hbraced
    obtain rfl := List.mem_singleton.mp hf
    cases hbraced

/-- The list is the same by itself, as a part and in the shared object. -/
theorem decode_parts_plain :
    (decode (.object plainMembers) : Decoded (PolicyList .vpn))
        = .ok ⟨"x", defaultDescription, [⟨"512"⟩]⟩
      ∧ (decodePart (.object plainMembers) : Decoded (PolicyList .vpn))
        = .ok ⟨"x", defaultDescription, [⟨"512"⟩]⟩
      ∧ ¬ (object plainMembers).Braced
      ∧ ∃ id, decode (.object plainMembers)
        = .ok (⟨⟨"x", defaultDescription, [⟨"512"⟩]⟩, id⟩ : ListEdit .vpn) := by
  obtain ⟨-, hedit, hpart, hback⟩ :=
    (decode_parts plainMembers).1 .vpn ⟨"x", defaultDescription, [⟨"512"⟩]⟩
  have hread := hpart rfl
  exact ⟨hback not_braced_plainMembers hread, hread, not_braced_plainMembers, _,
    (hedit _).mpr ⟨hread, rfl⟩⟩

/-- The members of a list whose tag has an empty object beside it, and of a
record. -/
def bracedMembers : List (String × Json) :=
  [("name", .string "x"), ("type", .object [("color", .object [])]),
    ("listId", .string "550e8400-e29b-41d4-a716-446655440000")]

/-- With an empty object beside its tag a list is a part, but is nothing by
itself. -/
theorem decode_braced :
    (∃ r : ListRecord .color, decode (.object bracedMembers) = .ok r)
      ∧ (decode (.object bracedMembers) : Decoded (PolicyList .color))
        = .error (.invalidType .object "unit") :=
  ⟨⟨_, rfl⟩, rfl⟩

end Policy

end Sdwan
