/-
Definitions lose nothing.

A table of placements *separates* a list of names when each has a place of
its own, behind containers only. Fields of these names whose values are
tabular are then found again from their definition: each at its place, with
all members of its node (`walk_definition`), and nothing else is there
(`existsUnique_of_walk`). So equal definitions come from equal fields
(`definition_injective`).
-/
import Mathlib.Data.List.Nodup
import Sdwan.Proofs.Feature.Arrangement

namespace Sdwan.Feature

open Json

variable {table : List Placement}

/-- Each of the names has a place of its own, behind containers only. -/
structure Separates (table : List Placement) (names : List String) : Prop where
  plain : ∀ k ∈ names, Plain (placeOf table k).location
  nodup : (names.map fun k => (placeOf table k).location).Nodup

/-- A value that is tabular, or not set. -/
def Settable (v : Json) : Prop := isUnset v = false → Tabular v

/-- Fields of separate places whose values can be read back. -/
structure Legible (table : List Placement) (fields : List (String × Json)) : Prop where
  separates : Separates table (keys fields)
  settable : ∀ f ∈ fields, Settable f.2

namespace Legible

variable {fields : List (String × Json)}

theorem placed (h : Legible table fields) : ∀ f ∈ fields, Placed table f := fun f hf =>
  { plain := h.separates.plain f.1 (List.mem_map_of_mem hf)
    descriptor := fun hs => (h.settable f hf hs).isDescriptor }

theorem nodup_locations (h : Legible table fields) :
    (fields.map (locationOf table)).Nodup := by
  have := h.separates.nodup
  rwa [keys, List.map_map] at this

theorem nodup_keys (h : Legible table fields) : (keys fields).Nodup :=
  List.Nodup.of_map _ h.separates.nodup

/-- Fields at one place are one field. -/
theorem eq_of_location (h : Legible table fields) {f g : String × Json} (hf : f ∈ fields)
    (hg : g ∈ fields) (heq : locationOf table f = locationOf table g) : f = g :=
  List.inj_on_of_nodup_map h.nodup_locations hf hg heq

-- ============================================== reading a field

/-- The leaves at the place of a field are the members of its node. -/
theorem leaf_eq (h : Legible table fields) {f : String × Json} (hf : f ∈ fields)
    (hs : isUnset f.2 = false) {x : String} (hx : x ∈ descriptorNames) :
    leaf (definition table fields) (locationOf table f) x = (node f.2).lookup x :=
  leaf_definition h.placed h.nodup_locations hf hs hx

/-- The object at the place of a field has every member of its node. -/
theorem walk_definition (h : Legible table fields) {f : String × Json} (hf : f ∈ fields)
    (hs : isUnset f.2 = false) :
    ∃ ms, walk (definition table fields) (locationOf table f) = some ms
      ∧ ∀ m ∈ node f.2, ms.lookup m.1 = some m.2 := by
  have htab : Tabular f.2 := h.settable f hf hs
  have hread : ∀ m ∈ node f.2,
      leaf (definition table fields) (locationOf table f) m.1 = some m.2 := by
    intro m hm
    rw [h.leaf_eq hf hs (htab.isDescriptor.subset _ (List.mem_map_of_mem hm))]
    exact lookup_of_mem htab.isDescriptor.nodup hm
  -- A node is never empty, so there is an object to read in.
  obtain ⟨m, rest, hnode⟩ : ∃ m rest, node f.2 = m :: rest :=
    ⟨_, _, node_eq htab.isRecord_eq⟩
  have hfirst := hread m (by rw [hnode]; exact List.mem_cons_self)
  rw [leaf, Option.bind_eq_some_iff] at hfirst
  obtain ⟨ms, hms, -⟩ := hfirst
  refine ⟨ms, hms, fun m' hm' => ?_⟩
  have hm := hread m' hm'
  rwa [leaf, hms] at hm

/-- An object with a member of descriptors stands at the place of exactly
one field, and it has the members of the node of this field. -/
theorem existsUnique_of_walk (h : Legible table fields) {path : List String} {ms : Node}
    (hwalk : walk (definition table fields) path = some ms) {x : String}
    (hx : x ∈ descriptorNames) (hmem : x ∈ keys ms) :
    ∃! f, f ∈ fields ∧ isUnset f.2 = false ∧ locationOf table f = path
      ∧ ∀ y ∈ descriptorNames, ms.lookup y = (node f.2).lookup y := by
  have hp : Plain path :=
    ((holds_definition h.placed h.nodup_locations).tree.of_walk hwalk).1
  obtain ⟨v, hv⟩ := Option.isSome_iff_exists.mp (isSome_lookup hmem)
  have hleaf : leaf (definition table fields) path x = some v := by
    rw [leaf, hwalk]
    exact hv
  obtain ⟨f, hf, hs, rfl, -⟩ := (leaf_definition_iff h.placed h.nodup_locations hx hp).mp hleaf
  refine ⟨f, ⟨hf, hs, rfl, fun y hy => ?_⟩, ?_⟩
  · rw [← h.leaf_eq hf hs hy, leaf, hwalk]
    rfl
  · rintro g ⟨hg, -, hloc, -⟩
    exact h.eq_of_location hg hf hloc

end Legible

-- ============================================== equal definitions

/-- Equal documents have equal leaves. -/
theorem leaf_same {root root' : Node} (h : Same (.object root) (.object root'))
    {path : List String} {x : String} {v : Json} (hv : leaf root path x = some v) :
    ∃ w, leaf root' path x = some w ∧ Same v w := by
  induction path generalizing root root' with
  | nil => exact h.exists_lookup hv
  | cons name path ih =>
      rw [leaf, walk] at hv
      split at hv
      · next ms hms =>
          obtain ⟨w, hw, hsame⟩ := h.exists_lookup hms
          cases w with
          | object ms' =>
              rw [leaf_cons_object hw]
              exact ih hsame hv
          | _ => cases hsame
      · cases hv

section Injective

variable {fs gs : List (String × Json)}

/-- A field that is set in a definition is set in one that is equal. -/
theorem isUnset_of_same (hf : Legible table fs) (hg : Legible table gs)
    (h : Same (.object (definition table fs)) (.object (definition table gs)))
    {k : String} {v w : Json} (hv : (k, v) ∈ fs) (hw : (k, w) ∈ gs)
    (hs : isUnset v = false) : isUnset w = false := by
  have hx : "vipObjectType" ∈ descriptorNames := by decide
  have hleaf := hf.leaf_eq hv hs hx
  rw [node_eq (hf.settable _ hv hs).isRecord_eq] at hleaf
  obtain ⟨_, hleaf', -⟩ := leaf_same h hleaf
  have hp : Plain (locationOf table (k, w)) := (hg.placed _ hw).plain
  obtain ⟨g, hgm, hgs, hloc, -⟩ := (leaf_definition_iff hg.placed hg.nodup_locations hx hp).mp hleaf'
  have hgw : g = (k, w) := hg.eq_of_location hgm hw hloc
  rwa [hgw] at hgs

/-- Fields that are set in equal definitions have equal nodes. -/
theorem node_same (hf : Legible table fs) (hg : Legible table gs)
    (h : Same (.object (definition table fs)) (.object (definition table gs)))
    {k : String} {v w : Json} (hv : (k, v) ∈ fs) (hw : (k, w) ∈ gs)
    (hs : isUnset v = false) (hs' : isUnset w = false) :
    Same (.object (node v)) (.object (node w)) := by
  have hd := (hf.settable _ hv hs).isDescriptor
  have hd' := (hg.settable _ hw hs').isDescriptor
  have hleaf : ∀ {x}, x ∈ descriptorNames →
      leaf (definition table fs) (locationOf table (k, v)) x = (node v).lookup x :=
    fun hx => hf.leaf_eq hv hs hx
  have hleaf' : ∀ {x}, x ∈ descriptorNames →
      leaf (definition table gs) (locationOf table (k, v)) x = (node w).lookup x :=
    fun hx => hg.leaf_eq hw hs' hx
  refine .object (fun x => ?_) fun x a b ha hb => ?_
  · by_cases hx : x ∈ descriptorNames
    · rw [← hleaf hx, ← hleaf' hx, Bool.eq_iff_iff, Option.isSome_iff_exists,
        Option.isSome_iff_exists]
      constructor
      · rintro ⟨a, ha⟩
        obtain ⟨b, hb, -⟩ := leaf_same h ha
        exact ⟨b, hb⟩
      · rintro ⟨b, hb⟩
        obtain ⟨a, ha, -⟩ := leaf_same h.symm hb
        exact ⟨a, ha⟩
    · rw [Json.lookup_eq_none (hd.notMem hx), Json.lookup_eq_none (hd'.notMem hx)]
  · have hx : x ∈ descriptorNames := hd.subset x (mem_keys_of_lookup ha)
    rw [← hleaf hx] at ha
    rw [← hleaf' hx] at hb
    obtain ⟨b', hb', hsame⟩ := leaf_same h ha
    rw [hb] at hb'
    exact Option.some.inj hb' ▸ hsame

/-- A value that is not set is `null`. -/
theorem eq_null_of_isUnset {v : Json} (h : isUnset v = true) : v = .null := by
  cases v <;> first | rfl | cases h

/-- Equal definitions come from equal fields. -/
theorem definition_injective (hf : Legible table fs) (hg : Legible table gs)
    (hkeys : keys fs = keys gs)
    (h : Same (.object (definition table fs)) (.object (definition table gs))) : fs = gs := by
  refine eq_of_keys_eq hkeys hf.nodup_keys fun k v w hv hw => ?_
  cases hs : isUnset v with
  | false =>
      have hs' := isUnset_of_same hf hg h hv hw hs
      exact node_injective (hf.settable _ hv hs) (hg.settable _ hw hs')
        (node_same hf hg h hv hw hs hs')
  | true =>
      have hs' : isUnset w = true := by
        by_contra hne
        have := isUnset_of_same hg hf h.symm hw hv (Bool.eq_false_iff.mpr hne)
        rw [hs] at this
        cases this
      rw [eq_null_of_isUnset hs, eq_null_of_isUnset hs']

end Injective

end Sdwan.Feature
