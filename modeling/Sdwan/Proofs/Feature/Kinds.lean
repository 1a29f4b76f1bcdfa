/-
The descriptors in the definition of an interface template.

The settings of an interface are keyed, so every object in its definition is
sound. The kind of a descriptor is found from the items of a list and not from
its type. The two agree for every list but an empty one: without a record there
is no key to name, and the list becomes a list descriptor whatever its type is.
-/
import Sdwan.Proofs.Feature.Interface

namespace Sdwan.Feature.Interface

open Json

theorem groups_mem_write (i : Interface) :
    ("vrrp", encode i.neighbourhood.groups4) ∈ members.write i := by
  have hpart : ("vrrp", encode i.neighbourhood.groups4)
      ∈ Neighbourhood.members.write i.neighbourhood :=
    List.mem_append_left _ (List.mem_append_right _ List.mem_cons_self)
  exact List.mem_append_left _ (List.mem_append_right _ hpart)

/-- An interface with these groups. -/
def grouped (groups : List Vrrp) : Interface :=
  { name := "x", neighbourhood := { groups4 := some groups } }

-- ============================================== trees with a key

/-- In the definition of an interface template, every tree names one key.
All its entries have this key, and each of them lists its other members, once
and in order. No object has a name twice, and no descriptor holds `null`. -/
theorem sound_of_occurs_definition (i : Interface) :
    ∃ root, i.template.definition = .ok (.object root)
      ∧ ∀ ms, Occurs (.object ms) (.object root) → Sound ms := by
  refine ⟨_, template_definition i, ?_⟩
  apply soundIn_definition i.legible.placed i.legible.nodup_locations
  exact Members.AllOf.form i

/-- The objects that a group tracks are a tree within an entry of another. -/
theorem sound_of_occurs_definition_tracked :
    let tracked : TrackingObject := ⟨7, .decrement, 10⟩
    ∃ root ms, (grouped [{ groupId := 1, value := 1, tracked := some [tracked] }]).template.definition
        = .ok (.object root)
      ∧ Occurs (.object ms) (.object root) ∧ Sound ms
      ∧ ms.lookup "vipObjectType" = some (.string "tree")
      ∧ ms.lookup "vipPrimaryKey" = some (names ["name"]) := by
  intro tracked
  obtain ⟨root, hroot, hsound⟩ := sound_of_occurs_definition
    (grouped [{ groupId := 1, value := 1, tracked := some [tracked] }])
  obtain rfl := Json.object.inj (Except.ok.inj hroot)
  obtain ⟨ms, hms, hnode⟩ := (legible _).walk_definition
    (groups_mem_write (grouped [{ groupId := 1, value := 1, tracked := some [tracked] }])) rfl
  have hvalue := hnode _ (List.mem_of_getElem? (i := 2) rfl)
  have hinner : Occurs (.object (node (encode [tracked]))) (.object ms) :=
    .member (mem_of_lookup hvalue)
      (.item List.mem_cons_self (.member (List.mem_of_getElem? (i := 6) rfl) .here))
  have houter := hinner.trans (occurs_of_walk hms)
  exact ⟨_, _, hroot, houter, hsound _ houter, rfl, rfl⟩

-- ============================================== kinds by type

section Kinds

variable {α : Type} [Coded α] {items : List α}

theorem isTable_records (h : ∀ a : α, isRecord (encode a) = true) (hne : items ≠ []) :
    isTable (items.map encode) = true := by
  cases items with
  | nil => exact absurd rfl hne
  | cons a items => simp [isTable, h]

theorem isTable_others (h : items = [] ∨ ∀ a : α, isRecord (encode a) = false) :
    isTable (items.map encode) = false := by
  cases items with
  | nil => rfl
  | cons a items =>
      rcases h with h | h
      · cases h
      · simp [isTable, h]

/-- There is an entry for each record. -/
theorem length_entries {items : List Json} (h : ∀ x ∈ items, isRecord x = true) :
    (entries items).length = items.length := by
  induction items with
  | nil => rfl
  | cons x items ih =>
      obtain ⟨hx, hitems⟩ := List.forall_mem_cons.mp h
      cases x with
      | object ms => rw [entries, List.length_cons, List.length_cons, ih hitems]
      | _ => cases hx

end Kinds

/-- The kind of a descriptor follows the type of a list, if the list is not
empty.

A setting that is a list of records stands in the definition as a tree with a
key and an entry for each record. A list of anything else is a list
descriptor that holds the items. An empty list is one too, and has no key,
even if it is a list of records. -/
theorem kind_of_list (i : Interface) {f : String × Json} (hf : f ∈ members.write i)
    {α : Type} [Coded α] {items : List α} (hitems : f.2 = encode items) :
    ∃ root ms, i.template.definition = .ok (.object root)
      ∧ walk root (placeOf places f.1).location = some ms
      ∧ ((∀ a : α, isRecord (encode a) = true) → items ≠ [] →
          ms.lookup "vipObjectType" = some (.string Kind.tree.name)
          ∧ ∃ key entries, ms.lookup primaryKeyMember = some (names [key])
            ∧ ms.lookup "vipValue" = some (.array entries) ∧ entries.length = items.length)
      ∧ ((items = [] ∨ ∀ a : α, isRecord (encode a) = false) →
          ms.lookup "vipObjectType" = some (.string Kind.list.name)
          ∧ ms.lookup "vipValue" = some (encode items) ∧ ms.lookup primaryKeyMember = none) := by
  have hset : isUnset f.2 = false := by
    rw [hitems]
    rfl
  obtain ⟨ms, hms, -⟩ := i.legible.walk_definition hf hset
  have hread : ∀ {x}, x ∈ descriptorNames → ms.lookup x = (node (encode items)).lookup x := by
    intro x hx
    rw [← hitems, ← i.legible.leaf_eq hf hset hx, leaf, hms]
    rfl
  refine ⟨_, ms, template_definition i, hms, ?_, ?_⟩
  · intro hrecords hne
    have hnode : node (encode items) = descriptor .tree (.array (entries (items.map encode)))
        ++ [(primaryKeyMember, names (primaryKey (items.map encode)))] :=
      node_table (isTable_records hrecords hne)
    have hkind : (node (encode items)).lookup "vipObjectType"
        = some (.string Kind.tree.name) := by
      rw [hnode]
      rfl
    -- the setting is keyed, so there is a key to name
    have hsound : Sound (node (encode items)) := by
      rw [← hitems]
      exact (keyed_of_mem_write hf hset).soundIn_node _ .here
    obtain ⟨key, -, hkey, -, -⟩ := hsound.tree hkind
    refine ⟨(hread (by decide)).trans hkind, key, entries (items.map encode),
      (hread (by decide)).trans hkey, ?_, ?_⟩
    · rw [hread (by decide), hnode]
      rfl
    · rw [length_entries, List.length_map]
      intro x hx
      obtain ⟨a, -, rfl⟩ := List.mem_map.mp hx
      exact hrecords a
  · intro hothers
    have hnode : node (encode items) = descriptor .list (encode items) :=
      node_list (isTable_others hothers)
    refine ⟨?_, ?_, ?_⟩
    · rw [hread (by decide), hnode]
      rfl
    · rw [hread (by decide), hnode]
      rfl
    · rw [hread (by decide), hnode]
      rfl

/-- A list of groups, which are records, becomes a tree when a group is in it
and not when it is empty. Both interfaces pass all checks. -/
theorem kind_of_list_grouped :
    ((grouped [{ groupId := 1, value := 1 }]).check = .ok []
        ∧ ∃ root ms, (grouped [{ groupId := 1, value := 1 }]).template.definition
            = .ok (.object root)
          ∧ walk root ["vrrp"] = some ms ∧ ms.lookup "vipObjectType" = some (.string "tree")
          ∧ ∃ key, ms.lookup "vipPrimaryKey" = some (names [key]))
      ∧ (grouped []).check = .ok []
        ∧ ∃ root ms, (grouped []).template.definition = .ok (.object root)
          ∧ walk root ["vrrp"] = some ms ∧ ms.lookup "vipObjectType" = some (.string "list")
          ∧ ms.lookup "vipPrimaryKey" = none := by
  have hwritten : ∀ groups, ("vrrp", encode groups) ∈ members.write (grouped groups) :=
    fun groups => groups_mem_write (grouped groups)
  have hplace : (placeOf places "vrrp").location = ["vrrp"] := by decide +kernel
  refine ⟨⟨rfl, ?_⟩, rfl, ?_⟩
  · obtain ⟨root, ms, hroot, hms, htree, -⟩ :=
      kind_of_list _ (hwritten [{ groupId := 1, value := 1 }]) rfl
    obtain ⟨hkind, key, -, hkey, -, -⟩ := htree (fun _ => rfl) (List.cons_ne_nil _ _)
    rw [hplace] at hms
    exact ⟨root, ms, hroot, hms, hkind, key, hkey⟩
  · obtain ⟨root, ms, hroot, hms, -, hlist⟩ := kind_of_list _ (hwritten []) rfl
    obtain ⟨hkind, -, hkey⟩ := hlist (Or.inl rfl)
    rw [hplace] at hms
    exact ⟨root, ms, hroot, hms, hkind, hkey⟩

end Sdwan.Feature.Interface
