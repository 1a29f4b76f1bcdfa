/-
Trees whose entries have a key.

# Keys

A tree names the member by which its entries are told apart. This name comes
from the first record of a list alone, so it can be missing in the others,
and none is named if nothing in the first record is set. A value is *keyed*
(`Keyed`) when this cannot happen: all records of one of its tables begin
with the same name, and what they hold is set and keyed in turn.

# Sound objects

`Sound` says what an object of a definition has to be: its names are
different, it holds no `null` as the value of a descriptor, and if it is a
tree, it names one key and all its entries have it. All objects in the node
of a keyed value are sound (`Keyed.soundIn_node`), and a tree of such nodes
has no other objects than those on its paths and those in its leaves, so all
objects of a definition are (`soundIn_definition`).
-/
import Sdwan.Proofs.Feature.Arrangement

namespace Sdwan.Feature

open Json

-- ============================================== what occurs in a document

/-- A value occurs in a document. -/
inductive Occurs (v : Json) : Json → Prop where
  | here : Occurs v v
  | item {items : List Json} {x : Json} (mem : x ∈ items) (below : Occurs v x) :
      Occurs v (.array items)
  | member {ms : Node} {m : String × Json} (mem : m ∈ ms) (below : Occurs v m.2) :
      Occurs v (.object ms)

/-- A part of a part is a part. -/
theorem Occurs.trans {u v w : Json} (h : Occurs u v) (h' : Occurs v w) : Occurs u w := by
  induction h' with
  | here => exact h
  | item mem _ ih => exact .item mem ih
  | member mem _ ih => exact .member mem ih

/-- What a path leads to occurs in the object. -/
theorem occurs_of_walk {root ms : Node} {path : List String} (h : walk root path = some ms) :
    Occurs (.object ms) (.object root) := by
  induction path generalizing root with
  | nil =>
      obtain rfl := Option.some.inj h
      exact .here
  | cons name path ih =>
      rw [walk] at h
      split at h
      · next child hchild => exact .member (mem_of_lookup hchild) (ih h)
      · cases h

/-- An entry of a tree with this key. Its last member lists the others, each
once and in order. -/
def IsEntry (key : String) (entry : Json) : Prop :=
  ∃ members, entry = .object (members ++ [(orderMember, names (keys members))])
    ∧ (keys members).Nodup ∧ orderMember ∉ keys members ∧ key ∈ keys members

/-- An object that may stand in a definition. -/
structure Sound (ms : Node) : Prop where
  nodup : (keys ms).Nodup
  set : ms.lookup "vipValue" ≠ some .null
  tree : ms.lookup "vipObjectType" = some (.string Kind.tree.name) →
    ∃ key entries, ms.lookup primaryKeyMember = some (names [key])
      ∧ ms.lookup "vipValue" = some (.array entries) ∧ ∀ e ∈ entries, IsEntry key e

/-- All objects in the document may stand in a definition. -/
def SoundIn (j : Json) : Prop := ∀ ms, Occurs (.object ms) j → Sound ms

/-- An object is sound with all that is in it if it is sound itself and so are its
members. -/
theorem soundIn_object_iff {ms : Node} :
    SoundIn (.object ms) ↔ Sound ms ∧ ∀ m ∈ ms, SoundIn m.2 := by
  constructor
  · intro h
    exact ⟨h ms .here, fun m hm ns hns => h ns (.member hm hns)⟩
  · rintro ⟨hms, hmembers⟩ ns hns
    cases hns with
    | here => exact hms
    | member hm hns => exact hmembers _ hm ns hns

theorem soundIn_array {items : List Json} (h : ∀ x ∈ items, SoundIn x) : SoundIn (.array items) := by
  intro ns hns
  cases hns with
  | item hx hns => exact h _ hx ns hns

/-- A scalar has no object in it. -/
theorem Scalar.soundIn {v : Json} (h : Scalar v) : SoundIn v := by
  intro ns hns
  cases h <;> cases hns

theorem soundIn_names (ns : List String) : SoundIn (names ns) := by
  apply soundIn_array
  intro x hx
  obtain ⟨n, -, rfl⟩ := List.mem_map.mp hx
  exact (Scalar.text n).soundIn

-- ============================================== keyed values

/-- Tabular values whose tables have a key: all rows of a table begin with
it. -/
inductive Keyed : Json → Prop where
  | scalar {v : Json} (scalar : Scalar v) : Keyed v
  | list {items : List Json} (scalars : ∀ x ∈ items, Scalar x) : Keyed (.array items)
  | table {rows : List Node} {key : String} (filled : rows ≠ [])
      (leads : ∀ r ∈ rows, (keys r).head? = some key)
      (nodup : ∀ r ∈ rows, (keys r).Nodup)
      (unlisted : ∀ r ∈ rows, orderMember ∉ keys r)
      (values : ∀ r ∈ rows, ∀ m ∈ r, Keyed m.2) :
      Keyed (.array (rows.map .object))

/-- A keyed value is tabular. -/
theorem Keyed.tabular {v : Json} (h : Keyed v) : Tabular v := by
  induction h with
  | scalar scalar => exact scalar.tabular
  | list scalars => exact .list scalars
  | table filled _ nodup unlisted _ ih => exact .table filled nodup unlisted ih

/-- A value that is keyed, or not set. -/
def KeyedIfSet (v : Json) : Prop := isUnset v = false → Keyed v

theorem Keyed.isUnset_eq {v : Json} (h : Keyed v) : isUnset v = false := h.tabular.isUnset_eq

-- ============================================== entries

/-- What a container holds are the nodes of members. -/
theorem exists_of_mem_container {r : Node} {m : String × Json} (h : m ∈ container r) :
    ∃ f ∈ r, m = (f.1, .object (node f.2)) := by
  induction r with
  | nil => simp [container] at h
  | cons f r ih =>
      obtain ⟨k, v⟩ := f
      rw [container] at h
      split at h
      · obtain ⟨f, hf, rfl⟩ := ih h
        exact ⟨f, List.mem_cons_of_mem _ hf, rfl⟩
      · rcases List.mem_cons.mp h with rfl | h
        · exact ⟨(k, v), List.mem_cons_self, rfl⟩
        · obtain ⟨f, hf, rfl⟩ := ih h
          exact ⟨f, List.mem_cons_of_mem _ hf, rfl⟩

/-- The key of a list of records, if the first one begins with a member that
is set. -/
theorem primaryKey_of_head {r : Node} {rows : List Node} {key : String}
    (hlead : (keys r).head? = some key) (hset : ∀ m ∈ r, isUnset m.2 = false) :
    primaryKey ((r :: rows).map .object) = [key] := by
  cases r with
  | nil => cases hlead
  | cons m r =>
      obtain rfl : m.1 = key := Option.some.inj hlead
      have hm : isUnset m.2 = false := hset m List.mem_cons_self
      simp [primaryKey, hm]

section Entries

variable {r : Node} {key : String}

/-- The entry of a row lists the members of the row, with the key among them. -/
theorem isEntry_ordered (hset : ∀ m ∈ r, isUnset m.2 = false) (hnd : (keys r).Nodup)
    (horder : orderMember ∉ keys r) (hlead : (keys r).head? = some key) :
    IsEntry key (.object (ordered (container r))) := by
  have hkeys : keys (container r) = keys r := keys_container hset
  have hnew : orderMember ∉ keys (container r) := by rwa [hkeys]
  refine ⟨container r, ?_, by rwa [hkeys], hnew, ?_⟩
  · exact congrArg Json.object (insertMember_of_notMem _ hnew)
  · rw [hkeys]
    exact List.mem_of_head? hlead

/-- An object whose members are objects and lists is sound. -/
theorem sound_of_compound {ms : Node} (hnd : (keys ms).Nodup)
    (h : ∀ m ∈ ms, isRecord m.2 = true ∨ ∃ items, m.2 = .array items) : Sound ms where
  nodup := hnd
  set hnull := by
    rcases h _ (mem_of_lookup hnull) with h | ⟨items, h⟩ <;> cases h
  tree htree := by
    rcases h _ (mem_of_lookup htree) with h | ⟨items, h⟩ <;> cases h

/-- The entry of a row is sound, with all that is in it. -/
theorem soundIn_entry (hset : ∀ m ∈ r, isUnset m.2 = false) (hnd : (keys r).Nodup)
    (hnodes : ∀ m ∈ r, SoundIn (.object (node m.2))) :
    SoundIn (.object (ordered (container r))) := by
  have hmem : ∀ m ∈ ordered (container r),
      m = (orderMember, names (keys (container r))) ∨ ∃ f ∈ r, m = (f.1, .object (node f.2)) := by
    intro m hm
    exact (mem_insertMember hm).imp id exists_of_mem_container
  refine soundIn_object_iff.mpr ⟨sound_of_compound ?_ ?_, ?_⟩
  · apply nodup_insertMember
    rwa [keys_container hset]
  · intro m hm
    rcases hmem m hm with rfl | ⟨f, -, rfl⟩
    · exact Or.inr ⟨_, rfl⟩
    · exact Or.inl rfl
  · intro m hm
    rcases hmem m hm with rfl | ⟨f, hf, rfl⟩
    · exact soundIn_names _
    · exact hnodes f hf

end Entries

-- ============================================== nodes

/-- A descriptor that is not a tree is sound when it holds something sound
that is set. -/
theorem soundIn_descriptor {v c : Json} {k : Kind} (hrecord : isRecord v = false)
    (hnode : node v = descriptor k c) (hkind : k ≠ .tree) (hset : isUnset c = false)
    (hsound : SoundIn c) : SoundIn (.object (node v)) := by
  refine soundIn_object_iff.mpr ⟨⟨(isDescriptor_node hrecord).nodup, ?_, ?_⟩, ?_⟩
  · rw [hnode]
    intro hnull
    obtain rfl : c = .null := Option.some.inj hnull
    cases hset
  · rw [hnode]
    intro htree
    have hname : k.name = Kind.tree.name := Json.string.inj (Option.some.inj htree)
    exact absurd (Kind.name_injective hname) hkind
  · rw [hnode]
    simp only [descriptor, List.forall_mem_cons]
    exact ⟨(Scalar.text _).soundIn, (Scalar.text _).soundIn, hsound, List.forall_mem_nil _⟩

/-- The node of a scalar holds a scalar and is sound. -/
theorem Scalar.soundIn_node {v : Json} (h : Scalar v) : SoundIn (.object (node v)) := by
  cases h with
  | flag b => exact soundIn_descriptor rfl rfl Kind.noConfusion rfl (Scalar.text _).soundIn
  | number n => exact soundIn_descriptor rfl rfl Kind.noConfusion rfl (Scalar.number n).soundIn
  | text s => exact soundIn_descriptor rfl rfl Kind.noConfusion rfl (Scalar.text s).soundIn

/-- All objects in the node of a keyed value are sound. -/
theorem Keyed.soundIn_node {v : Json} (h : Keyed v) : SoundIn (.object (node v)) := by
  induction h with
  | scalar scalar => exact scalar.soundIn_node
  | @list items scalars =>
      exact soundIn_descriptor rfl (node_list (isTable_of_scalars scalars)) Kind.noConfusion rfl
        (soundIn_array fun x hx => (scalars x hx).soundIn)
  | @table rows key filled leads nodup unlisted values ih =>
      have hset : ∀ r ∈ rows, ∀ m ∈ r, isUnset m.2 = false :=
        fun r hr m hm => (values r hr m hm).isUnset_eq
      -- all rows begin with the key, so the first one does
      have hkey : primaryKey (rows.map .object) = [key] := by
        cases rows with
        | nil => exact absurd rfl filled
        | cons r rows =>
            exact primaryKey_of_head (leads r List.mem_cons_self) (hset r List.mem_cons_self)
      have hnode : node (.array (rows.map .object))
          = descriptor .tree (.array (rows.map fun r => .object (ordered (container r))))
            ++ [(primaryKeyMember, names [key])] := by
        rw [node_table (isTable_of_rows filled), entries_rows, hkey]
      refine soundIn_object_iff.mpr ⟨⟨(isDescriptor_node rfl).nodup, ?_, ?_⟩, ?_⟩
      · rw [hnode]
        intro hnull
        cases hnull
      · rw [hnode]
        intro _
        refine ⟨key, _, rfl, rfl, ?_⟩
        intro e he
        obtain ⟨r, hr, rfl⟩ := List.mem_map.mp he
        exact isEntry_ordered (hset r hr) (nodup r hr) (unlisted r hr) (leads r hr)
      · rw [hnode]
        simp only [descriptor, List.cons_append, List.nil_append, List.forall_mem_cons]
        refine ⟨(Scalar.text _).soundIn, (Scalar.text _).soundIn, ?_, soundIn_names _,
          List.forall_mem_nil _⟩
        apply soundIn_array
        intro e he
        obtain ⟨r, hr, rfl⟩ := List.mem_map.mp he
        exact soundIn_entry (hset r hr) (nodup r hr) (ih r hr)

-- ============================================== trees of nodes

/-- The objects of a tree are those on its paths and those in its leaves. -/
theorem IsTree.soundIn {root : Node} (h : IsTree (.object root))
    (hwalk : ∀ {path ms}, walk root path = some ms → Sound ms)
    (hleaf : ∀ {path x v}, x ∈ descriptorNames → leaf root path x = some v → SoundIn v) :
    SoundIn (.object root) := by
  generalize hj : Json.object root = j at h
  induction h generalizing root with
  | object nodup flat containers ih =>
      obtain rfl := Json.object.inj hj
      refine soundIn_object_iff.mpr ⟨@hwalk [] root rfl, ?_⟩
      intro m hm
      have hfound := lookup_of_mem nodup hm
      by_cases hname : m.1 ∈ descriptorNames
      · exact @hleaf [] m.1 m.2 hname hfound
      -- what holds along all paths of the tree holds along those below the container
      · obtain ⟨child, hchild⟩ := (containers m hm hname).exists_object
        rw [hchild] at hfound
        refine ih m hm hname ?_ ?_ hchild.symm
        · intro path ms hms
          rw [← walk_cons_object hfound] at hms
          exact hwalk hms
        · intro path x v hx hv
          rw [← leaf_cons_object hfound] at hv
          exact hleaf hx hv

/-- Where descriptors stand that are sound, there is nothing else. -/
theorem Holds.soundIn {root : Node} {ps : List Placing} (h : Holds root ps)
    (hnodes : ∀ p ∈ ps, SoundIn (.object p.node)) : SoundIn (.object root) := by
  refine h.tree.soundIn ?_ ?_
  · intro path ms hms
    obtain ⟨hpath, htree⟩ := h.tree.of_walk hms
    -- what the object has of a descriptor comes from one node
    have hread : ∀ {x v}, x ∈ descriptorNames → ms.lookup x = some v →
        ∃ p ∈ ps, p.location = path ∧ p.node.lookup x = some v := by
      intro x v hx hv
      apply (h.leaf_iff hpath hx).mp
      rw [leaf, hms]
      exact hv
    have hback : ∀ {p}, p ∈ ps → p.location = path → ∀ {x v}, x ∈ descriptorNames →
        p.node.lookup x = some v → ms.lookup x = some v := by
      intro p hp hloc x v hx hv
      have hleaf := (h.leaf_iff hpath hx).mpr ⟨p, hp, hloc, hv⟩
      rwa [leaf, hms] at hleaf
    refine ⟨htree.nodup, ?_, ?_⟩
    · intro hnull
      obtain ⟨p, hp, -, hnull⟩ := hread (by decide) hnull
      exact (hnodes p hp _ .here).set hnull
    · intro hkind
      obtain ⟨p, hp, hloc, hkind⟩ := hread (by decide) hkind
      obtain ⟨key, entries, hkey, hvalue, hentries⟩ := (hnodes p hp _ .here).tree hkind
      exact ⟨key, entries, hback hp hloc (by decide) hkey, hback hp hloc (by decide) hvalue,
        hentries⟩
  · intro path x v hx hv
    obtain ⟨ms, hms, -⟩ := Option.bind_eq_some_iff.mp hv
    obtain ⟨p, hp, -, hv⟩ := (h.leaf_iff (h.tree.of_walk hms).1 hx).mp hv
    exact (soundIn_object_iff.mp (hnodes p hp)).2 _ (mem_of_lookup hv)

/-- All objects in a definition are sound when the fields that are set are
keyed. -/
theorem soundIn_definition {table : List Placement} {fields : List (String × Json)}
    (hf : ∀ f ∈ fields, Placed table f) (hnd : (fields.map (locationOf table)).Nodup)
    (hkeyed : ∀ f ∈ fields, KeyedIfSet f.2) :
    SoundIn (.object (definition table fields)) := by
  refine (holds_definition hf hnd).soundIn ?_
  intro p hp
  obtain ⟨f, hmem, hs, rfl⟩ := mem_placings.mp hp
  exact (hkeyed f hmem hs).soundIn_node

end Sdwan.Feature
