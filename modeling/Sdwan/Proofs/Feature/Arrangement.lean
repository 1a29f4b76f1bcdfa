/-
The tree that many placements build.

# Trees

In a tree (`IsTree`) no object has a name twice, and a name says what is
behind it: what has the name of a member of descriptors is no object, and
everything else is a tree again. A placement keeps this (`IsTree.place`). So
all paths of a tree lead through containers, and what can be read along its
paths determines it up to the order of the members (`IsTree.same`).

# What a list of placements builds

`Holds root ps` says what can be read in `root`: at the location of each
placement the members of its node, on the way there the containers, and
nothing else. One more placement at a new location keeps it
(`Holds.concat`), so it holds of the whole list (`holds_arrange`). The list
is spoken of by membership alone, so its order does not matter, and two
orders build trees that are equal documents (`arrange_of_perm`).

# Definitions

The definition of a template is the tree of those of its fields that are set
(`definition_eq_arrange`), so it is read in the same way.
-/
import Mathlib.Data.List.Induction
import Mathlib.Data.List.Nodup
import Sdwan.Proofs.Feature.Tabular

namespace Sdwan.Feature

open Json

-- ============================================== trees

/-- A tree: no name is there twice, members with the names of those of
descriptors are no objects, and all others are trees. -/
inductive IsTree : Json → Prop where
  | object {ms : Node} (nodup : (keys ms).Nodup)
      (flat : ∀ m ∈ ms, m.1 ∈ descriptorNames → isRecord m.2 = false)
      (containers : ∀ m ∈ ms, m.1 ∉ descriptorNames → IsTree m.2) : IsTree (.object ms)

namespace IsTree

variable {root ms n : Node} {name : String}

theorem empty : IsTree (.object []) :=
  .object List.nodup_nil (List.forall_mem_nil _) (List.forall_mem_nil _)

theorem exists_object {v : Json} (h : IsTree v) : ∃ ms, v = .object ms := by
  cases h with
  | object => exact ⟨_, rfl⟩

theorem nodup (h : IsTree (.object ms)) : (keys ms).Nodup := by
  cases h with
  | object nodup => exact nodup

theorem isRecord_of_lookup (h : IsTree (.object ms)) {v : Json} (hv : ms.lookup name = some v)
    (hname : name ∈ descriptorNames) : isRecord v = false := by
  cases h with
  | object _ flat => exact flat (name, v) (mem_of_lookup hv) hname

theorem of_lookup (h : IsTree (.object ms)) {v : Json} (hv : ms.lookup name = some v)
    (hname : name ∉ descriptorNames) : IsTree v := by
  cases h with
  | object _ _ containers => exact containers (name, v) (mem_of_lookup hv) hname

/-- In a tree, what is no member of a descriptor is a way on. -/
theorem isSome_lookup (h : IsTree (.object ms)) (hname : name ∉ descriptorNames) :
    (ms.lookup name).isSome = (walk ms [name]).isSome := by
  cases hv : ms.lookup name with
  | none => simp [walk, hv]
  | some v =>
      obtain ⟨child, rfl⟩ := (h.of_lookup hv hname).exists_object
      simp [walk, hv]

/-- All paths lead through containers, and to trees. -/
theorem of_walk (h : IsTree (.object root)) {path : List String}
    (hwalk : walk root path = some ms) : Plain path ∧ IsTree (.object ms) := by
  induction path generalizing root with
  | nil =>
      obtain rfl := Option.some.inj hwalk
      exact ⟨List.forall_mem_nil _, h⟩
  | cons name path ih =>
      rw [walk] at hwalk
      split at hwalk
      · next child hchild =>
          have hname : name ∉ descriptorNames := by
            intro hname
            cases h.isRecord_of_lookup hchild hname
          obtain ⟨hpath, hms⟩ := ih (h.of_lookup hchild hname) hwalk
          exact ⟨plain_cons.mpr ⟨hname, hpath⟩, hms⟩
      · cases hwalk

-- ============================================== growing

/-- What stands at the name of a container is a tree, and without a container it is
the empty one. -/
theorem membersAt (h : IsTree (.object root)) (hname : name ∉ descriptorNames) :
    IsTree (.object (membersAt root name)) := by
  rw [Feature.membersAt]
  split
  · next ms hms => exact h.of_lookup hms hname
  · exact empty

/-- A tree put into a tree under the name of a container makes a tree. -/
theorem insertMember (h : IsTree (.object root)) {v : Json} (hv : IsTree v)
    (hname : name ∉ descriptorNames) : IsTree (.object (insertMember name v root)) := by
  cases h with
  | object nodup flat containers =>
      refine .object (nodup_insertMember nodup name v) ?_ ?_
      · intro m hm hflat
        rcases mem_insertMember hm with rfl | hm
        · exact absurd hflat hname
        · exact flat m hm hflat
      · intro m hm hcontainer
        rcases mem_insertMember hm with rfl | hm
        · exact hv
        · exact containers m hm hcontainer

/-- A descriptor can be put beside the containers of a tree. -/
theorem merge (h : IsTree (.object root)) (hn : IsDescriptor n) :
    IsTree (.object (merge root n)) := by
  obtain ⟨-, hsubset, hflat⟩ := hn
  rw [Feature.merge]
  induction n generalizing root with
  | nil => exact h
  | cons m n ih =>
      obtain ⟨hm, hn⟩ := List.forall_mem_cons.mp hflat
      have hname : m.1 ∈ descriptorNames := hsubset m.1 List.mem_cons_self
      -- the members of a descriptor are flat, so they are none of the containers
      refine ih ?_ (fun x hx => hsubset x (List.mem_cons_of_mem _ hx)) hn
      cases h with
      | object nodup flat containers =>
          refine .object (nodup_insertMember nodup _ _) ?_ ?_
          · intro f hf hf'
            rcases mem_insertMember hf with rfl | hf
            · exact hm
            · exact flat f hf hf'
          · intro f hf hf'
            rcases mem_insertMember hf with rfl | hf
            · exact absurd hname hf'
            · exact containers f hf hf'

/-- A placement makes a tree of a tree. -/
theorem place (h : IsTree (.object root)) (hn : IsDescriptor n) {cs : List String} {key : String}
    (hloc : Plain (cs ++ [key])) : IsTree (.object (place key n cs root)) := by
  induction cs generalizing root with
  | nil =>
      have hkey : key ∉ descriptorNames := (plain_cons.mp hloc).1
      exact h.insertMember ((h.membersAt hkey).merge hn) hkey
  | cons c cs ih =>
      obtain ⟨hc, hcs⟩ := plain_cons.mp hloc
      exact h.insertMember (ih (h.membersAt hc) hcs) hc

-- ============================================== equal trees

/-- Trees are equal documents when their paths lead to objects in both or in
neither, and to the same members of descriptors. -/
theorem same {root' : Node} (h : IsTree (.object root)) (h' : IsTree (.object root'))
    (hleaf : ∀ {path}, Plain path → ∀ {x}, x ∈ descriptorNames →
      leaf root path x = leaf root' path x)
    (hwalk : ∀ {path}, Plain path → (walk root path).isSome = (walk root' path).isSome) :
    Same (.object root) (.object root') := by
  generalize hj : Json.object root = j at h
  induction h generalizing root root' with
  | object nodup flat containers ih =>
      obtain rfl := Json.object.inj hj
      have htree : IsTree (.object root) := .object nodup flat containers
      have hempty : Plain [] := List.forall_mem_nil _
      refine .object (fun k => ?_) fun k v w hv hw => ?_
      -- a name is in both or in neither: among the flat members by the leaves, among the
      -- containers by the walks
      · by_cases hk : k ∈ descriptorNames
        · exact congrArg Option.isSome (hleaf hempty hk)
        · rw [htree.isSome_lookup hk, h'.isSome_lookup hk]
          exact hwalk (plain_cons.mpr ⟨hk, hempty⟩)
      · by_cases hk : k ∈ descriptorNames
        · have hvw : root.lookup k = root'.lookup k := hleaf hempty hk
          rw [hv, hw] at hvw
          rw [Option.some.inj hvw]
          exact Same.refl w
        · obtain ⟨child, rfl⟩ := (htree.of_lookup hv hk).exists_object
          obtain ⟨child', rfl⟩ := (h'.of_lookup hw hk).exists_object
          -- what is read below the two containers is read along paths that begin with `k`
          refine ih (k, .object child) (mem_of_lookup hv) hk (h'.of_lookup hw hk) ?_ ?_ rfl
          · intro path hpath x hx
            have hbelow := hleaf (plain_cons.mpr ⟨hk, hpath⟩) hx
            rwa [leaf_cons_object hv, leaf_cons_object hw] at hbelow
          · intro path hpath
            have hbelow := hwalk (plain_cons.mpr ⟨hk, hpath⟩)
            rwa [walk_cons_object hv, walk_cons_object hw] at hbelow

end IsTree

-- ============================================== many placements

/-- A node and the place that it goes to. -/
structure Placing where
  /-- The containers around it, the outermost one first. -/
  containers : List String
  key : String
  node : Node

namespace Placing

/-- The steps to the node. -/
def location (p : Placing) : List String := p.containers ++ [p.key]

/-- Puts the node at its place. -/
def put (root : Node) (p : Placing) : Node := place p.key p.node p.containers root

end Placing

/-- The tree of many placements, made one after the other. -/
def arrange (ps : List Placing) : Node := ps.foldl Placing.put []

/-- Descriptors that go to places of their own, behind containers only. -/
structure Apart (ps : List Placing) : Prop where
  descriptor : ∀ p ∈ ps, IsDescriptor p.node
  plain : ∀ p ∈ ps, Plain p.location
  nodup : (ps.map Placing.location).Nodup

/-- In any order they go to places of their own. -/
theorem Apart.of_perm {ps qs : List Placing} (h : Apart ps) (hperm : ps.Perm qs) : Apart qs where
  descriptor q hq := h.descriptor q (hperm.mem_iff.mpr hq)
  plain q hq := h.plain q (hperm.mem_iff.mpr hq)
  nodup := (hperm.map _).nodup_iff.mp h.nodup

/-- What can be read in the tree of these placements. -/
structure Holds (root : Node) (ps : List Placing) : Prop where
  tree : IsTree (.object root)
  leaf_iff : ∀ {path}, Plain path → ∀ {x}, x ∈ descriptorNames → ∀ {v},
    leaf root path x = some v ↔ ∃ p ∈ ps, p.location = path ∧ p.node.lookup x = some v
  walk_iff : ∀ {path}, Plain path →
    ((walk root path).isSome = true ↔ path = [] ∨ ∃ p ∈ ps, path <+: p.location)

/-- Nothing can be read in the empty tree. -/
theorem holds_nil : Holds [] [] where
  tree := .empty
  leaf_iff _ _ _ _ := by simp [leaf_empty]
  walk_iff {path} _ := by cases path <;> simp [walk]

section Holds

variable {root : Node} {ps qs : List Placing}

/-- One more placement, at a new location. -/
theorem Holds.concat (h : Holds root ps) {p : Placing} (hnode : IsDescriptor p.node)
    (hplain : Plain p.location) (hnew : ∀ q ∈ ps, q.location ≠ p.location) :
    Holds (p.put root) (ps ++ [p]) where
  tree := h.tree.place hnode hplain
  leaf_iff {path} hpath x hx v := by
    have hleaf : leaf (p.put root) path x
        = if path = p.location then (p.node.lookup x).or (leaf root path x)
          else leaf root path x := leaf_place hnode hx root hplain hpath
    rw [hleaf]
    simp only [List.mem_append, List.mem_singleton, or_and_right, exists_or, exists_eq_left]
    by_cases heq : path = p.location
    · subst heq
      -- nothing stood there before
      have hnone : leaf root p.location x = none := by
        rw [Option.eq_none_iff_forall_ne_some]
        intro w hw
        obtain ⟨q, hq, hloc, -⟩ := (h.leaf_iff hplain hx).mp hw
        exact hnew q hq hloc
      rw [if_pos rfl, hnone, Option.or_none]
      constructor
      · intro hv
        exact Or.inr ⟨rfl, hv⟩
      · rintro (⟨q, hq, hloc, -⟩ | ⟨-, hv⟩)
        · exact absurd hloc (hnew q hq)
        · exact hv
    · rw [if_neg heq, h.leaf_iff hpath hx]
      simp [Ne.symm heq]
  walk_iff {path} hpath := by
    have hwalk : (walk (p.put root) path).isSome = true
        ↔ (walk root path).isSome = true ∨ path <+: p.location :=
      isSome_walk_place hnode root hplain hpath
    rw [hwalk, h.walk_iff hpath]
    simp only [List.mem_append, List.mem_singleton, or_and_right, exists_or, exists_eq_left,
      or_assoc]

/-- In the tree of the placements what they put there can be read. The induction is
from the last one, since each goes into the tree of those before. -/
theorem holds_arrange (h : Apart ps) : Holds (arrange ps) ps := by
  induction ps using List.reverseRecOn with
  | nil => exact holds_nil
  | append_singleton ps p ih =>
      obtain ⟨hnode, hplain, hnodup⟩ := h
      rw [List.map_append, List.nodup_append] at hnodup
      obtain ⟨hnd, -, hnew⟩ := hnodup
      have hbefore : Apart ps :=
        ⟨fun q hq => hnode q (List.mem_append_left _ hq),
          fun q hq => hplain q (List.mem_append_left _ hq), hnd⟩
      have hp : p ∈ ps ++ [p] := List.mem_append_right _ (List.mem_singleton_self p)
      rw [arrange, List.foldl_append]
      refine (ih hbefore).concat (hnode p hp) (hplain p hp) ?_
      intro q hq
      exact hnew _ (List.mem_map_of_mem hq) _ (List.mem_singleton_self _)

/-- The order of the placements does not matter. -/
theorem Holds.of_perm (h : Holds root ps) (hperm : ps.Perm qs) : Holds root qs where
  tree := h.tree
  leaf_iff hpath _ hx _ := by simp only [h.leaf_iff hpath hx, hperm.mem_iff]
  walk_iff hpath := by simp only [h.walk_iff hpath, hperm.mem_iff]

/-- What can be read determines the tree. -/
theorem Holds.same {root' : Node} (h : Holds root ps) (h' : Holds root' ps) :
    Same (.object root) (.object root') := by
  refine h.tree.same h'.tree ?_ ?_
  · intro path hpath x hx
    apply Option.ext
    intro v
    rw [h.leaf_iff hpath hx, h'.leaf_iff hpath hx]
  · intro path hpath
    rw [Bool.eq_iff_iff, h.walk_iff hpath, h'.walk_iff hpath]

/-- At a location stands what was put there, beside the containers of what
was put below. -/
theorem Holds.exists_walk (h : Holds root ps) (hapart : Apart ps) {p : Placing} (hp : p ∈ ps) :
    ∃ ms, walk root p.location = some ms
      ∧ (∀ m ∈ p.node, ms.lookup m.1 = some m.2)
      ∧ ∀ x, x ∈ keys ms ↔ x ∈ keys p.node ∨ ∃ q ∈ ps, p.location ++ [x] <+: q.location := by
  have hnode : IsDescriptor p.node := hapart.descriptor p hp
  have hloc : Plain p.location := hapart.plain p hp
  obtain ⟨ms, hms⟩ := Option.isSome_iff_exists.mp
    ((h.walk_iff hloc).mpr (Or.inr ⟨p, hp, List.prefix_rfl⟩))
  have hleaf : ∀ {x}, leaf root p.location x = ms.lookup x := by
    intro x
    rw [leaf, hms]
    rfl
  have hread : ∀ m ∈ p.node, ms.lookup m.1 = some m.2 := by
    intro m hm
    rw [← hleaf, h.leaf_iff hloc (hnode.subset _ (List.mem_map_of_mem hm))]
    exact ⟨p, hp, rfl, lookup_of_mem hnode.nodup hm⟩
  refine ⟨ms, hms, hread, fun x => ?_⟩
  by_cases hx : x ∈ descriptorNames
  · constructor
    · intro hmem
      obtain ⟨v, hv⟩ := Option.isSome_iff_exists.mp (isSome_lookup hmem)
      rw [← hleaf, h.leaf_iff hloc hx] at hv
      obtain ⟨q, hq, heq, hv⟩ := hv
      -- no other placement has this location
      obtain rfl := List.inj_on_of_nodup_map hapart.nodup hq hp heq
      exact Or.inl (mem_keys_of_lookup hv)
    · rintro (hmem | ⟨q, hq, hbelow⟩)
      · obtain ⟨m, hm, rfl⟩ := List.mem_map.mp hmem
        exact mem_keys_of_lookup (hread m hm)
      · -- no location goes through a member of a descriptor
        have hxq : x ∈ q.location := hbelow.subset (List.mem_append_right _ List.mem_cons_self)
        exact absurd hx (hapart.plain q hq x hxq)
  · have hchild : walk root (p.location ++ [x]) = walk ms [x] := by
      rw [walk_append, hms]
      rfl
    rw [mem_keys_iff, (h.tree.of_walk hms).2.isSome_lookup hx, ← hchild,
      h.walk_iff (plain_concat hloc hx)]
    simp [hnode.notMem hx]

end Holds

/-- Trees do not depend on the order of the placements. When the nodes of
flags, scalars and arrays go to places of their own, behind containers only,
any order of them builds the same tree, up to the order of the members; and
at each location all members of the node are there, beside the containers of
the nodes below it and nothing else. -/
theorem arrange_of_perm {ps qs : List Placing}
    (hnode : ∀ p ∈ ps, ∃ v, isRecord v = false ∧ p.node = node v)
    (hplain : ∀ p ∈ ps, Plain p.location) (hnd : (ps.map Placing.location).Nodup)
    (hperm : ps.Perm qs) :
    Same (.object (arrange ps)) (.object (arrange qs))
      ∧ IsTree (.object (arrange qs))
      ∧ ∀ p ∈ ps, ∃ ms, walk (arrange qs) p.location = some ms
          ∧ (∀ m ∈ p.node, ms.lookup m.1 = some m.2)
          ∧ ∀ x, x ∈ keys ms
              ↔ x ∈ keys p.node ∨ ∃ q ∈ ps, p.location ++ [x] <+: q.location := by
  have hapart : Apart ps := by
    refine ⟨?_, hplain, hnd⟩
    intro p hp
    obtain ⟨v, hv, heq⟩ := hnode p hp
    rw [heq]
    exact isDescriptor_node hv
  have hps : Holds (arrange ps) ps := holds_arrange hapart
  have hapart' : Apart qs := hapart.of_perm hperm
  have hqs : Holds (arrange qs) ps := (holds_arrange hapart').of_perm hperm.symm
  exact ⟨hps.same hqs, hqs.tree, fun p hp => hqs.exists_walk hapart hp⟩

/-- A flag, a choice below it and a table beside that, the flag put first or
last. -/
theorem arrange_of_perm_nat :
    let flag : Placing := ⟨[], "nat", node (.bool true)⟩
    let choice : Placing := ⟨["nat"], "nat-choice", node (.string "Pool")⟩
    let rules : Placing :=
      ⟨["nat"], "static", node (.array [.object [("source-ip", .string "10.0.0.1")]])⟩
    [flag, choice, rules].Perm [choice, rules, flag]
      ∧ Same (.object (arrange [flag, choice, rules])) (.object (arrange [choice, rules, flag]))
      ∧ (walk (arrange [flag, choice, rules]) ["nat"]).map keys
        = some ["vipObjectType", "vipType", "vipValue", "nat-choice", "static"]
      ∧ (walk (arrange [choice, rules, flag]) ["nat"]).map keys
        = some ["nat-choice", "static", "vipObjectType", "vipType", "vipValue"] := by
  intro flag choice rules
  have hperm : [flag, choice, rules].Perm ([choice, rules] ++ [flag]) :=
    (List.perm_append_singleton flag [choice, rules]).symm
  have hnode : ∀ p ∈ [flag, choice, rules], ∃ v, isRecord v = false ∧ p.node = node v := by
    simp only [List.forall_mem_cons]
    exact ⟨⟨_, rfl, rfl⟩, ⟨_, rfl, rfl⟩, ⟨_, rfl, rfl⟩, List.forall_mem_nil _⟩
  have hplain : ∀ p ∈ [flag, choice, rules], Plain p.location := by decide
  have hnd : ([flag, choice, rules].map Placing.location).Nodup := by decide
  exact ⟨hperm, (arrange_of_perm hnode hplain hnd hperm).1, by decide +kernel, by decide +kernel⟩

-- ============================================== definitions

variable {table : List Placement} {fields : List (String × Json)}

/-- The location of a field. -/
def locationOf (table : List Placement) (field : String × Json) : List String :=
  (placeOf table field.1).location

/-- A field that is placed well: if it is set, its node is a descriptor and
stands behind containers only. -/
structure Placed (table : List Placement) (field : String × Json) : Prop where
  plain : Plain (locationOf table field)
  descriptor : isUnset field.2 = false → IsDescriptor (node field.2)

/-- The node of a field, and its place. -/
def placing (table : List Placement) (field : String × Json) : Placing :=
  ⟨(placeOf table field.1).containers, (placeOf table field.1).key, node field.2⟩

/-- The placements of the fields that are set. -/
def placings (table : List Placement) (fields : List (String × Json)) : List Placing :=
  (fields.filter fun f => !isUnset f.2).map (placing table)

theorem mem_placings {p : Placing} :
    p ∈ placings table fields ↔ ∃ f ∈ fields, isUnset f.2 = false ∧ placing table f = p := by
  simp [placings, and_assoc]

/-- The definition is the tree of these placements: a field that is not set leaves
it as it is. -/
theorem definition_eq_arrange (table : List Placement) (fields : List (String × Json)) :
    definition table fields = arrange (placings table fields) := by
  rw [definition, arrange, placings, List.foldl_map, List.foldl_filter]
  congr 1
  funext root f
  rw [placeField]
  cases isUnset f.2 <;> rfl

/-- Fields that are placed well, each at its own location, keep apart. -/
theorem apart_placings (hf : ∀ f ∈ fields, Placed table f)
    (hnd : (fields.map (locationOf table)).Nodup) : Apart (placings table fields) where
  descriptor p hp := by
    obtain ⟨f, hmem, hs, rfl⟩ := mem_placings.mp hp
    exact (hf f hmem).descriptor hs
  plain p hp := by
    obtain ⟨f, hmem, -, rfl⟩ := mem_placings.mp hp
    exact (hf f hmem).plain
  nodup := by
    rw [placings, List.map_map]
    exact hnd.sublist (List.filter_sublist.map _)

/-- What can be read in a definition. -/
theorem holds_definition (hf : ∀ f ∈ fields, Placed table f)
    (hnd : (fields.map (locationOf table)).Nodup) :
    Holds (definition table fields) (placings table fields) := by
  rw [definition_eq_arrange]
  exact holds_arrange (apart_placings hf hnd)

/-- A leaf of a definition belongs to a field that stands at its path. -/
theorem leaf_definition_iff (hf : ∀ f ∈ fields, Placed table f)
    (hnd : (fields.map (locationOf table)).Nodup) {x : String} (hx : x ∈ descriptorNames)
    {path : List String} (hp : Plain path) {v : Json} :
    leaf (definition table fields) path x = some v
      ↔ ∃ f ∈ fields, isUnset f.2 = false ∧ locationOf table f = path
          ∧ (node f.2).lookup x = some v := by
  rw [(holds_definition hf hnd).leaf_iff hp hx]
  constructor
  · rintro ⟨p, hp, hloc, hv⟩
    obtain ⟨f, hmem, hs, rfl⟩ := mem_placings.mp hp
    exact ⟨f, hmem, hs, hloc, hv⟩
  · rintro ⟨f, hmem, hs, hloc, hv⟩
    exact ⟨placing table f, mem_placings.mpr ⟨f, hmem, hs, rfl⟩, hloc, hv⟩

/-- The leaves of a definition at the location of a field are the members
of its node, when no two fields share a location. -/
theorem leaf_definition (hf : ∀ f ∈ fields, Placed table f)
    (hnd : (fields.map (locationOf table)).Nodup) {field : String × Json}
    (hmem : field ∈ fields) (hs : isUnset field.2 = false) {x : String}
    (hx : x ∈ descriptorNames) :
    leaf (definition table fields) (locationOf table field) x = (node field.2).lookup x := by
  apply Option.ext
  intro v
  rw [leaf_definition_iff hf hnd hx (hf field hmem).plain]
  constructor
  · rintro ⟨f, hfm, -, hloc, hv⟩
    rwa [← List.inj_on_of_nodup_map hnd hfm hmem hloc]
  · intro hv
    exact ⟨field, hmem, hs, rfl, hv⟩

end Sdwan.Feature
