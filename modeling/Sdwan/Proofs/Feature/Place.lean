/-
Where the nodes of a template stand in its definition.

# Reading a definition

`walk` follows a path of names from object to object, and `leaf` is the
member of a name that the object at the end of the path has. The names of
a descriptor (`descriptorNames`) are never those of a container, so the
tree can be read in two layers: the paths, which hold no such name, and
the leaves, which are all of them.

# What a placement does

In this reading a placement changes the leaves of one path and no others
(`leaf_place`), and it makes objects on the way to its location and nowhere
else (`isSome_walk_place`).
-/
import Sdwan.Feature.Definition
import Sdwan.Proofs.Json.Lookup

namespace Sdwan.Feature

open Json

-- ============================================== reading by paths

/-- The members of the object that a path of names leads to. -/
def walk : Node → (path : List String) → Option Node
  | root, [] => some root
  | root, name :: path =>
    match root.lookup name with
    | some (.object ms) => walk ms path
    | _ => none

/-- The member of a name in the object that a path leads to. -/
def leaf (root : Node) (path : List String) (name : String) : Option Json :=
  (walk root path).bind fun ms => ms.lookup name

/-- The place of a field: the containers around it and its name there. -/
def Placement.location (p : Placement) : List String := p.containers ++ [p.key]

/-- The members of descriptors. -/
def descriptorNames : List String := ["vipObjectType", "vipType", "vipValue", primaryKeyMember]

/-- A path through containers only. -/
def Plain (path : List String) : Prop := ∀ name ∈ path, name ∉ descriptorNames

instance (path : List String) : Decidable (Plain path) :=
  inferInstanceAs (Decidable (∀ name ∈ path, name ∉ descriptorNames))

theorem plain_cons {name : String} {path : List String} :
    Plain (name :: path) ↔ name ∉ descriptorNames ∧ Plain path := List.forall_mem_cons

theorem plain_concat {name : String} {path : List String} (hpath : Plain path)
    (hname : name ∉ descriptorNames) : Plain (path ++ [name]) :=
  List.forall_mem_append.mpr ⟨hpath, List.forall_mem_singleton.mpr hname⟩

theorem walk_cons_object {root ms : Node} {name : String}
    (h : root.lookup name = some (.object ms)) (path : List String) :
    walk root (name :: path) = walk ms path := by
  rw [walk, h]

/-- A path in two parts is walked one part after the other. -/
theorem walk_append (root : Node) (path rest : List String) :
    walk root (path ++ rest) = (walk root path).bind fun ms => walk ms rest := by
  induction path generalizing root with
  | nil => rfl
  | cons name path ih =>
      rw [List.cons_append, walk, walk]
      split
      · next ms h => exact ih ms
      · rfl

@[simp] theorem leaf_nil (root : Node) (x : String) : leaf root [] x = root.lookup x := rfl

/-- What is read along a path is read below its first step. -/
theorem leaf_cons_object {root ms : Node} {name : String}
    (h : root.lookup name = some (.object ms)) (path : List String) (x : String) :
    leaf root (name :: path) x = leaf ms path x := by
  rw [leaf, walk_cons_object h]
  rfl

theorem leaf_empty (path : List String) (x : String) : leaf [] path x = none := by
  cases path with
  | nil => rfl
  | cons name path => rfl

/-- The leaves below a name are those of the object there. -/
theorem leaf_membersAt (root : Node) (name : String) (path : List String) (x : String) :
    leaf (membersAt root name) path x = leaf root (name :: path) x := by
  rw [membersAt]
  split
  · next ms h => rw [leaf_cons_object h]
  · next h =>
      rw [leaf_empty, leaf, walk]
      split
      · next ms hms => exact absurd hms (h ms)
      · rfl

-- ============================================== merging

/-- A member of a merged object: the new one if there is one. -/
theorem lookup_merge {old new : Node} (hnd : (keys new).Nodup) (x : String) :
    (merge old new).lookup x = (new.lookup x).or (old.lookup x) := by
  induction new generalizing old with
  | nil => rfl
  | cons m new ih =>
      obtain ⟨k, v⟩ := m
      rw [keys_cons, List.nodup_cons] at hnd
      show (merge (insertMember k v old) new).lookup x = _
      rw [ih hnd.2, lookup_insertMember]
      by_cases hx : x = k
      · subst hx
        rw [Json.lookup_eq_none hnd.1, if_pos rfl, List.lookup_cons_self]
        rfl
      · rw [if_neg hx, lookup_cons_ne hx]

/-- Merging leaves alone what the new members do not name. -/
theorem lookup_merge_of_notMem {old new : Node} (hnd : (keys new).Nodup) {x : String}
    (hx : x ∉ keys new) : (merge old new).lookup x = old.lookup x := by
  rw [lookup_merge hnd, Json.lookup_eq_none hx]
  rfl

-- ============================================== one placement

/-- What stands at a location is a descriptor: its members are some of
those that descriptors have, none of them twice, and none is an object. -/
structure IsDescriptor (n : Node) : Prop where
  nodup : (keys n).Nodup
  subset : ∀ x ∈ keys n, x ∈ descriptorNames
  flat : ∀ m ∈ n, isRecord m.2 = false

theorem IsDescriptor.notMem {n : Node} (h : IsDescriptor n) {x : String}
    (hx : x ∉ descriptorNames) : x ∉ keys n := fun hmem => hx (h.subset x hmem)

/-- A descriptor merged into an object changes its leaves, and nothing on
the paths below. -/
theorem leaf_merge {old n : Node} (hn : IsDescriptor n) {path : List String} (hp : Plain path)
    (x : String) :
    leaf (merge old n) path x
      = if path = [] then (n.lookup x).or (old.lookup x) else leaf old path x := by
  cases path with
  | nil => rw [leaf_nil, lookup_merge hn.nodup, if_pos rfl]
  | cons name path =>
      rw [if_neg (List.cons_ne_nil _ _), leaf, leaf, walk, walk,
        lookup_merge_of_notMem hn.nodup (hn.notMem (plain_cons.mp hp).1)]

/-- An object put in under another name leaves the members of descriptors
alone. -/
theorem leaf_insertMember_nil {root : Node} {v : Json} {c x : String}
    (hc : c ∉ descriptorNames) (hx : x ∈ descriptorNames) :
    leaf (insertMember c v root) [] x = leaf root [] x := by
  have hne : x ≠ c := by
    rintro rfl
    exact hc hx
  rw [leaf_nil, leaf_nil, lookup_insertMember, if_neg hne]

/-- The paths behind a name at which an object was put in are those of the
object. -/
theorem walk_insertMember_cons (root ms : Node) (c name : String) (path : List String) :
    walk (insertMember c (.object ms) root) (name :: path)
      = if name = c then walk ms path else walk root (name :: path) := by
  by_cases h : name = c
  · subst h
    rw [if_pos rfl, walk_cons_object]
    rw [lookup_insertMember, if_pos rfl]
  · rw [if_neg h, walk, walk, lookup_insertMember, if_neg h]

/-- The leaves behind a name at which an object was put in are those of
the object. -/
theorem leaf_insertMember_cons (root ms : Node) (c name : String) (path : List String)
    (x : String) :
    leaf (insertMember c (.object ms) root) (name :: path) x
      = if name = c then leaf ms path x else leaf root (name :: path) x := by
  rw [leaf, walk_insertMember_cons]
  split <;> rfl

/-- A placement changes the leaves at its own location and no others. -/
theorem leaf_place {key : String} {n : Node} (hn : IsDescriptor n) {x : String}
    (hx : x ∈ descriptorNames) {cs path : List String} (root : Node)
    (hloc : Plain (cs ++ [key])) (hpath : Plain path) :
    leaf (place key n cs root) path x
      = if path = cs ++ [key] then (n.lookup x).or (leaf root path x) else leaf root path x := by
  induction cs generalizing path root with
  | nil =>
      have hkey : key ∉ descriptorNames := (plain_cons.mp hloc).1
      rw [place, List.nil_append]
      cases path with
      | nil => rw [leaf_insertMember_nil hkey hx, if_neg (List.cons_ne_nil _ _).symm]
      | cons name rest =>
          rw [leaf_insertMember_cons]
          by_cases h : name = key
          · subst h
            -- at the key itself: the node is merged into what is there
            rw [if_pos rfl, leaf_merge hn (plain_cons.mp hpath).2, leaf_membersAt]
            cases rest with
            | nil =>
                rw [if_pos rfl, if_pos rfl, ← leaf_nil (membersAt root name), leaf_membersAt]
            | cons next rest => rw [if_neg (List.cons_ne_nil _ _), if_neg (by simp)]
          · rw [if_neg h, if_neg (by simp [h])]
  | cons c cs ih =>
      rw [List.cons_append] at hloc ⊢
      have hc : c ∉ descriptorNames := (plain_cons.mp hloc).1
      rw [place]
      cases path with
      | nil => rw [leaf_insertMember_nil hc hx, if_neg (List.cons_ne_nil _ _).symm]
      | cons name rest =>
          rw [leaf_insertMember_cons]
          by_cases h : name = c
          · subst h
            -- one container further in, the placement goes on there
            rw [if_pos rfl, ih _ (plain_cons.mp hloc).2 (plain_cons.mp hpath).2, leaf_membersAt]
            simp only [List.cons.injEq, true_and]
          · rw [if_neg h, if_neg (by simp [h])]

/-- Below a container, whether it is there or made, the same can be walked. -/
theorem walk_membersAt_cons (root : Node) (c name : String) (path : List String) :
    walk (membersAt root c) (name :: path) = walk root (c :: name :: path) := by
  rw [membersAt, walk.eq_def root]
  dsimp only
  cases root.lookup c with
  | none => rfl
  | some v => cases v <;> rfl

/-- After a placement there is an object on all the way to its location, and
no other object is new. -/
theorem isSome_walk_place {key : String} {n : Node} (hn : IsDescriptor n) {cs path : List String}
    (root : Node) (hloc : Plain (cs ++ [key])) (hpath : Plain path) :
    (walk (place key n cs root) path).isSome = true
      ↔ (walk root path).isSome = true ∨ path <+: cs ++ [key] := by
  induction cs generalizing path root with
  | nil =>
      rw [place, List.nil_append]
      cases path with
      | nil => simp [walk]
      | cons name rest =>
          rw [walk_insertMember_cons]
          by_cases h : name = key
          · subst h
            rw [if_pos rfl]
            cases rest with
            | nil => simp [walk]
            | cons next rest =>
                -- a descriptor has no containers, so further steps are those of what was there
                have hnext : next ∉ keys n := hn.notMem (plain_cons.mp (plain_cons.mp hpath).2).1
                rw [walk, lookup_merge_of_notMem hn.nodup hnext, ← walk, walk_membersAt_cons]
                simp [List.cons_prefix_cons]
          · rw [if_neg h]
            simp [List.cons_prefix_cons, h]
  | cons c cs ih =>
      rw [List.cons_append] at hloc ⊢
      rw [place]
      cases path with
      | nil => simp [walk]
      | cons name rest =>
          rw [walk_insertMember_cons]
          by_cases h : name = c
          · subst h
            rw [if_pos rfl, ih _ (plain_cons.mp hloc).2 (plain_cons.mp hpath).2]
            cases rest with
            | nil => simp [walk, List.cons_prefix_cons]
            | cons next rest =>
                rw [walk_membersAt_cons]
                simp [List.cons_prefix_cons]
          · rw [if_neg h]
            simp [List.cons_prefix_cons, h]

end Sdwan.Feature
