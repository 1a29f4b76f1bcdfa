/-
Values that can be read back from their nodes.

# What a node forgets

The node of an object forgets the order of its members and those that are
not set, and an entry of a tree loses a member that is called like the one
that lists its order. A *tabular* value (`Tabular`) has nothing to forget:
it is a flag, a number, a text, a list of scalars, or a table, which is a
list of records whose members are tabular in turn.

# Why nothing is lost

The kind of a node and the form of its value tell the five sorts of tabular
values apart. Within a sort, the content of the node is the value itself,
but for tables: there the entries list the names of their members, in
order, so a record is found again from its entry (`row_injective`). Hence
tabular values with equal nodes are equal (`node_injective`).
-/
import Mathlib.Data.List.Basic
import Sdwan.Proofs.Feature.Place

namespace Sdwan.Feature

open Json

-- ============================================== scalars

/-- A value without parts, other than `null`. -/
inductive Scalar : Json → Prop where
  | flag (b : Bool) : Scalar (.bool b)
  | number (n : Json.Number) : Scalar (.number n)
  | text (s : String) : Scalar (.string s)

/-- Scalars are equal documents only when they are equal. -/
theorem Scalar.eq_of_same {v w : Json} (hv : Scalar v) (h : Same v w) : v = w := by
  cases hv with
  | flag b => cases h; rfl
  | number n => cases h; rfl
  | text s => cases h; rfl

/-- Lists of scalars are equal documents only when they are equal. -/
theorem array_eq_of_same {xs ys : List Json} (hx : ∀ x ∈ xs, Scalar x)
    (h : Same (.array xs) (.array ys)) : xs = ys := by
  cases h with
  | array length_eq items =>
      refine List.ext_getElem length_eq fun i hi hi' => ?_
      exact (hx _ (List.getElem_mem hi)).eq_of_same (items i hi hi')

/-- Lists of names are equal only as they are. -/
theorem names_eq_of_same {ns ns' : List String} (h : Same (names ns) (names ns')) : ns = ns' := by
  have htext : ∀ x ∈ ns.map Json.string, Scalar x := by
    intro x hx
    obtain ⟨n, -, rfl⟩ := List.mem_map.mp hx
    exact .text n
  have hmap : ns.map Json.string = ns'.map Json.string := array_eq_of_same htext h
  exact List.map_injective_iff.mpr (fun _ _ => Json.string.inj) hmap

-- ============================================== tabular values

/-- Values that can be read back from their nodes. -/
inductive Tabular : Json → Prop where
  | flag (b : Bool) : Tabular (.bool b)
  | number (n : Json.Number) : Tabular (.number n)
  | text (s : String) : Tabular (.string s)
  | list {items : List Json} (scalars : ∀ x ∈ items, Scalar x) : Tabular (.array items)
  | table {rows : List Node} (filled : rows ≠ [])
      (nodup : ∀ r ∈ rows, (keys r).Nodup)
      (unlisted : ∀ r ∈ rows, orderMember ∉ keys r)
      (values : ∀ r ∈ rows, ∀ m ∈ r, Tabular m.2) :
      Tabular (.array (rows.map .object))

/-- Scalars are tabular. -/
theorem Scalar.tabular {v : Json} (h : Scalar v) : Tabular v := by
  cases h with
  | flag b => exact .flag b
  | number n => exact .number n
  | text s => exact .text s

theorem Tabular.isUnset_eq {v : Json} (h : Tabular v) : isUnset v = false := by
  cases h <;> rfl

-- ============================================== nodes by kind

/-- Whether an array is a table. -/
def isTable (items : List Json) : Bool := !items.isEmpty && items.all isRecord

/-- The kind of descriptor that a value becomes. -/
def kindOf : Json → Kind
  | .bool _ => .flag
  | .array items => if isTable items then .tree else .list
  | _ => .object

/-- What the descriptor of a value holds. -/
def content : Json → Json
  | .bool b => .string (if b then "true" else "false")
  | .array items => if isTable items then .array (entries items) else .array items
  | scalar => scalar

/-- The key that the descriptor of a value names. -/
def keyOf : Json → Node
  | .array items => if isTable items then [(primaryKeyMember, names (primaryKey items))] else []
  | _ => []

/-- The node of a value that is no object is a descriptor of its kind. -/
theorem node_eq {v : Json} (h : isRecord v = false) :
    node v = descriptor (kindOf v) (content v) ++ keyOf v := by
  cases v with
  | null => rfl
  | bool b => rfl
  | number n => rfl
  | string s => rfl
  | array items =>
      have htable : (!items.isEmpty && items.all isRecord) = isTable items := rfl
      rw [node, kindOf, content, keyOf, htable]
      cases isTable items with
      | false => rfl
      | true => rfl
  | object ms => cases h

/-- A table becomes a tree that names its key. -/
theorem node_table {items : List Json} (h : isTable items = true) :
    node (.array items) = descriptor .tree (.array (entries items))
      ++ [(primaryKeyMember, names (primaryKey items))] := by
  rw [node_eq rfl, kindOf, content, keyOf, h, if_pos rfl, if_pos rfl, if_pos rfl]

/-- The node of a list that is no table holds the list as it is. -/
theorem node_list {items : List Json} (h : isTable items = false) :
    node (.array items) = descriptor .list (.array items) := by
  rw [node_eq rfl, kindOf, content, keyOf, h]
  rfl

/-- The kinds have different names. -/
theorem Kind.name_injective {k k' : Kind} (h : k.name = k'.name) : k = k' := by
  cases k <;> cases k' <;> first | rfl | exact absurd h (by decide)

/-- Equal nodes are of one kind. -/
theorem kindOf_eq_of_same {v w : Json} (hv : isRecord v = false) (hw : isRecord w = false)
    (h : Same (.object (node v)) (.object (node w))) : kindOf v = kindOf w := by
  have htype : Same (.string (kindOf v).name) (.string (kindOf w).name) := by
    refine h.lookup (k := "vipObjectType") ?_ ?_
    · rw [node_eq hv]
      rfl
    · rw [node_eq hw]
      rfl
  exact Kind.name_injective (Json.string.inj ((Scalar.text _).eq_of_same htype))

/-- Equal nodes have equal contents. -/
theorem content_same {v w : Json} (hv : isRecord v = false) (hw : isRecord w = false)
    (h : Same (.object (node v)) (.object (node w))) : Same (content v) (content w) := by
  refine h.lookup (k := "vipValue") ?_ ?_
  · rw [node_eq hv]
    rfl
  · rw [node_eq hw]
    rfl

/-- A list of scalars is no table. -/
theorem isTable_of_scalars {items : List Json} (h : ∀ x ∈ items, Scalar x) :
    isTable items = false := by
  cases items with
  | nil => rfl
  | cons x items =>
      have hx : isRecord x = false := by
        cases h x List.mem_cons_self <;> rfl
      simp [isTable, hx]

/-- A list of records is one, unless it is empty. -/
theorem isTable_of_rows {rows : List Node} (h : rows ≠ []) :
    isTable (rows.map .object) = true := by
  cases rows with
  | nil => exact absurd rfl h
  | cons r rows => simp [isTable, isRecord]

theorem Tabular.isRecord_eq {v : Json} (h : Tabular v) : isRecord v = false := by
  cases h <;> rfl

/-- The node of a value that is no object can stand at a location. -/
theorem isDescriptor_node {v : Json} (h : isRecord v = false) : IsDescriptor (node v) := by
  have hcontent : isRecord (content v) = false := by
    cases v with
    | null | bool b | number n | string s => rfl
    | array items =>
        rw [content]
        split <;> rfl
    | object ms => cases h
  -- three members, and a fourth one for tables that have a key
  have hkey : keyOf v = [] ∨ ∃ ns, keyOf v = [(primaryKeyMember, names ns)] := by
    cases v with
    | null | bool b | number n | string s | object ms => exact Or.inl rfl
    | array items =>
        rw [keyOf]
        split
        · exact Or.inr ⟨_, rfl⟩
        · exact Or.inl rfl
  have hflat : ∀ m ∈ descriptor (kindOf v) (content v), isRecord m.2 = false := by
    simp only [descriptor, List.forall_mem_cons]
    exact ⟨rfl, rfl, hcontent, List.forall_mem_nil _⟩
  rw [node_eq h]
  rcases hkey with hkey | ⟨ns, hkey⟩
  · rw [hkey, List.append_nil]
    refine ⟨?_, ?_, hflat⟩
    · exact (by decide : ["vipObjectType", "vipType", "vipValue"].Nodup)
    · exact (by decide : ∀ x ∈ ["vipObjectType", "vipType", "vipValue"], x ∈ descriptorNames)
  · rw [hkey]
    refine ⟨?_, fun x hx => hx, ?_⟩
    · exact (by decide : descriptorNames.Nodup)
    · exact List.forall_mem_append.mpr ⟨hflat, List.forall_mem_singleton.mpr rfl⟩

/-- The node of a tabular value is a descriptor: the value is no object. -/
theorem Tabular.isDescriptor {v : Json} (h : Tabular v) : IsDescriptor (node v) :=
  isDescriptor_node h.isRecord_eq

-- ============================================== entries of tables

/-- The entries of a table, one for each row. -/
theorem entries_rows (rows : List Node) :
    entries (rows.map .object) = rows.map fun r => .object (ordered (container r)) := by
  induction rows with
  | nil => rfl
  | cons r rows ih => rw [List.map_cons, entries, ih, List.map_cons]

/-- A container of members that are all set has all their names. -/
theorem keys_container {r : Node} (h : ∀ m ∈ r, isUnset m.2 = false) :
    keys (container r) = keys r := by
  induction r with
  | nil => rw [container]
  | cons m r ih =>
      obtain ⟨k, v⟩ := m
      have hhead := List.forall_mem_cons.mp h
      rw [container, if_neg (by rw [hhead.1]; exact Bool.false_ne_true), keys_cons, keys_cons,
        ih hhead.2]

/-- A member of a container is the node of the member of its name. -/
theorem mem_container {r : Node} (h : ∀ m ∈ r, isUnset m.2 = false) {k : String} {v : Json}
    (hv : (k, v) ∈ r) : (k, .object (node v)) ∈ container r := by
  induction r with
  | nil => cases hv
  | cons m r ih =>
      obtain ⟨k', v'⟩ := m
      have hhead := List.forall_mem_cons.mp h
      rw [container, if_neg (by rw [hhead.1]; exact Bool.false_ne_true)]
      rcases List.mem_cons.mp hv with heq | hv
      · obtain ⟨rfl, rfl⟩ := Prod.mk.inj heq
        exact List.mem_cons_self
      · exact List.mem_cons_of_mem _ (ih hhead.2 hv)

/-- An entry lists the names of its members. -/
theorem lookup_ordered_order (n : Node) :
    (ordered n).lookup orderMember = some (names (keys n)) := by
  rw [ordered, lookup_insertMember, if_pos rfl]
  rfl

/-- The other members of an entry are those of the container. -/
theorem lookup_ordered {n : Node} {k : String} (h : k ≠ orderMember) :
    (ordered n).lookup k = n.lookup k := by
  rw [ordered, lookup_insertMember, if_neg h]

/-- A record is found again from its entry, if its values are found again
from their nodes. -/
theorem row_injective {r r' : Node} (hset : ∀ m ∈ r, isUnset m.2 = false)
    (hset' : ∀ m ∈ r', isUnset m.2 = false) (hnd : (keys r).Nodup) (hnd' : (keys r').Nodup)
    (horder : orderMember ∉ keys r)
    (hvalues : ∀ k v w, (k, v) ∈ r → (k, w) ∈ r' →
      Same (.object (node v)) (.object (node w)) → v = w)
    (h : Same (.object (ordered (container r))) (.object (ordered (container r')))) : r = r' := by
  have hnames := h.lookup (lookup_ordered_order _) (lookup_ordered_order _)
  have hkeys : keys r = keys r' := by
    rw [← keys_container hset, ← keys_container hset']
    exact names_eq_of_same hnames
  refine eq_of_keys_eq hkeys hnd fun k v w hv hw => hvalues k v w hv hw ?_
  have hk : k ≠ orderMember := by
    rintro rfl
    exact horder (List.mem_map_of_mem hv)
  have hcnd : (keys (container r)).Nodup := by rwa [keys_container hset]
  have hcnd' : (keys (container r')).Nodup := by rwa [keys_container hset']
  refine h.lookup (k := k) ?_ ?_
  · rw [lookup_ordered hk]
    exact lookup_of_mem hcnd (mem_container hset hv)
  · rw [lookup_ordered hk]
    exact lookup_of_mem hcnd' (mem_container hset' hw)

-- ============================================== reading back

/-- The content of an object descriptor is the value. -/
theorem content_of_object {v : Json} (h : kindOf v = .object) : content v = v := by
  cases v with
  | bool b => cases h
  | array items =>
      rw [kindOf] at h
      split at h <;> cases h
  | null | number n | string s | object ms => rfl

/-- The sort of a tabular value, by the kind of its node. -/
theorem Tabular.of_kind {v : Json} (h : Tabular v) :
    match kindOf v with
    | .flag => ∃ b, v = .bool b
    | .object => Scalar v
    | .list => content v = v
    | .tree => ∃ rows, rows ≠ [] ∧ v = .array (rows.map .object)
        ∧ (∀ r ∈ rows, (keys r).Nodup) ∧ ∀ r ∈ rows, ∀ m ∈ r, Tabular m.2 := by
  cases h with
  | flag b => exact ⟨b, rfl⟩
  | number n => exact .number n
  | text s => exact .text s
  | list scalars =>
      rw [kindOf, content, isTable_of_scalars scalars]
      rfl
  | table filled nodup unlisted values =>
      rw [kindOf, isTable_of_rows filled]
      exact ⟨_, filled, rfl, nodup, values⟩

/-- Tabular values with equal nodes are equal. -/
theorem node_injective {v w : Json} (hv : Tabular v) (hw : Tabular w)
    (h : Same (.object (node v)) (.object (node w))) : v = w := by
  induction hv generalizing w with
  | flag b =>
      have hkind : .flag = kindOf w := kindOf_eq_of_same rfl hw.isRecord_eq h
      have hsort := hw.of_kind
      rw [← hkind] at hsort
      obtain ⟨b', rfl⟩ := hsort
      have htext := (Scalar.text _).eq_of_same (content_same rfl rfl h)
      cases b <;> cases b' <;> first | rfl | exact absurd (Json.string.inj htext) (by decide)
  | number n =>
      have hkind : .object = kindOf w := kindOf_eq_of_same rfl hw.isRecord_eq h
      have hcontent := content_same rfl hw.isRecord_eq h
      rw [content_of_object hkind.symm] at hcontent
      exact (Scalar.number n).eq_of_same hcontent
  | text s =>
      have hkind : .object = kindOf w := kindOf_eq_of_same rfl hw.isRecord_eq h
      have hcontent := content_same rfl hw.isRecord_eq h
      rw [content_of_object hkind.symm] at hcontent
      exact (Scalar.text s).eq_of_same hcontent
  | @list items scalars =>
      have hlist : kindOf (.array items) = .list := by
        rw [kindOf, isTable_of_scalars scalars]
        rfl
      have hkind := kindOf_eq_of_same rfl hw.isRecord_eq h
      have hsort := hw.of_kind
      rw [← hkind, hlist] at hsort
      have hcontent := content_same rfl hw.isRecord_eq h
      rw [content, isTable_of_scalars scalars, hsort] at hcontent
      cases hcontent with
      | array length_eq same => exact congrArg _ (array_eq_of_same scalars (.array length_eq same))
  | @table rows filled nodup unlisted values ih =>
      have htree : kindOf (.array (rows.map .object)) = .tree := by
        rw [kindOf, isTable_of_rows filled]
        rfl
      have hkind := kindOf_eq_of_same rfl hw.isRecord_eq h
      have hsort := hw.of_kind
      rw [← hkind, htree] at hsort
      obtain ⟨rows', filled', rfl, nodup', values'⟩ := hsort
      have hcontent := content_same rfl rfl h
      rw [content, content, isTable_of_rows filled, isTable_of_rows filled', if_pos rfl,
        if_pos rfl, entries_rows, entries_rows] at hcontent
      have hrows : rows = rows' := by
        cases hcontent with
        | array length_eq same =>
            rw [List.length_map, List.length_map] at length_eq
            refine List.ext_getElem length_eq fun i hi hi' => ?_
            have hr : rows[i] ∈ rows := List.getElem_mem hi
            have hr' : rows'[i] ∈ rows' := List.getElem_mem hi'
            have hrow := same i (by rwa [List.length_map]) (by rwa [List.length_map])
            rw [List.getElem_map, List.getElem_map] at hrow
            exact row_injective (fun m hm => (values _ hr m hm).isUnset_eq)
              (fun m hm => (values' _ hr' m hm).isUnset_eq) (nodup _ hr) (nodup' _ hr')
              (unlisted _ hr)
              (fun k v w hv hw hsame => ih _ hr _ hv (values' _ hr' _ hw) hsame) hrow
      rw [hrows]

end Sdwan.Feature
