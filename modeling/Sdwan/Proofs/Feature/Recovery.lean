/-
Values that their nodes determine.

# What a node drops

A container has no place for a member that is `null`, and an entry of a tree
loses a member that is called like the one that lists the others. A value
that has neither, at any depth, is *recoverable* (`Recoverable`). It may be
any other document: lists in lists, empty lists and objects, `null` on its
own, and members that are called like those of descriptors.

# Why nothing else is lost

The members of a container are objects, and what stands at the kind of a
descriptor is a text, so the two are told apart whatever the members are
called (`isRecord_eq_of_same`). The kind tells descriptors apart. What a
descriptor holds is the value itself, or its flag in words, or the entries of
a table; and an entry without its list of names is the container of the record
(`same_container_of_entry`). So containers and entries lead to the same claim
for the values in them, and it holds by induction (`same_of_node`).

Documents are compared without the order of their members; for tabular values
the order comes back as well (`node_injective`).
-/
import Mathlib.Data.Set.List
import Sdwan.Proofs.Feature.Keyed
import Sdwan.Proofs.Json.Draft

namespace Sdwan.Feature

open Json

-- ============================================== parts of documents

/-- No object in a part of a document repeats a name if none in the document
does. -/
theorem proper_of_occurs {part v : Json} (h : Occurs part v) (hv : Proper v) : Proper part := by
  induction h with
  | here => exact hv
  | item mem _ ih =>
      cases hv with
      | array items => exact ih (items _ mem)
  | member mem _ ih =>
      cases hv with
      | object _ members => exact ih (members _ mem)

/-- A document of which a node drops nothing. -/
structure Recoverable (v : Json) : Prop where
  /-- No object repeats a name. -/
  proper : Proper v
  /-- No member of an object is `null`. -/
  set : ∀ ms, Occurs (.object ms) v → ∀ m ∈ ms, m.2 ≠ .null
  /-- No record in a list of records has a member called like the one that
  lists the others. -/
  unlisted : ∀ items, Occurs (.array items) v → (∀ x ∈ items, isRecord x = true) →
    ∀ r, .object r ∈ items → orderMember ∉ keys r

namespace Recoverable

variable {v : Json} {ms r : Node} {items : List Json}

/-- A part of such a document is one as well: its items, and the values of its
members. -/
theorem of_occurs {part : Json} (h : Recoverable v) (hpart : Occurs part v) :
    Recoverable part where
  proper := proper_of_occurs hpart h.proper
  set ms hms := h.set ms (hms.trans hpart)
  unlisted items hitems := h.unlisted items (hitems.trans hpart)

theorem item (h : Recoverable (.array items)) {x : Json} (hx : x ∈ items) : Recoverable x :=
  h.of_occurs (.item hx .here)

theorem member (h : Recoverable (.object ms)) {m : String × Json} (hm : m ∈ ms) :
    Recoverable m.2 :=
  h.of_occurs (.member hm .here)

/-- All members are set, so a container keeps them. -/
theorem isUnset_eq (h : Recoverable (.object ms)) : ∀ m ∈ ms, isUnset m.2 = false := by
  intro m hm
  have hset := h.set ms .here m hm
  cases hv : m.2 <;> first | rfl | exact absurd hv hset

/-- The records of a recoverable list of records. -/
theorem row {rows : List Node} (h : Recoverable (.array (rows.map .object))) :
    ∀ r ∈ rows, Recoverable (.object r) ∧ orderMember ∉ keys r := by
  intro r hr
  have hmem : Json.object r ∈ rows.map .object := List.mem_map_of_mem hr
  refine ⟨h.item hmem, h.unlisted _ .here ?_ r hmem⟩
  intro x hx
  obtain ⟨r', -, rfl⟩ := List.mem_map.mp hx
  rfl

/-- A value without parts. -/
theorem leaf (hproper : Proper v) (hrecord : isRecord v = false)
    (harray : ∀ items, v ≠ .array items) : Recoverable v where
  proper := hproper
  set ms hms := by
    cases hms with
    | here => cases hrecord
    | item => exact absurd rfl (harray _)
    | member => cases hrecord
  unlisted items hitems := by
    cases hitems with
    | here => exact absurd rfl (harray _)
    | item => exact absurd rfl (harray _)
    | member => cases hrecord

/-- A list of such documents is one, unless records of a table have the member that
lists the others. -/
theorem list (h : ∀ x ∈ items, Recoverable x)
    (hunlisted : (∀ x ∈ items, isRecord x = true) →
      ∀ r, .object r ∈ items → orderMember ∉ keys r) : Recoverable (.array items) where
  proper := .array fun x hx => (h x hx).proper
  set ms hms := by
    cases hms with
    | item hx hms => exact (h _ hx).set ms hms
  unlisted items' hitems := by
    cases hitems with
    | here => exact hunlisted
    | item hx hitems => exact (h _ hx).unlisted items' hitems

/-- An object of such documents is one if no member is null and no name repeated. -/
theorem object (hnd : (keys ms).Nodup) (h : ∀ m ∈ ms, m.2 ≠ .null ∧ Recoverable m.2) :
    Recoverable (.object ms) where
  proper := .object hnd fun m hm => (h m hm).2.proper
  set ms' hms := by
    cases hms with
    | here => exact fun m hm => (h m hm).1
    | member hm hms => exact (h _ hm).2.set ms' hms
  unlisted items hitems := by
    cases hitems with
    | member hm hitems => exact (h _ hm).2.unlisted items hitems

end Recoverable

/-- A flag, a number and a text have no parts to lose. -/
theorem Scalar.recoverable {v : Json} (h : Scalar v) : Recoverable v := by
  cases h with
  | flag b => exact .leaf (.bool b) rfl nofun
  | number n => exact .leaf (.number n) rfl nofun
  | text s => exact .leaf (.string s) rfl nofun

/-- A tabular value has nothing to drop. -/
theorem Tabular.recoverable {v : Json} (h : Tabular v) : Recoverable v := by
  induction h with
  | flag b => exact (Scalar.flag b).recoverable
  | number n => exact (Scalar.number n).recoverable
  | text s => exact (Scalar.text s).recoverable
  | list scalars =>
      refine .list (fun x hx => (scalars x hx).recoverable) fun _ r hr => ?_
      cases scalars _ hr
  | @table rows _ nodup unlisted values ih =>
      refine .list (fun x hx => ?_) fun _ r hr => ?_
      -- the values of a tabular record are set, so none of them is null
      · obtain ⟨r, hr, rfl⟩ := List.mem_map.mp hx
        refine .object (nodup r hr) fun m hm => ⟨fun hnull => ?_, ih r hr m hm⟩
        have hset := (values r hr m hm).isUnset_eq
        rw [hnull] at hset
        cases hset
      · obtain ⟨r', hr', heq⟩ := List.mem_map.mp hr
        exact Json.object.inj heq ▸ unlisted r' hr'

-- ============================================== containers

/-- What a container has at a name is the node of the member there. -/
theorem lookup_container {ms : Node} (h : ∀ m ∈ ms, isUnset m.2 = false) (k : String) :
    (container ms).lookup k = (ms.lookup k).map fun v => .object (node v) := by
  induction ms with
  | nil =>
      rw [container]
      rfl
  | cons m ms ih =>
      obtain ⟨name, v⟩ := m
      obtain ⟨hm, hms⟩ := List.forall_mem_cons.mp h
      rw [container, if_neg (Bool.eq_false_iff.mp hm)]
      by_cases hk : k = name
      · subst hk
        rw [List.lookup_cons_self, List.lookup_cons_self, Option.map_some]
      · rw [lookup_cons_ne hk, lookup_cons_ne hk, ih hms]

/-- Objects with equal containers are equal documents, as far as values with
equal nodes are. -/
theorem same_of_container {ms ns : Node} (hms : ∀ m ∈ ms, isUnset m.2 = false)
    (hns : ∀ m ∈ ns, isUnset m.2 = false)
    (hvalues : ∀ k v w, ms.lookup k = some v → ns.lookup k = some w →
      Same (.object (node v)) (.object (node w)) → Same v w)
    (h : Same (.object (container ms)) (.object (container ns))) :
    Same (.object ms) (.object ns) := by
  cases h with
  | object names members =>
      refine .object (fun k => ?_) fun k v w hv hw => hvalues k v w hv hw ?_
      · have hk := names k
        rwa [lookup_container hms, lookup_container hns, Option.isSome_map, Option.isSome_map]
          at hk
      · refine members k _ _ ?_ ?_
        · rw [lookup_container hms, hv, Option.map_some]
        · rw [lookup_container hns, hw, Option.map_some]

/-- Equal entries are equal without their lists of names. -/
theorem same_container_of_entry {n n' : Node} (hn : orderMember ∉ keys n)
    (hn' : orderMember ∉ keys n') (h : Same (.object (ordered n)) (.object (ordered n'))) :
    Same (.object n) (.object n') := by
  cases h with
  | object names members =>
      refine .object (fun k => ?_) fun k v w hv hw => ?_
      · by_cases hk : k = orderMember
        · rw [hk, Json.lookup_eq_none hn, Json.lookup_eq_none hn']
        · have hnames := names k
          rwa [lookup_ordered hk, lookup_ordered hk] at hnames
      · have hk : k ≠ orderMember := by
          rintro rfl
          exact hn (mem_keys_of_lookup hv)
        exact members k v w ((lookup_ordered hk).trans hv) ((lookup_ordered hk).trans hw)

-- ============================================== containers and descriptors

/-- A descriptor is not the container of any object: its kind is a text. -/
theorem not_same_container {v : Json} {ms : Node} (hv : isRecord v = false) :
    ¬ Same (.object (node v)) (.object (container ms)) := by
  intro h
  have hkind : (node v).lookup "vipObjectType" = some (.string (kindOf v).name) := by
    rw [node_eq hv]
    rfl
  obtain ⟨x, hx, hsame⟩ := h.exists_lookup hkind
  obtain ⟨m, -, hm⟩ := exists_of_mem_container (mem_of_lookup hx)
  obtain rfl : x = .object (node m.2) := congrArg Prod.snd hm
  cases hsame

/-- Only the node of an object is equal to that of an object. -/
theorem isRecord_of_same {v w : Json} (h : Same (.object (node v)) (.object (node w)))
    (hv : isRecord v = true) : isRecord w = true := by
  cases v with
  | object ms =>
      rw [node] at h
      by_contra hw
      exact not_same_container (Bool.eq_false_iff.mpr hw) h.symm
  | _ => cases hv

/-- The node of a record is a container, that of anything else a descriptor, and
these are not equal. -/
theorem isRecord_eq_of_same {v w : Json} (h : Same (.object (node v)) (.object (node w))) :
    isRecord v = isRecord w :=
  Bool.eq_iff_iff.mpr ⟨isRecord_of_same h, isRecord_of_same h.symm⟩

-- ============================================== descriptors by kind

/-- Only flags have the kind of flags. -/
theorem exists_bool_of_kind {v : Json} (h : kindOf v = .flag) : ∃ b, v = .bool b := by
  cases v with
  | bool b => exact ⟨b, rfl⟩
  | array items =>
      rw [kindOf] at h
      split at h <;> cases h
  | _ => cases h

/-- What becomes a tree is a list of records. -/
theorem exists_rows_of_kind {v : Json} (h : kindOf v = .tree) :
    ∃ rows : List Node, rows ≠ [] ∧ v = .array (rows.map .object) := by
  cases v with
  | array items =>
      rw [kindOf] at h
      split at h
      · next htable =>
          rw [isTable, Bool.and_eq_true, List.all_eq_true] at htable
          obtain ⟨hne, hall⟩ := htable
          -- the kind of trees is given to lists of objects only, so the list is one of rows
          have hrange : items ∈ Set.range (List.map Json.object) := by
            rw [Set.range_list_map]
            intro x hx
            have hrecord := hall x hx
            cases x with
            | object ms => exact Set.mem_range_self ms
            | _ => cases hrecord
          obtain ⟨rows, rfl⟩ := hrange
          refine ⟨rows, ?_, rfl⟩
          rintro rfl
          cases hne
      · cases h
  | _ => cases h

/-- Any other descriptor but that of a flag holds the value itself. -/
theorem content_eq {v : Json} (hflag : kindOf v ≠ .flag) (htree : kindOf v ≠ .tree) :
    content v = v := by
  cases v with
  | bool b => exact absurd rfl hflag
  | array items =>
      rw [content]
      rw [kindOf] at htree
      split
      · next htable => exact absurd (if_pos htable) htree
      · rfl
  | _ => rfl

/-- Values that are no objects and do not become trees are equal documents if
their nodes are. -/
theorem same_of_descriptor {v w : Json} (hv : isRecord v = false) (hw : isRecord w = false)
    (htree : kindOf v ≠ .tree) (h : Same (.object (node v)) (.object (node w))) : Same v w := by
  have hkind := kindOf_eq_of_same hv hw h
  have hcontent := content_same hv hw h
  by_cases hflag : kindOf v = .flag
  · obtain ⟨b, rfl⟩ := exists_bool_of_kind hflag
    obtain ⟨b', rfl⟩ := exists_bool_of_kind (hkind ▸ hflag)
    have htext := Json.string.inj ((Scalar.text _).eq_of_same hcontent)
    cases b <;> cases b' <;> first | exact .bool _ | exact absurd htext (by decide)
  · rwa [content_eq hflag htree, content_eq (hkind ▸ hflag) (hkind ▸ htree)] at hcontent

-- ============================================== trees

/-- Lists of records with equal entries are equal documents, as far as records
with equal nodes are. -/
theorem same_of_entries {rows rows' : List Node}
    (hrows : ∀ r ∈ rows, Recoverable (.object r) ∧ orderMember ∉ keys r)
    (hrows' : ∀ r ∈ rows', Recoverable (.object r) ∧ orderMember ∉ keys r)
    (hrecords : ∀ r ∈ rows, ∀ r' ∈ rows',
      Same (.object (node (.object r))) (.object (node (.object r'))) →
        Same (.object r) (.object r'))
    (h : Same (.array (entries (rows.map .object))) (.array (entries (rows'.map .object)))) :
    Same (.array (rows.map .object)) (.array (rows'.map .object)) := by
  -- the member that lists the names is not one of the record's own
  have hnew : ∀ {r : Node}, Recoverable (.object r) ∧ orderMember ∉ keys r →
      orderMember ∉ keys (container r) := by
    intro r hr
    rw [keys_container hr.1.isUnset_eq]
    exact hr.2
  rw [entries_rows, entries_rows] at h
  cases h with
  | array length_eq items =>
      simp only [List.length_map] at length_eq items
      refine .array (by simpa using length_eq) fun i hi hi' => ?_
      rw [List.length_map] at hi hi'
      have hr : rows[i] ∈ rows := List.getElem_mem hi
      have hr' : rows'[i] ∈ rows' := List.getElem_mem hi'
      have hentry := items i hi hi'
      rw [List.getElem_map, List.getElem_map] at hentry ⊢
      refine hrecords _ hr _ hr' ?_
      rw [node, node]
      exact same_container_of_entry (hnew (hrows _ hr)) (hnew (hrows' _ hr')) hentry

-- ============================================== values from their nodes

/-- Recoverable values with equal nodes are equal: no two of them meet in one
node, whatever their members are called and however lists and objects are
nested. The order of members does not count. -/
theorem same_of_node {v w : Json} (hv : Recoverable v) (hw : Recoverable w)
    (h : Same (.object (node v)) (.object (node w))) : Same v w := by
  have hproper := hv.proper
  -- by induction on the value; the node tells what the other one has to be
  induction hproper generalizing w with
  | null | bool b | number n | string s =>
      have hrecord : isRecord w = false := (isRecord_eq_of_same h).symm
      exact same_of_descriptor rfl hrecord nofun h
  | @array items _ ih =>
      have hrecord : isRecord w = false := (isRecord_eq_of_same h).symm
      by_cases htree : kindOf (.array items) = .tree
      · obtain ⟨rows, hne, heq⟩ := exists_rows_of_kind htree
        obtain rfl := Json.array.inj heq
        obtain ⟨rows', hne', rfl⟩ := exists_rows_of_kind (kindOf_eq_of_same rfl hrecord h ▸ htree)
        have hcontent := content_same rfl rfl h
        rw [content, content, isTable_of_rows hne, isTable_of_rows hne', if_pos rfl, if_pos rfl]
          at hcontent
        refine same_of_entries hv.row hw.row (fun r hr r' hr' hsame => ?_) hcontent
        exact ih _ (List.mem_map_of_mem hr) (hv.row r hr).1 (hw.row r' hr').1 hsame
      · exact same_of_descriptor rfl hrecord htree h
  | @object ms _ _ ih =>
      have hrecord : isRecord w = true := (isRecord_eq_of_same h).symm
      cases w with
      | object ns =>
          rw [node, node] at h
          refine same_of_container hv.isUnset_eq hw.isUnset_eq (fun k a b ha hb hsame => ?_) h
          have hma := mem_of_lookup ha
          exact ih _ hma (hv.member hma) (hw.member (mem_of_lookup hb)) hsame
      | _ => cases hrecord

/-- Members that are called like those of a descriptor, and hold what a
descriptor would: the kind of a tree, and records for entries. -/
def disguised : Node :=
  [("vipObjectType", .string "tree"),
    ("vipValue", .array [.object [("vipValue", .array []), ("on", .bool true)], .object []])]

/-- Its members are set, and none of them has anything to lose. -/
theorem recoverable_disguised : ∀ m ∈ disguised, m.2 ≠ .null ∧ Recoverable m.2 := by
  have htable : Tabular (.array
      ([[("vipValue", .array []), ("on", .bool true)], []].map Json.object)) := by
    refine .table (List.cons_ne_nil _ _) (by decide) (by decide) ?_
    simp only [List.forall_mem_cons]
    exact ⟨⟨.list (List.forall_mem_nil _), .flag true, List.forall_mem_nil _⟩,
      List.forall_mem_nil _, List.forall_mem_nil _⟩
  refine List.forall_mem_cons.mpr ⟨⟨nofun, (Tabular.text _).recoverable⟩, ?_⟩
  exact List.forall_mem_singleton.mpr ⟨nofun, htable.recoverable⟩

/-- In another order they have an equal node, which stands for equal values. -/
theorem same_of_node_disguised :
    Recoverable (.object disguised) ∧ Recoverable (.object disguised.reverse)
      ∧ Same (.object (node (.object disguised))) (.object (node (.object disguised.reverse)))
      ∧ Same (.object disguised) (.object disguised.reverse) := by
  have hv : Recoverable (.object disguised) := .object (by decide) recoverable_disguised
  have hw : Recoverable (.object disguised.reverse) :=
    .object (by decide) fun m hm => recoverable_disguised m (List.mem_reverse.mp hm)
  have hlookup : ∀ k, (container disguised).lookup k = (container disguised.reverse).lookup k := by
    intro k
    rw [lookup_container hv.isUnset_eq, lookup_container hw.isUnset_eq]
    by_cases hk : k = "vipObjectType"
    · subst hk
      rfl
    · simp [disguised, List.lookup_cons, beq_eq_false_iff_ne.mpr hk]
  have hnode : Same (.object (node (.object disguised)))
      (.object (node (.object disguised.reverse))) := by
    rw [node, node]
    refine .object (fun k => by rw [hlookup]) fun k a b ha hb => ?_
    rw [hlookup, hb] at ha
    obtain rfl := Option.some.inj ha
    exact .refl _
  exact ⟨hv, hw, hnode, same_of_node hv hw hnode⟩

-- what is not recoverable can meet with another value
example : node (.object [("vpn", .null)]) = node (.object []) := by rfl

example : node (.array [.object [(orderMember, .bool true)]])
    = node (.array [.object [(orderMember, .bool false)]]) := by rfl

end Sdwan.Feature
