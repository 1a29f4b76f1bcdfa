/-
Objects as their readers see them: by the names of their members.

The first part says what `insertMember` does to a look-up. The second is
about *equal documents* (`Same`): a document is read by names and by
positions, so two of them are equal when their arrays agree item by item
and their objects member by member, in whatever order the members stand.
-/
import Sdwan.Json.Basic

namespace Sdwan.Json

variable {α : Type}

-- ============================================== members by name

/-- The names of the members of an object, in order. -/
def keys (ms : List (String × α)) : List String := ms.map Prod.fst

@[simp] theorem keys_cons (m : String × α) (ms : List (String × α)) :
    keys (m :: ms) = m.1 :: keys ms := rfl

@[simp] theorem keys_append (ms ns : List (String × α)) :
    keys (ms ++ ns) = keys ms ++ keys ns := List.map_append

theorem lookup_cons_ne {j k : String} (h : j ≠ k) (v : α) (ms : List (String × α)) :
    List.lookup j ((k, v) :: ms) = List.lookup j ms := by
  rw [List.lookup_cons, beq_eq_false_iff_ne.mpr h]

theorem lookup_eq_none {k : String} {ms : List (String × α)} (h : k ∉ keys ms) :
    ms.lookup k = none := by
  rw [List.lookup_eq_none_iff]
  intro m hm
  rw [bne_iff_ne]
  rintro rfl
  exact h (List.mem_map_of_mem hm)

/-- What is not in the first part is found in the second. -/
theorem lookup_append_right {k : String} {ms ns : List (String × α)} (h : k ∉ keys ms) :
    (ms ++ ns).lookup k = ns.lookup k := by
  rw [List.lookup_append, lookup_eq_none h, Option.none_or]

/-- What is not in the second part is found in the first. -/
theorem lookup_append_left {k : String} {ms ns : List (String × α)} (h : k ∉ keys ns) :
    (ms ++ ns).lookup k = ms.lookup k := by
  rw [List.lookup_append, lookup_eq_none h, Option.or_none]

theorem mem_of_lookup {k : String} {v : α} {ms : List (String × α)}
    (h : ms.lookup k = some v) : (k, v) ∈ ms := by
  obtain ⟨before, behind, rfl, -⟩ := List.lookup_eq_some_iff.mp h
  exact List.mem_append_right _ List.mem_cons_self

theorem mem_keys_of_lookup {k : String} {v : α} {ms : List (String × α)}
    (h : ms.lookup k = some v) : k ∈ keys ms := List.mem_map_of_mem (mem_of_lookup h)

theorem isSome_lookup {k : String} {ms : List (String × α)} (h : k ∈ keys ms) :
    (ms.lookup k).isSome = true := by
  obtain ⟨m, hm, rfl⟩ := List.mem_map.mp h
  rw [← Option.ne_none_iff_isSome]
  intro hnone
  have hne := List.lookup_eq_none_iff.mp hnone m hm
  rw [bne_self_eq_false] at hne
  cases hne

/-- The names are those that are found. -/
theorem mem_keys_iff {k : String} {ms : List (String × α)} :
    k ∈ keys ms ↔ (ms.lookup k).isSome = true := by
  refine ⟨isSome_lookup, fun h => ?_⟩
  obtain ⟨v, hv⟩ := Option.isSome_iff_exists.mp h
  exact mem_keys_of_lookup hv

/-- Every member is found when no two share a name. -/
theorem lookup_of_mem {ms : List (String × α)} (hnd : (keys ms).Nodup) {m : String × α}
    (hm : m ∈ ms) : ms.lookup m.1 = some m.2 := by
  induction ms with
  | nil => cases hm
  | cons m' ms ih =>
      rw [keys_cons, List.nodup_cons] at hnd
      rcases List.mem_cons.mp hm with rfl | hm
      · exact List.lookup_cons_self
      · have hne : m.1 ≠ m'.1 := by
          intro h
          exact hnd.1 (h ▸ List.mem_map_of_mem hm)
        rw [lookup_cons_ne hne]
        exact ih hnd.2 hm

/-- A name whose members are kept is found as before. -/
theorem lookup_filter {keep : String × α → Bool} {k : String} {ms : List (String × α)}
    (h : ∀ m ∈ ms, m.1 = k → keep m = true) : (ms.filter keep).lookup k = ms.lookup k := by
  induction ms with
  | nil => rfl
  | cons m ms ih =>
      obtain ⟨hm, hms⟩ := List.forall_mem_cons.mp h
      by_cases hk : m.1 = k
      · subst hk
        rw [List.filter_cons_of_pos (hm rfl), List.lookup_cons_self, List.lookup_cons_self]
      · rw [lookup_cons_ne (Ne.symm hk), ← ih hms, List.filter_cons]
        split
        · exact lookup_cons_ne (Ne.symm hk) _ _
        · rfl

/-- Two objects with the same names in the same order, none twice, are
equal when their members are equal name by name. -/
theorem eq_of_keys_eq {ms ns : List (String × α)} (hk : keys ms = keys ns)
    (hnd : (keys ms).Nodup)
    (h : ∀ k v w, (k, v) ∈ ms → (k, w) ∈ ns → v = w) : ms = ns := by
  induction ms generalizing ns with
  | nil =>
      cases ns with
      | nil => rfl
      | cons n ns => cases hk
  | cons m ms ih =>
      cases ns with
      | nil => cases hk
      | cons n ns =>
          obtain ⟨k, v⟩ := m
          obtain ⟨k', w⟩ := n
          rw [keys_cons, keys_cons, List.cons.injEq] at hk
          obtain ⟨rfl, hk⟩ := hk
          rw [keys_cons, List.nodup_cons] at hnd
          rw [h k v w List.mem_cons_self List.mem_cons_self,
            ih hk hnd.2 fun k v w hv hw =>
              h k v w (List.mem_cons_of_mem _ hv) (List.mem_cons_of_mem _ hw)]

-- ============================================== putting members in

/-- A member that was put in is found, and the others are found as
before. -/
theorem lookup_insertMember (k : String) (v : α) (ms : List (String × α)) (j : String) :
    (insertMember k v ms).lookup j = if j = k then some v else ms.lookup j := by
  induction ms with
  | nil =>
      by_cases h : j = k
      · subst h
        rw [insertMember, List.lookup_cons_self, if_pos rfl]
      · rw [insertMember, lookup_cons_ne h, if_neg h]
  | cons m ms ih =>
      obtain ⟨k', v'⟩ := m
      rw [insertMember]
      by_cases hk : k' = k
      · subst hk
        rw [if_pos (beq_self_eq_true _)]
        by_cases h : j = k'
        · subst h
          rw [List.lookup_cons_self, if_pos rfl]
        · rw [lookup_cons_ne h, lookup_cons_ne h, if_neg h]
      -- another member stays in front, and the new one is set further on
      · rw [if_neg (by simpa using hk)]
        by_cases h : j = k'
        · subst h
          rw [List.lookup_cons_self, List.lookup_cons_self, if_neg hk]
        · rw [lookup_cons_ne h, lookup_cons_ne h, ih]

/-- A name that is there keeps its position, and a new one comes last. -/
theorem keys_insertMember (k : String) (v : α) (ms : List (String × α)) :
    keys (insertMember k v ms) = if k ∈ keys ms then keys ms else keys ms ++ [k] := by
  induction ms with
  | nil => rfl
  | cons m ms ih =>
      obtain ⟨k', v'⟩ := m
      rw [insertMember]
      by_cases hk : k' = k
      · subst hk
        have hmem : k' ∈ keys ((k', v') :: ms) := List.mem_cons_self
        rw [if_pos (beq_self_eq_true _), if_pos hmem]
        rfl
      · have hne : k ∈ k' :: keys ms ↔ k ∈ keys ms := by simp [Ne.symm hk]
        rw [if_neg (by simpa using hk), keys_cons, ih, keys_cons]
        simp only [hne]
        split <;> rfl

/-- Setting a member does not repeat a name. -/
theorem nodup_insertMember {ms : List (String × α)} (h : (keys ms).Nodup) (k : String) (v : α) :
    (keys (insertMember k v ms)).Nodup := by
  rw [keys_insertMember]
  split
  · exact h
  · next hk =>
      refine List.nodup_append.mpr ⟨h, by simp, ?_⟩
      intro a ha b hb
      rw [List.mem_singleton.mp hb]
      rintro rfl
      exact hk ha

/-- What is in an object then is the new member, or was there before. -/
theorem mem_insertMember {k : String} {v : α} {ms : List (String × α)} {m : String × α}
    (h : m ∈ insertMember k v ms) : m = (k, v) ∨ m ∈ ms := by
  induction ms with
  | nil => exact Or.inl (List.mem_singleton.mp h)
  | cons m' ms ih =>
      obtain ⟨k', v'⟩ := m'
      rw [insertMember] at h
      by_cases hk : (k' == k) = true
      · rw [if_pos hk, beq_iff_eq.mp hk] at h
        rcases List.mem_cons.mp h with h | h
        · exact Or.inl h
        · exact Or.inr (List.mem_cons_of_mem _ h)
      · rw [if_neg hk] at h
        rcases List.mem_cons.mp h with h | h
        · exact Or.inr (List.mem_cons.mpr (Or.inl h))
        · rcases ih h with h | h
          · exact Or.inl h
          · exact Or.inr (List.mem_cons_of_mem _ h)

/-- A member of a new name is put behind the others. -/
theorem insertMember_of_notMem {k : String} (v : α) {ms : List (String × α)} (h : k ∉ keys ms) :
    insertMember k v ms = ms ++ [(k, v)] := by
  induction ms with
  | nil => rfl
  | cons m ms ih =>
      obtain ⟨k', v'⟩ := m
      rw [keys_cons, List.mem_cons, not_or] at h
      rw [insertMember, if_neg (by simpa using Ne.symm h.1), ih h.2]
      rfl

-- ============================================== equal documents

/-- The two documents are equal: what is read at a name or at a position
of the one is read there in the other. -/
inductive Same : Json → Json → Prop where
  | null : Same .null .null
  | bool (b : Bool) : Same (.bool b) (.bool b)
  | number (n : Number) : Same (.number n) (.number n)
  | string (s : String) : Same (.string s) (.string s)
  | array {xs ys : List Json} (length_eq : xs.length = ys.length)
      (items : ∀ (i : Nat) (h : i < xs.length) (h' : i < ys.length), Same xs[i] ys[i]) :
      Same (.array xs) (.array ys)
  | object {ms ns : List (String × Json)}
      (names : ∀ k, (ms.lookup k).isSome = (ns.lookup k).isSome)
      (members : ∀ k v w, ms.lookup k = some v → ns.lookup k = some w → Same v w) :
      Same (.object ms) (.object ns)

namespace Same

/-- A document is equal to itself. -/
theorem refl (j : Json) : Same j j := by
  match j with
  | .null => exact .null
  | .bool b => exact .bool b
  | .number n => exact .number n
  | .string s => exact .string s
  | .array xs =>
      refine .array rfl fun i h _ => ?_
      -- the recursion is into smaller documents, which the sizes show
      have : sizeOf xs[i] < sizeOf xs := List.sizeOf_lt_of_mem (List.getElem_mem h)
      exact refl xs[i]
  | .object ms =>
      refine .object (fun _ => rfl) fun k v w hv hw => ?_
      rw [hv] at hw
      injection hw with hw
      subst hw
      have : sizeOf (k, v) < sizeOf ms := List.sizeOf_lt_of_mem (mem_of_lookup hv)
      have : sizeOf (k, v) = 1 + sizeOf k + sizeOf v := rfl
      exact refl v
termination_by sizeOf j
decreasing_by
  all_goals
    simp only [Json.array.sizeOf_spec, Json.object.sizeOf_spec]
    omega

/-- Equality of documents goes both ways. -/
theorem symm {v w : Json} (h : Same v w) : Same w v := by
  induction h with
  | null => exact .null
  | bool b => exact .bool b
  | number n => exact .number n
  | string s => exact .string s
  | array length_eq items ih => exact .array length_eq.symm fun i h h' => ih i h' h
  | object names members ih =>
      exact .object (fun k => (names k).symm) fun k v w hv hw => ih k w v hw hv

/-- Equal objects have equal values at a name. -/
theorem lookup {ms ns : List (String × Json)} (h : Same (.object ms) (.object ns))
    {k : String} {v w : Json} (hv : ms.lookup k = some v) (hw : ns.lookup k = some w) :
    Same v w := by
  cases h with
  | object names members => exact members k v w hv hw

/-- Where the one has a member, the other has an equal one. -/
theorem exists_lookup {ms ns : List (String × Json)} (h : Same (.object ms) (.object ns))
    {k : String} {v : Json} (hv : ms.lookup k = some v) :
    ∃ w, ns.lookup k = some w ∧ Same v w := by
  cases hn : ns.lookup k with
  | none =>
      cases h with
      | object names members =>
          have := names k
          rw [hv, hn] at this
          cases this
  | some w => exact ⟨w, rfl, h.lookup hv hn⟩

end Same

end Sdwan.Json
