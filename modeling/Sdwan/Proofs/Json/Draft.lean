/-
Complete values as documents: a document that was made of a value has no
fault, so it can be passed over and set aside, and its members are those of
the value.

A value is *proper* when no object in it repeats a name (`Proper`), and then
its document is read as the value itself (`toJson?_ofJson`).
-/
import Sdwan.Json.Codec
import Sdwan.Proofs.Json.Lookup

namespace Sdwan.Json

namespace Draft

theorem ofItems_eq_map (xs : List Json) : ofItems xs = xs.map ofJson := by
  induction xs with
  | nil => rfl
  | cons x xs ih => rw [ofItems, ih, List.map_cons]

theorem ofMembers_eq_map (ms : List (String × Json)) :
    ofMembers ms = ms.map fun f => (some f.1, ofJson f.2) := by
  induction ms with
  | nil => rfl
  | cons f ms ih => rw [ofMembers, ih, List.map_cons]

theorem mem_ofItems {xs : List Json} {d : Draft} :
    d ∈ ofItems xs ↔ ∃ x ∈ xs, ofJson x = d := by
  rw [ofItems_eq_map, List.mem_map]

theorem mem_ofMembers {ms : List (String × Json)} {f : Option String × Draft} :
    f ∈ ofMembers ms ↔ ∃ g ∈ ms, (some g.1, ofJson g.2) = f := by
  rw [ofMembers_eq_map, List.mem_map]

mutual

/-- A document that was written can be passed over. -/
theorem skippable_ofJson : ∀ j : Json, (ofJson j).skippable = true
  | .null | .bool _ | .number _ | .string _ => rfl
  | .array xs => allSkippable_ofItems xs
  | .object ms => allMembersSkippable_ofMembers ms

theorem allSkippable_ofItems : ∀ xs : List Json, allSkippable (ofItems xs) = true
  | [] => rfl
  | x :: xs => by
      rw [ofItems, allSkippable, skippable_ofJson x, allSkippable_ofItems xs]
      rfl

theorem allMembersSkippable_ofMembers :
    ∀ ms : List (String × Json), allMembersSkippable (ofMembers ms) = true
  | [] => rfl
  | (k, v) :: ms => by
      rw [ofMembers, allMembersSkippable, skippable_ofJson v, allMembersSkippable_ofMembers ms]
      rfl

end

mutual

/-- The draft of a document is one of a document. -/
theorem exists_toJson_ofJson : ∀ j : Json, ∃ j', (ofJson j).toJson? = some j'
  | .null => ⟨_, rfl⟩
  | .bool _ => ⟨_, rfl⟩
  | .number _ => ⟨_, rfl⟩
  | .string _ => ⟨_, rfl⟩
  | .array xs => by
      obtain ⟨vs, hvs⟩ := exists_toItems_ofItems xs
      exact ⟨.array vs, by rw [ofJson, toJson?, hvs]; rfl⟩
  | .object ms => by
      obtain ⟨vs, hvs⟩ := exists_toMembers_ofMembers ms []
      exact ⟨.object vs, by rw [ofJson, toJson?, hvs]; rfl⟩

theorem exists_toItems_ofItems : ∀ xs : List Json, ∃ vs, toItems? (ofItems xs) = some vs
  | [] => ⟨[], rfl⟩
  | x :: xs => by
      obtain ⟨v, hv⟩ := exists_toJson_ofJson x
      obtain ⟨vs, hvs⟩ := exists_toItems_ofItems xs
      exact ⟨v :: vs, by rw [ofItems, toItems?, hv, hvs]; rfl⟩

theorem exists_toMembers_ofMembers : ∀ (ms : List (String × Json)) (seen : List (String × Json)),
    ∃ vs, toMembers? (ofMembers ms) seen = some vs
  | [], seen => ⟨seen, rfl⟩
  | (k, v) :: ms, seen => by
      obtain ⟨v', hv⟩ := exists_toJson_ofJson v
      obtain ⟨vs, hvs⟩ := exists_toMembers_ofMembers ms (insertMember k v' seen)
      exact ⟨vs, by rw [ofMembers, toMembers?, hv]; exact hvs⟩

end

end Draft

-- ============================================== names without repetition

/-- No object in the value has two members of one name. -/
inductive Proper : Json → Prop where
  | null : Proper .null
  | bool (b : Bool) : Proper (.bool b)
  | number (n : Number) : Proper (.number n)
  | string (s : String) : Proper (.string s)
  | array {xs : List Json} (items : ∀ x ∈ xs, Proper x) : Proper (.array xs)
  | object {ms : List (String × Json)} (names : (keys ms).Nodup)
      (members : ∀ f ∈ ms, Proper f.2) : Proper (.object ms)

namespace Draft

/-- Items that are read as they are make up the list. -/
theorem toItems?_ofItems {xs : List Json} (h : ∀ x ∈ xs, (ofJson x).toJson? = some x) :
    toItems? (ofItems xs) = some xs := by
  induction xs with
  | nil => rfl
  | cons x xs ih =>
      obtain ⟨hx, hxs⟩ := List.forall_mem_cons.mp h
      rw [ofItems, toItems?, hx, ih hxs]
      rfl

/-- Members that are read as they are, with names of their own, come behind
those before. -/
theorem toMembers?_ofMembers {ms seen : List (String × Json)} (hnd : (keys (seen ++ ms)).Nodup)
    (h : ∀ f ∈ ms, (ofJson f.2).toJson? = some f.2) :
    toMembers? (ofMembers ms) seen = some (seen ++ ms) := by
  induction ms generalizing seen with
  | nil => rw [ofMembers, toMembers?, List.append_nil]
  | cons f ms ih =>
      obtain ⟨k, v⟩ := f
      obtain ⟨hv, hms⟩ := List.forall_mem_cons.mp h
      have hnew : k ∉ keys seen := by
        rw [keys_append, keys_cons] at hnd
        exact fun hk => (List.nodup_append.mp hnd).2.2 k hk k List.mem_cons_self rfl
      rw [List.append_cons] at hnd
      show ((ofJson v).toJson? >>= fun v => toMembers? (ofMembers ms) (insertMember k v seen)) = _
      rw [hv, List.append_cons, ← ih hnd hms, ← insertMember_of_notMem v hnew]
      rfl

/-- A proper value is read as it is. -/
theorem toJson?_ofJson {j : Json} (h : Proper j) : (ofJson j).toJson? = some j := by
  induction h with
  | null | bool | number | string => rfl
  | array items ih =>
      rw [ofJson, toJson?, toItems?_ofItems ih]
      rfl
  | @object ms names members ih =>
      have hms : toMembers? (ofMembers ms) [] = some ms := toMembers?_ofMembers names ih
      rw [ofJson, toJson?, hms]
      rfl

end Draft

/-- A proper value is read as any JSON value. -/
theorem readJson_proper {j : Json} (h : Proper j) (o : Origin) :
    readJson o (Draft.ofJson j) = .ok j := by
  rw [readJson, Draft.toJson?_ofJson h]

-- ============================================== members by name

/-- The members of a complete object, by name. -/
theorem findMember_ofMembers (ms : List (String × Json)) (name : String) :
    findMember (Draft.ofMembers ms) name = (ms.lookup name).map Draft.ofJson := by
  induction ms with
  | nil => rfl
  | cons m ms ih =>
      obtain ⟨k, v⟩ := m
      rw [Draft.ofMembers, findMember]
      by_cases h : name = k
      · subst h
        rw [List.lookup_cons_self, List.lookup_cons_self]
        rfl
      · have hne : (some name == some k) = false := by simpa using h
        rw [List.lookup_cons, hne, lookup_cons_ne h]
        exact ih

end Sdwan.Json
