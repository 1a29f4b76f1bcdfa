/-
Reports of values inside values.

# Paths

A finding of a part is one of the whole when the steps to the part are put
before its path (`Finding.under`).

# Lists

The report of a list field is the union of the reports of its items, each
under its index (`mem_insideEach`). So there is nothing to report exactly
when no item has anything (`insideEach_eq_nil`), and another item at the end
adds its own findings and changes none of the others (`insideEach_concat`).

# Places

What is found in a record begins with one of its fields (`Rooted`). The text
of a place in a record of a list is then that of the list, the index in
brackets, a point, and the place in the record (`place_item`).
-/
import Sdwan.Proofs.Validation.Check

namespace Sdwan.Validation

open Json

variable {α : Type} {name : String}

-- ============================================== paths

/-- The finding, seen from where these steps lead to its value. -/
def Finding.under (steps : List Step) (f : Finding) : Finding := { f with path := steps ++ f.path }

/-- Steps from further outside come in front. -/
theorem Finding.under_under (outer inner : List Step) (f : Finding) :
    (f.under inner).under outer = f.under (outer ++ inner) := by
  rw [under, under, under, List.append_assoc]

/-- A report inside a field has each finding under the field. -/
theorem inside_eq (name : String) (r : Report) :
    inside name r = r.map (Finding.under [.field name]) := rfl

theorem mem_inside {r : Report} {f : Finding} :
    f ∈ inside name r ↔ ∃ g ∈ r, f = g.under [.field name] := by
  rw [inside_eq, List.mem_map]
  exact exists_congr fun g => and_congr_right fun _ => eq_comm

theorem inside_eq_nil {r : Report} : inside name r = [] ↔ r = [] := List.map_eq_nil_iff

-- ============================================== lists

/-- Each of the reports comes under its index. -/
theorem numbered_eq_flatMap (rs : List Report) (i : Nat) :
    numbered i rs = (rs.zipIdx i).flatMap fun p => p.1.map (Finding.under [.index p.2]) := by
  induction rs generalizing i with
  | nil => rfl
  | cons r rs ih =>
      rw [numbered, ih, List.zipIdx_cons, List.flatMap_cons]
      rfl

/-- The report of a list field is made of the reports of its items, each
under the field and its index. -/
theorem insideEach_eq_flatMap (name : String) (check : α → Report) (items : List α) :
    insideEach name check items
      = items.zipIdx.flatMap fun p => (check p.1).map (Finding.under [.field name, .index p.2]) := by
  rw [insideEach, inside_eq, numbered_eq_flatMap, List.map_flatMap, List.zipIdx_map, List.flatMap_map]
  refine congrArg (List.flatMap · _) (funext fun p => ?_)
  rw [List.map_map]
  exact List.map_congr_left fun f _ => f.under_under _ _

variable {check : α → Report} {items : List α}

/-- What is found in a list is what is found in one of its items. -/
theorem mem_insideEach {f : Finding} :
    f ∈ insideEach name check items
      ↔ ∃ i a g, items[i]? = some a ∧ g ∈ check a ∧ f = g.under [.field name, .index i] := by
  rw [insideEach_eq_flatMap, List.mem_flatMap]
  constructor
  · rintro ⟨⟨a, i⟩, hmem, hf⟩
    obtain ⟨g, hg, rfl⟩ := List.mem_map.mp hf
    exact ⟨i, a, g, List.mk_mem_zipIdx_iff_getElem?.mp hmem, hg, rfl⟩
  · rintro ⟨i, a, g, ha, hg, rfl⟩
    exact ⟨(a, i), List.mk_mem_zipIdx_iff_getElem?.mpr ha, List.mem_map_of_mem hg⟩

/-- A list of records passes if each of them does. -/
theorem insideEach_eq_nil : insideEach name check items = [] ↔ ∀ a ∈ items, check a = [] := by
  constructor
  · intro h a ha
    obtain ⟨i, hi⟩ := List.mem_iff_getElem?.mp ha
    refine List.eq_nil_iff_forall_not_mem.mpr fun g hg => ?_
    have hmem : g.under [.field name, .index i] ∈ insideEach name check items :=
      mem_insideEach.mpr ⟨i, a, g, hi, hg, rfl⟩
    rw [h] at hmem
    cases hmem
  · intro h
    refine List.eq_nil_iff_forall_not_mem.mpr fun f hf => ?_
    obtain ⟨i, a, g, ha, hg, -⟩ := mem_insideEach.mp hf
    rw [h a (List.mem_of_getElem? ha)] at hg
    cases hg

/-- One more item adds what is found in it, at the new index. -/
theorem insideEach_concat (name : String) (check : α → Report) (items : List α) (a : α) :
    insideEach name check (items ++ [a])
      = insideEach name check items
        ++ (check a).map (Finding.under [.field name, .index items.length]) := by
  rw [insideEach_eq_flatMap, insideEach_eq_flatMap, List.zipIdx_append, List.flatMap_append,
    Nat.zero_add, List.zipIdx_singleton, List.flatMap_singleton]

-- ============================================== two reports for one field

/-- Two reports for one field clash when neither is empty. -/
theorem ownAndInside_eq_error {own inner : Report} (h : own ≠ [] ∧ inner ≠ []) :
    ownAndInside name own inner = .error ⟨name⟩ := by
  rw [ownAndInside, if_pos]
  simpa using h

/-- Else they are put together. -/
theorem ownAndInside_eq_ok {own inner : Report} (h : ¬ (own ≠ [] ∧ inner ≠ [])) :
    ownAndInside name own inner = .ok (own ++ inner) := by
  rw [ownAndInside, if_neg]
  simpa using h

-- ============================================== places

/-- Every finding begins with a field. -/
def Rooted (r : Report) : Prop := ∀ f ∈ r, ∃ name rest, f.path = .field name :: rest

theorem rooted_nil : Rooted [] := List.forall_mem_nil _

theorem rooted_append {r s : Report} (hr : Rooted r) (hs : Rooted s) : Rooted (r ++ s) :=
  List.forall_mem_append.mpr ⟨hr, hs⟩

theorem rooted_atField (name : String) (issues : List Issue) : Rooted (atField name issues) := by
  intro f hf
  obtain ⟨i, -, rfl⟩ := List.mem_map.mp hf
  exact ⟨name, [], rfl⟩

theorem rooted_inside (name : String) (r : Report) : Rooted (inside name r) := by
  intro f hf
  obtain ⟨g, -, rfl⟩ := mem_inside.mp hf
  exact ⟨name, _, rfl⟩

theorem rooted_insideEach (name : String) (check : α → Report) (items : List α) :
    Rooted (insideEach name check items) := by
  intro f hf
  obtain ⟨i, a, g, -, -, rfl⟩ := mem_insideEach.mp hf
  exact ⟨name, _, rfl⟩

theorem rooted_onTextIf (name : String) (value : Option String) (check : String → Option Issue) :
    Rooted (onTextIf name value check) := by
  cases value with
  | none => exact rooted_nil
  | some v => exact rooted_atField _ _

/-- The check of the whole has a name of its own in place of a field. -/
theorem rooted_thenWhole {r : Report} (hr : Rooted r) (check : Option Issue) :
    Rooted (thenWhole r check) := by
  unfold thenWhole
  split
  · cases check with
    | none => exact rooted_nil
    | some issue => exact rooted_atField "__all__" [issue]
  · exact hr

/-- The text of the steps from one place to another, between two fields. -/
theorem separated_append (steps : List Step) (name : String) (rest : List Step) :
    pathText.separated (steps ++ .field name :: rest)
      = pathText.separated steps ++ '.' :: pathText (.field name :: rest) := by
  induction steps with
  | nil => rfl
  | cons s steps ih =>
      cases s <;> simp only [List.cons_append, pathText.separated, ih, List.append_assoc]

/-- An index at the end is written in brackets. -/
theorem separated_concat_index (steps : List Step) (i : Nat) :
    pathText.separated (steps ++ [.index i])
      = pathText.separated steps ++ ('[' :: (toString i).toList ++ [']']) := by
  induction steps with
  | nil => exact List.append_nil _
  | cons s steps ih =>
      cases s <;> simp only [List.cons_append, pathText.separated, ih, List.append_assoc]

/-- The first step of a place is in front of the text of the others. -/
theorem exists_pathText_cons (s : Step) :
    ∃ head, ∀ steps, pathText (s :: steps) = head ++ pathText.separated steps := by
  cases s with
  | field name => exact ⟨_, fun _ => rfl⟩
  | index i => exact ⟨_, fun _ => rfl⟩

/-- The place of a finding in a record of a list: the list, the index in
brackets, and the place in the record. -/
theorem place_item {list : List Step} (hlist : list ≠ []) (i : Nat) {f : Finding}
    (hf : ∃ name rest, f.path = .field name :: rest) :
    (f.under (list ++ [.index i])).place
      = String.ofList (pathText list) ++ "[" ++ toString i ++ "]." ++ f.place := by
  obtain ⟨name, rest, hpath⟩ := hf
  obtain ⟨s, steps, rfl⟩ := List.exists_cons_of_ne_nil hlist
  obtain ⟨head, hhead⟩ := exists_pathText_cons s
  have htext : pathText (s :: steps ++ [.index i] ++ f.path)
      = pathText (s :: steps) ++ ('[' :: (toString i).toList ++ [']']) ++ '.' :: pathText f.path := by
    rw [hpath, List.cons_append, List.cons_append, hhead, hhead, separated_append,
      separated_concat_index]
    simp only [List.append_assoc]
  rw [Finding.place, Finding.under, htext]
  apply String.toList_inj.mp
  simp [Finding.place]

end Sdwan.Validation
