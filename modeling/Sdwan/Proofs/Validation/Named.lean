/-
The places that a report names.

A report names a place when it has a finding there (`Names`). Each way to
build a report has a lemma that says which places it names.

What a record has to observe can be said without its check, as a list of
requirements (`Requirement`): a field whose value must not be of some sort,
or a list of records that have requirements of their own. The places where a
record breaks one (`Breaks`) are the places that its check has to name.
-/
import Sdwan.Proofs.Validation.Nested

namespace Sdwan.Validation

open Json

variable {α β : Type} {name : String} {path : List Step}

/-- The report has a finding at this place. -/
def Names (r : Report) (path : List Step) : Prop := ∃ f ∈ r, f.path = path

@[simp] theorem names_nil : ¬ Names [] path := fun ⟨_, h, _⟩ => List.not_mem_nil h

@[simp] theorem names_append {r s : Report} :
    Names (r ++ s) path ↔ Names r path ∨ Names s path := by
  simp only [Names, List.mem_append, or_and_right, exists_or]

/-- A report is empty exactly if it names no place. -/
theorem eq_nil_iff_names {r : Report} : r = [] ↔ ∀ path, ¬ Names r path := by
  constructor
  · rintro rfl path
    exact names_nil
  · intro h
    exact List.eq_nil_iff_forall_not_mem.mpr fun f hf => h f.path ⟨f, hf, rfl⟩

-- ============================================== fields

/-- A check of a field names the field if it has something to object to. -/
theorem names_atField {issue : Option Issue} :
    Names (atField name issue.toList) path ↔ issue ≠ none ∧ path = [.field name] := by
  cases issue with
  | none => simp [atField]
  | some issue => simp [atField, Names, eq_comm]

@[simp] theorem names_onText {value : String} {check : String → Option Issue} :
    Names (onText name value check) path ↔ check value ≠ none ∧ path = [.field name] := by
  rw [onText, names_atField]
  cases check value <;> simp

/-- A text that is not set is not checked. -/
@[simp] theorem names_onTextIf {value : Option String} {check : String → Option Issue} :
    Names (onTextIf name value check) path
      ↔ (∃ v ∈ value, check v ≠ none) ∧ path = [.field name] := by
  cases value with
  | none => simp [onTextIf]
  | some v => simp [onTextIf]

section Bounds

variable {min max : Option Nat}

@[simp] theorem names_onLength {value : String} :
    Names (onLength name min max value) path
      ↔ within value.length min max = false ∧ path = [.field name] := by
  rw [onLength, names_atField, ne_eq, checkRange_eq_none, Bool.not_eq_true]

/-- The number of items names their field if it is out of bounds. -/
@[simp] theorem names_onItemsIf [Coded α] {items : Option (List α)} :
    Names (onItemsIf name min max items) path
      ↔ (∃ as ∈ items, within as.length min max = false) ∧ path = [.field name] := by
  cases items with
  | none => simp [onItemsIf]
  | some as => simp [onItemsIf, onCount, names_atField, checkRange_eq_none]

@[simp] theorem names_onRange {n : Nat} :
    Names (onRange name min max n) path
      ↔ within n min max = false ∧ path = [.field name] := by
  rw [onRange, names_atField, ne_eq, checkRange_eq_none, Bool.not_eq_true]

/-- A number that is not set is not checked. -/
@[simp] theorem names_onRangeIf {toNat : α → Nat} {value : Option α} :
    Names (onRangeIf name min max (value.map toNat)) path
      ↔ (∃ n ∈ value, within (toNat n) min max = false) ∧ path = [.field name] := by
  cases value with
  | none => simp [onRangeIf]
  | some n => simp [onRangeIf]

variable {n lo hi : Nat}

/-- The number is below the least or above the greatest one. -/
def Outside (n lo hi : Nat) : Prop := n < lo ∨ hi < n

/-- With both bounds, a number is out of them on either side. -/
@[simp] theorem within_eq_false : within n (some lo) (some hi) = false ↔ Outside n lo hi := by
  simp [within, Outside]
  omega

@[simp] theorem within_eq_false_greatest : within n none (some hi) = false ↔ hi < n := by
  simp [within]

@[simp] theorem within_eq_false_least : within n (some lo) none = false ↔ n < lo := by
  simp [within]

end Bounds

-- ============================================== requirements

/-- What a record has to observe: a field must not have a value of some sort,
or the records in a list field have requirements of their own. -/
inductive Requirement (α : Type) where
  | field (name : String) (broken : α → Prop)
  | items {β : Type} (name : String) (list : α → Option (List β))
      (broken : β → List Step → Prop)

/-- Where a requirement is broken: at the field, or inside an item of the
list. -/
def Requirement.Broken (a : α) (path : List Step) : Requirement α → Prop
  | .field name broken => broken a ∧ path = [.field name]
  | .items name list broken => ∃ bs ∈ list a, ∃ i b rest,
      bs[i]? = some b ∧ broken b rest ∧ path = .field name :: .index i :: rest

/-- The record breaks one of the requirements at this place. -/
def Breaks (rs : List (Requirement α)) (a : α) (path : List Step) : Prop :=
  ∃ r ∈ rs, r.Broken a path

@[simp] theorem breaks_nil {a : α} : ¬ Breaks [] a path := fun ⟨_, h, _⟩ => List.not_mem_nil h

/-- A record breaks a list of requirements at the field of the first, or it breaks
one of the others. -/
@[simp] theorem breaks_field {broken : α → Prop} {rs : List (Requirement α)} {a : α} :
    Breaks (.field name broken :: rs) a path
      ↔ (broken a ∧ path = [.field name]) ∨ Breaks rs a path := by
  simp only [Breaks, List.mem_cons, or_and_right, exists_or, exists_eq_left, Requirement.Broken]

/-- The same where the first requirement is about the items of a list. -/
@[simp] theorem breaks_items {list : α → Option (List β)} {broken : β → List Step → Prop}
    {rs : List (Requirement α)} {a : α} :
    Breaks (.items name list broken :: rs) a path
      ↔ (Requirement.items name list broken).Broken a path ∨ Breaks rs a path := by
  simp only [Breaks, List.mem_cons, or_and_right, exists_or, exists_eq_left]

/-- The report of a list field names what the reports of its items name. -/
theorem names_insideEach {check : β → Report} {broken : β → List Step → Prop}
    (h : ∀ b path, Names (check b) path ↔ broken b path) (list : α → Option (List β)) (a : α) :
    Names (insideEach name check ((list a).getD [])) path
      ↔ (Requirement.items name list broken).Broken a path := by
  constructor
  · rintro ⟨f, hf, rfl⟩
    obtain ⟨i, b, g, hb, hg, rfl⟩ := mem_insideEach.mp hf
    cases hlist : list a with
    | none =>
        rw [hlist] at hb
        cases hb
    | some bs =>
        rw [hlist] at hb
        exact ⟨bs, hlist, i, b, g.path, hb, (h b g.path).mp ⟨g, hg, rfl⟩, rfl⟩
  · rintro ⟨bs, hlist, i, b, rest, hb, hbroken, rfl⟩
    obtain ⟨g, hg, rfl⟩ := (h b rest).mpr hbroken
    rw [Option.mem_def.mp hlist]
    exact ⟨_, mem_insideEach.mpr ⟨i, b, g, hb, hg, rfl⟩, rfl⟩

-- ============================================== whole records

/-- The check of the whole record is made when nothing else was found. -/
theorem names_thenWhole {r : Report} {check : Option Issue} :
    Names (thenWhole r check) path
      ↔ Names r path ∨ path = whole ∧ (∀ p, ¬ Names r p) ∧ check ≠ none := by
  rw [← eq_nil_iff_names]
  cases r with
  | nil =>
      cases check with
      | none => simp [thenWhole]
      | some issue => simp [thenWhole, Names, eq_comm]
  | cons f r => simp [thenWhole]

end Sdwan.Validation
