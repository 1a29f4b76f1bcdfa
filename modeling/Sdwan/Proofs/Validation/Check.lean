/-
When the shared checks find nothing.
-/
import Sdwan.Proofs.Text.Readers
import Sdwan.Validation.Check

namespace Sdwan.Validation

open Json

variable {name : String} {min max : Option Nat}

-- ============================================== numbers and counts

/-- A number is within bounds if it observes each one that there is. -/
theorem within_eq_true {n : Nat} :
    within n min max = true ↔ (∀ m, min = some m → m ≤ n) ∧ ∀ m, max = some m → n ≤ m := by
  rw [within, Bool.and_eq_true]
  cases min <;> cases max <;> simp

/-- The check of a range passes exactly the numbers within it. -/
theorem checkRange_eq_none {code : String} {n : Nat} {value : Json} :
    checkRange code n min max value = none ↔ within n min max = true := by
  rw [checkRange]
  split
  · next h => exact iff_of_true rfl h
  · next h => exact iff_of_false (Option.some_ne_none _) h

theorem atField_eq_nil {issue : Option Issue} : atField name issue.toList = [] ↔ issue = none := by
  cases issue <;> simp [atField]

theorem onLength_eq_nil {value : String} :
    onLength name min max value = [] ↔ within value.length min max = true := by
  rw [onLength, atField_eq_nil, checkRange_eq_none]

theorem onCount_eq_nil {count : Nat} {value : Json} :
    onCount name min max count value = [] ↔ within count min max = true := by
  rw [onCount, atField_eq_nil, checkRange_eq_none]

theorem onRange_eq_nil {value : Nat} :
    onRange name min max value = [] ↔ within value min max = true := by
  rw [onRange, atField_eq_nil, checkRange_eq_none]

theorem onText_eq_nil {value : String} {check : String → Option Issue} :
    onText name value check = [] ↔ check value = none := by
  rw [onText, atField_eq_nil, Option.map_eq_none_iff]

/-- A text that is not set passes. -/
theorem onTextIf_eq_nil {value : Option String} {check : String → Option Issue} :
    onTextIf name value check = [] ↔ ∀ v ∈ value, check v = none := by
  cases value with
  | none => simp [onTextIf]
  | some v => simp [onTextIf, onText_eq_nil]

/-- A value that is printed, if there is one. -/
theorem onTextIf_map_eq_nil {α : Type} {text : α → String} {value : Option α}
    {check : String → Option Issue} :
    onTextIf name (value.map text) check = [] ↔ ∀ a ∈ value, check (text a) = none := by
  rw [onTextIf_eq_nil]
  cases value <;> simp

-- ============================================== integers as text

/-- The check passes the texts of an integer within its bounds. -/
theorem checkIntRange_eq_none {raw label : String} {least greatest : Int} :
    checkIntRange raw least greatest label = none
      ↔ ∃ i, readInteger? raw = some i ∧ least ≤ i ∧ i ≤ greatest := by
  unfold checkIntRange
  cases readInteger? raw with
  | none => simp
  | some i =>
      dsimp only
      by_cases h : i < least ∨ greatest < i
      · rw [if_pos h]
        refine iff_of_false nofun ?_
        intro ⟨j, hj, hleast, hgreatest⟩
        obtain rfl : i = j := Option.some.inj hj
        omega
      · rw [if_neg h]
        exact iff_of_true rfl ⟨i, rfl, by omega, by omega⟩

theorem fits128_iff {i : Int} : fits128 i = true ↔ -2 ^ 127 ≤ i ∧ i < 2 ^ 127 := by
  have hsize : ((Nat.pow 2 127 : Nat) : Int) = 2 ^ 127 := rfl
  simp only [fits128, hsize, Bool.and_eq_true, decide_eq_true_eq]

/-- An integer of 128 bits is read, with white space around it. -/
theorem readInteger?_iff {raw : String} {i : Int} :
    readInteger? raw = some i
      ↔ Text.IsInteger (Text.trim raw.toList) i ∧ -2 ^ 127 ≤ i ∧ i < 2 ^ 127 := by
  rw [readInteger?, Option.filter_eq_some_iff, Text.readInt?_iff, fits128_iff]

/-- The digits of a number are read as the number. -/
theorem readInteger?_toDigits {n : Nat} (h : n < 2 ^ 127) :
    readInteger? (String.ofList (Nat.toDigits 10 n)) = some (n : Int) := by
  have hread : Text.readNat? (Nat.toDigits 10 n) = some n := Text.readNat?_toDigits
  have hfits : fits128 (n : Int) = true := by
    have hbound : Nat.pow 2 127 = 2 ^ 127 := rfl
    simp only [fits128, hbound, Bool.and_eq_true, decide_eq_true_eq]
    omega
  rw [readInteger?, String.toList_ofList, Text.trim_of_readNat? hread,
    Text.readInt?_of_readNat? hread, Option.filter_some, if_pos hfits]

/-- With bounds of 128 bits a text passes when it stands for an integer
between them. -/
theorem checkIntRange_iff {raw label : String} {least greatest : Int} (hleast : -2 ^ 127 ≤ least)
    (hgreatest : greatest < 2 ^ 127) :
    checkIntRange raw least greatest label = none
      ↔ ∃ i, Text.IsInteger (Text.trim raw.toList) i ∧ least ≤ i ∧ i ≤ greatest := by
  rw [checkIntRange_eq_none]
  refine exists_congr fun i => ?_
  rw [readInteger?_iff]
  refine ⟨fun h => ⟨h.1.1, h.2⟩, fun h => ⟨⟨h.1, ?_⟩, h.2⟩⟩
  omega

/-- Of a text without hyphens no integer is read but a natural number. -/
theorem checkIntRange_iff_isNatural {p : List Char} {label : String} (greatest : Nat)
    (hgreatest : greatest < 2 ^ 127) (hp : '-' ∉ p) :
    checkIntRange (String.ofList p) 0 greatest label = none
      ↔ ∃ n, Text.IsNatural (Text.trim p) n ∧ n ≤ greatest := by
  rw [checkIntRange_iff (by omega) (by omega), String.toList_ofList]
  refine ⟨?_, ?_⟩
  · intro ⟨i, hi, _, hle⟩
    obtain ⟨n, hn, rfl⟩ := hi.exists_natural (mt Text.mem_of_mem_trim hp)
    exact ⟨n, hn, by omega⟩
  · intro ⟨n, hn, hle⟩
    exact ⟨n, Or.inl ⟨n, hn, rfl⟩, by omega, by omega⟩

/-- The digits of a number pass when the number is in range. -/
theorem checkIntRange_toDigits {n : Nat} {label : String} (least greatest : Nat)
    (hn : n < 2 ^ 127) :
    checkIntRange (String.ofList (Nat.toDigits 10 n)) least greatest label = none
      ↔ least ≤ n ∧ n ≤ greatest := by
  rw [checkIntRange_eq_none, readInteger?_toDigits hn]
  simp

-- ============================================== groups of fields

/-- No two are set. -/
def AtMostOne (set : List Bool) : Prop := set.Pairwise fun a b => ¬ (a = true ∧ b = true)

/-- No two are set if at most one is counted. -/
theorem atMostOne_iff_count {set : List Bool} : AtMostOne set ↔ set.count true ≤ 1 := by
  unfold AtMostOne
  induction set with
  | nil => simp
  | cons b set ih =>
      rw [List.pairwise_cons, ih]
      cases b with
      | false => simp
      | true =>
          -- with this one set, no other may be
          have hnone : (∀ a ∈ set, ¬ (true = true ∧ a = true)) ↔ set.count true = 0 := by
            rw [List.count_eq_zero]
            simp
          rw [hnone, List.count_cons_self]
          omega

/-- Fields that exclude each other pass if no two of them are set. -/
theorem checkExclusive_eq_none {fields : List (String × Bool)} :
    checkExclusive fields false = none ↔ AtMostOne (fields.map (·.2)) := by
  have hcount : (fields.map (·.2)).count true = (fields.filter (·.2)).length := by
    rw [List.count, List.countP_map, List.countP_eq_length_filter]
    simp [Function.comp_def]
  rw [atMostOne_iff_count, hcount, checkExclusive]
  by_cases h : 1 < (fields.filter (·.2)).length
  · simp [h]
  · simp [h]
    omega

-- ============================================== several checks

/-- Of several checks one gives an issue when the first issue of all does. -/
theorem firstIssue_ne_none {checks : List (Option Issue)} :
    firstIssue checks ≠ none ↔ ∃ c ∈ checks, c ≠ none := by
  induction checks with
  | nil => simp [firstIssue]
  | cons c checks ih =>
      cases c with
      | none => simp [firstIssue, ih]
      | some i => simp [firstIssue]

/-- Checks in a row pass if each of them does. -/
theorem firstIssue_eq_none {checks : List (Option Issue)} :
    firstIssue checks = none ↔ ∀ c ∈ checks, c = none := by
  rw [← not_iff_not, ← Ne, firstIssue_ne_none]
  push Not
  rfl

/-- A record passes if its fields do and then the check of the whole. -/
theorem thenWhole_eq_nil {r : Report} {issue : Option Issue} :
    thenWhole r issue = [] ↔ r = [] ∧ issue = none := by
  cases r with
  | nil => cases issue <;> simp [thenWhole]
  | cons f r => simp [thenWhole]

end Sdwan.Validation
