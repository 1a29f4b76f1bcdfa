/-
The order of versions, said by their components alone.

# Components without end

Behind the last component of a version come zeros, so a version is a
sequence without an end, and two texts such as `20.13` and `20.13.0` are one
version (`Same`). One version comes before another if it has the smaller
component at the first place where they differ (`Before`).

# The comparison

`compareComponents` runs down both lists and stops at the first difference.
Whichever of them ends first, it compares two heads and then two tails, and
`Before` and `Same` split in the same way (`before_step`, `same_step`). So
an induction along the comparison ties it to each of them.

# Specifiers

A specifier is met by a version (`Specifier.Met`) when the two stand in the
order its comparison asks for; this is what `Specifier.holds` finds.
-/
import Sdwan.Version.Constraint

namespace Sdwan.Version

variable {v w : Version}

-- ============================================== the order

/-- At the first component that differs, `v` has the smaller one. -/
def Before (v w : Version) : Prop :=
  ∃ i, v.component i < w.component i ∧ ∀ j < i, v.component j = w.component j

/-- No component differs. -/
def Same (v w : Version) : Prop := ∀ i, v.component i = w.component i

def tail (v : Version) : Version := ⟨v.components.tail⟩

@[simp] theorem component_tail (v : Version) (i : Nat) :
    v.tail.component i = v.component (i + 1) := by
  obtain ⟨cs⟩ := v
  cases cs with
  | nil => rfl
  | cons c cs => rfl

/-- Versions are compared by the first components, and by the rests where these are
equal. -/
theorem before_step :
    v.Before w ↔ v.major < w.major ∨ v.major = w.major ∧ v.tail.Before w.tail := by
  constructor
  · rintro ⟨_ | i, hlt, heq⟩
    · exact Or.inl hlt
    · refine Or.inr ⟨heq 0 (Nat.succ_pos i), i, ?_, fun j hj => ?_⟩
      · simpa only [component_tail] using hlt
      · simpa only [component_tail] using heq (j + 1) (Nat.succ_lt_succ hj)
  · rintro (hlt | ⟨hmajor, i, hlt, heq⟩)
    · exact ⟨0, hlt, fun j hj => absurd hj (Nat.not_lt_zero j)⟩
    · simp only [component_tail] at hlt heq
      refine ⟨i + 1, hlt, fun j hj => ?_⟩
      cases j with
      | zero => exact hmajor
      | succ j => exact heq j (Nat.lt_of_succ_lt_succ hj)

/-- Versions are equal if their first components are, and their rests. -/
theorem same_step : v.Same w ↔ v.major = w.major ∧ v.tail.Same w.tail := by
  constructor
  · intro h
    refine ⟨h 0, fun i => ?_⟩
    simpa only [component_tail] using h (i + 1)
  · rintro ⟨hmajor, h⟩ (_ | i)
    · exact hmajor
    · simpa only [component_tail] using h i

theorem Same.not_before (h : v.Same w) : ¬ v.Before w := by
  rintro ⟨i, hlt, -⟩
  rw [h i] at hlt
  exact UInt64.lt_irrefl _ hlt

-- ============================================== the comparison

/-- The comparison finds a version smaller exactly when it comes before. -/
theorem cmp_eq_lt : v.cmp w = .lt ↔ v.Before w := by
  obtain ⟨as⟩ := v
  obtain ⟨bs⟩ := w
  show compareComponents as bs = .lt ↔ _
  fun_induction compareComponents as bs with
  | case1 => exact iff_of_false (by decide) (Same.not_before fun _ => rfl)
  | case2 b bs ih | case3 a as ih | case4 a as b bs ih =>
      rw [before_step, Ordering.then_eq_lt, Std.compare_eq_lt, Std.compare_eq_iff_eq, ih]
      rfl

/-- It finds a version equal exactly when no component differs. -/
theorem cmp_eq_eq : v.cmp w = .eq ↔ v.Same w := by
  obtain ⟨as⟩ := v
  obtain ⟨bs⟩ := w
  show compareComponents as bs = .eq ↔ _
  fun_induction compareComponents as bs with
  | case1 => exact iff_of_true rfl fun _ => rfl
  | case2 b bs ih | case3 a as ih | case4 a as b bs ih =>
      rw [same_step, Ordering.then_eq_eq, Std.compare_eq_iff_eq, ih]
      rfl

/-- It finds a version greater exactly when the other comes before. -/
theorem cmp_eq_gt : v.cmp w = .gt ↔ w.Before v := by
  obtain ⟨as⟩ := v
  obtain ⟨bs⟩ := w
  show compareComponents as bs = .gt ↔ _
  fun_induction compareComponents as bs with
  | case1 => exact iff_of_false (by decide) (Same.not_before fun _ => rfl)
  | case2 b bs ih | case3 a as ih | case4 a as b bs ih =>
      rw [before_step, Ordering.then_eq_gt, Std.compare_eq_gt, Std.compare_eq_iff_eq, ih,
        eq_comm (a := major _)]
      rfl

-- ============================================== specifiers

/-- A version stands to the one of the specifier as the comparison asks. -/
def Specifier.Met (s : Specifier) (v : Version) : Prop :=
  match s.op with
  | .lt => v.Before s.version
  | .le => ¬ s.version.Before v
  | .gt => s.version.Before v
  | .ge => ¬ v.Before s.version
  | .eq => v.Same s.version
  | .ne => ¬ v.Same s.version

/-- A specifier holds of the versions that meet it. -/
theorem Specifier.holds_iff (s : Specifier) : s.holds v = true ↔ s.Met v := by
  obtain ⟨op, w⟩ := s
  cases op with
  | lt => simp [holds, Op.holds, Met, cmp_eq_lt]
  | le => simp [holds, Op.holds, Met, cmp_eq_gt]
  | gt => simp [holds, Op.holds, Met, cmp_eq_gt]
  | ge => simp [holds, Op.holds, Met, cmp_eq_lt]
  | eq => simp [holds, Op.holds, Met, cmp_eq_eq]
  | ne => simp [holds, Op.holds, Met, cmp_eq_eq]

/-- A constraint holds exactly when each of its specifiers is met. -/
theorem Constraint.holds_iff (c : Constraint) : c.holds v = true ↔ ∀ s ∈ c.specifiers, s.Met v := by
  simp only [holds, List.all_eq_true, Specifier.holds_iff]

end Sdwan.Version
