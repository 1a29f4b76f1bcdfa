/-
Versions are ordered as sequences without an end.

# The order

A version stands for its components and for endless zeros behind them
(`sequence`). Sequences are ordered by the first place where they differ,
which is what `Before` says of versions, so the comparison of versions is the
comparison of their sequences (`cmp_eq_compare`). Whatever holds of the
comparison in a linear order holds of it too, for lists of components of any
lengths: nothing here goes through the lists again.

# Equal versions

Versions that compare equal need not have the same components, but they have
the same ones up to the zeros at the end (`significant_eq_iff`). A version is
hashed by these alone. And equal versions stand in the same order to all
others, so no constraint tells them apart; each of the two properties also
finds out versions that are not equal.
-/
import Mathlib.Data.List.DropRight
import Mathlib.Data.List.GetD
import Mathlib.Order.PiLex
import Sdwan.Proofs.Version.Order

namespace Sdwan.Version

variable {v w : Version}

-- ============================================== sequences

/-- The components and the zeros behind them. The first that differs decides
about the order. -/
def sequence (v : Version) : Lex (ℕ → ℕ) := toLex fun i => (v.component i).toNat

/-- The order of sequences is that of versions. -/
theorem sequence_lt_iff : v.sequence < w.sequence ↔ v.Before w := by
  constructor
  · intro h
    obtain ⟨i, heq, hlt⟩ := h
    exact ⟨i, UInt64.lt_iff_toNat_lt.mpr hlt, fun j hj => UInt64.toNat_inj.mp (heq j hj)⟩
  · intro h
    obtain ⟨i, hlt, heq⟩ := h
    exact ⟨i, fun j hj => congrArg UInt64.toNat (heq j hj), UInt64.lt_iff_toNat_lt.mp hlt⟩

/-- Sequences are equal if the versions are. -/
theorem sequence_eq_iff : v.sequence = w.sequence ↔ v.Same w := by
  constructor
  · intro h i
    exact UInt64.toNat_inj.mp (congrFun h i)
  · intro h
    exact funext fun i => congrArg UInt64.toNat (h i)

/-- Versions are compared as their sequences are. -/
theorem cmp_eq_compare (v w : Version) : v.cmp w = compare v.sequence w.sequence := by
  rcases lt_trichotomy v.sequence w.sequence with hlt | heq | hgt
  · rw [compare_lt_iff_lt.mpr hlt, cmp_eq_lt]
    exact sequence_lt_iff.mp hlt
  · rw [compare_eq_iff_eq.mpr heq, cmp_eq_eq]
    exact sequence_eq_iff.mp heq
  · rw [compare_gt_iff_gt.mpr hgt, cmp_eq_gt]
    exact sequence_lt_iff.mp hgt

instance : Std.TransCmp cmp where
  eq_swap {v w} := by
    rw [cmp_eq_compare, cmp_eq_compare]
    exact Std.OrientedCmp.eq_swap
  isLE_trans {v w u} hvw hwu := by
    rw [cmp_eq_compare] at hvw hwu ⊢
    exact Std.TransCmp.isLE_trans hvw hwu

/-- Any two versions are in one order or the other. -/
theorem isLE_cmp_total (v w : Version) : (v.cmp w).isLE ∨ (w.cmp v).isLE := by
  by_cases hgt : v.cmp w = .gt
  · have hlt : w.cmp v = .lt := Std.OrientedCmp.gt_iff_lt.mp hgt
    exact Or.inr (Ordering.isLE_of_eq_lt hlt)
  · exact Or.inl (Ordering.isLE_iff_ne_gt.mpr hgt)

-- ============================================== zeros at the end

section Zeros

variable {cs ds : List UInt64}

-- the lists are taken apart at their ends, where the zeros are
/-- A zero at the end changes no component. -/
theorem getD_concat_zero (cs : List UInt64) (i : Nat) : (cs ++ [0]).getD i 0 = cs.getD i 0 := by
  by_cases h : i < cs.length
  · rw [List.getD_append _ _ _ _ h]
  · rw [List.getD_append_right _ _ _ _ (by omega), List.getD_eq_default cs _ (by omega)]
    cases i - cs.length <;> rfl

/-- A zero at the end is dropped, anything else stays. -/
theorem dropTrailingZeros_concat (cs : List UInt64) (c : UInt64) :
    dropTrailingZeros (cs ++ [c]) = if c = 0 then dropTrailingZeros cs else cs ++ [c] := by
  have hdrop : dropTrailingZeros = List.rdropWhile (· == (0 : UInt64)) := rfl
  rw [hdrop, List.rdropWhile_concat]
  simp only [beq_iff_eq]

/-- Without the zeros at the end no component changes. -/
theorem getD_dropTrailingZeros (cs : List UInt64) (i : Nat) :
    (dropTrailingZeros cs).getD i 0 = cs.getD i 0 := by
  induction cs using List.reverseRecOn with
  | nil => rfl
  | append_singleton cs c ih =>
      rw [dropTrailingZeros_concat]
      by_cases hc : c = 0
      · rw [if_pos hc, ih, hc, getD_concat_zero]
      · rw [if_neg hc]

/-- The last component that is left is not zero. -/
theorem getLast?_dropTrailingZeros (cs : List UInt64) :
    (dropTrailingZeros cs).getLast? ≠ some 0 := by
  induction cs using List.reverseRecOn with
  | nil => exact nofun
  | append_singleton cs c ih =>
      rw [dropTrailingZeros_concat]
      by_cases hc : c = 0
      · rw [if_pos hc]
        exact ih
      · rw [if_neg hc, List.getLast?_concat]
        exact fun h => hc (Option.some.inj h)

/-- A list that does not end in zero is no longer than one with the same
components, for there is its last component to be had. -/
theorem length_le_of_getD (hcs : cs.getLast? ≠ some 0) (h : ∀ i, cs.getD i 0 = ds.getD i 0) :
    cs.length ≤ ds.length := by
  by_contra hlt
  have hlast : cs.getLast? = some (cs.getD (cs.length - 1) 0) := by
    rw [List.getLast?_eq_getElem?, List.getD_eq_getElem cs 0 (by omega)]
    exact List.getElem?_eq_getElem (by omega)
  apply hcs
  rw [hlast, h, List.getD_eq_default ds _ (by omega)]

/-- Without zeros at the end, components that are equal one by one are the same
list. -/
theorem eq_of_getD (hcs : cs.getLast? ≠ some 0) (hds : ds.getLast? ≠ some 0)
    (h : ∀ i, cs.getD i 0 = ds.getD i 0) : cs = ds := by
  have hlength : cs.length = ds.length :=
    le_antisymm (length_le_of_getD hcs h) (length_le_of_getD hds fun i => (h i).symm)
  apply List.ext_getElem hlength
  intro i hi hi'
  rw [← List.getD_eq_getElem cs 0 hi, ← List.getD_eq_getElem ds 0 hi', h]

end Zeros

/-- What is left without the zeros at the end tells versions apart as the
comparison does. -/
theorem significant_eq_iff : v.significant = w.significant ↔ v.Same w := by
  constructor
  · intro h i
    rw [component, component, ← getD_dropTrailingZeros, ← getD_dropTrailingZeros w.components]
    exact congrArg (·.getD i 0) h
  · intro h
    apply eq_of_getD (getLast?_dropTrailingZeros _) (getLast?_dropTrailingZeros _)
    intro i
    rw [getD_dropTrailingZeros, getD_dropTrailingZeros]
    exact h i

-- ============================================== hashing

/-- What takes in the data of a hash: how many items a list has, and the
items. -/
structure Hasher (σ : Type) where
  count : Nat → σ → σ
  items : List UInt64 → σ → σ

/-- A version is hashed as the list of its significant components. -/
def Hasher.feed {σ : Type} (h : Hasher σ) (v : Version) (s : σ) : σ :=
  h.items v.significant (h.count v.significant.length s)

/-- Keeps the last items. -/
def Hasher.keep : Hasher (List UInt64) := ⟨fun _ s => s, fun cs _ => cs⟩

/-- A hasher is fed the same for two versions exactly if they have the same
significant components. -/
theorem feed_eq_iff :
    (∀ (σ : Type) (h : Hasher σ) (s : σ), h.feed v s = h.feed w s)
      ↔ v.significant = w.significant := by
  constructor
  · intro h
    exact h _ Hasher.keep []
  · intro h σ hasher s
    rw [Hasher.feed, Hasher.feed, h]

-- ============================================== constraints

/-- Equal versions satisfy the same constraints, and others do not: one of
them is equal to itself. -/
theorem holds_eq_iff : (∀ K : Constraint, K.holds v = K.holds w) ↔ v.cmp w = .eq := by
  constructor
  · intro h
    -- the constraint to be equal to `w`, which `w` satisfies
    have hself : (Constraint.mk [⟨.eq, w⟩]).holds w = true := by
      simp [Constraint.holds, Specifier.holds, Op.holds, Std.ReflCmp.compare_self]
    rw [← h] at hself
    simpa [Constraint.holds, Specifier.holds, Op.holds] using hself
  · intro h K
    have hspecifier : ∀ s : Specifier, s.holds v = s.holds w := by
      intro s
      rw [Specifier.holds, Specifier.holds, Std.TransCmp.congr_left h]
    simp only [Constraint.holds, hspecifier]

-- ============================================== the order of versions

/-- Versions are compared by the first component that differs, where zeros
follow behind the last ones. Hence the order is reflexive, antisymmetric up
to equality, transitive and total. Versions are equal exactly when they have
the same components up to zeros at the end, when no hasher tells them apart,
and when they satisfy the same constraints. -/
theorem cmp_lexicographic (v w : Version) :
    v.cmp w = compare v.sequence w.sequence
      ∧ v.cmp v = .eq
      ∧ ((v.cmp w).isLE → (w.cmp v).isLE → v.cmp w = .eq)
      ∧ (∀ u, (v.cmp w).isLE → (w.cmp u).isLE → (v.cmp u).isLE)
      ∧ ((v.cmp w).isLE ∨ (w.cmp v).isLE)
      ∧ (v.cmp w = .eq ↔ v.significant = w.significant)
      ∧ (v.cmp w = .eq ↔ ∀ (σ : Type) (h : Hasher σ) (s : σ), h.feed v s = h.feed w s)
      ∧ (v.cmp w = .eq ↔ ∀ K : Constraint, K.holds v = K.holds w) := by
  have hsignificant : v.cmp w = .eq ↔ v.significant = w.significant := by
    rw [cmp_eq_eq, significant_eq_iff]
  refine ⟨cmp_eq_compare v w, Std.ReflCmp.compare_self, ?_, ?_, isLE_cmp_total v w, hsignificant,
    ?_, ?_⟩
  · intro hvw hwv
    exact Std.OrientedCmp.isLE_antisymm hvw hwv
  · intro u hvw hwu
    exact Std.TransCmp.isLE_trans hvw hwu
  · rw [hsignificant, feed_eq_iff]
  · rw [holds_eq_iff]

/-- `20.13` and `20.13.0` are one version. -/
example : cmp ⟨[20, 13]⟩ ⟨[20, 13, 0]⟩ = .eq := by cbv

end Sdwan.Version
