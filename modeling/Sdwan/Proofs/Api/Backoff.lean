/-
How long a client waits before it sends a request again.

# Where the words show

The delay is to be the first delay times a power of the multiplier, and no
more than the bound. The power is kept in a word of 32 bits and the product in
one of 64, and each stops at the greatest value of its word. The wider word
never shows, since the bound fits it (`delay_succ`). The narrower one shows
exactly where the power does not fit and the greatest factor still leaves the
delay below the bound (`delay_eq_iff`).

# Delays of any length

A policy counts in whole milliseconds. Delays of any length are spans in
nanoseconds here (`spanDelay`): of the first one the whole milliseconds count,
as many as fit a word, and the bound is taken as it is. The delays of a policy
are those of its spans (`spanDelay_millis`), so order and bound are shown for
spans.
-/
import Mathlib.Algebra.Order.Ring.Nat
import Sdwan.Api.Retry

namespace Sdwan.RetryPolicy

variable {p : RetryPolicy}

-- ============================================== powers

/-- Capping the exponent changes nothing that capping the power does not. -/
theorem cappedPow_eq (bits base exponent : Nat) :
    cappedPow bits base exponent = min (base ^ exponent) (2 ^ bits - 1) := by
  show min (base ^ min exponent (if base ≤ 1 then 1 else bits)) (2 ^ bits - 1) = _
  by_cases hbase : base ≤ 1
  · rw [if_pos hbase]
    cases exponent with
    | zero => rfl
    | succ n =>
        rw [Nat.min_eq_right (Nat.succ_le_succ (Nat.zero_le n)), Nat.pow_one]
        rcases Nat.le_one_iff_eq_zero_or_eq_one.mp hbase with rfl | rfl
        · rw [Nat.zero_pow (Nat.succ_pos n)]
        · rw [Nat.one_pow]
  · rw [if_neg hbase]
    by_cases hexponent : exponent ≤ bits
    · rw [Nat.min_eq_left hexponent]
    · have hpow : 2 ^ bits ≤ base ^ bits := Nat.pow_le_pow_left (by omega) bits
      have hmore : base ^ bits ≤ base ^ exponent := Nat.pow_le_pow_right (by omega) (by omega)
      rw [Nat.min_eq_right (by omega : bits ≤ exponent)]
      omega

/-- A power of something grows with its exponent, also under a cap. -/
theorem cappedPow_le_succ {base : Nat} (hbase : 1 ≤ base) (bits exponent : Nat) :
    cappedPow bits base exponent ≤ cappedPow bits base (exponent + 1) := by
  rw [cappedPow_eq, cappedPow_eq]
  have hpow : base ^ exponent ≤ base ^ (exponent + 1) := Nat.pow_le_pow_right hbase (by omega)
  omega

-- ============================================== the formula

/-- The wider word does not show: the bound fits it. -/
theorem delay_succ (p : RetryPolicy) (n : Nat) :
    p.delay (n + 1)
      = min (p.initialDelay.toNat * min (p.multiplier.toNat ^ n) (2 ^ 32 - 1))
          p.maxDelay.toNat := by
  have hmax : p.maxDelay.toNat ≤ UInt64.size - 1 := Nat.le_sub_one_of_lt p.maxDelay.toNat_lt
  show min (min (_ * cappedPow 32 _ n) (UInt64.size - 1)) _ = _
  rw [cappedPow_eq, Nat.min_assoc, Nat.min_eq_right hmax]

/-- The formula without words holds exactly where the power fits its word, or
the greatest factor reaches the bound, or there is nothing to multiply. -/
theorem delay_eq_iff (p : RetryPolicy) (n : Nat) :
    p.delay (n + 1)
        = min (p.initialDelay.toNat * p.multiplier.toNat ^ n) p.maxDelay.toNat
      ↔ p.multiplier.toNat ^ n < 2 ^ 32
        ∨ p.maxDelay.toNat ≤ p.initialDelay.toNat * (2 ^ 32 - 1)
        ∨ p.initialDelay.toNat = 0 := by
  rw [delay_succ]
  generalize p.initialDelay.toNat = initial
  generalize p.maxDelay.toNat = bound
  generalize p.multiplier.toNat ^ n = power
  by_cases hfits : power < 2 ^ 32
  · rw [Nat.min_eq_left (by omega : power ≤ 2 ^ 32 - 1)]
    exact iff_of_true rfl (Or.inl hfits)
  · rw [Nat.min_eq_right (by omega : 2 ^ 32 - 1 ≤ power), or_iff_right hfits]
    rcases Nat.eq_zero_or_pos initial with rfl | hpos
    · rw [Nat.zero_mul, Nat.zero_mul]
      exact iff_of_true rfl (Or.inr rfl)
    · -- The power exceeds the greatest factor by one at least.
      have hmore : initial * (2 ^ 32 - 1) + initial ≤ initial * power := by
        rw [← Nat.mul_succ]
        exact Nat.mul_le_mul_left initial (by omega)
      rw [or_iff_left (by omega : initial ≠ 0)]
      generalize initial * (2 ^ 32 - 1) = most at *
      omega

-- ============================================== spans

/-- The wait before an attempt when the delays are spans of any length, all in
nanoseconds. -/
def spanDelay (initial bound : Nat) (multiplier : UInt32) : (attempt : Nat) → Nat
  | 0 => 0
  | n + 1 =>
    let millis := min (initial / 10 ^ 6) (UInt64.size - 1)
    let factor := cappedPow 32 multiplier.toNat n
    min (min (millis * factor) (UInt64.size - 1) * 10 ^ 6) bound

/-- The delays of a policy are those of its spans. -/
theorem spanDelay_millis (p : RetryPolicy) (attempt : Nat) :
    spanDelay (p.initialDelay.toNat * 10 ^ 6) (p.maxDelay.toNat * 10 ^ 6) p.multiplier attempt
      = p.delay attempt * 10 ^ 6 := by
  cases attempt with
  | zero => exact (Nat.zero_mul (10 ^ 6)).symm
  | succ n =>
      have hinitial : p.initialDelay.toNat ≤ UInt64.size - 1 :=
        Nat.le_sub_one_of_lt p.initialDelay.toNat_lt
      rw [spanDelay, delay, Nat.mul_div_cancel _ (by decide), Nat.min_eq_left hinitial]
      exact Nat.mul_min_mul_right _ p.maxDelay.toNat (10 ^ 6)

theorem spanDelay_le (initial bound : Nat) (multiplier : UInt32) (attempt : Nat) :
    spanDelay initial bound multiplier attempt ≤ bound := by
  cases attempt with
  | zero => exact Nat.zero_le bound
  | succ n => exact Nat.min_le_right _ _

/-- No wait is shorter than the one before. -/
theorem spanDelay_le_succ {multiplier : UInt32} (h : 1 ≤ multiplier.toNat)
    (initial bound attempt : Nat) :
    spanDelay initial bound multiplier attempt
      ≤ spanDelay initial bound multiplier (attempt + 1) := by
  cases attempt with
  | zero => exact Nat.zero_le _
  | succ n =>
      have hfactor := cappedPow_le_succ h 32 n
      have hproduct := Nat.mul_le_mul_left (min (initial / 10 ^ 6) (UInt64.size - 1)) hfactor
      show min (min _ _ * _) _ ≤ min (min _ _ * _) _
      omega

theorem delay_le_succ (h : 1 ≤ p.multiplier.toNat) (attempt : Nat) :
    p.delay attempt ≤ p.delay (attempt + 1) := by
  have hspans := spanDelay_le_succ h (p.initialDelay.toNat * 10 ^ 6)
    (p.maxDelay.toNat * 10 ^ 6) attempt
  rw [spanDelay_millis, spanDelay_millis] at hspans
  exact Nat.le_of_mul_le_mul_right hspans (by decide)

-- ============================================== delays

/-- There is no wait before the first attempt. Before any other it is the
first delay times a power of the multiplier, but no more than the bound,
wherever the words it is computed in do not show; and they show nowhere else.
Whatever they do, no wait exceeds the bound, and none is shorter than the one
before unless the multiplier is zero; both also for delays that are no whole
milliseconds. -/
theorem delay_follows (p : RetryPolicy) :
    p.delay 0 = 0
      ∧ (∀ n, p.delay (n + 1)
            = min (p.initialDelay.toNat * p.multiplier.toNat ^ n) p.maxDelay.toNat
          ↔ p.multiplier.toNat ^ n < 2 ^ 32
            ∨ p.maxDelay.toNat ≤ p.initialDelay.toNat * (2 ^ 32 - 1)
            ∨ p.initialDelay.toNat = 0)
      ∧ (∀ n, p.delay n ≤ p.maxDelay.toNat)
      ∧ (1 ≤ p.multiplier.toNat → ∀ n, p.delay n ≤ p.delay (n + 1))
      ∧ (∀ n, spanDelay (p.initialDelay.toNat * 10 ^ 6) (p.maxDelay.toNat * 10 ^ 6) p.multiplier n
          = p.delay n * 10 ^ 6)
      ∧ ∀ initial bound n,
          spanDelay initial bound p.multiplier n ≤ bound
            ∧ (1 ≤ p.multiplier.toNat →
              spanDelay initial bound p.multiplier n
                ≤ spanDelay initial bound p.multiplier (n + 1)) := by
  refine ⟨p.delay_zero, p.delay_eq_iff, p.delay_le, delay_le_succ, p.spanDelay_millis, ?_⟩
  intro initial bound n
  exact ⟨spanDelay_le initial bound p.multiplier n,
    fun h => spanDelay_le_succ h initial bound n⟩

/-- The power does not fit its word, and the bound is out of reach. -/
example : (RetryPolicy.mk 40 1 5000000000 2).delay 33 = 4294967295 := by decide

end Sdwan.RetryPolicy
