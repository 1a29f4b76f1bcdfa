/-
When a failed request is sent again, and after how long. The delay grows
by a factor from one attempt to the next up to a bound.
-/

namespace Sdwan

/-- How often and how fast a request is repeated. Delays are in
milliseconds. -/
structure RetryPolicy where
  maxRetries : UInt32 := 3
  initialDelay : UInt64 := 500
  maxDelay : UInt64 := 5000
  multiplier : UInt32 := 2
deriving DecidableEq, Repr

namespace RetryPolicy

/-- Every request is sent once. -/
def once : RetryPolicy := ⟨0, 0, 0, 1⟩

/-- Whether a request may be repeated at all. -/
def hasRetries (p : RetryPolicy) : Bool := 0 < p.maxRetries

/-- A power, but at most `bound`. A base above one passes every bound of
`b` bits within `b` steps, so no larger power is ever computed. -/
def cappedPow (bits base exponent : Nat) : Nat :=
  min (Nat.pow base (min exponent (if base ≤ 1 then 1 else bits))) (Nat.pow 2 bits - 1)

/-- The wait before an attempt; the first attempt has the number zero. -/
def delay (p : RetryPolicy) (attempt : Nat) : Nat :=
  match attempt with
  | 0 => 0
  | n + 1 =>
    let factor := cappedPow 32 p.multiplier.toNat n
    min (min (p.initialDelay.toNat * factor) (UInt64.size - 1)) p.maxDelay.toNat

theorem delay_zero (p : RetryPolicy) : p.delay 0 = 0 := rfl

/-- No wait is longer than the policy's bound. -/
theorem delay_le (p : RetryPolicy) (attempt : Nat) : p.delay attempt ≤ p.maxDelay.toNat := by
  cases attempt with
  | zero => simp [delay]
  | succ n => exact Nat.min_le_right _ _

end RetryPolicy

/-- The settings of a client's connections. Times are in milliseconds. -/
structure Settings where
  timeout : Nat := 30000
  retry : RetryPolicy := {}
  idleTimeout : Nat := 90000
  idlePerHost : Nat := 10
  logging : Bool := true
  compression : Bool := true
deriving DecidableEq, Repr

end Sdwan
