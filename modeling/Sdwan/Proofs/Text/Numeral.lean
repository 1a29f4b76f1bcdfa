/-
Numerals are read as the numbers they were printed for, in every base up to
sixteen. The induction is on the digits of the number, the last one last,
as the library prints them.
-/
import Mathlib.Algebra.Group.Nat.Defs
import Mathlib.Data.List.Basic
import Sdwan.Text.Numeral

namespace Sdwan.Text

-- ============================================== single digits

/-- The printed digits are hexadecimal digits. -/
theorem isHexDigit_digitChar : ∀ {d : Nat}, d < 16 → isHexDigit d.digitChar = true := by decide

/-- Up to nine they are decimal digits. -/
theorem isDigit_digitChar : ∀ {d : Nat}, d < 10 → isDigit d.digitChar = true := by decide

/-- A printed digit has its value. -/
theorem hexValue_digitChar : ∀ {d : Nat}, d < 16 → hexValue d.digitChar = d := by decide

/-- Only zero is printed as zero. -/
theorem digitChar_ne_zero : ∀ {d : Nat}, d < 16 → 0 < d → d.digitChar ≠ '0' := by decide

/-- A decimal digit is a hexadecimal one. -/
theorem isHexDigit_of_isDigit {c : Char} (h : isDigit c = true) : isHexDigit c = true := by
  rw [isHexDigit, h]
  rfl

/-- A decimal digit weighs the same in both readings. -/
theorem digitValue_digitChar : ∀ {d : Nat}, d < 10 → digitValue d.digitChar = d := by decide

-- ============================================== printed numbers

variable {b n : Nat}

/-- All characters of a printed number are digits. -/
theorem forall_mem_toDigits {p : Char → Bool} (hb : 1 < b)
    (hp : ∀ d, d < b → p d.digitChar = true) : ∀ c ∈ Nat.toDigits b n, p c = true := by
  induction n using Nat.base_induction b hb with
  | single m hm =>
      rw [Nat.toDigits_of_lt_base hm]
      exact List.forall_mem_singleton.mpr (hp m hm)
  | digit m k hk hm ih =>
      rw [← Nat.toDigits_append_toDigits hb hm hk, Nat.toDigits_of_lt_base hk]
      exact List.forall_mem_append.mpr ⟨ih, List.forall_mem_singleton.mpr (hp k hk)⟩

/-- One more digit at the end. -/
theorem valueInBase_append_singleton (b : Nat) (ds : List Char) (d : Char) :
    valueInBase b (ds ++ [d]) = b * valueInBase b ds + hexValue d := by
  simp [valueInBase]

/-- A printed number has its value. -/
theorem valueInBase_toDigits (hb : 1 < b) (hb' : b ≤ 16) :
    valueInBase b (Nat.toDigits b n) = n := by
  induction n using Nat.base_induction b hb with
  | single m hm =>
      rw [Nat.toDigits_of_lt_base hm]
      show b * 0 + hexValue m.digitChar = m
      rw [hexValue_digitChar (by omega)]
      omega
  | digit m k hk hm ih =>
      rw [← Nat.toDigits_append_toDigits hb hm hk, Nat.toDigits_of_lt_base hk,
        valueInBase_append_singleton, ih, hexValue_digitChar (by omega)]

theorem digitsValue_toDigits : digitsValue (Nat.toDigits 10 n) = n := by
  induction n using Nat.base_induction 10 (by decide) with
  | single m hm =>
      rw [Nat.toDigits_of_lt_base hm]
      show 10 * 0 + digitValue m.digitChar = m
      rw [digitValue_digitChar hm]
      omega
  | digit m k hk hm ih =>
      rw [← Nat.toDigits_append_toDigits (by decide) hm hk, Nat.toDigits_of_lt_base hk,
        digitsValue_append_singleton, ih, digitValue_digitChar hk]

/-- A number above zero is not printed with a zero in front. -/
theorem head?_toDigits_ne_zero (hb : 1 < b) (hb' : b ≤ 16) (hn : 0 < n) :
    (Nat.toDigits b n).head? ≠ some '0' := by
  induction n using Nat.base_induction b hb with
  | single m hm =>
      rw [Nat.toDigits_of_lt_base hm, List.head?_cons]
      intro h
      exact digitChar_ne_zero (by omega) hn (Option.some.inj h)
  | digit m k hk hm ih =>
      rw [← Nat.toDigits_append_toDigits hb hm hk,
        List.head?_append_of_ne_nil _ Nat.toDigits_ne_nil]
      exact ih hm

/-- A number of several digits has no zero in front. -/
theorem head?_toDigits_of_one_lt (hb : 1 < b) (hb' : b ≤ 16)
    (hlen : 1 < (Nat.toDigits b n).length) : (Nat.toDigits b n).head? ≠ some '0' := by
  refine head?_toDigits_ne_zero hb hb' (Nat.pos_of_ne_zero ?_)
  rintro rfl
  rw [Nat.toDigits_zero] at hlen
  exact Nat.lt_irrefl 1 hlen

end Sdwan.Text
