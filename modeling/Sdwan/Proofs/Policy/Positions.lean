/-
Positions of rules, and the next one of a rule set.

A position is a text, and it is read in two ways: the check of a rule takes
blanks around the number, and the search for the next position does not. On
texts without such blanks the two find one number (`readBelow?_order`), so the
next position is above all positions that are written in this way, and
this is all that it depends on. A rule whose position stands between blanks is
passed over: it is below the next position only if another rule, without
blanks, is at its position or further on.
-/
import Sdwan.Policy.RuleSet
import Sdwan.Proofs.Validation.Check

namespace Sdwan.Policy

open Validation Text

-- ============================================== positions

namespace Rule

variable {r : Rule} {n m : Nat}

/-- The number that the check of a rule finds in its order. -/
def position? (r : Rule) : Option Int := readInteger? r.order

/-- The order of the rule has blanks around it. -/
def IsPadded (r : Rule) : Prop := trim r.order.toList ≠ r.order.toList

instance (r : Rule) : Decidable r.IsPadded := inferInstanceAs (Decidable (_ ≠ _))

/-- An order is accepted when it is a number of 32 bits above zero. -/
theorem exists_position (h : checkOrder r.order = none) :
    ∃ n : Nat, r.position? = some (n : Int) ∧ 0 < n ∧ n < UInt32.size := by
  obtain ⟨i, hi, hleast, hgreatest⟩ := checkIntRange_eq_none.mp h
  have hsize : UInt32.size = 4294967296 := rfl
  refine ⟨i.toNat, hi.trans (congrArg some ?_), ?_, ?_⟩
  all_goals omega

theorem readInt?_of_position (h : r.position? = some (n : Int)) :
    readInt? (trim r.order.toList) = some (n : Int) := by
  obtain ⟨hread, -⟩ := Option.filter_eq_some_iff.mp h
  exact hread

/-- Without the blanks the position is read as it is by the check, and with
them it is not read. -/
theorem readBelow?_order (h : r.position? = some (n : Int)) (hpos : 0 < n) (hn : n < UInt32.size) :
    readBelow? UInt32.size r.order.toList = some m ↔ ¬ r.IsPadded ∧ m = n := by
  have hint := readInt?_of_position h
  unfold readBelow? IsPadded
  rw [Option.filter_eq_some_iff, not_not]
  constructor
  · intro ⟨hread, _⟩
    -- what is read as it stands has no blanks, so the check reads the same text
    have htrim := trim_of_readNat? hread
    rw [htrim, readInt?_of_readNat? hread] at hint
    exact ⟨htrim, Int.ofNat_inj.mp (Option.some.inj hint)⟩
  · intro ⟨htrim, hmn⟩
    rw [htrim] at hint
    rw [hmn, readNat?_iff_readInt? hpos]
    exact ⟨hint, decide_eq_true hn⟩

/-- A number is read back from the order that is made of it. -/
theorem position_of_order {order : UInt32} (h : r.order = toString order) :
    r.position? = some (order.toNat : Int) := by
  rw [position?, h]
  exact readInteger?_toDigits (order.toNat_lt.trans (by decide))

end Rule

-- ============================================== the next position

namespace RuleSet

variable {s : RuleSet} {n m : Nat}

/-- The positions that count for the next one are those without blanks. -/
theorem mem_orders (hvalid : ∀ r ∈ s.definition.rules, Rule.checkOrder r.order = none) :
    m ∈ s.orders
      ↔ ∃ r ∈ s.definition.rules, ¬ r.IsPadded ∧ r.position? = some (m : Int) := by
  rw [orders, List.mem_filterMap]
  constructor
  · intro ⟨r, hr, hread⟩
    obtain ⟨n, hn, hpos, hlt⟩ := Rule.exists_position (hvalid r hr)
    obtain ⟨hpadded, rfl⟩ := (Rule.readBelow?_order hn hpos hlt).mp hread
    exact ⟨r, hr, hpadded, hn⟩
  · intro ⟨r, hr, hpadded, hm⟩
    obtain ⟨n, hn, hpos, hlt⟩ := Rule.exists_position (hvalid r hr)
    have heq : m = n := Int.ofNat_inj.mp (Option.some.inj (hm.symm.trans hn))
    exact ⟨r, hr, (Rule.readBelow?_order hn hpos hlt).mpr ⟨hpadded, heq⟩⟩

/-- Below the next position are all numbers up to the highest that counts,
but not the last number there is. -/
theorem lt_nextOrder_iff (hpos : 0 < n) :
    n < s.nextOrder.toNat ↔ n < 4294967295 ∧ ∃ m ∈ s.orders, n ≤ m := by
  unfold nextOrder
  cases hmax : s.orders.max? with
  | none =>
      rw [List.max?_eq_none_iff] at hmax
      have hone : (1 : UInt32).toNat = 1 := rfl
      simp only [hmax, hone, List.not_mem_nil, false_and, exists_false, and_false, iff_false]
      omega
  | some k =>
      obtain ⟨hmem, hle⟩ := List.max?_eq_some_iff.mp hmax
      -- the step behind the highest stops at the last number of 32 bits
      have hsize : UInt32.size = 4294967296 := rfl
      have hnext : (UInt32.ofNat (min (k + 1) (UInt32.size - 1))).toNat
          = min (k + 1) 4294967295 := by
        rw [UInt32.toNat_ofNat']
        omega
      simp only [hnext]
      constructor
      · intro hlt
        exact ⟨by omega, k, hmem, by omega⟩
      · intro ⟨hlast, m, hm, hnm⟩
        have hmk := hle m hm
        omega

/-- In a rule set whose orders are all accepted, the next position is above
the position of a rule exactly when this is not the last position there is and
some rule without blanks around its order is at it or further on: the rule
itself if it has no such blanks. A rule added at the next position is at the
number that was asked for. -/
theorem nextOrder_follows (s : RuleSet)
    (hvalid : ∀ r ∈ s.definition.rules, Rule.checkOrder r.order = none) :
    (∀ r ∈ s.definition.rules, ∃ n : Nat, r.position? = some (n : Int)
      ∧ (n < s.nextOrder.toNat ↔ n < 4294967295
          ∧ ∃ r' ∈ s.definition.rules, ¬ r'.IsPadded
              ∧ ∃ m : Nat, r'.position? = some (m : Int) ∧ n ≤ m))
      ∧ (Rule.ipv4 s.nextOrder).position? = some (s.nextOrder.toNat : Int)
      ∧ (Rule.ipv6 s.nextOrder).position? = some (s.nextOrder.toNat : Int) := by
  refine ⟨fun r hr => ?_, Rule.position_of_order rfl, Rule.position_of_order rfl⟩
  obtain ⟨n, hn, hpos, -⟩ := Rule.exists_position (hvalid r hr)
  refine ⟨n, hn, ?_⟩
  rw [lt_nextOrder_iff hpos]
  refine and_congr_right fun _ => ?_
  constructor
  · intro ⟨m, hm, hnm⟩
    obtain ⟨r', hr', hpadded, hposition⟩ := (mem_orders hvalid).mp hm
    exact ⟨r', hr', hpadded, m, hposition, hnm⟩
  · intro ⟨r', hr', hpadded, m, hposition, hnm⟩
    exact ⟨m, (mem_orders hvalid).mpr ⟨r', hr', hpadded, hposition⟩, hnm⟩

/-- Rules at the positions three and four, the second with blanks around it. -/
def spaced : RuleSet :=
  (new "web").withRules
    [{ family := .ipv4, order := "+03" }, { family := .ipv6, order := " 4 " }]

/-- The next position of these rules is the one that the second has. -/
theorem nextOrder_follows_spaced :
    (∀ r ∈ spaced.definition.rules, Rule.checkOrder r.order = none)
      ∧ ∃ r ∈ spaced.definition.rules, r.position? = (Rule.ipv4 spaced.nextOrder).position? := by
  have hvalid : ∀ r ∈ spaced.definition.rules, Rule.checkOrder r.order = none := by
    decide +kernel
  have hthree : Rule.position? { family := .ipv4, order := "+03" } = some 3 := by decide +kernel
  have hfour : Rule.position? { family := .ipv6, order := " 4 " } = some 4 := by decide +kernel
  have hmem : ∀ r, r ∈ spaced.definition.rules
      ↔ r = { family := .ipv4, order := "+03" } ∨ r = { family := .ipv6, order := " 4 " } := by
    simp [spaced, withRules]
  obtain ⟨hbelow, hadded, -⟩ := nextOrder_follows spaced hvalid
  obtain ⟨n, hn, hfirst⟩ := hbelow _ ((hmem _).mpr (Or.inl rfl))
  obtain ⟨m, hm, hsecond⟩ := hbelow _ ((hmem _).mpr (Or.inr rfl))
  rw [hthree, Option.some_inj] at hn
  rw [hfour, Option.some_inj] at hm
  have habove : n < spaced.nextOrder.toNat := by
    rw [hfirst]
    refine ⟨by omega, _, (hmem _).mpr (Or.inl rfl), by decide +kernel, n, ?_, le_rfl⟩
    rw [hthree, hn]
  have hnot : ¬ m < spaced.nextOrder.toNat := by
    rw [hsecond]
    intro ⟨_, r, hr, hpadded, k, hk, hmk⟩
    rcases (hmem r).mp hr with rfl | rfl
    · rw [hthree, Option.some_inj] at hk
      omega
    · exact hpadded (by decide +kernel)
  refine ⟨hvalid, _, (hmem _).mpr (Or.inr rfl), ?_⟩
  rw [hfour, hadded, Option.some_inj]
  omega

end RuleSet

end Sdwan.Policy
