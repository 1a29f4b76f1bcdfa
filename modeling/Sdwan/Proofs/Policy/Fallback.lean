/-
Which fallbacks of a class of service pass their check.

The criteria are a text, and the variances are fields that may be unset. The
two are compared as sets of names: each name between two hyphens has to be one
of a variance that is set, and each variance that is set has to be named
(`checkCriteria_eq_none`). So nothing depends on the order of the names or on
how often one is given (`checkCriteria_congr`), and a name is compared as it
stands, so that an empty one, or one with a blank, is no name at all.
-/
import Sdwan.Policy.Entry
import Sdwan.Proofs.Validation.Check

namespace Sdwan.Policy

open Validation Text

namespace FallbackTunnel

variable {t : FallbackTunnel} {name : String}

-- ============================================== names

/-- The variance of this name is set. -/
inductive Sets (t : FallbackTunnel) : String → Prop where
  | jitter : t.jitterVariance ≠ none → Sets t "jitter"
  | latency : t.latencyVariance ≠ none → Sets t "latency"
  | loss : t.lossVariance ≠ none → Sets t "loss"

/-- The names of the criteria are those of the limits that are set. -/
theorem mem_criteriaNames : name ∈ t.criteriaNames ↔ t.Sets name := by
  have hnames : name ∈ t.criteriaNames ↔ name = "jitter" ∧ t.jitterVariance ≠ none
      ∨ name = "latency" ∧ t.latencyVariance ≠ none ∨ name = "loss" ∧ t.lossVariance ≠ none := by
    simp [criteriaNames, Option.isSome_iff_ne_none, and_comm]
  rw [hnames]
  constructor
  · intro h
    rcases h with ⟨rfl, h⟩ | ⟨rfl, h⟩ | ⟨rfl, h⟩
    · exact .jitter h
    · exact .latency h
    · exact .loss h
  · intro h
    cases h with
    | jitter h => exact Or.inl ⟨rfl, h⟩
    | latency h => exact Or.inr (Or.inl ⟨rfl, h⟩)
    | loss h => exact Or.inr (Or.inr ⟨rfl, h⟩)

-- ============================================== criteria

/-- Two lists that are looked up in each other have the same members. -/
theorem all_contains_iff {xs ys : List String} :
    (xs.all (ys.contains ·) && ys.all (xs.contains ·)) = true ↔ ∀ x, x ∈ ys ↔ x ∈ xs := by
  simp only [Bool.and_eq_true, List.all_eq_true, List.contains_iff_mem]
  constructor
  · intro ⟨hxs, hys⟩ x
    exact ⟨hys x, hxs x⟩
  · intro h
    exact ⟨fun x => (h x).mpr, fun x => (h x).mp⟩

/-- The text of the criteria passes if its pieces are those names. -/
theorem checkCriteria_eq_none :
    t.checkCriteria = none ↔ (∃ name, t.Sets name)
      ∧ ∀ name : String, IsPiece (· == '-') t.criteria.toList name.toList ↔ t.Sets name := by
  simp only [← mem_criteriaNames, ← mem_splitAt]
  rw [← all_contains_iff, ← List.isEmpty_eq_false_iff_exists_mem]
  unfold checkCriteria
  dsimp only
  by_cases hempty : t.criteriaNames.isEmpty = true
  · rw [if_pos hempty, hempty]
    exact iff_of_false nofun fun h => Bool.noConfusion h.1
  · rw [if_neg hempty]
    by_cases hmatch : (t.criteriaNames.all ((splitAt '-' t.criteria).contains ·)
        && (splitAt '-' t.criteria).all (t.criteriaNames.contains ·)) = true
    · rw [if_pos hmatch]
      exact iff_of_true rfl ⟨Bool.eq_false_iff.mpr hempty, hmatch⟩
    · rw [if_neg hmatch]
      exact iff_of_false nofun fun h => hmatch h.2

/-- The issue is the same for all criteria with the same names. -/
theorem checkCriteria_congr {c d : String}
    (h : ∀ name, name ∈ splitAt '-' c ↔ name ∈ splitAt '-' d) :
    ({ t with criteria := c } : FallbackTunnel).checkCriteria
      = ({ t with criteria := d } : FallbackTunnel).checkCriteria := by
  have hmatch : ∀ expected : List String,
      (expected.all ((splitAt '-' c).contains ·) && (splitAt '-' c).all (expected.contains ·))
        = (expected.all ((splitAt '-' d).contains ·)
          && (splitAt '-' d).all (expected.contains ·)) := by
    intro expected
    rw [Bool.eq_iff_iff, all_contains_iff, all_contains_iff]
    simp only [h]
  unfold checkCriteria
  dsimp only
  rw [hmatch]
  rfl

-- ============================================== variances

/-- A limit in milliseconds is a number from 1 to 1000. -/
theorem checkMillis_eq_none {label raw : String} :
    checkMillis label raw = none ↔ ∃ i, IsInteger (trim raw.toList) i ∧ 1 ≤ i ∧ i ≤ 1000 :=
  checkIntRange_iff (by omega) (by omega)

/-- A limit for the loss is a number from 0 to 100. -/
theorem checkLoss_eq_none {raw : String} :
    checkLoss raw = none ↔ ∃ i, IsInteger (trim raw.toList) i ∧ 0 ≤ i ∧ i ≤ 100 :=
  checkIntRange_iff (by omega) (by omega)

-- ============================================== fallbacks

/-- What a fallback has to observe: variances in range, and criteria that name
those that are set and no others. -/
structure IsSound (t : FallbackTunnel) : Prop where
  exists_variance : ∃ name, t.Sets name
  jitter : ∀ text ∈ t.jitterVariance, ∃ i, IsInteger (trim text.toList) i ∧ 1 ≤ i ∧ i ≤ 1000
  latency : ∀ text ∈ t.latencyVariance, ∃ i, IsInteger (trim text.toList) i ∧ 1 ≤ i ∧ i ≤ 1000
  loss : ∀ text ∈ t.lossVariance, ∃ i, IsInteger (trim text.toList) i ∧ 0 ≤ i ∧ i ≤ 100
  criteria : ∀ name : String, IsPiece (· == '-') t.criteria.toList name.toList ↔ t.Sets name

/-- A tunnel passes exactly if it is sound. -/
theorem check_fallback_eq_nil : check t = [] ↔ t.IsSound := by
  show thenWhole _ _ = [] ↔ _
  simp only [thenWhole_eq_nil, List.append_eq_nil_iff, onTextIf_eq_nil, checkMillis_eq_none,
    checkLoss_eq_none, checkCriteria_eq_none]
  constructor
  · intro ⟨⟨⟨hjitter, hlatency⟩, hloss⟩, hset, hcriteria⟩
    exact ⟨hset, hjitter, hlatency, hloss, hcriteria⟩
  · intro h
    exact ⟨⟨⟨h.jitter, h.latency⟩, h.loss⟩, h.exists_variance, h.criteria⟩

/-- Neither the order of the pieces nor repetitions count. -/
theorem check_criteria_congr {ps qs : List (List Char)} (h : ∀ p, p ∈ ps ↔ p ∈ qs) :
    check ({ t with criteria := String.ofList (joined '-' ps) } : FallbackTunnel)
      = check ({ t with criteria := String.ofList (joined '-' qs) } : FallbackTunnel) := by
  show thenWhole _ _ = thenWhole _ _
  rw [checkCriteria_congr]
  intro name
  simp only [splitAt, String.toList_ofList, List.mem_map]
  refine exists_congr fun p => ?_
  rw [mem_pieces_joined_congr rfl h]

/-- A fallback passes exactly when a variance is set, each one that is set is
an integer in its range, and the texts between the hyphens of the criteria are
the names of those that are set. Other criteria made of the same parts, in
another order or some more often, get the same report; and a part that is not
the name of a variance that is set is never accepted. -/
theorem fallback_accepted :
    (∀ t : FallbackTunnel, check t = [] ↔ t.IsSound)
      ∧ (∀ (t : FallbackTunnel) (ps qs : List (List Char)), (∀ p, p ∈ ps ↔ p ∈ qs) →
          check ({ t with criteria := String.ofList (joined '-' ps) } : FallbackTunnel)
            = check ({ t with criteria := String.ofList (joined '-' qs) } : FallbackTunnel))
      ∧ ∀ (t : FallbackTunnel) (name : String),
          IsPiece (· == '-') t.criteria.toList name.toList → ¬ t.Sets name → check t ≠ [] := by
  refine ⟨fun t => check_fallback_eq_nil, fun t ps qs h => check_criteria_congr h, ?_⟩
  intro t name hpiece hname hpass
  exact hname (((check_fallback_eq_nil.mp hpass).criteria name).mp hpiece)

/-- A latency and a loss, in the order of the fields. -/
def lenient : FallbackTunnel := ⟨"latency-loss", none, some "10", some " +5"⟩

/-- The same names in another order, one of them again, get the same report,
and a blank in front of a name is refused. -/
theorem fallback_accepted_repeated :
    lenient.IsSound
      ∧ check ({ lenient with criteria := "loss-latency-loss" } : FallbackTunnel) = check lenient
      ∧ check ({ lenient with criteria := "latency- loss" } : FallbackTunnel) ≠ [] := by
  obtain ⟨haccepted, hcongr, hrefused⟩ := fallback_accepted
  have hsound : lenient.IsSound := (haccepted lenient).mp (by decide +kernel)
  refine ⟨hsound, ?_, ?_⟩
  · have hnames : ∀ p, p ∈ ["loss".toList, "latency".toList, "loss".toList]
        ↔ p ∈ ["latency".toList, "loss".toList] := by simp [or_comm]
    have hreport := hcongr lenient _ _ hnames
    rw [show String.ofList (joined '-' ["loss".toList, "latency".toList, "loss".toList])
        = "loss-latency-loss" by decide +kernel,
      show String.ofList (joined '-' ["latency".toList, "loss".toList]) = lenient.criteria
        by decide +kernel] at hreport
    exact hreport
  · refine hrefused _ " loss" (mem_splitAt.mp (by decide +kernel)) ?_
    rw [← mem_criteriaNames]
    decide +kernel

end FallbackTunnel

end Sdwan.Policy
