/-
Which texts pass for an integer in a range.

The blanks at the ends of a text are cut off before it is read, and no integer
has a blank in it. So a text stands for an integer when there are blanks around
one that is written in sign and digits (`isInteger_trim_iff`), and the text of a
number stands for this number (`isInteger_toString`).

An integer that does not fit 128 bits is not read at all. As long as the bounds
fit, it could not be between them, so such a text is refused as it should be,
and the check decides about the number that is written
(`checkIntRange_accepts`).
-/
import Sdwan.Proofs.Validation.Check

namespace Sdwan.Text

variable {cs body : List Char} {i : Int}

-- ============================================== blanks around a text

/-- The text is this body, with blanks before and behind it or without. -/
def IsSpaced (cs body : List Char) : Prop :=
  ∃ before after, cs = before ++ body ++ after ∧ (∀ c ∈ before, isBlank c = true)
    ∧ ∀ c ∈ after, isBlank c = true

/-- What is cut off are blanks. -/
theorem isSpaced_trim (cs : List Char) : IsSpaced cs (trim cs) := by
  refine ⟨cs.takeWhile isBlank, ((trimStart cs).reverse.takeWhile isBlank).reverse, ?_, ?_, ?_⟩
  · rw [trim, trimEnd, List.append_assoc, ← List.reverse_append, List.takeWhile_append_dropWhile,
      List.reverse_reverse, trimStart, List.takeWhile_append_dropWhile]
  · exact fun c hc => List.mem_takeWhile_imp hc
  · exact fun c hc => List.mem_takeWhile_imp (List.mem_reverse.mp hc)

/-- All blanks around a text without blanks are cut off. -/
theorem IsSpaced.trim_eq (h : IsSpaced cs body) (hbody : ∀ c ∈ body, isBlank c = false) :
    trim cs = body := by
  obtain ⟨before, after, rfl, hbefore, hafter⟩ := h
  rw [trim, trimStart, List.append_assoc, List.dropWhile_append_of_pos hbefore]
  cases body with
  | nil =>
      rw [List.nil_append, List.dropWhile_eq_nil_iff.mpr hafter]
      rfl
  | cons c body =>
      have hc : ¬ isBlank c = true := Bool.eq_false_iff.mp (hbody c List.mem_cons_self)
      have hself := trim_eq_self hbody
      rw [trim, trimStart, List.dropWhile_cons_of_neg hc, trimEnd] at hself
      rw [List.cons_append, List.dropWhile_cons_of_neg hc, ← List.cons_append, trimEnd,
        List.reverse_append,
        List.dropWhile_append_of_pos fun d hd => hafter d (List.mem_reverse.mp hd)]
      exact hself

-- ============================================== integers

/-- No integer is written with a blank. -/
theorem IsInteger.not_blank (h : IsInteger cs i) : ∀ c ∈ cs, isBlank c = false := by
  have hsigned : ∀ {ds n} {sign : Char}, isBlank sign = false → IsNumeral ds n →
      ∀ c ∈ sign :: ds, isBlank c = false := by
    intro ds n sign hsign hds
    exact List.forall_mem_cons.mpr ⟨hsign, fun c hc => isBlank_of_isDigit (hds.isDigit hc)⟩
  rcases h with ⟨n, ⟨ds, hds, rfl | rfl⟩, -⟩ | ⟨ds, n, hds, rfl, -⟩
  · exact fun c hc => isBlank_of_isDigit (hds.isDigit hc)
  · exact hsigned rfl hds
  · exact hsigned rfl hds

theorem IsInteger.trim_eq (h : IsInteger cs i) : trim cs = cs := trim_eq_self h.not_blank

theorem isInteger_trim_iff :
    IsInteger (trim cs) i ↔ ∃ body, IsSpaced cs body ∧ IsInteger body i := by
  constructor
  · intro h
    exact ⟨trim cs, isSpaced_trim cs, h⟩
  · intro ⟨body, hspaced, h⟩
    rwa [hspaced.trim_eq h.not_blank]

theorem isNumeral_toString (n : Nat) : IsNumeral (toString n).toList n := by
  show IsNumeral (String.ofList (Nat.toDigits 10 n)).toList n
  rw [String.toList_ofList]
  exact readDigits?_iff.mp readDigits?_toDigits

/-- The text of a number stands for it. -/
theorem isInteger_toString (n : Int) : IsInteger (toString n).toList n := by
  cases n with
  | ofNat m => exact Or.inl ⟨m, ⟨_, isNumeral_toString m, Or.inl rfl⟩, rfl⟩
  | negSucc m =>
      refine Or.inr ⟨(toString (m + 1)).toList, m + 1, isNumeral_toString (m + 1), ?_, rfl⟩
      show ("-" ++ toString (m + 1)).toList = '-' :: (toString (m + 1)).toList
      rw [String.toList_append]
      rfl

end Sdwan.Text

namespace Sdwan.Validation

open Text

/-- With bounds of 128 bits a text passes exactly when it is, without the blanks
around it, a sign or none and ASCII digits that stand for an integer between the
bounds, however many digits there are. So the text of a number passes exactly
when the number is between them. -/
theorem checkIntRange_accepts {least greatest : Int} (hleast : -2 ^ 127 ≤ least)
    (hgreatest : greatest < 2 ^ 127) (label : String) :
    (∀ raw, checkIntRange raw least greatest label = none
        ↔ ∃ body i, IsSpaced raw.toList body ∧ IsInteger body i ∧ least ≤ i ∧ i ≤ greatest)
      ∧ ∀ n : Int, checkIntRange (toString n) least greatest label = none
          ↔ least ≤ n ∧ n ≤ greatest := by
  refine ⟨fun raw => ?_, fun n => ?_⟩
  · rw [checkIntRange_iff hleast hgreatest]
    constructor
    · intro ⟨i, hi, hrange⟩
      obtain ⟨body, hspaced, hbody⟩ := isInteger_trim_iff.mp hi
      exact ⟨body, i, hspaced, hbody, hrange⟩
    · intro ⟨body, i, hspaced, hbody, hrange⟩
      exact ⟨i, isInteger_trim_iff.mpr ⟨body, hspaced, hbody⟩, hrange⟩
  · have hn := isInteger_toString n
    rw [checkIntRange_iff hleast hgreatest, hn.trim_eq]
    constructor
    · intro ⟨i, hi, hrange⟩
      rwa [hn.unique hi]
    · intro hrange
      exact ⟨n, hn, hrange⟩

/-- Blanks, a sign and zeros in front do not matter, and digits for a number of
more than 128 bits are refused. -/
theorem checkIntRange_accepts_signed :
    (-2 ^ 127 : Int) ≤ -5 ∧ (65535 : Int) < 2 ^ 127
      ∧ checkIntRange "\u2003-0005\n" (-5) 65535 "offset" = none
      ∧ checkIntRange (toString (2 ^ 128 + 7 : Int)) (-5) 65535 "offset" ≠ none := by
  have hleast : (-2 ^ 127 : Int) ≤ -5 := by omega
  have hgreatest : (65535 : Int) < 2 ^ 127 := by omega
  obtain ⟨hpass, hwritten⟩ := checkIntRange_accepts hleast hgreatest "offset"
  refine ⟨hleast, hgreatest, (hpass _).mpr ⟨"-0005".toList, -5, ?_, ?_, ?_⟩, ?_⟩
  · exact ⟨['\u2003'], ['\n'], by decide +kernel, List.forall_mem_singleton.mpr (by decide),
      List.forall_mem_singleton.mpr (by decide)⟩
  · exact readInt?_iff.mp (by decide +kernel)
  · decide
  · rw [Ne, hwritten]
    omega

end Sdwan.Validation
