/-
What the readers of decimal numerals accept.

The two readers differ in their signs: both take a plus sign, and only the
one for integers takes a minus sign. So they read the same texts as the same
numbers, up to the texts with a minus sign (`readInt?_eq_some`), and above
zero they agree altogether (`readNat?_iff_readInt?`). Neither takes anything
but a sign and digits, so nothing that is accepted has blanks around it.

# What a text stands for

A numeral is said without the readers, by the weights of its digits
(`IsNumeral`); `IsNatural` and `IsInteger` add the signs. Each reader takes
the texts of its kind and no others, and finds the number they stand for,
however many digits there are (`readDigits?_iff`, `readNat?_iff`,
`readInt?_iff`). Hence a text stands for one number at most.
-/
import Mathlib.Data.List.Induction
import Mathlib.Data.Nat.Digits.Defs
import Sdwan.Proofs.Text.Numeral
import Sdwan.Proofs.Text.Pieces

namespace Sdwan.Text

variable {cs : List Char} {n : Nat} {i : Int}

-- ============================================== digits

/-- A number is read from one or more digits and nothing else. -/
theorem readDigits?_eq_some :
    readDigits? cs = some n ↔ cs ≠ [] ∧ (∀ c ∈ cs, isDigit c = true) ∧ digitsValue cs = n := by
  unfold readDigits?
  have hcond : (!cs.isEmpty && cs.all isDigit) = true ↔ cs ≠ [] ∧ ∀ c ∈ cs, isDigit c = true := by
    simp
  by_cases h : cs ≠ [] ∧ ∀ c ∈ cs, isDigit c = true
  · rw [if_pos (hcond.mpr h), Option.some_inj]
    exact ⟨fun hn => ⟨h.1, h.2, hn⟩, fun hn => hn.2.2⟩
  · rw [if_neg (mt hcond.mp h)]
    exact iff_of_false nofun fun hn => h ⟨hn.1, hn.2.1⟩

theorem readDigits?_toDigits : readDigits? (Nat.toDigits 10 n) = some n := by
  rw [readDigits?_eq_some]
  exact ⟨Nat.toDigits_ne_nil, forall_mem_toDigits (by decide) fun _ hd => isDigit_digitChar hd,
    digitsValue_toDigits⟩

-- ============================================== numerals

/-- Digits in ASCII that stand for `n` in base ten. -/
structure IsNumeral (ds : List Char) (n : Nat) : Prop where
  ne_nil : ds ≠ []
  digits : ∀ c ∈ ds, '0' ≤ c ∧ c ≤ '9'
  value : Nat.ofDigits 10 (ds.reverse.map fun c => c.toNat - '0'.toNat) = n

/-- A numeral with a plus sign in front of it or without one. -/
def IsNatural (cs : List Char) (n : Nat) : Prop :=
  ∃ ds, IsNumeral ds n ∧ (cs = ds ∨ cs = '+' :: ds)

/-- A numeral with a sign in front of it or without one. -/
def IsInteger (cs : List Char) (i : Int) : Prop :=
  (∃ n : Nat, IsNatural cs n ∧ i = n) ∨ ∃ ds n, IsNumeral ds n ∧ cs = '-' :: ds ∧ i = -(n : Int)

/-- Counting from the left and adding up weights from the right give one
number. -/
theorem digitsValue_eq_ofDigits (ds : List Char) :
    digitsValue ds = Nat.ofDigits 10 (ds.reverse.map fun c => c.toNat - '0'.toNat) := by
  induction ds using List.reverseRecOn with
  | nil => rfl
  | append_singleton ds d ih =>
      rw [digitsValue_append_singleton, ih, List.reverse_append, List.reverse_singleton,
        List.singleton_append, List.map_cons, Nat.ofDigits_cons, Nat.add_comm]
      rfl

/-- Numerals are read, as what they stand for. -/
theorem readDigits?_iff : readDigits? cs = some n ↔ IsNumeral cs n := by
  have hdigit : ∀ c, isDigit c = true ↔ '0' ≤ c ∧ c ≤ '9' := by simp [isDigit]
  rw [readDigits?_eq_some, digitsValue_eq_ofDigits]
  simp only [hdigit]
  constructor
  · intro h
    exact ⟨h.1, h.2.1, h.2.2⟩
  · intro h
    exact ⟨h.ne_nil, h.digits, h.value⟩

theorem IsNumeral.isDigit {c : Char} (h : IsNumeral cs n) (hc : c ∈ cs) : isDigit c = true :=
  (readDigits?_eq_some.mp (readDigits?_iff.mpr h)).2.1 c hc

theorem IsNumeral.digitsValue_eq (h : IsNumeral cs n) : digitsValue cs = n :=
  (readDigits?_eq_some.mp (readDigits?_iff.mpr h)).2.2

/-- A numeral is one piece, whatever else than a digit separates. -/
theorem IsNumeral.pieces_eq {s : Char} (h : IsNumeral cs n) (hs : Text.isDigit s = false) :
    pieces (· == s) cs = [cs] := by
  apply pieces_eq_singleton
  intro c hc
  rw [beq_eq_false_iff_ne]
  rintro rfl
  exact absurd (h.isDigit hc) (Bool.eq_false_iff.mp hs)

/-- Any digits stand for their value. -/
theorem isNumeral_digitsValue (hne : cs ≠ []) (h : ∀ c ∈ cs, isDigit c = true) :
    IsNumeral cs (digitsValue cs) :=
  readDigits?_iff.mp (readDigits?_eq_some.mpr ⟨hne, h, rfl⟩)

/-- Natural numbers are read from numerals with a plus sign or without. -/
theorem readNat?_iff : readNat? cs = some n ↔ IsNatural cs n := by
  unfold IsNatural
  constructor
  · intro h
    unfold readNat? at h
    split at h
    · next ds => exact ⟨ds, readDigits?_iff.mp h, Or.inr rfl⟩
    · exact ⟨cs, readDigits?_iff.mp h, Or.inl rfl⟩
  · rintro ⟨ds, hds, rfl | rfl⟩
    · rw [readNat?]
      · exact readDigits?_iff.mpr hds
      · rintro es rfl
        exact absurd (hds.isDigit List.mem_cons_self) (by decide)
    · exact readDigits?_iff.mpr hds

-- ============================================== signs

/-- An integer is written with a minus sign, or as a natural number is. -/
theorem readInt?_eq_some (h : readInt? cs = some i) :
    (∃ ds m, cs = '-' :: ds ∧ readDigits? ds = some m ∧ i = -(m : Int))
      ∨ ∃ m : Nat, readNat? cs = some m ∧ i = m := by
  unfold readInt? at h
  split at h
  · next ds =>
      cases hm : readDigits? ds with
      | none =>
          rw [hm] at h
          cases h
      | some m =>
          rw [hm] at h
          exact Or.inl ⟨ds, m, rfl, hm, (Option.some.inj h).symm⟩
  · next ds =>
      obtain ⟨m, hm, rfl⟩ := Option.map_eq_some_iff.mp h
      exact Or.inr ⟨m, hm, rfl⟩
  -- without a sign in front the text is what a natural number is read from
  · next hminus hplus =>
      obtain ⟨m, hm, rfl⟩ := Option.map_eq_some_iff.mp h
      refine Or.inr ⟨m, ?_, rfl⟩
      rw [readNat?]
      · exact hm
      · exact hplus

/-- What is read as a natural number is read as the same integer. -/
theorem readInt?_of_readNat? (h : readNat? cs = some n) : readInt? cs = some (n : Int) := by
  unfold readNat? at h
  split at h
  · rw [readInt?, h]
    rfl
  · next hplus =>
      have hdigits := (readDigits?_eq_some.mp h).2.1
      rw [readInt?]
      · rw [h]
        rfl
      · intro ds hcs
        have hminus := hdigits '-' (hcs ▸ List.mem_cons_self)
        exact absurd hminus (by decide)
      · exact hplus

/-- Integers are read from numerals with either sign or without. -/
theorem readInt?_iff : readInt? cs = some i ↔ IsInteger cs i := by
  constructor
  · intro h
    rcases readInt?_eq_some h with ⟨ds, m, rfl, hm, rfl⟩ | ⟨m, hm, rfl⟩
    · exact Or.inr ⟨ds, m, readDigits?_iff.mp hm, rfl, rfl⟩
    · exact Or.inl ⟨m, readNat?_iff.mp hm, rfl⟩
  · rintro (⟨m, hm, rfl⟩ | ⟨ds, m, hm, rfl, rfl⟩)
    · exact readInt?_of_readNat? (readNat?_iff.mpr hm)
    · rw [readInt?, readDigits?_iff.mpr hm]
      rfl

theorem IsNatural.unique {m : Nat} (h : IsNatural cs n) (h' : IsNatural cs m) : n = m :=
  Option.some.inj ((readNat?_iff.mpr h).symm.trans (readNat?_iff.mpr h'))

/-- What is known of the number of a text is known of every one it stands for. -/
theorem IsNatural.exists_and_iff {P : Nat → Prop} (h : IsNatural cs n) :
    (∃ m, IsNatural cs m ∧ P m) ↔ P n := by
  constructor
  · intro ⟨m, hm, hP⟩
    rwa [h.unique hm]
  · intro hP
    exact ⟨n, h, hP⟩

theorem IsInteger.unique {j : Int} (h : IsInteger cs i) (h' : IsInteger cs j) : i = j :=
  Option.some.inj ((readInt?_iff.mpr h).symm.trans (readInt?_iff.mpr h'))

/-- With a bound, the natural numbers below it are read. -/
theorem readBelow?_eq_some {bound : Nat} :
    readBelow? bound cs = some n ↔ IsNatural cs n ∧ n < bound := by
  rw [readBelow?, Option.filter_eq_some_iff, readNat?_iff, decide_eq_true_iff]

/-- There is no minus sign in what stands for a natural number. -/
theorem IsNatural.hyphen_not_mem (h : IsNatural cs n) : '-' ∉ cs := by
  obtain ⟨ds, hds, hcs⟩ := h
  have hdigits : '-' ∉ ds := fun hmem => absurd (hds.isDigit hmem) (by decide)
  rcases hcs with rfl | rfl
  · exact hdigits
  · simpa using hdigits

/-- A natural number has no hyphen to split at. -/
theorem IsNatural.pieces_eq (h : IsNatural cs n) : pieces (· == '-') cs = [cs] :=
  pieces_eq_singleton (beq_eq_false_of_not_mem h.hyphen_not_mem)

/-- Without a minus sign an integer is a natural number. -/
theorem IsInteger.exists_natural (h : IsInteger cs i) (hcs : '-' ∉ cs) :
    ∃ n : Nat, IsNatural cs n ∧ i = n := by
  rcases h with hnatural | ⟨ds, n, -, rfl, -⟩
  · exact hnatural
  · exact absurd List.mem_cons_self hcs

/-- Above zero the two readers are one. -/
theorem readNat?_iff_readInt? (hn : 0 < n) :
    readNat? cs = some n ↔ readInt? cs = some (n : Int) := by
  constructor
  · exact readInt?_of_readNat?
  · intro h
    rcases readInt?_eq_some h with ⟨ds, m, -, -, hm⟩ | ⟨m, hm, heq⟩
    · omega
    · rw [hm, Int.ofNat_inj.mp heq]

/-- The digits of a number are read as a natural number. -/
theorem readNat?_toDigits : readNat? (Nat.toDigits 10 n) = some n := by
  have hdigits : readDigits? (Nat.toDigits 10 n) = some n := readDigits?_toDigits
  rw [readNat?]
  · exact hdigits
  · intro ds hds
    have hplus := (readDigits?_eq_some.mp hdigits).2.1 '+' (hds ▸ List.mem_cons_self)
    exact absurd hplus (by decide)

-- ============================================== blanks

/-- A text that is read as a number has no white space around it. -/
theorem trim_of_readNat? (h : readNat? cs = some n) : trim cs = cs := by
  apply trim_eq_self
  unfold readNat? at h
  split at h
  · next ds =>
      have hdigits := (readDigits?_eq_some.mp h).2.1
      intro c hc
      rcases List.mem_cons.mp hc with rfl | hc
      · decide
      · exact isBlank_of_isDigit (hdigits c hc)
  · intro c hc
    exact isBlank_of_isDigit ((readDigits?_eq_some.mp h).2.1 c hc)

/-- Nothing is cut off from what stands for a natural number. -/
theorem IsNatural.trim_eq (h : IsNatural cs n) : trim cs = cs :=
  trim_of_readNat? (readNat?_iff.mpr h)

end Sdwan.Text
