/-
Hardware addresses.

The check takes a text apart at its colons and again at its points, and asks of
the groups how many they are, how many bytes each has, and whether all their
characters are hexadecimal digits. A digit takes one byte, so the bytes of a
group are its digits, and groups of digits are the pieces of what they are
joined to (`isGrouped_iff`). So what is accepted are such groups with colons
between them, or with points (`checkMac_eq_none`).

The rest is read off the groups (`IsGrouped`): how many digits there are, and
that there is nothing beside them but the one separator. So neither of the two
ways to take a text apart lets pass what is written in the other way in part.
-/
import Sdwan.Feature.Interface.Entry
import Sdwan.Proofs.Text.Pieces

namespace Sdwan.Feature.Interface

open Validation Text

-- ============================================== digits

/-- The hexadecimal digits in ASCII, of either case. -/
def hexAlphabet : List Char := "0123456789abcdefABCDEF".toList

theorem toNat_lt_of_isHexDigit {c : Char} (h : isHexDigit c = true) : c.toNat < 128 := by
  simp only [isHexDigit, isDigit, Bool.or_eq_true, Bool.and_eq_true, decide_eq_true_eq] at h
  rcases h with (⟨-, h⟩ | ⟨-, h⟩) | ⟨-, h⟩
  · exact toNat_lt_of_le h (by decide)
  · exact toNat_lt_of_le h (by decide)
  · exact toNat_lt_of_le h (by decide)

/-- The digits are those of the alphabet, in either case. -/
theorem isHexDigit_iff {c : Char} : isHexDigit c = true ↔ c ∈ hexAlphabet := by
  constructor
  · intro h
    refine forall_ascii (P := fun c => isHexDigit c = true → c ∈ hexAlphabet) ?_
      (toNat_lt_of_isHexDigit h) h
    decide +kernel
  · intro h
    have hall : hexAlphabet.all isHexDigit = true := by decide +kernel
    exact List.all_eq_true.mp hall c h

/-- Digits take one byte each. -/
theorem length_utf8_of_digits {cs : List Char} (h : ∀ c ∈ cs, c ∈ hexAlphabet) :
    (utf8 cs).length = cs.length := by
  have hone : hexAlphabet.all (·.utf8Size == 1) = true := by decide +kernel
  induction cs with
  | nil => rfl
  | cons c cs ih =>
      obtain ⟨hc, hcs⟩ := List.forall_mem_cons.mp h
      have hcons : utf8 (c :: cs) = String.utf8EncodeChar c ++ utf8 cs := List.flatMap_cons
      rw [hcons, List.length_append, String.length_utf8EncodeChar,
        beq_iff_eq.mp (List.all_eq_true.mp hone c hc), ih hcs, List.length_cons, Nat.add_comm]

-- ============================================== groups of digits

/-- Groups of so many hexadecimal digits with a separator between any two. -/
def IsGrouped (s : Char) (groups digits : Nat) (cs : List Char) : Prop :=
  ∃ gs, cs = joined s gs ∧ gs.length = groups
    ∧ ∀ g ∈ gs, g.length = digits ∧ ∀ c ∈ g, c ∈ hexAlphabet

section Groups

variable {s : Char} {groups digits : Nat} {cs : List Char}

/-- The groups are the pieces of the text. -/
theorem isGrouped_iff (hs : s ∉ hexAlphabet) (hgroups : 0 < groups) :
    IsGrouped s groups digits cs ↔ (pieces (· == s) cs).length = groups
      ∧ ∀ g ∈ pieces (· == s) cs, g.length = digits ∧ ∀ c ∈ g, c ∈ hexAlphabet := by
  constructor
  · intro ⟨gs, heq, hlength, hgs⟩
    have hne : gs ≠ [] := List.length_pos_iff.mp (hlength ▸ hgroups)
    have hsep : ∀ g ∈ gs, ∀ c ∈ g, (c == s) = false := by
      intro g hg
      exact beq_eq_false_of_not_mem fun hmem => hs ((hgs g hg).2 s hmem)
    rw [heq, pieces_joined hne hsep (beq_self_eq_true s)]
    exact ⟨hlength, hgs⟩
  · intro ⟨hlength, hgs⟩
    exact ⟨_, (joined_pieces s cs).symm, hlength, hgs⟩

/-- The check of groups passes exactly the texts that are grouped so. -/
theorem isHexGroups_iff (hs : s ∉ hexAlphabet) (hgroups : 0 < groups) :
    isHexGroups s groups digits cs = true ↔ IsGrouped s groups digits cs := by
  rw [isGrouped_iff hs hgroups]
  simp only [isHexGroups, Bool.and_eq_true, beq_iff_eq, List.all_eq_true, isHexDigit_iff]
  -- where all characters are digits, the bytes that are counted are the digits
  refine and_congr_right fun _ => forall₂_congr fun g _ => and_congr_left fun hg => ?_
  rw [length_utf8_of_digits hg]

/-- Of every group the same number of characters is counted. -/
theorem countP_joined {p : Char → Bool} {n : Nat} {gs : List (List Char)} (hs : ¬ p s = true)
    (h : ∀ g ∈ gs, g.countP p = n) : (joined s gs).countP p = gs.length * n := by
  fun_induction joined s gs with
  | case1 => simp
  | case2 g => simpa using h g List.mem_cons_self
  | case3 g q gs ih =>
      obtain ⟨hg, hgs⟩ := List.forall_mem_cons.mp h
      rw [List.countP_append, List.countP_cons_of_neg hs, hg, ih hgs, List.length_cons,
        List.length_cons, List.length_cons, Nat.succ_mul (gs.length + 1), Nat.add_comm]

namespace IsGrouped

/-- There are as many digits as in the groups together. -/
theorem countP_eq (h : IsGrouped s groups digits cs) (hs : s ∉ hexAlphabet) :
    cs.countP (· ∈ hexAlphabet) = groups * digits := by
  obtain ⟨gs, rfl, rfl, hgs⟩ := h
  refine countP_joined (by simpa using hs) fun g hg => ?_
  obtain ⟨hlength, hdigits⟩ := hgs g hg
  rw [List.countP_eq_length.mpr fun c hc => decide_eq_true (hdigits c hc), hlength]

/-- Beside the digits there is only the separator. -/
theorem digit_or_separator (h : IsGrouped s groups digits cs) :
    ∀ c ∈ cs, c ∈ hexAlphabet ∨ c = s := by
  obtain ⟨gs, rfl, -, hgs⟩ := h
  intro c hc
  rcases mem_joined hc with rfl | ⟨g, hg, hc⟩
  · exact Or.inr rfl
  · exact Or.inl ((hgs g hg).2 c hc)

/-- Between two groups there is a separator. -/
theorem separator_mem (h : IsGrouped s groups digits cs) (hgroups : 1 < groups) : s ∈ cs := by
  obtain ⟨gs, rfl, rfl, -⟩ := h
  match gs with
  | [] | [_] => contradiction
  | g :: q :: gs => exact List.mem_append_right g List.mem_cons_self

/-- No separator of any kind leaves an empty group. -/
theorem not_isPiece_nil (h : IsGrouped s groups digits cs) (hs : s ∉ hexAlphabet)
    (hgroups : 0 < groups) (hdigits : 0 < digits) {t : Char} (ht : t ∉ hexAlphabet) :
    ¬ IsPiece (· == t) cs [] := by
  intro hpiece
  have hmem := mem_pieces.mpr hpiece
  by_cases hts : t = s
  · subst hts
    have hlength := (((isGrouped_iff hs hgroups).mp h).2 [] hmem).1
    exact Nat.ne_of_lt hdigits hlength
  · -- this one does not occur, and the text is not empty
    have hnone : t ∉ cs := fun hmem => (h.digit_or_separator t hmem).elim ht hts
    rw [pieces_eq_singleton (beq_eq_false_of_not_mem hnone), List.mem_singleton] at hmem
    have hcount := h.countP_eq hs
    rw [← hmem, List.countP_nil] at hcount
    exact Nat.ne_of_lt (Nat.mul_pos hgroups hdigits) hcount

end IsGrouped

end Groups

-- ============================================== hardware addresses

/-- Six groups of two digits with colons, or three groups of four with points. -/
def IsHardwareAddress (cs : List Char) : Prop := IsGrouped ':' 6 2 cs ∨ IsGrouped '.' 3 4 cs

theorem colon_not_digit : ':' ∉ hexAlphabet := by decide +kernel

theorem point_not_digit : '.' ∉ hexAlphabet := by decide +kernel

/-- The check passes exactly the hardware addresses. -/
theorem checkMac_eq_none {s : String} : checkMac s = none ↔ IsHardwareAddress s.toList := by
  have hmac : isMac s = true ↔ IsHardwareAddress s.toList := by
    rw [isMac, Bool.or_eq_true, isHexGroups_iff colon_not_digit (by decide),
      isHexGroups_iff point_not_digit (by decide)]
    rfl
  rw [← hmac, checkMac]
  split
  · next h => exact iff_of_true rfl h
  · next h => exact iff_of_false nofun h

namespace IsHardwareAddress

variable {cs : List Char}

/-- Both forms have twelve digits. -/
theorem countP_eq (h : IsHardwareAddress cs) : cs.countP (· ∈ hexAlphabet) = 12 := by
  rcases h with h | h
  · exact h.countP_eq colon_not_digit
  · exact h.countP_eq point_not_digit

/-- All separators are of one kind. -/
theorem exists_separator (h : IsHardwareAddress cs) :
    ∃ s, (s = ':' ∨ s = '.') ∧ s ∈ cs ∧ ∀ c ∈ cs, c ∈ hexAlphabet ∨ c = s := by
  rcases h with h | h
  · exact ⟨':', Or.inl rfl, h.separator_mem (by decide), h.digit_or_separator⟩
  · exact ⟨'.', Or.inr rfl, h.separator_mem (by decide), h.digit_or_separator⟩

theorem not_both (h : IsHardwareAddress cs) (hcolon : ':' ∈ cs) : '.' ∉ cs := by
  intro hpoint
  obtain ⟨s, -, -, honly⟩ := h.exists_separator
  have hs : ':' = s := (honly _ hcolon).resolve_left colon_not_digit
  have hs' : '.' = s := (honly _ hpoint).resolve_left point_not_digit
  exact absurd (hs.trans hs'.symm) (by decide)

theorem toNat_lt (h : IsHardwareAddress cs) : ∀ c ∈ cs, c.toNat < 128 := by
  obtain ⟨s, hs, -, honly⟩ := h.exists_separator
  intro c hc
  rcases honly c hc with hdigit | rfl
  · exact toNat_lt_of_isHexDigit (isHexDigit_iff.mpr hdigit)
  · rcases hs with rfl | rfl <;> decide

/-- Whatever is taken for the separator, no group is empty. -/
theorem not_isPiece_nil (h : IsHardwareAddress cs) {t : Char} (ht : t ∉ hexAlphabet) :
    ¬ IsPiece (· == t) cs [] := by
  rcases h with h | h
  · exact h.not_isPiece_nil colon_not_digit (by decide) (by decide) ht
  · exact h.not_isPiece_nil point_not_digit (by decide) (by decide) ht

end IsHardwareAddress

/-- A text passes exactly when it is six groups of two hexadecimal digits with
colons between them, or three groups of four with points. So in what passes
there are twelve digits and separators of one kind, and nothing else; and a text
does not pass when both separators are in it, or nothing is between two of one
kind or in front of the first or behind the last, or a character is not ASCII. -/
theorem checkMac_accepts :
    (∀ s, checkMac s = none ↔ IsGrouped ':' 6 2 s.toList ∨ IsGrouped '.' 3 4 s.toList)
      ∧ (∀ s, checkMac s = none → s.toList.countP (· ∈ hexAlphabet) = 12
          ∧ ∃ sep, (sep = ':' ∨ sep = '.') ∧ sep ∈ s.toList
            ∧ ∀ c ∈ s.toList, c ∈ hexAlphabet ∨ c = sep)
      ∧ (∀ s, ':' ∈ s.toList → '.' ∈ s.toList → checkMac s ≠ none)
      ∧ (∀ s, IsPiece (· == ':') s.toList [] ∨ IsPiece (· == '.') s.toList [] → checkMac s ≠ none)
      ∧ ∀ s, ∀ c ∈ s.toList, 128 ≤ c.toNat → checkMac s ≠ none := by
  refine ⟨fun s => checkMac_eq_none, ?_, ?_, ?_, ?_⟩
  · intro s h
    have haddress := checkMac_eq_none.mp h
    exact ⟨haddress.countP_eq, haddress.exists_separator⟩
  · intro s hcolon hpoint h
    exact (checkMac_eq_none.mp h).not_both hcolon hpoint
  · intro s hempty h
    have haddress := checkMac_eq_none.mp h
    exact hempty.elim (haddress.not_isPiece_nil colon_not_digit)
      (haddress.not_isPiece_nil point_not_digit)
  · intro s c hc hbeyond h
    exact absurd ((checkMac_eq_none.mp h).toNat_lt c hc) (Nat.not_lt.mpr hbeyond)

/-- Digits of both cases pass; a separator of the other kind, an empty group and
a letter of two bytes in the place of two digits do not. -/
theorem checkMac_accepts_cases :
    checkMac "00:1A:2b:3c:4d:5e" = none
      ∧ "00:1A:2b:3c:4d:5e".toList.countP (· ∈ hexAlphabet) = 12
      ∧ checkMac "001a.2b3c:4d5e" ≠ none ∧ checkMac "00::2b:3c:4d:5e" ≠ none
      ∧ checkMac "é:1a:2b:3c:4d:5e" ≠ none := by
  obtain ⟨hiff, hcount, hboth, hempty, hbeyond⟩ := checkMac_accepts
  have hpass : checkMac "00:1A:2b:3c:4d:5e" = none := by
    exact (hiff _).mpr (Or.inl ((isHexGroups_iff colon_not_digit (by decide)).mp
      (by decide +kernel)))
  refine ⟨hpass, (hcount _ hpass).1, ?_, ?_, ?_⟩
  · exact hboth _ (by decide +kernel) (by decide +kernel)
  · exact hempty _ (Or.inl (mem_pieces.mp (by decide +kernel)))
  · exact hbeyond _ 'é' (by decide +kernel) (by decide)

end Sdwan.Feature.Interface
