/-
The text of a version is read as this version.

Reading takes the digits that each piece between points begins with. The text
of a version has nothing else, so all of it is taken (`readPieces_digits`),
and there are no blanks to be trimmed. Only a version without components has
no text that can be read.
-/
import Sdwan.Proofs.Text.Numeral
import Sdwan.Proofs.Text.Pieces
import Sdwan.Version

namespace Sdwan.Version

open Text

/-- Numbers are written with points between them. -/
theorem withPoints_eq_joined (ps : List (List Char)) : withPoints ps = joined '.' ps := by
  fun_induction joined '.' ps with
  | case1 => rfl
  | case2 p => rfl
  | case3 p q ps ih =>
      rw [withPoints, ih]
      exact List.cons_ne_nil _ _

/-- The digits of a component. -/
def digits (c : UInt64) : List Char := Nat.toDigits 10 c.toNat

theorem isDigit_of_mem_digits {c : UInt64} {d : Char} (h : d ∈ digits c) : isDigit d = true :=
  forall_mem_toDigits (by decide) (fun _ hd => isDigit_digitChar hd) d h

theorem digits_ne_nil (c : UInt64) : digits c ≠ [] := Nat.toDigits_ne_nil

/-- All components are taken from their digits. -/
theorem readPieces_digits (cs : List UInt64) : readPieces (cs.map digits) = some cs := by
  induction cs with
  | nil => rfl
  | cons c cs ih =>
      have htake : (digits c).takeWhile isDigit = digits c :=
        List.takeWhile_eq_self_iff.mpr fun d hd => isDigit_of_mem_digits hd
      have hne : (digits c).isEmpty = false :=
        List.isEmpty_eq_false_iff.mpr (digits_ne_nil c)
      have hvalue : digitsValue (digits c) = c.toNat := digitsValue_toDigits
      have hfits : c.toNat < UInt64.size := c.toNat_lt
      rw [List.map_cons, readPieces, htake, hne, if_neg Bool.false_ne_true, hvalue, if_pos hfits,
        beq_self_eq_true, if_pos rfl, ih, UInt64.ofNat_toNat]
      rfl

-- ============================================== the whole text

variable {v : Version}

/-- A version is its components with points between them. -/
theorem chars_eq_joined (v : Version) : v.chars = joined '.' (v.components.map digits) :=
  withPoints_eq_joined _

/-- There are only digits and points. -/
theorem mem_chars {c : Char} (h : c ∈ v.chars) : isDigit c = true ∨ c = '.' := by
  rw [chars_eq_joined] at h
  rcases mem_joined h with rfl | ⟨ds, hds, hc⟩
  · exact Or.inr rfl
  · obtain ⟨n, -, rfl⟩ := List.mem_map.mp hds
    exact Or.inl (isDigit_of_mem_digits hc)

theorem isBlank_of_mem_chars {c : Char} (h : c ∈ v.chars) : isBlank c = false := by
  rcases mem_chars h with hdigit | rfl
  · exact isBlank_of_isDigit hdigit
  · decide

/-- The pieces of what is written are the components. -/
theorem pieces_chars (h : v.components ≠ []) :
    pieces (· == '.') v.chars = v.components.map digits := by
  rw [chars_eq_joined]
  refine pieces_joined (by simpa using h) ?_ rfl
  intro p hp d hd
  obtain ⟨n, -, rfl⟩ := List.mem_map.mp hp
  rw [beq_eq_false_iff_ne]
  rintro rfl
  exact absurd (isDigit_of_mem_digits hd) (by decide)

/-- What was written is read as the same version. -/
theorem ofChars_chars (h : v.components ≠ []) : ofChars v.chars = .ok v := by
  have htrim : trim v.chars = v.chars := trim_eq_self fun c hc => isBlank_of_mem_chars hc
  obtain ⟨c, cs, hcs⟩ := List.exists_cons_of_ne_nil h
  have hne : v.chars.isEmpty = false := by
    obtain ⟨d, ds, hd⟩ := List.exists_cons_of_ne_nil (digits_ne_nil c)
    rw [chars_eq_joined, hcs, List.map_cons, hd]
    cases cs <;> rfl
  simp only [ofChars, htrim, hne, pieces_chars h, readPieces_digits, hcs]
  exact congrArg (fun cs => Except.ok (Version.mk cs)) hcs.symm

/-- A version is read back from its text. -/
theorem parse_text (h : v.components ≠ []) : parse v.text = .ok v := by
  rw [parse, text, String.toList_ofList, ofChars_chars h]

end Sdwan.Version
