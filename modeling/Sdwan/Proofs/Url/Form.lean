/-
What form encoding writes, as a segment of a path.

It writes letters, digits and six marks. None of them ends a segment or a
path, and no part of a URL encodes any of them again
(`mem_encodePart`). But a point is written as it is, so the values `.` and
`..` come out as the segments that stand for a place. No other value does
(`isSingleDot_encodePart`, `isDoubleDot_encodePart`): a percent sign of the
value is written `%25`, so that `%2e` is never what a value begins with.

Nor is a blank what it was: it is written as a plus sign, which is a blank in
a query and a plus sign in a path. So a segment that was written for a value
is read as the value exactly when the value has no blanks
(`percentDecode_encodePart_iff`).
-/
import Sdwan.Proofs.Url.Pairs
import Sdwan.Url.Parse

namespace Sdwan.Url.Form

variable {cs rest d : List Char}

-- ============================================== characters

/-- What a byte is written as needs no encoding in any part of a URL. -/
theorem mem_encodeByte (b : UInt8) : ∀ c ∈ encodeByte b, inUserinfo c = false := by
  have hbytes : ∀ n < 256, (encodeByte (UInt8.ofNat n)).all (!inUserinfo ·) = true := by
    decide +kernel
  have hb := hbytes b.toNat b.toNat_lt
  rw [UInt8.ofNat_toNat] at hb
  simpa using hb

/-- All that is written could stand in any part of a URL. -/
theorem mem_encodePart {c : Char} (h : c ∈ encodePart cs) : inUserinfo c = false := by
  obtain ⟨b, -, hc⟩ := List.mem_flatMap.mp h
  exact mem_encodeByte b c hc

-- ============================================== points

/-- Whether a byte is written in one character or three, and they are no
text of a point and begin none. -/
def isNoDot : List Char → Bool
  | [x] => x != '.' && x != '%'
  | ['%', x, y] => !singleDots.contains ['%', x, y]
  | _ => false

/-- Every byte that is no point is written so. -/
theorem encodeByte_ne_dot {b : UInt8} (h : b ≠ 0x2E) :
    (∃ x, encodeByte b = [x] ∧ x ≠ '.' ∧ x ≠ '%')
      ∨ ∃ x y, encodeByte b = ['%', x, y] ∧ ['%', x, y] ∉ singleDots := by
  have hbytes : ∀ n < 256,
      UInt8.ofNat n = 0x2E ∨ isNoDot (encodeByte (UInt8.ofNat n)) = true := by
    decide +kernel
  have hb := (hbytes b.toNat b.toNat_lt).resolve_left (by rwa [UInt8.ofNat_toNat])
  rw [UInt8.ofNat_toNat] at hb
  unfold isNoDot at hb
  split at hb
  · next x hx => exact Or.inl ⟨x, hx, by simpa using hb⟩
  · next x y hxy => exact Or.inr ⟨x, y, hxy, by simpa using hb⟩
  · cases hb

/-- The first byte of a character is a point only if the character is. -/
theorem utf8EncodeChar_ne_dot {c : Char} (h : c ≠ '.') :
    ∃ b bs, String.utf8EncodeChar c = b :: bs ∧ b ≠ 0x2E := by
  obtain ⟨b, bs, hbytes, -⟩ := Text.decodeStep_utf8EncodeChar c
  refine ⟨b, bs, hbytes, ?_⟩
  rintro rfl
  have hdot := Text.eq_of_mem_utf8EncodeChar (hbytes ▸ List.mem_cons_self) (by decide)
  exact h (Char.toNat_inj.mp hdot)

theorem encodePart_cons (c : Char) (cs : List Char) :
    encodePart (c :: cs) = (String.utf8EncodeChar c).flatMap encodeByte ++ encodePart cs := by
  simp [encodePart, Text.utf8]

theorem encodePart_dot (cs : List Char) : encodePart ('.' :: cs) = '.' :: encodePart cs := by
  rw [encodePart_cons]
  rfl

/-- A value is written with a text of a point in front only if it has a
point in front. -/
theorem eq_dot_cons (hd : d ∈ singleDots) (h : encodePart cs = d ++ rest) :
    ∃ cs', cs = '.' :: cs' ∧ encodePart cs' = rest := by
  have hhead : d = ['.'] ∨ ∃ x y, d = ['%', x, y] := by
    rcases List.mem_cons.mp hd with rfl | hd
    · exact Or.inl rfl
    · rcases List.mem_cons.mp hd with rfl | hd
      · exact Or.inr ⟨_, _, rfl⟩
      · exact Or.inr ⟨_, _, List.mem_singleton.mp hd⟩
  cases cs with
  | nil => rcases hhead with rfl | ⟨x, y, rfl⟩ <;> cases h
  | cons c cs =>
      by_cases hc : c = '.'
      · subst hc
        rw [encodePart_dot] at h
        rcases hhead with rfl | ⟨x, y, rfl⟩
        · exact ⟨cs, rfl, (List.cons.inj h).2⟩
        · cases (List.cons.inj h).1
      -- any other character begins with a byte that is written neither as a dot nor as the
      -- escape of one
      · obtain ⟨b, bs, hbytes, hb⟩ := utf8EncodeChar_ne_dot hc
        rw [encodePart_cons, hbytes, List.flatMap_cons] at h
        rcases encodeByte_ne_dot hb with ⟨z, hz, hpoint, hpercent⟩ | ⟨x', y', hxy, hnot⟩
        · rw [hz] at h
          rcases hhead with rfl | ⟨x, y, rfl⟩
          · exact absurd (List.cons.inj h).1 hpoint
          · exact absurd (List.cons.inj h).1 hpercent
        · rw [hxy] at h
          rcases hhead with rfl | ⟨x, y, rfl⟩
          · cases (List.cons.inj h).1
          · simp only [List.cons_append, List.cons.injEq, true_and] at h
            obtain ⟨rfl, rfl, -⟩ := h
            exact absurd hd hnot

/-- Only the empty text is written as nothing. -/
theorem encodePart_eq_nil (h : encodePart cs = []) : cs = [] := by
  cases cs with
  | nil => rfl
  | cons c cs =>
      by_cases hc : c = '.'
      · rw [hc, encodePart_dot] at h
        cases h
      · obtain ⟨b, bs, hbytes, hb⟩ := utf8EncodeChar_ne_dot hc
        rw [encodePart_cons, hbytes, List.flatMap_cons] at h
        rcases encodeByte_ne_dot hb with ⟨z, hz, -⟩ | ⟨x, y, hxy, -⟩
        · rw [hz] at h
          cases h
        · rw [hxy] at h
          cases h

/-- Of all values, one point is written as a segment that stands for its
own place. -/
theorem isSingleDot_encodePart : isSingleDot (encodePart cs) = true ↔ cs = ['.'] := by
  constructor
  · intro h
    have hd : encodePart cs ∈ singleDots := List.contains_iff_mem.mp h
    obtain ⟨cs', rfl, hrest⟩ := eq_dot_cons hd (List.append_nil _).symm
    rw [encodePart_eq_nil hrest]
  · rintro rfl
    decide +kernel

/-- Two points are written as a segment that stands for the place above. -/
theorem isDoubleDot_encodePart : isDoubleDot (encodePart cs) = true ↔ cs = ['.', '.'] := by
  constructor
  · intro h
    obtain ⟨a, ha, h⟩ := List.any_eq_true.mp h
    obtain ⟨b, hb, h⟩ := List.any_eq_true.mp h
    obtain ⟨cs', rfl, hb'⟩ := eq_dot_cons ha (beq_iff_eq.mp h)
    obtain ⟨cs'', rfl, hrest⟩ := eq_dot_cons hb (hb'.trans (List.append_nil b).symm)
    rw [encodePart_eq_nil hrest]
  · rintro rfl
    decide +kernel

-- ============================================== blanks

/-- A blank as a plus sign. -/
def spaceToPlus (c : Char) : Char := if c = ' ' then '+' else c

/-- A plus sign is written for nothing but a blank. -/
theorem map_plusToSpace_encodeByte {b : UInt8} (h : b ≠ 0x20) :
    (encodeByte b).map plusToSpace = encodeByte b := by
  have hbytes : ∀ n < 256, UInt8.ofNat n = 0x20
      ∨ (encodeByte (UInt8.ofNat n)).map plusToSpace = encodeByte (UInt8.ofNat n) := by
    decide +kernel
  have hb := hbytes b.toNat b.toNat_lt
  rw [UInt8.ofNat_toNat] at hb
  exact hb.resolve_left h

/-- Bytes other than the blank are decoded as they were. -/
theorem percentDecode_encodeBytes {bs : List UInt8} (h : 0x20 ∉ bs) (rest : List Char) :
    percentDecode (bs.flatMap encodeByte ++ rest) = bs ++ percentDecode rest := by
  induction bs with
  | nil => rfl
  | cons b bs ih =>
      rw [List.mem_cons, not_or] at h
      rw [List.flatMap_cons, List.append_assoc, ← map_plusToSpace_encodeByte (Ne.symm h.1),
        percentDecode_encodeByte, ih h.2, List.cons_append]

/-- So is a character. -/
theorem percentDecode_encodeChar {c : Char} (h : c ≠ ' ') (rest : List Char) :
    percentDecode ((String.utf8EncodeChar c).flatMap encodeByte ++ rest)
      = String.utf8EncodeChar c ++ percentDecode rest := by
  apply percentDecode_encodeBytes
  intro hmem
  exact h (Char.toNat_inj.mp (Text.eq_of_mem_utf8EncodeChar hmem (by decide)))

/-- Where a plus sign is no blank, what was written for a value is read as
the value with plus signs for its blanks. -/
theorem percentDecode_encodePart_path (cs : List Char) :
    percentDecode (encodePart cs) = Text.utf8 (cs.map spaceToPlus) := by
  induction cs with
  | nil => rfl
  | cons c cs ih =>
      have hutf8 : ∀ d, Text.utf8 (d :: cs.map spaceToPlus)
          = String.utf8EncodeChar d ++ Text.utf8 (cs.map spaceToPlus) := fun d => List.flatMap_cons
      rw [encodePart_cons, List.map_cons, hutf8, ← ih]
      by_cases hc : c = ' '
      · rw [hc]
        exact percentDecode_cons (by decide) (encodePart cs)
      · rw [spaceToPlus, if_neg hc, percentDecode_encodeChar hc]

/-- A text stays the same exactly if it has no blank. -/
theorem map_spaceToPlus_eq_self : cs.map spaceToPlus = cs ↔ ' ' ∉ cs := by
  have hchar : ∀ c, spaceToPlus c = c ↔ c ≠ ' ' := by
    intro c
    by_cases hc : c = ' '
    · simp [spaceToPlus, hc]
    · simp [spaceToPlus, hc]
  calc cs.map spaceToPlus = cs ↔ cs.map spaceToPlus = cs.map id := by rw [List.map_id]
    _ ↔ ∀ c ∈ cs, c ≠ ' ' := by simp only [List.map_inj_left, id, hchar]
    _ ↔ ' ' ∉ cs := List.forall_mem_ne'

/-- It is read as the value itself exactly when there are none. -/
theorem percentDecode_encodePart_iff :
    percentDecode (encodePart cs) = Text.utf8 cs ↔ ' ' ∉ cs := by
  have hinj : Function.Injective Text.utf8 :=
    Function.LeftInverse.injective Text.decodeUtf8_utf8
  rw [percentDecode_encodePart_path, hinj.eq_iff, map_spaceToPlus_eq_self]

end Sdwan.Url.Form
