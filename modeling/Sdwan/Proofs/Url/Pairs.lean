/-
Pairs that were form encoded are read as the same pairs.

# One part

Each byte of a name or value is written as one character or as a percent
sign with two digits, and is read back from there (`percentDecode_encodeByte`).
A plus sign is only ever written for a blank, so it can be read as one before
anything else. The bytes are those of the text, and are read as the text.

# Taking apart

Form encoding writes none of the marks that stand between parts
(`isFormChar_of_mem_encodePart`), so the first equals sign of a pair ends its
name, and every ampersand ends a pair. A pair always has its equals sign:
even one with nothing on either side is not passed over.

# Queries

Pairs that are added to a query stand behind those that it has already
(`decodePairs_appendQuery`).
-/
import Sdwan.Proofs.Text.Pieces
import Sdwan.Proofs.Text.Utf8
import Sdwan.Url.Basic

namespace Sdwan.Url.Form

open Text

variable {c : Char} {cs rest : List Char} {ps : List (String × String)}

-- ============================================== characters

/-- What form encoding writes for a name or a value. -/
def isFormChar (c : Char) : Bool :=
  ('a' ≤ c && c ≤ 'z') || ('A' ≤ c && c ≤ 'Z') || isDigit c
    || c ∈ ['*', '-', '.', '_', '+', '%']

/-- A byte is written with the characters of forms. -/
theorem isFormChar_of_mem_encodeByte (b : UInt8) : ∀ c ∈ encodeByte b, isFormChar c = true := by
  have hbytes : ∀ n < 256, (encodeByte (UInt8.ofNat n)).all isFormChar = true := by
    decide +kernel
  have hb := hbytes b.toNat b.toNat_lt
  rw [UInt8.ofNat_toNat] at hb
  exact List.all_eq_true.mp hb

theorem isFormChar_of_mem_encodePart (h : c ∈ encodePart cs) : isFormChar c = true := by
  obtain ⟨b, -, hc⟩ := List.mem_flatMap.mp h
  exact isFormChar_of_mem_encodeByte b c hc

/-- A mark that is not written separates what is written. -/
theorem ne_of_mem_encodePart {s : Char} (hs : isFormChar s = false) :
    ∀ c ∈ encodePart cs, (c == s) = false := by
  intro c hc
  refine beq_false_of_ne ?_
  rintro rfl
  rw [isFormChar_of_mem_encodePart hc] at hs
  cases hs

-- ============================================== one part

/-- The characters are read as the byte: the one that it is, or two digits
behind a percent sign. -/
def readsAs (b : UInt8) : List Char → Bool
  | [mark, x, y] =>
    mark == '%' && (isHexDigit x && isHexDigit y)
      && UInt8.ofNat (16 * hexValue x + hexValue y) == b
  | [c] => c != '%' && String.utf8EncodeChar c == [b]
  | _ => false

/-- What is written for a byte is read as it, once a plus sign is a blank again. -/
theorem readsAs_encodeByte (b : UInt8) :
    readsAs b ((encodeByte b).map plusToSpace) = true := by
  have hbytes : ∀ n < 256, readsAs (UInt8.ofNat n)
      ((encodeByte (UInt8.ofNat n)).map plusToSpace) = true := by
    decide +kernel
  have hb := hbytes b.toNat b.toNat_lt
  rwa [UInt8.ofNat_toNat] at hb

/-- A character that is no percent sign stands for itself. -/
theorem percentDecode_cons (h : c ≠ '%') (cs : List Char) :
    percentDecode (c :: cs) = String.utf8EncodeChar c ++ percentDecode cs := by
  rw [percentDecode]
  rintro a b cs' rfl
  exact absurd rfl h

/-- A byte that was written is the next one that is read. -/
theorem percentDecode_encodeByte (b : UInt8) (rest : List Char) :
    percentDecode ((encodeByte b).map plusToSpace ++ rest) = b :: percentDecode rest := by
  have hreads := readsAs_encodeByte b
  generalize (encodeByte b).map plusToSpace = written at hreads ⊢
  unfold readsAs at hreads
  split at hreads
  · next mark x y =>
      rw [Bool.and_eq_true, Bool.and_eq_true, beq_iff_eq, beq_iff_eq] at hreads
      obtain ⟨⟨rfl, hdigits⟩, hvalue⟩ := hreads
      simp only [List.cons_append, List.nil_append]
      rw [percentDecode, if_pos hdigits, hvalue]
  · next c =>
      rw [Bool.and_eq_true, bne_iff_ne, beq_iff_eq] at hreads
      obtain ⟨hpercent, hbytes⟩ := hreads
      rw [List.singleton_append, percentDecode_cons hpercent, hbytes, List.singleton_append]
  · cases hreads

/-- A text that was encoded is decoded as its bytes. -/
theorem percentDecode_encodePart (cs : List Char) :
    percentDecode ((encodePart cs).map plusToSpace) = utf8 cs := by
  unfold encodePart
  induction utf8 cs with
  | nil => rfl
  | cons b bs ih => rw [List.flatMap_cons, List.map_append, percentDecode_encodeByte, ih]

/-- A name or value is read as what it was written for. -/
theorem decodePart_encodePart (s : String) : decodePart (encodePart s.toList) = s := by
  rw [decodePart, percentDecode_encodePart, textOf_utf8]

-- ============================================== pairs

/-- A pair comes back as it was. -/
theorem decodePair_encodePair (p : String × String) : decodePair (encodePair p) = p := by
  have hname : ∀ c ∈ encodePart p.1.toList, (c == '=') = false :=
    ne_of_mem_encodePart (by decide)
  rw [encodePair, decodePair, splitFirst_append_cons hname (by decide)]
  dsimp only
  rw [decodePart_encodePart, decodePart_encodePart]

/-- Pairs are joined by ampersands. -/
theorem encodePairs_eq_joined (ps : List (String × String)) :
    encodePairs ps = joined '&' (ps.map encodePair) := by
  fun_induction encodePairs ps with
  | case1 => rfl
  | case2 p => rfl
  | case3 p ps hne ih =>
      cases ps with
      | nil => exact absurd rfl hne
      | cons q ps => rw [ih, List.map_cons, List.map_cons, List.map_cons, joined]

/-- A pair consists of what is written for its parts and of its equals
sign. -/
theorem of_mem_encodePair {p : String × String} (h : c ∈ encodePair p) :
    isFormChar c = true ∨ c = '=' := by
  rcases List.mem_append.mp h with h | h
  · exact Or.inl (isFormChar_of_mem_encodePart h)
  · rcases List.mem_cons.mp h with rfl | h
    · exact Or.inr rfl
    · exact Or.inl (isFormChar_of_mem_encodePart h)

/-- Between pairs and inside them there are two more characters. -/
theorem of_mem_encodePairs (h : c ∈ encodePairs ps) :
    isFormChar c = true ∨ c = '=' ∨ c = '&' := by
  rw [encodePairs_eq_joined] at h
  rcases mem_joined h with rfl | ⟨w, hw, hc⟩
  · exact Or.inr (Or.inr rfl)
  · obtain ⟨p, -, rfl⟩ := List.mem_map.mp hw
    exact (of_mem_encodePair hc).imp_right Or.inl

theorem encodePair_ne_nil (p : String × String) : encodePair p ≠ [] := by
  simp [encodePair]

/-- Pairs are read as the pairs that were written, in their order. -/
theorem decodePairs_encodePairs (ps : List (String × String)) :
    decodePairs (encodePairs ps) = ps := by
  by_cases hne : ps = []
  · rw [hne]
    rfl
  · have hpieces : pieces (· == '&') (encodePairs ps) = ps.map encodePair := by
      rw [encodePairs_eq_joined]
      refine pieces_joined (by simpa using hne) (fun w hw c hc => ?_) rfl
      obtain ⟨p, -, rfl⟩ := List.mem_map.mp hw
      refine beq_false_of_ne ?_
      rintro rfl
      rcases of_mem_encodePair hc with h | h <;> cases h
    have hkept : (ps.map encodePair).filter (!·.isEmpty) = ps.map encodePair := by
      refine List.filter_eq_self.mpr fun w hw => ?_
      obtain ⟨p, -, rfl⟩ := List.mem_map.mp hw
      simp [encodePair_ne_nil]
    have hread : decodePair ∘ encodePair = id := funext decodePair_encodePair
    rw [decodePairs, hpieces, hkept, List.map_map, hread, List.map_id]

/-- An ampersand ends a pair, whatever the pairs before it look like. -/
theorem decodePairs_append_cons (cs ds : List Char) :
    decodePairs (cs ++ '&' :: ds) = decodePairs cs ++ decodePairs ds := by
  unfold decodePairs
  rw [pieces_append_cons rfl, List.filter_append, List.map_append]

-- ============================================== queries

/-- The pairs of a query that pairs were added to. -/
theorem decodePairs_appendQuery (u : Url) (ps : List (String × String)) :
    decodePairs ((u.appendQuery ps).query.getD []) = decodePairs (u.query.getD []) ++ ps := by
  have hquery : (u.appendQuery ps).query.getD []
      = if ps.isEmpty then u.query.getD []
        else if (u.query.getD []).isEmpty then encodePairs ps
        else u.query.getD [] ++ '&' :: encodePairs ps := by
    unfold appendQuery
    dsimp only
    generalize (if ps.isEmpty = true then _ else _) = whole
    cases whole <;> rfl
  rw [hquery]
  split
  · next hnil => rw [List.isEmpty_iff.mp hnil, List.append_nil]
  · split
    · next hbefore =>
        rw [List.isEmpty_iff.mp hbefore, decodePairs_encodePairs]
        rfl
    · rw [decodePairs_append_cons, decodePairs_encodePairs]

/-- A URL without a query has the pairs that are added to it as its query. -/
theorem query_appendQuery {u : Url} (hquery : u.query = none) (hne : ps ≠ []) :
    (u.appendQuery ps).query = some (encodePairs ps) := by
  have hwritten : encodePairs ps ≠ [] := by
    intro hnil
    have hread := decodePairs_encodePairs ps
    rw [hnil] at hread
    exact hne hread.symm
  unfold appendQuery
  rw [hquery]
  simp [hne, hwritten]

end Sdwan.Url.Form
