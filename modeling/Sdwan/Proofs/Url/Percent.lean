/-
What percent-encoding writes is not encoded again.

Encoding writes percent signs, digits and capital letters, and no part of a URL
encodes any of these (`IsStable`). So every character of an encoded text is one
that the part keeps (`not_set_of_mem_encodeWith`).

Nor does encoding make a segment that stands for a place out of one that does
not (`isDots_encodeWith`): a point is kept where it stands, and no other
character has the byte of a point in it.
-/
import Mathlib.Data.List.Infix
import Sdwan.Proofs.Text.Utf8
import Sdwan.Proofs.Url.Parse

namespace Sdwan.Url

variable {set : Char → Bool} {c x y : Char} {cs s : List Char} {b : UInt8}

-- ============================================== characters

/-- What encoding writes is kept. -/
structure IsStable (set : Char → Bool) : Prop where
  percent : set '%' = false
  digit : ∀ d < 16, set (Text.hexDigitUpper d) = false

theorem isStable_inUserinfo : IsStable inUserinfo := ⟨by decide, by decide⟩

theorem isStable_inPath : IsStable inPath := ⟨by decide, by decide⟩

theorem isStable_inSpecialQuery : IsStable inSpecialQuery := ⟨by decide, by decide⟩

theorem isStable_inFragment : IsStable inFragment := ⟨by decide, by decide⟩

/-- No control and no blank is kept by a set that encodes both. -/
theorem blank_lt (hcontrols : inControls c = false) (hblank : c ≠ ' ') : 0x20 < c.toNat := by
  have hne : c.toNat ≠ 0x20 := fun heq => hblank (Char.toNat_inj.mp heq)
  simp only [inControls, Bool.or_eq_false_iff, decide_eq_false_iff_not] at hcontrols
  omega

theorem not_inSpecialQuery (h : inSpecialQuery c = false) : 0x20 < c.toNat ∧ c ≠ '#' := by
  simp only [inSpecialQuery, inQuery, Bool.or_eq_false_iff, decide_eq_false_iff_not,
    List.mem_cons, not_or] at h
  obtain ⟨⟨hcontrols, hblank, -, hhash, -⟩, -⟩ := h
  exact ⟨blank_lt hcontrols hblank, hhash⟩

theorem not_inFragment (h : inFragment c = false) : 0x20 < c.toNat := by
  simp only [inFragment, Bool.or_eq_false_iff, decide_eq_false_iff_not, List.mem_cons, not_or] at h
  exact blank_lt h.1 h.2.1

theorem of_mem_percentByte (h : c ∈ percentByte b) :
    c = '%' ∨ ∃ d < 16, c = Text.hexDigitUpper d := by
  have hb : b.toNat < 256 := b.toNat_lt
  rcases List.mem_cons.mp h with rfl | h
  · exact .inl rfl
  · rcases List.mem_cons.mp h with rfl | h
    · exact .inr ⟨_, by omega, rfl⟩
    · exact .inr ⟨_, by omega, List.mem_singleton.mp h⟩

/-- A character is kept, or belongs to the text of a byte. -/
theorem of_mem_encodeWith (h : c ∈ encodeWith set cs) :
    (c ∈ cs ∧ set c = false) ∨ c = '%' ∨ ∃ d < 16, c = Text.hexDigitUpper d := by
  obtain ⟨d, hd, hc⟩ := List.mem_flatMap.mp h
  unfold encodeChar at hc
  split at hc
  · obtain ⟨b, -, hb⟩ := List.mem_flatMap.mp hc
    exact .inr (of_mem_percentByte hb)
  · next hno =>
      obtain rfl := List.mem_singleton.mp hc
      exact .inl ⟨hd, Bool.eq_false_iff.mpr hno⟩

theorem not_set_of_mem_encodeWith (hset : IsStable set) (h : c ∈ encodeWith set cs) :
    set c = false := by
  rcases of_mem_encodeWith h with ⟨-, h⟩ | rfl | ⟨d, hd, rfl⟩
  · exact h
  · exact hset.percent
  · exact hset.digit d hd

-- ============================================== points

/-- A text that needs encoding has a byte of one of its characters in three
characters. -/
theorem exists_percentByte (hc : c ∈ cs) (h : set c = true) :
    ∃ b ∈ String.utf8EncodeChar c, percentByte b <:+: encodeWith set cs := by
  obtain ⟨b, bs, hbytes, -⟩ := Text.decodeStep_utf8EncodeChar c
  obtain ⟨before, after, rfl⟩ := List.append_of_mem hc
  refine ⟨b, hbytes ▸ List.mem_cons_self, ?_⟩
  have hchar : encodeChar set c = percentByte b ++ bs.flatMap percentByte := by
    rw [encodeChar, if_pos h, hbytes, List.flatMap_cons]
  rw [encodeWith, List.flatMap_append, List.flatMap_cons, hchar]
  exact ⟨before.flatMap (encodeChar set), bs.flatMap percentByte ++ after.flatMap (encodeChar set),
    by simp⟩

theorem encodeWith_ne_nil (hne : cs ≠ []) : encodeWith set cs ≠ [] := by
  by_cases hall : ∀ c ∈ cs, set c = false
  · rwa [encodeWith_eq hall]
  · simp only [not_forall, Bool.not_eq_false] at hall
    obtain ⟨c, hc, hcset⟩ := hall
    obtain ⟨b, -, hinside⟩ := exists_percentByte hc hcset
    exact List.ne_nil_of_mem (hinside.subset List.mem_cons_self)

/-- All texts of one point and of two. -/
theorem mem_dots (h : IsDots s) :
    s ∈ singleDots ++ singleDots.flatMap fun a => singleDots.map (a ++ ·) := by
  rcases h with h | h
  · exact List.mem_append_left _ (List.contains_iff_mem.mp h)
  · obtain ⟨a, ha, h⟩ := List.any_eq_true.mp h
    obtain ⟨b, hb, h⟩ := List.any_eq_true.mp h
    rw [beq_iff_eq.mp h]
    exact List.mem_append_right _ (List.mem_flatMap.mpr ⟨a, ha, List.mem_map_of_mem hb⟩)

/-- A percent sign in them begins a point. -/
theorem eq_of_infix_dots (h : IsDots s) (hinside : ['%', x, y] <:+: s) :
    x = '2' ∧ (y = 'e' ∨ y = 'E') := by
  have hall : ∀ s ∈ singleDots ++ singleDots.flatMap fun a => singleDots.map (a ++ ·),
      ∀ t ∈ s.tails, t.head? = some '%' → t.take 3 ∈ singleDots := by decide
  obtain ⟨t, hfront, hsuffix⟩ := List.infix_iff_prefix_suffix.mp hinside
  obtain ⟨rest, rfl⟩ := hfront
  have hmem := hall s (mem_dots h) _ ((List.mem_tails _ _).mpr hsuffix) rfl
  simpa [singleDots, and_or_left] using hmem

/-- The byte of a point is the only one that is written as a point is. -/
theorem toNat_eq_of_digits (hx : Text.hexDigitUpper (b.toNat / 16) = '2')
    (hy : Text.hexDigitUpper (b.toNat % 16) = 'e' ∨ Text.hexDigitUpper (b.toNat % 16) = 'E') :
    b.toNat = '.'.toNat := by
  have hdigits : ∀ d < 16, (Text.hexDigitUpper d = '2' → d = 2)
      ∧ (Text.hexDigitUpper d = 'e' ∨ Text.hexDigitUpper d = 'E' → d = 14) := by decide
  have hb : b.toNat < 256 := b.toNat_lt
  have hhigh := (hdigits (b.toNat / 16) (by omega)).1 hx
  have hlow := (hdigits (b.toNat % 16) (by omega)).2 hy
  show b.toNat = 46
  omega

/-- A segment that is written as one that stands for a place is one. -/
theorem isDots_encodeWith (hset : set '.' = false) (h : IsDots (encodeWith set cs)) :
    IsDots cs := by
  by_cases hall : ∀ c ∈ cs, set c = false
  · rwa [encodeWith_eq hall] at h
  · simp only [not_forall, Bool.not_eq_false] at hall
    obtain ⟨c, hc, hcset⟩ := hall
    obtain ⟨b, hb, hinside⟩ := exists_percentByte hc hcset
    obtain ⟨hx, hy⟩ := eq_of_infix_dots h hinside
    have hdot := toNat_eq_of_digits hx hy
    have heq := Text.eq_of_mem_utf8EncodeChar hb (by rw [hdot]; decide)
    rw [Char.toNat_inj.mp (heq.trans hdot), hset] at hcset
    cases hcset

end Sdwan.Url
