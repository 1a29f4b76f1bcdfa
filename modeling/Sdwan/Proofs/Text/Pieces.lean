/-
Taking texts apart: splitting at the first separator finds that one,
splitting at all of them undoes joining, and what stands behind a prefix is
the rest of the text. The characters that are ASCII are few enough to look at
each of them (`forall_ascii`).

What the pieces of a text are can be said by where they stand in it
(`mem_pieces`), and so can what its words are (`mem_words`).
-/
import Mathlib.Data.List.TakeWhile
import Sdwan.Text.Blank
import Sdwan.Text.Numeral

namespace Sdwan.Text

variable {sep : Char → Bool} {s : Char} {p : List Char} {ps : List (List Char)}

-- ============================================== characters

/-- What holds of each ASCII character is checked one by one. -/
theorem forall_ascii {P : Char → Prop} (h : ∀ n < 128, P (Char.ofNat n)) {x : Char}
    (hx : x.toNat < 128) : P x := by
  have hn := h x.toNat hx
  rwa [Char.ofNat_toNat] at hn

theorem toNat_lt_of_le {x y : Char} (h : x ≤ y) (hy : y.toNat < 128) : x.toNat < 128 :=
  Nat.lt_of_le_of_lt (UInt32.le_iff_toNat_le.mp h) hy

/-- A text without blanks has none at its ends. -/
theorem trim_eq_self {cs : List Char} (h : ∀ c ∈ cs, isBlank c = false) : trim cs = cs := by
  have hkept : ∀ {ds : List Char}, (∀ c ∈ ds, isBlank c = false) → ds.dropWhile isBlank = ds := by
    intro ds hds
    refine List.dropWhile_eq_self_iff.mpr fun hpos => ?_
    rw [hds _ (List.getElem_mem hpos)]
    exact Bool.false_ne_true
  rw [trim, trimStart, hkept h, trimEnd, hkept fun c hc => h c (List.mem_reverse.mp hc),
    List.reverse_reverse]

theorem mem_of_mem_trim {c : Char} {cs : List Char} (h : c ∈ trim cs) : c ∈ cs := by
  rw [trim, trimEnd, List.mem_reverse] at h
  exact List.dropWhile_subset _ (List.mem_reverse.mp (List.dropWhile_subset _ h))

/-- Nothing is left of a text exactly when it is blanks. -/
theorem trim_eq_nil_iff {cs : List Char} : trim cs = [] ↔ ∀ c ∈ cs, isBlank c = true := by
  rw [trim, trimEnd, List.reverse_eq_nil_iff, List.dropWhile_eq_nil_iff, trimStart]
  constructor
  · intro h
    have hstart : cs.dropWhile isBlank = [] := by
      cases hds : cs.dropWhile isBlank with
      | nil => rfl
      | cons d ds =>
          have hd := List.head?_dropWhile_not isBlank cs
          rw [hds] at hd h
          exact absurd (h d (by simp)) (Bool.eq_false_iff.mp hd)
    exact List.dropWhile_eq_nil_iff.mp hstart
  · intro h c hc
    exact h c (List.dropWhile_subset _ (List.mem_reverse.mp hc))

/-- A digit is no blank. -/
theorem isBlank_of_isDigit {c : Char} (h : isDigit c = true) : isBlank c = false := by
  have hupper : c ≤ '9' := by simpa [isDigit] using (Bool.and_eq_true_iff.mp h).2
  refine forall_ascii (P := fun c => isDigit c = true → isBlank c = false) ?_
    (toNat_lt_of_le hupper (by decide)) h
  decide +kernel

/-- A character that does not occur separates nothing. -/
theorem beq_eq_false_of_not_mem {cs : List Char} (h : s ∉ cs) : ∀ c ∈ cs, (c == s) = false := by
  intro c hc
  rw [beq_eq_false_iff_ne]
  intro heq
  exact h (heq ▸ hc)

-- ============================================== the first separator

/-- A text is split at its first separator: what is in front has none. -/
theorem splitFirst_eq_some {cs a b : List Char} (h : splitFirst sep cs = some (a, b)) :
    ∃ c, sep c = true ∧ cs = a ++ c :: b ∧ ∀ x ∈ a, sep x = false := by
  induction cs generalizing a with
  | nil => cases h
  | cons c cs ih =>
      rw [splitFirst] at h
      by_cases hc : sep c = true
      · rw [if_pos hc] at h
        cases h
        exact ⟨c, hc, rfl, fun x hx => absurd hx List.not_mem_nil⟩
      · rw [if_neg hc] at h
        -- the first character is no separator, so it goes to the part in front
        obtain ⟨⟨a', b'⟩, hsplit, heq⟩ := Option.map_eq_some_iff.mp h
        cases heq
        obtain ⟨d, hd, rfl, ha⟩ := ih hsplit
        refine ⟨d, hd, rfl, fun x hx => ?_⟩
        rcases List.mem_cons.mp hx with rfl | hx
        · exact Bool.eq_false_iff.mpr hc
        · exact ha x hx

/-- A text is split at a separator that has none before it. -/
theorem splitFirst_append_cons (hp : ∀ c ∈ p, sep c = false) (hs : sep s = true) (cs : List Char) :
    splitFirst sep (p ++ s :: cs) = some (p, cs) := by
  induction p with
  | nil => simp [splitFirst, hs]
  | cons c p ih =>
      have hc : sep c = false := hp c List.mem_cons_self
      rw [List.cons_append, splitFirst, ih fun d hd => hp d (List.mem_cons_of_mem c hd), hc]
      rfl

/-- A text without a separator is not split. -/
theorem splitFirst_eq_none {cs : List Char} (h : ∀ c ∈ cs, sep c = false) :
    splitFirst sep cs = none := by
  induction cs with
  | nil => rfl
  | cons c cs ih =>
      rw [splitFirst, h c List.mem_cons_self, ih fun d hd => h d (List.mem_cons_of_mem c hd)]
      rfl

/-- Where nothing is split there is no separator. -/
theorem not_sep_of_splitFirst {cs : List Char} (h : splitFirst sep cs = none) :
    ∀ c ∈ cs, sep c = false := by
  induction cs with
  | nil => simp
  | cons c cs ih =>
      rw [splitFirst] at h
      by_cases hc : sep c = true
      · rw [if_pos hc] at h
        cases h
      · rw [if_neg hc, Option.map_eq_none_iff] at h
        intro d hd
        rcases List.mem_cons.mp hd with rfl | hd
        · exact Bool.eq_false_iff.mpr hc
        · exact ih h d hd

/-- What stands behind a prefix is the text without it. -/
theorem eq_append_of_afterPrefix {pre cs rest : List Char} (h : afterPrefix? pre cs = some rest) :
    cs = pre ++ rest := by
  fun_induction afterPrefix? pre cs with
  | case1 cs => exact Option.some.inj h
  | case2 => cases h
  | case3 p ps c cs heq ih => rw [ih h, List.cons_append, beq_iff_eq.mp heq]
  | case4 => cases h

-- ============================================== all separators

/-- The parts with a separator between them. -/
def joined (s : Char) : List (List Char) → List Char
  | [] => []
  | [p] => p
  | p :: q :: ps => p ++ s :: joined s (q :: ps)

/-- A character of joined pieces is the separator or belongs to a piece. -/
theorem mem_joined {c : Char} (h : c ∈ joined s ps) : c = s ∨ ∃ p ∈ ps, c ∈ p := by
  fun_induction joined s ps with
  | case1 => cases h
  | case2 p => exact Or.inr ⟨p, List.mem_singleton_self p, h⟩
  | case3 p q ps ih =>
      rcases List.mem_append.mp h with h | h
      · exact Or.inr ⟨p, List.mem_cons_self, h⟩
      · rcases List.mem_cons.mp h with rfl | h
        · exact Or.inl rfl
        · rcases ih h with rfl | ⟨r, hr, h⟩
          · exact Or.inl rfl
          · exact Or.inr ⟨r, List.mem_cons_of_mem p hr, h⟩

theorem joined_append (s : Char) (p q : List Char) (ps : List (List Char)) :
    joined s ((p ++ q) :: ps) = p ++ joined s (q :: ps) := by
  cases ps with
  | nil => rfl
  | cons r rs => exact List.append_assoc p q _

theorem joined_cons_cons (s c : Char) (p : List Char) (ps : List (List Char)) :
    joined s ((c :: p) :: ps) = c :: joined s (p :: ps) :=
  joined_append s [c] p ps

/-- The pieces of two texts with a separator between them are those of the
one and then those of the other. -/
theorem pieces_append_cons (hs : sep s = true) (cs ds : List Char) :
    pieces sep (cs ++ s :: ds) = pieces sep cs ++ pieces sep ds := by
  induction cs with
  | nil => simp [pieces, hs]
  | cons c cs ih =>
      rw [List.cons_append, pieces, ih, pieces]
      by_cases hc : sep c = true
      · rw [if_pos hc, if_pos hc, List.cons_append]
      · rw [if_neg hc, if_neg hc]
        cases hcs : pieces sep cs with
        | nil => exact absurd hcs (pieces_ne_nil sep cs)
        | cons p ps => rfl

/-- Parts without a separator in them are the pieces of what they were
joined to. -/
theorem pieces_joined (hne : ps ≠ []) (hps : ∀ p ∈ ps, ∀ c ∈ p, sep c = false)
    (hs : sep s = true) : pieces sep (joined s ps) = ps := by
  fun_induction joined s ps with
  | case1 => exact absurd rfl hne
  | case2 p => exact pieces_eq_singleton (hps p List.mem_cons_self)
  | case3 p q ps ih =>
      rw [pieces_append_cons hs, pieces_eq_singleton (hps p List.mem_cons_self),
        ih (List.cons_ne_nil q ps) fun r hr => hps r (List.mem_cons_of_mem p hr)]
      rfl

/-- There is no separator inside a piece. -/
theorem not_sep_of_mem_pieces {cs : List Char} (h : p ∈ pieces sep cs) :
    ∀ c ∈ p, sep c = false := by
  induction cs generalizing p with
  | nil => simp_all
  | cons c cs ih =>
      rw [pieces] at h
      by_cases hc : sep c = true
      · rw [if_pos hc] at h
        rcases List.mem_cons.mp h with rfl | h
        · simp
        · exact ih h
      · rw [if_neg hc] at h
        -- the character is put in front of the first piece of the rest
        cases hcs : pieces sep cs with
        | nil => exact absurd hcs (pieces_ne_nil sep cs)
        | cons q qs =>
            rw [hcs] at h ih
            rcases List.mem_cons.mp h with rfl | h
            · intro d hd
              rcases List.mem_cons.mp hd with rfl | hd
              · exact Bool.eq_false_iff.mpr hc
              · exact ih List.mem_cons_self d hd
            · exact ih (List.mem_cons_of_mem q h)

/-- The pieces with the separators between them are the text. -/
theorem joined_pieces (s : Char) (cs : List Char) : joined s (pieces (· == s) cs) = cs := by
  induction cs with
  | nil => rfl
  | cons c cs ih =>
      rw [pieces]
      cases hcs : pieces (· == s) cs with
      | nil => exact absurd hcs (pieces_ne_nil _ cs)
      | cons q qs =>
          rw [hcs] at ih
          by_cases hc : (c == s) = true
          · rw [if_pos hc, joined, ih, beq_iff_eq.mp hc]
            rfl
          · rw [if_neg hc]
            cases qs with
            | nil => exact congrArg (c :: ·) ih
            | cons r rs => exact congrArg (c :: ·) ih

/-- A text that is cut at a separator into two pieces is cut at this one. -/
theorem eq_of_pieces_append_cons {q cs ds : List Char}
    (h : pieces (· == s) (cs ++ s :: ds) = [p, q]) : p = cs ∧ q = ds := by
  have happend : pieces (· == s) (cs ++ s :: ds) = pieces (· == s) cs ++ pieces (· == s) ds := by
    refine pieces_append_cons ?_ cs ds
    exact beq_self_eq_true s
  rw [happend] at h
  -- each of the two has a piece, so neither has more than one
  have hlength : (pieces (· == s) cs).length + (pieces (· == s) ds).length = 2 := by
    rw [← List.length_append, h]
    rfl
  have hpos := List.length_pos_iff.mpr (pieces_ne_nil (· == s) cs)
  have hpos' := List.length_pos_iff.mpr (pieces_ne_nil (· == s) ds)
  obtain ⟨a, ha⟩ := List.length_eq_one_iff.mp (show (pieces (· == s) cs).length = 1 by omega)
  obtain ⟨b, hb⟩ := List.length_eq_one_iff.mp (show (pieces (· == s) ds).length = 1 by omega)
  have hcs := joined_pieces s cs
  have hds := joined_pieces s ds
  rw [ha] at h hcs
  rw [hb] at h hds
  cases h
  exact ⟨hcs, hds⟩

/-- Parts that each have a separator in front are taken apart one by one. -/
theorem pieces_append_flatMap (hs : sep s = true) (cs : List Char) (ps : List (List Char)) :
    pieces sep (cs ++ ps.flatMap (s :: ·)) = pieces sep cs ++ ps.flatMap (pieces sep) := by
  induction ps generalizing cs with
  | nil => rw [List.flatMap_nil, List.flatMap_nil, List.append_nil, List.append_nil]
  | cons p ps ih =>
      rw [List.flatMap_cons, List.flatMap_cons, List.cons_append, pieces_append_cons hs, ih p]

/-- The pieces of texts that are joined are those of each of them. -/
theorem pieces_joined_eq_flatMap (hs : sep s = true) (hne : ps ≠ []) :
    pieces sep (joined s ps) = ps.flatMap (pieces sep) := by
  fun_induction joined s ps with
  | case1 => exact absurd rfl hne
  | case2 p => simp
  | case3 p q ps ih =>
      rw [pieces_append_cons hs, ih (List.cons_ne_nil q ps)]
      rfl

/-- Which pieces there are depends on which texts were joined, not on their
order and number. -/
theorem mem_pieces_joined_congr {qs : List (List Char)} (hs : sep s = true)
    (h : ∀ q, q ∈ ps ↔ q ∈ qs) :
    p ∈ pieces sep (joined s ps) ↔ p ∈ pieces sep (joined s qs) := by
  by_cases hps : ps = []
  · have hqs : qs = [] := List.eq_nil_iff_forall_not_mem.mpr fun q hq => by
      have hmem := (h q).mpr hq
      rw [hps] at hmem
      cases hmem
    rw [hps, hqs]
  · have hqs : qs ≠ [] := by
      intro hnil
      obtain ⟨q, hq⟩ := List.exists_mem_of_ne_nil ps hps
      have hmem := (h q).mp hq
      rw [hnil] at hmem
      cases hmem
    rw [pieces_joined_eq_flatMap hs hps, pieces_joined_eq_flatMap hs hqs, List.mem_flatMap,
      List.mem_flatMap]
    simp only [h]

-- ============================================== where pieces stand

/-- A part of a text that has no separator in it, and a separator or an end of
the text on each side. -/
def IsPiece (sep : Char → Bool) (cs p : List Char) : Prop :=
  ∃ before after, cs = before ++ p ++ after ∧ (∀ c ∈ p, sep c = false)
    ∧ (∀ c ∈ before.getLast?, sep c = true) ∧ ∀ c ∈ after.head?, sep c = true

/-- A piece that is cut out stands between separators or ends of the text. The
induction is over the rest behind the first separator. -/
theorem isPiece_of_mem_pieces {cs : List Char} (h : p ∈ pieces sep cs) : IsPiece sep cs p := by
  cases hsplit : splitFirst sep cs with
  | none =>
      have hcs := not_sep_of_splitFirst hsplit
      rw [pieces_eq_singleton hcs, List.mem_singleton] at h
      subst h
      exact ⟨[], [], by simp, hcs, by simp, by simp⟩
  | some parts =>
      obtain ⟨a, b⟩ := parts
      obtain ⟨s, hs, rfl, ha⟩ := splitFirst_eq_some hsplit
      rw [pieces_append_cons hs, pieces_eq_singleton ha] at h
      rcases List.mem_cons.mp h with rfl | h
      · exact ⟨[], s :: b, by simp, ha, by simp, by simpa using hs⟩
      · obtain ⟨before, after, rfl, hp, hleft, hright⟩ := isPiece_of_mem_pieces h
        refine ⟨a ++ s :: before, after, by simp, hp, ?_, hright⟩
        -- with nothing in front of the piece in the rest, the split itself is before it
        intro c hc
        have hlast : before.getLast?.getD s = c := by
          simpa [List.getLast?_append, List.getLast?_cons] using hc
        subst hlast
        cases hbefore : before.getLast? with
        | none => exact hs
        | some d => exact hleft d hbefore
termination_by cs.length
decreasing_by
  subst_vars
  simp
  omega

/-- What stands in front of a separator, or of the end, is a piece. -/
theorem mem_pieces_of_head? {ds : List Char} (hp : ∀ c ∈ p, sep c = false)
    (hds : ∀ c ∈ ds.head?, sep c = true) : p ∈ pieces sep (p ++ ds) := by
  cases ds with
  | nil => simp [pieces_eq_singleton hp]
  | cons d ds =>
      rw [pieces_append_cons (hds d rfl), pieces_eq_singleton hp]
      exact List.mem_cons_self

/-- Exactly the parts between separators are cut out. -/
theorem mem_pieces {cs : List Char} : p ∈ pieces sep cs ↔ IsPiece sep cs p := by
  refine ⟨isPiece_of_mem_pieces, ?_⟩
  intro ⟨before, after, hcs, hp, hleft, hright⟩
  rw [hcs, List.append_assoc]
  rcases List.eq_nil_or_concat before with rfl | ⟨front, s, rfl⟩
  · exact mem_pieces_of_head? hp hright
  · have hs : sep s = true := hleft s (by simp)
    rw [List.concat_eq_append, List.append_assoc, List.singleton_append, pieces_append_cons hs]
    exact List.mem_append_right _ (mem_pieces_of_head? hp hright)

/-- The same for texts and a single separator. -/
theorem mem_splitAt {text piece : String} :
    piece ∈ splitAt s text ↔ IsPiece (· == s) text.toList piece.toList := by
  rw [splitAt, ← mem_pieces, List.mem_map]
  constructor
  · intro ⟨p, hp, heq⟩
    rwa [← heq, String.toList_ofList]
  · intro h
    exact ⟨_, h, String.ofList_toList⟩

/-- A word of a text: one or more characters that are not blank, with a blank
or an end of the text on each side. -/
def IsWord (cs w : List Char) : Prop := w ≠ [] ∧ IsPiece isBlank cs w

/-- The words are the pieces between blanks that are not empty. -/
theorem mem_words {cs w : List Char} : w ∈ words cs ↔ IsWord cs w := by
  rw [words, List.mem_filter, mem_pieces, IsWord, and_comm]
  simp

theorem IsWord.not_blank {cs w : List Char} (h : IsWord cs w) : ∀ c ∈ w, isBlank c = false := by
  obtain ⟨-, before, after, -, hw, -⟩ := h
  exact hw

theorem IsWord.trim_eq {cs w : List Char} (h : IsWord cs w) : trim w = w :=
  trim_eq_self h.not_blank

end Sdwan.Text
