/-
Bytes that were written for a text are read as that text.

A character takes one byte to four, and the first byte says how many. So
there is one lemma for each number of bytes, about what the bytes have to be
like, and `decodeStep_utf8EncodeChar` only says that they are. Arithmetic
on bytes is arithmetic on numbers below 256.

A reader that mends nothing takes exactly the bytes of texts
(`decodeStrict?_eq_some_iff`), so what it refuses is no text's encoding.
-/
import Sdwan.Text.Utf8

namespace Sdwan.Text

variable {b0 b1 b2 b3 : UInt8} {rest : List UInt8} {n : Nat}

-- ============================================== bytes as numbers

/-- A number below 256 is the byte it is made to. -/
theorem toNat_ofNat_of_lt (h : n < 256) : (UInt8.ofNat n).toNat = n := by
  rw [UInt8.toNat_ofNat']
  omega

theorem not_lt_of_toNat {k : UInt8} (h : n ≤ b0.toNat) (hk : k.toNat ≤ n) : ¬ b0 < k := fun hlt =>
  absurd (UInt8.lt_iff_toNat_lt.mp hlt) (by omega)

theorem not_le_of_toNat {k : UInt8} (h : b0.toNat < n) (hk : n ≤ k.toNat) : ¬ k ≤ b0 := fun hle =>
  absurd (UInt8.le_iff_toNat_le.mp hle) (by omega)

theorem isContinuation_iff :
    isContinuation b1 = true ↔ 0x80 ≤ b1.toNat ∧ b1.toNat < 0xC0 := by
  simp [isContinuation, UInt8.le_iff_toNat_le, UInt8.lt_iff_toNat_lt]

theorem secondFits_iff :
    secondFits b0 b1 = true ↔ (0x80 ≤ b1.toNat ∧ b1.toNat < 0xC0)
      ∧ (b0.toNat = 0xE0 → 0xA0 ≤ b1.toNat) ∧ (b0.toNat = 0xED → b1.toNat < 0xA0)
      ∧ (b0.toNat = 0xF0 → 0x90 ≤ b1.toNat) ∧ (b0.toNat = 0xF4 → b1.toNat < 0x90) := by
  have hne : ∀ k : UInt8, (b0 != k) = true ↔ b0.toNat ≠ k.toNat := fun k => by
    simp [UInt8.toNat_inj]
  simp only [secondFits, Bool.and_eq_true, Bool.or_eq_true, isContinuation_iff, hne,
    decide_eq_true_eq, UInt8.le_iff_toNat_le, UInt8.lt_iff_toNat_lt]
  simp only [UInt8.reduceToNat]
  omega

-- ============================================== one character

theorem decodeStep_one (h : b0.toNat < 0x80) :
    decodeStep b0 rest = (Char.ofNat b0.toNat, rest) := by
  unfold decodeStep
  rw [if_pos (UInt8.lt_iff_toNat_lt.mpr h)]

theorem decodeStep_two (h0 : 0xC2 ≤ b0.toNat) (h0' : b0.toNat < 0xE0)
    (h1 : isContinuation b1 = true) :
    decodeStep b0 (b1 :: rest) = (Char.ofNat (b0.toNat % 32 * 64 + payload b1), rest) := by
  unfold decodeStep
  rw [if_neg (not_lt_of_toNat h0 (by decide)), if_neg (not_lt_of_toNat h0 (by decide))]
  dsimp only
  rw [if_pos (UInt8.lt_iff_toNat_lt.mpr h0'), if_pos h1]

theorem decodeStep_three (h0 : 0xE0 ≤ b0.toNat) (h0' : b0.toNat < 0xF0)
    (h1 : secondFits b0 b1 = true) (h2 : isContinuation b2 = true) :
    decodeStep b0 (b1 :: b2 :: rest)
      = (Char.ofNat ((b0.toNat % 16 * 64 + payload b1) * 64 + payload b2), rest) := by
  unfold decodeStep
  rw [if_neg (not_lt_of_toNat h0 (by decide)), if_neg (not_lt_of_toNat h0 (by decide))]
  dsimp only
  rw [if_neg (not_lt_of_toNat h0 (by decide)), if_neg (not_le_of_toNat h0' (by decide)), h1, h2,
    if_neg (by decide), if_neg (by decide), if_pos (UInt8.lt_iff_toNat_lt.mpr h0')]

theorem decodeStep_four (h0 : 0xF0 ≤ b0.toNat) (h0' : b0.toNat < 0xF5)
    (h1 : secondFits b0 b1 = true) (h2 : isContinuation b2 = true)
    (h3 : isContinuation b3 = true) :
    decodeStep b0 (b1 :: b2 :: b3 :: rest)
      = (Char.ofNat (((b0.toNat % 8 * 64 + payload b1) * 64 + payload b2) * 64 + payload b3),
          rest) := by
  unfold decodeStep
  rw [if_neg (not_lt_of_toNat h0 (by decide)), if_neg (not_lt_of_toNat h0 (by decide))]
  dsimp only
  rw [if_neg (not_lt_of_toNat h0 (by decide)), if_neg (not_le_of_toNat h0' (by decide)), h1, h2,
    if_neg (by decide), if_neg (by decide), if_neg (not_lt_of_toNat h0 (by decide)), h3,
    if_neg (by decide)]

/-- The bytes of a character are read as the character. -/
theorem decodeStep_utf8EncodeChar (c : Char) :
    ∃ b bs, String.utf8EncodeChar c = b :: bs ∧ ∀ rest, decodeStep b (bs ++ rest) = (c, rest) := by
  -- the numbers that no character has are those that no three bytes may stand for
  have hvalid : c.val.toNat < 0xD800 ∨ 0xDFFF < c.val.toNat ∧ c.val.toNat < 0x110000 := c.valid
  have hofNat : ∀ m, m = c.val.toNat → Char.ofNat m = c := by
    rintro m rfl
    exact Char.ofNat_toNat c
  unfold String.utf8EncodeChar
  dsimp only
  generalize c.val.toNat = v at hvalid hofNat
  split
  · have h0 := toNat_ofNat_of_lt (n := v) (by omega)
    refine ⟨_, _, rfl, fun rest => ?_⟩
    rw [List.nil_append, decodeStep_one (by omega), hofNat _ h0]
  · split
    · have h0 := toNat_ofNat_of_lt (n := v / 64 % 32 + 192) (by omega)
      have h1 := toNat_ofNat_of_lt (n := v % 64 + 128) (by omega)
      refine ⟨_, _, rfl, fun rest => ?_⟩
      rw [List.cons_append, List.nil_append,
        decodeStep_two (by omega) (by omega) (isContinuation_iff.mpr (by omega)),
        hofNat _ (by unfold payload; omega)]
    · split
      · have h0 := toNat_ofNat_of_lt (n := v / 4096 % 16 + 224) (by omega)
        have h1 := toNat_ofNat_of_lt (n := v / 64 % 64 + 128) (by omega)
        have h2 := toNat_ofNat_of_lt (n := v % 64 + 128) (by omega)
        refine ⟨_, _, rfl, fun rest => ?_⟩
        rw [List.cons_append, List.cons_append, List.nil_append,
          decodeStep_three (by omega) (by omega) (secondFits_iff.mpr (by omega))
            (isContinuation_iff.mpr (by omega)),
          hofNat _ (by unfold payload; omega)]
      · have h0 := toNat_ofNat_of_lt (n := v / 262144 % 8 + 240) (by omega)
        have h1 := toNat_ofNat_of_lt (n := v / 4096 % 64 + 128) (by omega)
        have h2 := toNat_ofNat_of_lt (n := v / 64 % 64 + 128) (by omega)
        have h3 := toNat_ofNat_of_lt (n := v % 64 + 128) (by omega)
        refine ⟨_, _, rfl, fun rest => ?_⟩
        rw [List.cons_append, List.cons_append, List.cons_append, List.nil_append,
          decodeStep_four (by omega) (by omega) (secondFits_iff.mpr (by omega))
            (isContinuation_iff.mpr (by omega)) (isContinuation_iff.mpr (by omega)),
          hofNat _ (by unfold payload; omega)]

/-- A byte that is ASCII is the whole of its character. -/
theorem eq_of_mem_utf8EncodeChar {c : Char} (h : b0 ∈ String.utf8EncodeChar c)
    (hb : b0.toNat < 128) : c.toNat = b0.toNat := by
  have hne : ∀ m, 128 ≤ m → m < 256 → b0 ≠ UInt8.ofNat m := by
    intro m hm hm' heq
    rw [heq, toNat_ofNat_of_lt hm'] at hb
    omega
  show c.val.toNat = b0.toNat
  unfold String.utf8EncodeChar at h
  dsimp only at h
  generalize c.val.toNat = v at h ⊢
  split at h
  · rw [List.mem_singleton.mp h, toNat_ofNat_of_lt (by omega)]
  · -- of several bytes each one has its highest bit set
    refine absurd h ?_
    split
    · simp only [List.mem_cons, List.not_mem_nil, or_false, not_or]
      exact ⟨hne _ (by omega) (by omega), hne _ (by omega) (by omega)⟩
    · split
      · simp only [List.mem_cons, List.not_mem_nil, or_false, not_or]
        exact ⟨hne _ (by omega) (by omega), hne _ (by omega) (by omega),
          hne _ (by omega) (by omega)⟩
      · simp only [List.mem_cons, List.not_mem_nil, or_false, not_or]
        exact ⟨hne _ (by omega) (by omega), hne _ (by omega) (by omega),
          hne _ (by omega) (by omega), hne _ (by omega) (by omega)⟩

-- ============================================== texts

/-- The bytes of a text are read as the text. -/
theorem decodeUtf8_utf8 (cs : List Char) : decodeUtf8 (utf8 cs) = cs := by
  induction cs with
  | nil => rw [utf8, List.flatMap_nil, decodeUtf8]
  | cons c cs ih =>
      obtain ⟨b, bs, hbytes, hstep⟩ := decodeStep_utf8EncodeChar c
      rw [utf8] at ih ⊢
      rw [List.flatMap_cons, hbytes, List.cons_append, decodeUtf8, hstep, ih]

/-- A text is told from its bytes. -/
theorem textOf_utf8 (s : String) : textOf (utf8 s.toList) = s := by
  rw [textOf, decodeUtf8_utf8, String.ofList_toList]

/-- Strict decoding reads a text from its own bytes, and from no others. -/
theorem decodeStrict?_eq_some_iff {bs : List UInt8} {cs : List Char} :
    decodeStrict? bs = some cs ↔ utf8 cs = bs := by
  unfold decodeStrict?
  constructor
  · intro h
    dsimp only at h
    split at h
    · next hsame =>
        cases h
        exact hsame
    · cases h
  · rintro rfl
    rw [decodeUtf8_utf8]
    exact if_pos rfl

-- ============================================== octets

/-- A byte is the number of the character that stands for it. -/
theorem toNat_octet (b : UInt8) : (Char.ofNat b.toNat).toNat = b.toNat := by
  have hlt := b.toNat_lt
  have hvalid : b.toNat.isValidChar := Or.inl (by omega)
  rw [Char.ofNat, dif_pos hvalid]
  rfl

/-- Of the octets of a character, an ASCII character is the only one. -/
theorem count_octets_utf8EncodeChar {c : Char} (hc : c.toNat < 128) (d : Char) :
    (octets (String.utf8EncodeChar d)).count c = if d = c then 1 else 0 := by
  split
  · next heq =>
      subst heq
      have hone : String.utf8EncodeChar d = [UInt8.ofNat d.toNat] := by
        unfold String.utf8EncodeChar
        exact if_pos (Nat.le_of_lt_succ hc)
      have hsame : Char.ofNat (UInt8.ofNat d.toNat).toNat = d := by
        rw [toNat_ofNat_of_lt (by omega), Char.ofNat_toNat]
      rw [hone, octets, List.map_singleton, hsame, List.count_singleton_self]
  · next hne =>
      refine List.count_eq_zero.mpr fun hmem => hne ?_
      obtain ⟨b, hb, rfl⟩ := List.mem_map.mp hmem
      rw [toNat_octet] at hc
      exact Char.toNat_inj.mp ((eq_of_mem_utf8EncodeChar hb hc).trans (toNat_octet b).symm)

/-- An ASCII character stands in a text as often as among its octets. -/
theorem count_octets_utf8 {c : Char} (hc : c.toNat < 128) (cs : List Char) :
    (octets (utf8 cs)).count c = cs.count c := by
  induction cs with
  | nil => rfl
  | cons d cs ih =>
      have hcons : octets (utf8 (d :: cs))
          = octets (String.utf8EncodeChar d) ++ octets (utf8 cs) := by
        rw [utf8, List.flatMap_cons, octets, List.map_append]
        rfl
      rw [hcons, List.count_append, count_octets_utf8EncodeChar hc, ih, List.count_cons,
        Nat.add_comm]
      simp only [beq_iff_eq]

end Sdwan.Text
