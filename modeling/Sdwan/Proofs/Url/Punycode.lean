/-
What was written in Punycode is read as the label that it was written for.

# Distances

A place to insert a character at is a code point and a position in the text
so far, and the places are in one row: first those of a code point, then those
of the next. With `L` characters in the text there are `L + 1` places for a
code point, so the place is the number `m * (L + 1) + a` (`place`). The writer
writes how far it is from one insertion to the next, and the reader goes as far
and finds code point and position by division.

# The run

While the writer goes through the label for one code point, it has before it
the characters that are inserted already, and the reader has exactly those
(`Reads`). The reader is where the last insertion was, and what the writer has
counted since is the distance from there to the place where the writer is. A
step to the next character counts one more place, or writes the distance and
the reader inserts the same character (`Reads.insert`). The induction is over
the rest of the label, and then over the code points (`Reads.insertAll`).

The reader works with 32 bits, and a label of a thousand characters is far too
short to leave them.
-/
import Mathlib.Data.List.Induction
import Mathlib.Data.List.Sort
import Mathlib.Tactic.Ring
import Sdwan.Proofs.Text.Pieces
import Sdwan.Url.Punycode

namespace Sdwan.Url.Punycode

variable {c : Char} {cs rest label a done : List Char} {m n k bias pos basic : Nat} {ms : List Nat}
  {e : Encoder}

-- ============================================== digits

/-- A character that digits are written as. -/
def isCodeChar (c : Char) : Bool := ('a' ≤ c && c ≤ 'z') || Text.isDigit c

theorem digitValue?_digitChar : ∀ d < 36, digitValue? (digitChar d) = some d := by decide

theorem isCodeChar_digitChar : ∀ d < 36, isCodeChar (digitChar d) = true := by decide

/-- A digit that is not the last one of its number. -/
theorem digit_lt (bias k n : Nat) :
    threshold k bias + (n - threshold k bias) % (36 - threshold k bias) < 36 := by
  have hle := threshold_le k bias
  have hmod : (n - threshold k bias) % (36 - threshold k bias) < 36 - threshold k bias :=
    Nat.mod_lt _ (by omega)
  omega

/-- A number is written with such characters only. -/
theorem isCodeChar_of_mem_encodeNumber (h : c ∈ encodeNumber bias k n) : isCodeChar c = true := by
  fun_induction encodeNumber bias k n with
  | case1 k n t hlt =>
      have ht := threshold_le k bias
      rw [List.mem_singleton.mp h]
      exact isCodeChar_digitChar n (by omega)
  | case2 k n t hge ih =>
      rcases List.mem_cons.mp h with rfl | h
      · exact isCodeChar_digitChar _ (digit_lt bias k n)
      · exact ih h

/-- A number that was written is read, up to the text behind it. -/
theorem decodeNumber_encodeNumber {weight acc : Nat} (h : acc + n * weight < UInt32.size) :
    decodeNumber bias k weight acc (encodeNumber bias k n ++ rest)
      = some (acc + n * weight, rest) := by
  induction n using Nat.strong_induction_on generalizing k weight acc with
  | _ n ih =>
    have hle := threshold_le k bias
    rw [encodeNumber]
    have hpos := threshold_pos k bias
    generalize ht : threshold k bias = t at hle hpos
    split
    · next hlt =>
        rw [List.singleton_append, decodeNumber, digitValue?_digitChar n (by omega), ht]
        dsimp only
        rw [if_neg (by omega), if_pos hlt]
    · next hge =>
        have hdigit := digit_lt bias k n
        rw [ht] at hdigit
        -- the digit carries the number modulo `36 - t`, and the rest goes on with that weight
        have hwhole : t + (n - t) % (36 - t) + (36 - t) * ((n - t) / (36 - t)) = n := by
          have hdiv := Nat.mod_add_div (n - t) (36 - t)
          omega
        have hless : (n - t) / (36 - t) < n :=
          (Nat.div_le_self _ _).trans_lt (by omega)
        generalize (n - t) / (36 - t) = n' at hwhole hless
        generalize hd : t + (n - t) % (36 - t) = d at hwhole hdigit
        have hacc : acc + d * weight + n' * (weight * (36 - t)) = acc + n * weight := by
          calc acc + d * weight + n' * (weight * (36 - t))
              = acc + (d + (36 - t) * n') * weight := by ring
            _ = acc + n * weight := by rw [hwhole]
        rw [List.cons_append, decodeNumber, digitValue?_digitChar d hdigit, ht]
        dsimp only
        rw [if_neg (by omega), if_neg (by omega), ih n' hless (by omega), hacc]

-- ============================================== code points

/-- Inserting a code point adds it and nothing else. -/
theorem mem_insertPoint {x : Nat} : x ∈ insertPoint m ms ↔ x = m ∨ x ∈ ms := by
  fun_induction insertPoint m ms with
  | case1 => simp
  | case2 => simp
  | case3 y ys _ heq => simp [beq_iff_eq.mp heq]
  | case4 y ys _ _ ih => simp only [List.mem_cons, ih, or_left_comm]

/-- The code points stay in ascending order, each of them once. -/
theorem pairwise_insertPoint (h : ms.Pairwise (· < ·)) :
    (insertPoint m ms).Pairwise (· < ·) := by
  fun_induction insertPoint m ms with
  | case1 => exact List.pairwise_singleton _ m
  | case2 y ys hlt =>
      refine List.pairwise_cons.mpr ⟨fun x hx => ?_, h⟩
      rcases List.mem_cons.mp hx with rfl | hx
      · exact hlt
      · exact hlt.trans ((List.pairwise_cons.mp h).1 x hx)
  | case3 => exact h
  | case4 y ys hlt hne ih =>
      obtain ⟨hy, hys⟩ := List.pairwise_cons.mp h
      refine List.pairwise_cons.mpr ⟨fun x hx => ?_, ih hys⟩
      rw [beq_iff_eq] at hne
      rcases mem_insertPoint.mp hx with rfl | hx
      · omega
      · exact hy x hx

/-- The code points that are inserted, each of them once. -/
def points (label : List Char) : List Nat :=
  label.foldl (fun ps c => if c.toNat < 128 then ps else insertPoint c.toNat ps) []

/-- One more character adds its code point, unless it is ASCII. -/
theorem points_concat (label : List Char) (c : Char) :
    points (label ++ [c])
      = if c.toNat < 128 then points label else insertPoint c.toNat (points label) := by
  rw [points, List.foldl_append]
  rfl

theorem pairwise_points (label : List Char) : (points label).Pairwise (· < ·) := by
  induction label using List.reverseRecOn with
  | nil => exact List.Pairwise.nil
  | append_singleton label c ih =>
      rw [points_concat]
      split
      · exact ih
      · exact pairwise_insertPoint ih

/-- The code points that are inserted are those of the characters beyond ASCII. -/
theorem mem_points : m ∈ points label ↔ 128 ≤ m ∧ ∃ c ∈ label, c.toNat = m := by
  induction label using List.reverseRecOn with
  | nil => simp [points]
  | append_singleton label c ih =>
      simp only [points_concat, List.mem_append, List.mem_singleton, or_and_right, exists_or,
        exists_eq_left, and_or_left, ← ih]
      split
      · next hc => exact ⟨.inl, fun h => h.elim id fun h => absurd hc (by omega)⟩
      · next hc =>
          rw [mem_insertPoint, or_comm]
          exact or_congr_right ⟨fun h => ⟨by omega, h.symm⟩, fun h => h.2.symm⟩

-- ============================================== places

/-- The number of the place for a code point behind `a` of `length`
characters. -/
def place (m length a : Nat) : Nat := m * (length + 1) + a

/-- The reader finds code point and position by division. -/
theorem div_mod_of_place {i delta length a : Nat} (ha : a ≤ length)
    (h : place n length i + delta = place m length a) :
    n + (i + delta) / (length + 1) = m ∧ (i + delta) % (length + 1) = a := by
  unfold place at h
  have hle : n ≤ m := by
    by_contra hlt
    have hmul : (m + 1) * (length + 1) ≤ n * (length + 1) := Nat.mul_le_mul_right _ (by omega)
    rw [Nat.add_mul] at hmul
    omega
  obtain ⟨d, rfl⟩ := Nat.exists_eq_add_of_le hle
  have hsum : i + delta = a + (length + 1) * d := by
    rw [Nat.add_mul] at h
    rw [Nat.mul_comm (length + 1) d]
    omega
  rw [hsum, Nat.add_mul_div_left _ _ (Nat.succ_pos _), Nat.add_mul_mod_self_left,
    Nat.div_eq_of_lt (by omega), Nat.mod_eq_of_lt (by omega), Nat.zero_add]
  exact ⟨rfl, rfl⟩

/-- Places ascend with the length of the text and with the position in it. -/
theorem place_mono {length length' i i' : Nat} (hlength : length ≤ length') (hi : i ≤ i') :
    place m length i ≤ place m length' i' := by
  unfold place
  gcongr

/-- From one code point to a later one. -/
theorem place_add (hle : n ≤ m) (length : Nat) :
    place n length 0 + (m - n) * (length + 1) = place m length 0 := by
  simp only [place, Nat.add_zero, ← Nat.add_mul, Nat.add_sub_cancel' hle]

/-- Behind the last place of a code point comes the first one of the next. -/
theorem place_add_one (m length : Nat) : place m length length + 1 = place (m + 1) length 0 := by
  unfold place
  ring

/-- The places of a label that is short enough fit into 32 bits. -/
theorem place_lt {length : Nat} (hm : m < 0x110000)
    (hsmall : 0x110000 * (length + 1) < UInt32.size) : place m length length < UInt32.size := by
  have hmul : (m + 1) * (length + 1) ≤ 0x110000 * (length + 1) :=
    Nat.mul_le_mul_right _ (by omega)
  rw [Nat.add_mul] at hmul
  rw [place]
  omega

-- ============================================== the run

/-- What has been written behind the ASCII characters brings the reader from
these to the text `done`, with some insertions. The writer has counted the
distance from the last of them to the place `pos`. -/
structure Reads (front ascii : List Char) (e : Encoder) (done : List Char) (pos : Nat) : Prop where
  handled : e.handled = done.length
  length_le : ascii.length ≤ done.length
  written : ∃ code count n i, e.out = front ++ code ∧ (∀ c ∈ code, isCodeChar c = true)
    ∧ count ≤ code.length ∧ (i = 0 ↔ done.length = ascii.length)
    ∧ place n done.length i + e.delta = pos
    ∧ ∀ fuel rest, decodeFrom (fuel + count) 128 0 72 ascii (code ++ rest)
        = decodeFrom fuel n i e.bias done rest

variable {front ascii : List Char}

/-- Some places further on. -/
theorem Reads.skip (h : Reads front ascii e done pos) (d : Nat) :
    Reads front ascii { e with delta := e.delta + d } done (pos + d) where
  handled := h.handled
  length_le := h.length_le
  written := by
    obtain ⟨code, count, n, i, hout, hcode, hcount, hfirst, hdelta, hrun⟩ := h.written
    exact ⟨code, count, n, i, hout, hcode, hcount, hfirst, by dsimp only; omega, hrun⟩

theorem encodeNumber_ne_nil (bias k n : Nat) : encodeNumber bias k n ≠ [] := by
  rw [encodeNumber]
  split <;> simp

/-- A distance that was written leads to the next insertion. -/
theorem decodeFrom_encodeNumber {fuel i delta length : Nat} {out : List Char}
    (hlength : out.length = length) (ha : a.length ≤ length)
    (hplace : place n length i + delta = place c.toNat length a.length)
    (hsmall : delta < UInt32.size) :
    decodeFrom (fuel + 1) n i bias out (encodeNumber bias 36 delta ++ rest)
      = decodeFrom fuel c.toNat (a.length + 1) (adapt delta (length + 1) (i == 0))
          (out.take a.length ++ c :: out.drop a.length) rest := by
  have hread : decodeNumber bias 36 1 0 (encodeNumber bias 36 delta ++ rest)
      = some (delta, rest) := by
    rw [decodeNumber_encodeNumber (by omega), Nat.mul_one, Nat.zero_add]
  obtain ⟨hpoint, hposition⟩ := div_mod_of_place ha hplace
  have hvalid : ¬ (0x10FFFF < c.toNat || (0xD800 ≤ c.toNat && c.toNat < 0xE000)) = true := by
    have hchar : c.toNat < 0xD800 ∨ 0xDFFF < c.toNat ∧ c.toNat < 0x110000 := c.valid
    simp only [Bool.or_eq_true, Bool.and_eq_true, decide_eq_true_eq]
    omega
  obtain ⟨d, ds, hcons⟩ := List.exists_cons_of_ne_nil
    (List.append_ne_nil_of_left_ne_nil (encodeNumber_ne_nil bias 36 delta) rest)
  rw [hcons] at hread ⊢
  rw [decodeFrom, hread]
  dsimp only
  rw [hlength, hpoint, hposition, if_neg hvalid, Char.ofNat_toNat]

/-- The distance is written, and the reader inserts the character. -/
theorem Reads.insert (h : Reads front ascii e (a ++ rest) pos)
    (hpos : pos = place c.toNat (a ++ rest).length a.length) (hsmall : pos < UInt32.size) :
    Reads front ascii (e.step ascii.length c.toNat c) (a ++ c :: rest)
      (place c.toNat (a ++ c :: rest).length (a.length + 1)) := by
  obtain ⟨hhandled, hle, code, count, n, i, hout, hcode, hcount, hfirst, hdelta, hrun⟩ := h
  have hlength : (a ++ c :: rest).length = (a ++ rest).length + 1 := by
    simp only [List.length_append, List.length_cons]
    omega
  -- the first insertion is the one for which the reader has the ASCII characters only,
  -- so both adapt in the same way
  have hstep : e.step ascii.length c.toNat c
      = { out := e.out ++ encodeNumber e.bias 36 e.delta, delta := 0,
          bias := adapt e.delta ((a ++ rest).length + 1) (i == 0),
          handled := (a ++ c :: rest).length } := by
    have hbeq : (e.handled == ascii.length) = (i == 0) := by
      rw [Bool.eq_iff_iff, beq_iff_eq, beq_iff_eq, hfirst, hhandled]
    simp only [Encoder.step, Nat.lt_irrefl, if_false, beq_self_eq_true, if_true, hbeq]
    rw [hhandled, hlength]
  rw [hstep]
  refine ⟨rfl, by omega, code ++ encodeNumber e.bias 36 e.delta, count + 1, c.toNat,
    a.length + 1, by rw [hout, List.append_assoc], ?_, ?_, ?_, rfl, ?_⟩
  · exact List.forall_mem_append.mpr ⟨hcode, fun d => isCodeChar_of_mem_encodeNumber⟩
  · have hwritten := List.length_pos_iff.mpr (encodeNumber_ne_nil e.bias 36 e.delta)
    rw [List.length_append]
    omega
  · exact iff_of_false (Nat.succ_ne_zero _) (by omega)
  · intro fuel tail
    have hread : decodeFrom (fuel + 1) n i e.bias (a ++ rest)
          (encodeNumber e.bias 36 e.delta ++ tail)
        = decodeFrom fuel c.toNat (a.length + 1)
            (adapt e.delta ((a ++ rest).length + 1) (i == 0))
            ((a ++ rest).take a.length ++ c :: (a ++ rest).drop a.length) tail :=
      decodeFrom_encodeNumber rfl (by rw [List.length_append]; omega) (hdelta.trans hpos)
        (by omega)
    rw [List.take_left, List.drop_left] at hread
    rw [Nat.add_comm count 1, ← Nat.add_assoc, List.append_assoc, hrun, hread]

/-- Through the rest of the label for one code point: behind what has been gone
through stand the smaller characters of the rest, and at the end all up to this
code point are there. -/
theorem Reads.foldl_step (h : Reads front ascii e (a ++ cs.filter (·.toNat < m)) pos)
    (hpos : pos = place m (a ++ cs.filter (·.toNat < m)).length a.length)
    (hsmall : place m (a.length + cs.length) (a.length + cs.length) < UInt32.size) :
    Reads front ascii (cs.foldl (Encoder.step ascii.length m) e) (a ++ cs.filter (·.toNat ≤ m))
      (place m (a ++ cs.filter (·.toNat ≤ m)).length (a ++ cs.filter (·.toNat ≤ m)).length) := by
  induction cs generalizing a e pos with
  | nil => simpa [hpos] using h
  | cons c cs ih =>
      have hbound : (cs.filter (·.toNat < m)).length ≤ cs.length := List.length_filter_le _ _
      rw [List.length_cons] at hsmall
      rw [List.foldl_cons]
      rcases Nat.lt_trichotomy c.toNat m with hlt | heq | hgt
      · -- the character is there already, and the writer counts it
        rw [List.filter_cons_of_pos (by simpa using hlt)] at h hpos
        rw [List.filter_cons_of_pos (by simpa using hlt.le), List.append_cons]
        rw [List.append_cons] at h hpos
        have hstep : e.step ascii.length m c = { e with delta := e.delta + 1 } := if_pos hlt
        rw [hstep]
        refine ih (h.skip 1) ?_ ?_
        · rw [hpos, @List.length_append _ a [c]]
          rfl
        · rw [List.length_append, List.length_singleton, Nat.add_right_comm]
          exact hsmall
      -- the character is the one to insert: the distance to it is written
      · subst heq
        rw [List.filter_cons_of_neg (by simp)] at h hpos
        rw [List.filter_cons_of_pos (by simp), List.append_cons]
        have hpos_lt : pos < UInt32.size := by
          refine lt_of_le_of_lt ?_ hsmall
          rw [hpos, List.length_append]
          exact place_mono (by omega) (by omega)
        have hinsert := h.insert hpos hpos_lt
        rw [List.append_cons] at hinsert
        refine ih hinsert ?_ ?_
        · rw [@List.length_append _ a, List.length_singleton]
        · rw [List.length_append, List.length_singleton, Nat.add_right_comm]
          exact hsmall
      -- the character comes later, and neither side moves
      · rw [List.filter_cons_of_neg (by simpa using hgt.le)] at h hpos
        rw [List.filter_cons_of_neg (by simpa using hgt)]
        have hstep : e.step ascii.length m c = e := by
          rw [Encoder.step, if_neg (by omega), if_neg (by simpa using hgt.ne')]
        rw [hstep]
        exact ih h hpos (lt_of_le_of_lt (place_mono (by omega) (by omega)) hsmall)

/-- No character stands between two code points that follow each other. -/
theorem filter_lt_eq (hm : n ≤ m) (hfirst : ∀ m' ∈ ms, m < m')
    (hall : ∀ c ∈ label, n ≤ c.toNat → c.toNat ∈ m :: ms) :
    label.filter (·.toNat < n) = label.filter (·.toNat < m) := by
  refine List.filter_congr fun c hc => decide_eq_decide.mpr ⟨fun hlt => by omega, fun hlt => ?_⟩
  by_contra hge
  rcases List.mem_cons.mp (hall c hc (by omega)) with heq | hmem
  · omega
  · exact absurd (hfirst _ hmem) (by omega)

/-- Through all code points from `n` on: at the end the whole label is there. -/
theorem Reads.insertAll
    (h : Reads front ascii e (label.filter (·.toNat < n))
      (place n (label.filter (·.toNat < n)).length 0))
    (hsorted : ms.Pairwise (· < ·)) (hms : ∀ m ∈ ms, n ≤ m ∧ m < 0x110000)
    (hall : ∀ c ∈ label, n ≤ c.toNat → c.toNat ∈ ms)
    (hsmall : 0x110000 * (label.length + 1) < UInt32.size) :
    ∃ pos, Reads front ascii (insertAll label ascii.length ms n e) label pos := by
  induction ms generalizing n e with
  | nil =>
      have hfilter : label.filter (·.toNat < n) = label :=
        List.filter_eq_self.mpr fun c hc => by
          simpa using mt (hall c hc) List.not_mem_nil
      rw [hfilter] at h
      exact ⟨_, h⟩
  | cons m ms ih =>
      obtain ⟨hm, hms⟩ := List.forall_mem_cons.mp hms
      obtain ⟨hfirst, hsorted⟩ := List.pairwise_cons.mp hsorted
      have hsame := filter_lt_eq hm.1 hfirst hall
      -- one pass over the label for the code point `m`: first on to its places, ...
      have hstart := h.skip ((m - n) * (e.handled + 1))
      have hplace : place n (label.filter (·.toNat < n)).length 0 + (m - n) * (e.handled + 1)
          = place m (label.filter (·.toNat < m)).length 0 := by
        rw [h.handled, ← hsame, place_add hm.1]
      have hbound : place m (0 + label.length) (0 + label.length) < UInt32.size := by
        rw [Nat.zero_add]
        exact place_lt hm.2 hsmall
      -- ... then through the label, and behind it one place further to the next code point
      have hpass := @Reads.foldl_step label [] m _ _ front ascii
        (by rw [List.nil_append, ← hsame]; exact hstart) hplace hbound
      have hnext := hpass.skip 1
      simp only [List.nil_append, place_add_one, ← Nat.lt_succ_iff] at hnext
      refine ih hnext hsorted (fun m' hm' => ⟨hfirst m' hm', (hms m' hm').2⟩) ?_
      intro c hc hle
      rcases List.mem_cons.mp (hall c hc (by omega)) with heq | hmem
      · omega
      · exact hmem

/-- The text before the digits: the ASCII characters, and a hyphen if there are
any. -/
def head (label : List Char) : List Char :=
  let ascii := label.filter (·.toNat < 128)
  if ascii.isEmpty then [] else ascii ++ ['-']

/-- The whole label is written behind its ASCII characters in digits that bring
the reader to the label. -/
theorem exists_encode (hsmall : 0x110000 * (label.length + 1) < UInt32.size) :
    ∃ code, encode label = head label ++ code ∧ (∀ c ∈ code, isCodeChar c = true)
      ∧ ∀ fuel, code.length ≤ fuel →
        decodeFrom fuel 128 0 72 (label.filter (·.toNat < 128)) code = some label := by
  have hstart : Reads (head label) (label.filter (·.toNat < 128))
      ⟨head label, 0, 72, (label.filter (·.toNat < 128)).length⟩
      (label.filter (·.toNat < 128)) (place 128 (label.filter (·.toNat < 128)).length 0) :=
    ⟨rfl, le_rfl, [], 0, 128, 0, by simp, by simp, le_rfl, by simp, rfl, fun _ _ => rfl⟩
  obtain ⟨pos, hreads⟩ := hstart.insertAll (pairwise_points label)
    (fun m hm => by
      obtain ⟨hle, c, hc, rfl⟩ := mem_points.mp hm
      have hchar : c.toNat < 0xD800 ∨ 0xDFFF < c.toNat ∧ c.toNat < 0x110000 := c.valid
      omega)
    (fun c hc hle => mem_points.mpr ⟨hle, c, hc, rfl⟩) hsmall
  obtain ⟨code, count, n, i, hout, hcode, hcount, -, -, hrun⟩ := hreads.written
  refine ⟨code, hout, hcode, fun fuel hfuel => ?_⟩
  -- each insertion takes a digit at least, so fuel for every digit is enough
  have hwhole := hrun (fuel - count) []
  rw [List.append_nil, Nat.sub_add_cancel (hcount.trans hfuel)] at hwhole
  rw [hwhole]
  cases fuel - count <;> rfl

-- ============================================== the whole text

theorem ne_hyphen_of_isCodeChar (h : isCodeChar c = true) : c ≠ '-' := by
  rintro rfl
  exact absurd h (by decide)

/-- Seen from its end, a code has no hyphen. -/
theorem takeWhile_reverse_code {code : List Char} (h : ∀ c ∈ code, isCodeChar c = true) :
    ∀ c ∈ code.reverse, (c != '-') = true :=
  fun c hc => bne_iff_ne.mpr (ne_hyphen_of_isCodeChar (h c (List.mem_reverse.mp hc)))

/-- A code on its own has no hyphen, so nothing ASCII stands in front of it. -/
theorem lastHyphen?_code {code : List Char} (h : ∀ c ∈ code, isCodeChar c = true) :
    lastHyphen? code = none := by
  rw [lastHyphen?, List.takeWhile_eq_self_iff.mpr (takeWhile_reverse_code h),
    List.length_reverse]
  exact if_neg (Nat.lt_irrefl _)

/-- The last hyphen is the one in front of the code, whatever the ASCII characters
are. -/
theorem lastHyphen?_append {code : List Char} (h : ∀ c ∈ code, isCodeChar c = true) :
    lastHyphen? (ascii ++ '-' :: code) = some ascii.length := by
  have hafter : (ascii ++ '-' :: code).reverse.takeWhile (· != '-') = code.reverse := by
    rw [List.reverse_append, List.reverse_cons, List.append_assoc,
      List.takeWhile_append_of_pos (takeWhile_reverse_code h)]
    simp
  rw [lastHyphen?, hafter, List.length_reverse, List.length_append, List.length_cons]
  rw [if_pos (by omega)]
  congr 1
  omega

/-- The label that was written is read, whatever characters it holds: it is
short enough for 32 bits. -/
theorem decode_encode (hsmall : 0x110000 * (label.length + 1) < UInt32.size) :
    decode (encode label) = some label := by
  obtain ⟨code, hencode, hcode, hrun⟩ := exists_encode hsmall
  rw [hencode, head]
  split
  · next hempty =>
      rw [List.isEmpty_iff.mp hempty] at hrun
      rw [List.nil_append, decode, lastHyphen?_code hcode]
      exact hrun _ le_rfl
  · rw [List.append_assoc, List.singleton_append, decode, lastHyphen?_append hcode]
    dsimp only
    rw [List.take_left, ← List.drop_drop, List.drop_left, List.drop_one, List.tail_cons]
    refine hrun _ ?_
    rw [List.length_append, List.length_cons]
    omega

/-- What a label is written in: its ASCII characters, hyphens, digits. -/
theorem of_mem_encode (hsmall : 0x110000 * (label.length + 1) < UInt32.size)
    (hc : c ∈ encode label) :
    c ∈ label ∧ c.toNat < 128 ∨ c = '-' ∨ isCodeChar c = true := by
  obtain ⟨code, hencode, hcode, -⟩ := exists_encode hsmall
  rw [hencode, head] at hc
  rcases List.mem_append.mp hc with hc | hc
  · split at hc
    · exact absurd hc List.not_mem_nil
    · rcases List.mem_append.mp hc with hc | hc
      · exact .inl (by simpa using hc)
      · exact .inr (.inl (List.mem_singleton.mp hc))
  · exact .inr (.inr (hcode c hc))

-- ============================================== how long it gets

/-- A great distance takes three digits at least. -/
theorem three_le_length_encodeNumber (h : 936 ≤ n) : 3 ≤ (encodeNumber bias k n).length := by
  have hone : ∀ k n, 1 ≤ (encodeNumber bias k n).length := fun k n =>
    List.length_pos_iff.mpr (encodeNumber_ne_nil bias k n)
  have htwo : ∀ k n, 26 ≤ n → 2 ≤ (encodeNumber bias k n).length := by
    intro k n hn
    have hle := threshold_le k bias
    rw [encodeNumber, if_neg (by omega), List.length_cons]
    exact Nat.succ_le_succ (hone _ _)
  have hle := threshold_le k bias
  rw [encodeNumber, if_neg (by omega), List.length_cons]
  refine Nat.succ_le_succ (htwo _ _ ?_)
  calc 26 ≤ (n - threshold k bias) / 35 := by omega
    _ ≤ (n - threshold k bias) / (36 - threshold k bias) := by
      have hpos := threshold_pos k bias
      exact Nat.div_le_div_left (by omega) (by omega)

/-- The characters ascend, and so far apart that each of them takes three digits
behind `count` characters that are inserted before. -/
def isSpread : (n count : Nat) → List Char → Bool
  | _, _, [] => true
  | n, count, c :: cs =>
    936 ≤ (c.toNat - n) * (count + 1) && isSpread (c.toNat + 1) (count + 1) cs

/-- The characters lie beyond the code point that they are spread from. -/
theorem lt_of_isSpread {count : Nat} (h : isSpread n count cs = true) : ∀ c ∈ cs, n < c.toNat := by
  induction cs generalizing n count with
  | nil => exact List.forall_mem_nil _
  | cons c cs ih =>
      rw [isSpread, Bool.and_eq_true, decide_eq_true_eq] at h
      have hc : n < c.toNat := by
        by_contra hle
        rw [Nat.sub_eq_zero_of_le (Nat.le_of_not_lt hle), Nat.zero_mul] at h
        omega
      refine List.forall_mem_cons.mpr ⟨hc, fun d hd => ?_⟩
      have hd := ih h.2 d hd
      omega

/-- Characters that are spread ascend. -/
theorem pairwise_of_isSpread {count : Nat} (h : isSpread n count cs = true) :
    (cs.map Char.toNat).Pairwise (· < ·) := by
  induction cs generalizing n count with
  | nil => exact List.Pairwise.nil
  | cons c cs ih =>
      rw [isSpread, Bool.and_eq_true] at h
      rw [List.map_cons]
      refine List.pairwise_cons.mpr ⟨fun m hm => ?_, ih h.2⟩
      obtain ⟨d, hd, rfl⟩ := List.mem_map.mp hm
      have hlt := lt_of_isSpread h.2 d hd
      omega

/-- Over characters of smaller code points the writer only counts places. -/
theorem foldl_step_of_lt (h : ∀ d ∈ a, d.toNat < m) :
    a.foldl (Encoder.step basic m) e = { e with delta := e.delta + a.length } := by
  induction a generalizing e with
  | nil => rfl
  | cons d a ih =>
      obtain ⟨hd, ha⟩ := List.forall_mem_cons.mp h
      rw [List.foldl_cons, Encoder.step, if_pos hd, ih ha, List.length_cons]
      dsimp only
      rw [Nat.add_assoc, Nat.add_comm 1]

/-- Characters of greater code points are not there yet, and the writer passes them. -/
theorem foldl_step_of_gt (h : ∀ d ∈ cs, m < d.toNat) : cs.foldl (Encoder.step basic m) e = e := by
  induction cs with
  | nil => rfl
  | cons d cs ih =>
      obtain ⟨hd, hcs⟩ := List.forall_mem_cons.mp h
      rw [List.foldl_cons, Encoder.step, if_neg (by omega), if_neg (by simpa using hd.ne')]
      exact ih hcs

/-- Among ascending characters only the one that is inserted writes something. -/
theorem foldl_step_ascending (ha : ∀ d ∈ a, d.toNat < c.toNat) (hcs : ∀ d ∈ cs, c.toNat < d.toNat) :
    (a ++ c :: cs).foldl (Encoder.step basic c.toNat) e
      = { out := e.out ++ encodeNumber e.bias 36 (e.delta + a.length), delta := 0,
          bias := adapt (e.delta + a.length) (e.handled + 1) (e.handled == basic),
          handled := e.handled + 1 } := by
  rw [List.foldl_append, List.foldl_cons, foldl_step_of_lt ha, foldl_step_of_gt hcs, Encoder.step,
    if_neg (Nat.lt_irrefl _), if_pos (beq_self_eq_true _)]

/-- So every such character takes three digits. -/
theorem length_insertAll (hspread : isSpread n a.length cs = true) (ha : ∀ d ∈ a, d.toNat < n)
    (hhandled : e.handled = a.length) :
    e.out.length + 3 * cs.length
      ≤ (insertAll (a ++ cs) basic (cs.map Char.toNat) n e).out.length := by
  induction cs generalizing a n e with
  | nil => exact le_rfl
  | cons c cs ih =>
      have hc := lt_of_isSpread hspread c List.mem_cons_self
      rw [isSpread, Bool.and_eq_true, decide_eq_true_eq, ← hhandled] at hspread
      obtain ⟨hgreat, hspread⟩ := hspread
      have ha' : ∀ d ∈ a ++ [c], d.toNat < c.toNat + 1 := by
        refine List.forall_mem_append.mpr ⟨fun d hd => ?_, List.forall_mem_singleton.mpr (by omega)⟩
        have hd := ha d hd
        omega
      have hcount : (a ++ [c]).length = e.handled + 1 := by rw [List.length_append, hhandled]; rfl
      have hcs : ∀ d ∈ cs, c.toNat < d.toNat := fun d hd =>
        (Nat.lt_succ_self _).trans (lt_of_isSpread hspread d hd)
      rw [List.map_cons, insertAll, foldl_step_ascending (fun d hd => (ha d hd).trans hc) hcs,
        List.append_cons]
      refine le_trans ?_ (ih (hcount ▸ hspread) ha' hcount.symm)
      -- the distance to `c` is as great as the spread asks for
      have hdigits : 3 ≤ (encodeNumber e.bias 36
          (e.delta + (c.toNat - n) * (e.handled + 1) + a.length)).length :=
        three_le_length_encodeNumber (by omega)
      dsimp only
      rw [List.length_append, List.length_cons]
      omega

/-- The length of what is written for ASCII and ascending characters. -/
theorem length_encode (hspread : isSpread 128 a.length cs = true) (ha : ∀ d ∈ a, d.toNat < 128) :
    a.length + 3 * cs.length ≤ (encode (a ++ cs)).length := by
  have hbeyond := lt_of_isSpread hspread
  have hascii : (a ++ cs).filter (·.toNat < 128) = a := by
    have hnone : cs.filter (·.toNat < 128) = [] := List.filter_eq_nil_iff.mpr fun c hc => by
      have hc := hbeyond c hc
      simp only [decide_eq_true_eq]
      omega
    rw [List.filter_append, hnone, List.append_nil]
    exact List.filter_eq_self.mpr fun c hc => decide_eq_true (ha c hc)
  -- both lists ascend and have the same members
  have hpoints : points (a ++ cs) = cs.map Char.toNat := by
    refine (pairwise_points _).eq_of_mem_iff (pairwise_of_isSpread hspread) fun m => ?_
    rw [mem_points, List.mem_map]
    constructor
    · rintro ⟨hle, c, hc, rfl⟩
      rcases List.mem_append.mp hc with hc | hc
      · exact absurd (ha c hc) (by omega)
      · exact ⟨c, hc, rfl⟩
    · rintro ⟨c, hc, rfl⟩
      exact ⟨(hbeyond c hc).le, c, List.mem_append_right a hc, rfl⟩
  have hhead : a.length ≤ (head (a ++ cs)).length := by
    rw [head, hascii]
    split
    · next hempty => rw [List.isEmpty_iff.mp hempty]
    · rw [List.length_append]
      omega
  have hlength : (head (a ++ cs)).length + 3 * cs.length
      ≤ (insertAll (a ++ cs) a.length (cs.map Char.toNat) 128
          ⟨head (a ++ cs), 0, 72, a.length⟩).out.length :=
    length_insertAll (e := ⟨head (a ++ cs), 0, 72, a.length⟩) hspread ha rfl
  have hencode : encode (a ++ cs)
      = (insertAll (a ++ cs) a.length (points (a ++ cs)) 128
          ⟨head (a ++ cs), 0, 72, a.length⟩).out := by
    rw [encode, hascii, head, hascii]
    rfl
  rw [hencode, hpoints]
  exact le_trans (Nat.add_le_add_right hhead _) hlength

end Sdwan.Url.Punycode
