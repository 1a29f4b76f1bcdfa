/-
The stand-in for names keeps the rules for names.

# Folding

What is folded is not folded again, as far as it is in ASCII
(`Folding.fold_of_mem_fold`). Beyond ASCII the tables may go on, and so a label
is written only if each of its characters stands for itself (`isSound`).

# Labels

A label in ASCII is its own form, and any other is written in Punycode
(`asciiLabel_cases`). This is read as the text it was written for. The text is
sound, so the label is its own form again, unless it is too long to be read
(`asciiLabel_asciiLabel`). A name is put together from its labels and taken
apart at the same points (`isPrinted_of_asciiName`). More is not asked for
(`lawfulIdna_names`).

# Labels beyond ASCII

One whose characters all stand for themselves is a name as it is, whatever
comes out for it in ASCII (`parse_of_isSound`).
-/
import Sdwan.Proofs.Url.Host
import Sdwan.Proofs.Url.Punycode
import Sdwan.Stock

namespace Sdwan.Stock

open Url Url.Host

variable {c d : Char} {cs label name a : List Char} {labels : List (List Char)}

-- ============================================== folding

namespace Folding

/-- A character that is no capital letter. -/
theorem lowerAscii_eq_self {n : Nat} (hn : n < 128) (h : n < 65 ∨ 90 < n) :
    Text.lowerAscii (Char.ofNat n) = Char.ofNat n := by
  revert n
  decide

theorem fold_of_lt (h : c.toNat < 128) : fold c = [Text.lowerAscii c] := if_pos h

/-- A letter of lower case stays as it is. -/
theorem lowerAscii_lowerAscii : Text.lowerAscii (Text.lowerAscii c) = Text.lowerAscii c := by
  by_cases hc : c.toNat < 128
  · refine Text.forall_ascii (P := fun c =>
      Text.lowerAscii (Text.lowerAscii c) = Text.lowerAscii c) ?_ hc
    decide
  · have hsame : Text.lowerAscii c = c := if_neg fun h => hc (Text.toNat_lt_of_le h.2 (by decide))
    rw [hsame, hsame]

/-- No capital letter stands in the table of expansions. -/
theorem lowerAscii_of_mem_expansions :
    ∀ e ∈ expansions.toList, ∀ d ∈ e.2.toList, Text.lowerAscii d = d := by
  have hall : ∀ e ∈ expansions.toList, e.2.toList.all (fun d => Text.lowerAscii d = d) = true := by
    decide +kernel
  exact fun e he => List.all_iff_forall_prop.mp (hall e he)

/-- No run leads to a capital letter. -/
theorem target_of_mem_shifts : ∀ e ∈ shifts.toList,
    e.2.2.2 + (e.2.1 - e.1) < 65 ∨ 90 < e.2.2.2 := by
  decide +kernel

/-- What a run leads to in ASCII is no capital letter either. -/
theorem lowerAscii_of_shifted {n m : Nat} (h : shifted n = some m)
    (hchar : (Char.ofNat m).toNat < 128) : Text.lowerAscii (Char.ofNat m) = Char.ofNat m := by
  by_cases hvalid : m.isValidChar
  · have hm : (Char.ofNat m).toNat = m := by
      rw [Char.ofNat, dif_pos hvalid]
      rfl
    rw [hm] at hchar
    obtain ⟨⟨first, last, step, target⟩, hfind, rfl⟩ := Option.map_eq_some_iff.mp h
    have hmem := Array.mem_toList_iff.mpr (Array.mem_of_find?_eq_some hfind)
    have hrange := Array.find?_some hfind
    have htarget := target_of_mem_shifts _ hmem
    simp only [Bool.and_eq_true, decide_eq_true_eq] at hrange htarget
    dsimp only at hchar ⊢
    exact lowerAscii_eq_self hchar (by omega)
  · rw [Char.ofNat, dif_neg hvalid]
    decide

/-- What is folded in ASCII is not folded again. -/
theorem fold_of_mem_fold (h : d ∈ fold c) (hd : d.toNat < 128) : fold d = [d] := by
  -- through which table a character goes does not matter: none of them leads to a capital
  have hsame : Text.lowerAscii d = d := by
    unfold fold at h
    dsimp only at h
    split at h
    · rw [List.mem_singleton.mp h, lowerAscii_lowerAscii]
    · split at h
      · cases h
      · split at h
        · next n t hfind =>
            exact lowerAscii_of_mem_expansions _
              (Array.mem_toList_iff.mpr (Array.mem_of_find?_eq_some hfind)) d h
        · split at h
          · next m hm =>
              rw [List.mem_singleton.mp h] at hd ⊢
              exact lowerAscii_of_shifted hm hd
          · rw [List.mem_singleton.mp h] at hd
            next hc _ _ _ _ _ => exact absurd hd hc
  rw [fold_of_lt hd, hsame]

/-- The tables leave the ideographs of the basic plane alone. -/
theorem not_listed : (∀ e ∈ dropped, e.2 < 0x4E00 ∨ 0xA000 ≤ e.1)
    ∧ (∀ e ∈ expansions.toList, e.1 < 0x4E00 ∨ 0xA000 ≤ e.1)
    ∧ ∀ e ∈ shifts.toList, e.2.1 < 0x4E00 ∨ 0xA000 ≤ e.1 := by
  decide +kernel

/-- An ideograph is not folded. -/
theorem fold_of_ideograph (hge : 0x4E00 ≤ c.toNat) (hlt : c.toNat < 0xA000) : fold c = [c] := by
  obtain ⟨hdropped, hexpansions, hshifts⟩ := not_listed
  have hnotExpanded : expansions.find? (·.1 == c.toNat) = none := by
    refine Array.find?_eq_none.mpr fun e he => ?_
    have hrange := hexpansions e (Array.mem_toList_iff.mpr he)
    rw [beq_iff_eq]
    omega
  have hnotShifted : shifted c.toNat = none := by
    refine Option.map_eq_none_iff.mpr (Array.find?_eq_none.mpr fun e he => ?_)
    obtain ⟨first, last, step, target⟩ := e
    have hrange : last < 0x4E00 ∨ 0xA000 ≤ first := hshifts _ (Array.mem_toList_iff.mpr he)
    simp only [Bool.and_eq_true, decide_eq_true_eq]
    omega
  -- past all tables, the character is left as it is
  unfold fold
  dsimp only
  split
  · omega
  · split
    · next hany =>
        obtain ⟨e, he, hin⟩ := List.any_eq_true.mp hany
        have hrange := hdropped e he
        simp only [Bool.and_eq_true, decide_eq_true_eq] at hin
        omega
    · rw [hnotExpanded, hnotShifted]

end Folding

-- ============================================== labels

/-- ASCII that folding does not change. -/
def IsPlain (cs : List Char) : Prop := ∀ c ∈ cs, c.toNat < 128 ∧ Folding.fold c = [c]

/-- What Punycode is written with stands for itself, is allowed, and does not end a
label. -/
theorem isPlain_of_isCodeChar (h : Punycode.isCodeChar c = true) :
    c.toNat < 128 ∧ Folding.fold c = [c] ∧ c ≠ '.' ∧ isForbidden c = false := by
  have hlt : c.toNat < 128 := by
    simp only [Punycode.isCodeChar, Text.isDigit, Bool.or_eq_true, Bool.and_eq_true,
      decide_eq_true_eq] at h
    rcases h with ⟨-, h⟩ | ⟨-, h⟩
    all_goals exact Text.toNat_lt_of_le h (by decide)
  refine ⟨hlt, ?_⟩
  refine Text.forall_ascii (P := fun c => Punycode.isCodeChar c = true →
    Folding.fold c = [c] ∧ c ≠ '.' ∧ isForbidden c = false) ?_ hlt h
  decide

/-- The characters of a sound label stand for themselves. -/
theorem isSound_fold (h : isSound label = true) : ∀ c ∈ label, Folding.fold c = [c] := by
  intro c hc
  rw [isSound, Bool.and_eq_true, List.all_eq_true] at h
  exact beq_iff_eq.mp (Bool.and_eq_true_iff.mp (h.1 c hc)).1

/-- A label that is written is short enough for the 32 bits of the reader. -/
theorem length_lt_of_written (h : label.length ≤ longestWritten) :
    0x110000 * (label.length + 1) < UInt32.size := by
  have hle : label.length ≤ 1000 := h
  show _ < 4294967296
  omega

theorem isPlain_of_isDigit (h : Text.isDigit c = true) : c.toNat < 128 ∧ Folding.fold c = [c] := by
  have hcode : Punycode.isCodeChar c = true := Bool.or_eq_true_iff.mpr (.inr h)
  obtain ⟨hlt, hfold, -⟩ := isPlain_of_isCodeChar hcode
  exact ⟨hlt, hfold⟩

/-- Punycode of a label is in plain characters. -/
theorem of_mem_punycode (hlen : label.length ≤ longestWritten) (hsound : isSound label = true)
    (hdot : '.' ∉ label) : IsPlain ("xn--".toList ++ Punycode.encode label)
      ∧ '.' ∉ "xn--".toList ++ Punycode.encode label := by
  have hchars : ∀ c ∈ Punycode.encode label,
      c.toNat < 128 ∧ Folding.fold c = [c] ∧ c ≠ '.' := by
    intro c hc
    rcases Punycode.of_mem_encode (length_lt_of_written hlen) hc with ⟨hc, hlt⟩ | rfl | hc
    · refine ⟨hlt, isSound_fold hsound c hc, ?_⟩
      rintro rfl
      exact hdot hc
    · decide
    · obtain ⟨hlt, hfold, hnodot, -⟩ := isPlain_of_isCodeChar hc
      exact ⟨hlt, hfold, hnodot⟩
  have hafter : ∀ c ∈ "xn--".toList, c.toNat < 128 ∧ Folding.fold c = [c] ∧ c ≠ '.' :=
    List.all_iff_forall_prop.mp (by decide)
  have hall := List.forall_mem_append.mpr ⟨hafter, hchars⟩
  exact ⟨fun c hc => ⟨(hall c hc).1, (hall c hc).2.1⟩, fun hc => (hall _ hc).2.2 rfl⟩

/-- Punycode that was written is read if it is short enough. -/
theorem asciiLabel_punycode (hlen : label.length ≤ longestWritten) (hsound : isSound label = true)
    (hdot : '.' ∉ label) (hbeyond : label.any (128 ≤ ·.toNat) = true) :
    asciiLabel ("xn--".toList ++ Punycode.encode label)
      = if isReadable ("xn--".toList ++ Punycode.encode label) then
          some ("xn--".toList ++ Punycode.encode label)
        else none := by
  have hascii : ("xn--".toList ++ Punycode.encode label).all (·.toNat < 128) = true :=
    List.all_eq_true.mpr fun c hc => decide_eq_true ((of_mem_punycode hlen hsound hdot).1 c hc).1
  rw [asciiLabel, isReadable, afterPrefix?_xn]
  dsimp only
  rw [hascii, Bool.true_and, Punycode.decode_encode (length_lt_of_written hlen)]
  dsimp only
  rw [hbeyond, hsound, beq_self_eq_true]
  rfl

/-- What becomes of a label: it is kept, in ASCII and short enough to be read, or it is
written in Punycode, as a sound one beyond ASCII. -/
theorem asciiLabel_cases (h : asciiLabel label = some a) :
    (a = label ∧ label.all (·.toNat < 128) = true ∧ isReadable label = true)
      ∨ a = "xn--".toList ++ Punycode.encode label ∧ label.length ≤ longestWritten
        ∧ isSound label = true ∧ label.any (128 ≤ ·.toNat) = true := by
  unfold asciiLabel at h
  split at h
  · next code hafter =>
      split at h
      · next hcond =>
          obtain ⟨hall, hshort⟩ := Bool.and_eq_true_iff.mp hcond
          have hread : isReadable label = true := by
            rw [isReadable, hafter]
            exact hshort
          split at h
          · cases h
          · split at h
            · cases h
              exact .inl ⟨rfl, hall, hread⟩
            · cases h
      · cases h
  · next hafter =>
      have hread : isReadable label = true := by rw [isReadable, hafter]
      split at h
      · next hall =>
          cases h
          exact .inl ⟨rfl, hall, hread⟩
      · next hall =>
          split at h
          · next hcond =>
              rw [Bool.and_eq_true, decide_eq_true_eq] at hcond
              cases h
              exact .inr ⟨rfl, hcond.1, hcond.2, by simpa [List.any_eq_true] using hall⟩
          · cases h

/-- A label that was written is read as itself if it is short enough. -/
theorem asciiLabel_asciiLabel (hlabel : ∀ c ∈ label, c.toNat < 128 → Folding.fold c = [c])
    (hdot : '.' ∉ label) (h : asciiLabel label = some a) :
    IsPlain a ∧ '.' ∉ a ∧ asciiLabel a = if isReadable a then some a else none := by
  rcases asciiLabel_cases h with ⟨rfl, hall, hread⟩ | ⟨rfl, hlen, hsound, hbeyond⟩
  · have hplain : IsPlain a := fun c hc => by
      have hlt : c.toNat < 128 := by simpa using List.all_eq_true.mp hall c hc
      exact ⟨hlt, hlabel c hc hlt⟩
    exact ⟨hplain, hdot, by rw [if_pos hread, h]⟩
  · obtain ⟨hwritten, hnodot⟩ := of_mem_punycode hlen hsound hdot
    exact ⟨hwritten, hnodot, asciiLabel_punycode hlen hsound hdot hbeyond⟩

-- ============================================== names

/-- A name is its labels with dots between them. -/
theorem joinLabels_eq (labels : List (List Char)) : joinLabels labels = Text.joined '.' labels := by
  fun_induction joinLabels labels with
  | case1 => rfl
  | case2 l => rfl
  | case3 l ls hne ih =>
      cases ls with
      | nil => exact absurd rfl hne
      | cons l' ls => rw [ih]; rfl

/-- Characters that stand for themselves make up the same text. -/
theorem flatMap_fold (h : ∀ c ∈ cs, Folding.fold c = [c]) : cs.flatMap Folding.fold = cs := by
  induction cs with
  | nil => rfl
  | cons c cs ih =>
      obtain ⟨hc, hcs⟩ := List.forall_mem_cons.mp h
      rw [List.flatMap_cons, hc, ih hcs, List.singleton_append]

/-- As many labels as there were, and each of them written for one. -/
theorem of_asciiLabels {as : List (List Char)} (h : asciiLabels labels = some as) :
    as.length = labels.length ∧ ∀ a ∈ as, ∃ l ∈ labels, asciiLabel l = some a := by
  induction labels generalizing as with
  | nil =>
      cases h
      exact ⟨rfl, nofun⟩
  | cons l ls ih =>
      simp only [asciiLabels, Option.bind_eq_bind, Option.bind_eq_some_iff] at h
      obtain ⟨a, ha, as', has, heq⟩ := h
      cases heq
      obtain ⟨hlength, hall⟩ := ih has
      refine ⟨congrArg (· + 1) hlength, fun b hb => ?_⟩
      rcases List.mem_cons.mp hb with rfl | hb
      · exact ⟨l, List.mem_cons_self, ha⟩
      · obtain ⟨l', hl', hb⟩ := hall b hb
        exact ⟨l', List.mem_cons_of_mem l hl', hb⟩

/-- Labels that are written as themselves make up the same list, as long as all of
them are short. -/
theorem asciiLabels_eq
    (h : ∀ l ∈ labels, asciiLabel l = if isReadable l then some l else none) :
    asciiLabels labels = if labels.all isReadable then some labels else none := by
  induction labels with
  | nil => rfl
  | cons l ls ih =>
      obtain ⟨hl, hls⟩ := List.forall_mem_cons.mp h
      rw [asciiLabels, hl, ih hls, List.all_cons]
      cases isReadable l <;> cases ls.all isReadable <;> rfl

/-- A name as it is printed: each label is read as itself if it is short
enough. -/
structure IsPrinted (name : List Char) : Prop where
  plain : IsPlain name
  allowed : name.any isForbidden = false
  labels : ∀ l ∈ Text.pieces (· == '.') name,
    asciiLabel l = if isReadable l then some l else none

/-- A label of a folded name has no capital letter and no point in it. -/
theorem of_mem_pieces_fold {cs l : List Char}
    (hl : l ∈ Text.pieces (· == '.') (cs.flatMap Folding.fold)) :
    (∀ c ∈ l, c.toNat < 128 → Folding.fold c = [c]) ∧ '.' ∉ l := by
  refine ⟨fun c hc hlt => ?_, fun hmem => ?_⟩
  · obtain ⟨before, after, heq, -⟩ := Text.isPiece_of_mem_pieces hl
    have hmem : c ∈ cs.flatMap Folding.fold := by
      rw [heq]
      exact List.mem_append_left _ (List.mem_append_right _ hc)
    obtain ⟨d, -, hd⟩ := List.mem_flatMap.mp hmem
    exact Folding.fold_of_mem_fold hd hlt
  · exact absurd (Text.not_sep_of_mem_pieces hl _ hmem) (by decide)

/-- The form of every name is such a name. -/
theorem isPrinted_of_asciiName (h : asciiName cs = some name) : IsPrinted name := by
  unfold asciiName at h
  split at h
  · cases h
  · next labels hlabels =>
      dsimp only at h
      split at h
      · cases h
      · next hallowed =>
          cases h
          obtain ⟨hlength, hall⟩ := of_asciiLabels hlabels
          have hne : labels ≠ [] := by
            rintro rfl
            exact Text.pieces_ne_nil _ _ (List.length_eq_zero_iff.mp hlength.symm)
          have hread : ∀ a ∈ labels, IsPlain a ∧ '.' ∉ a
              ∧ asciiLabel a = if isReadable a then some a else none := by
            intro a ha
            obtain ⟨l, hl, hla⟩ := hall a ha
            obtain ⟨hfold, hdot⟩ := of_mem_pieces_fold hl
            exact asciiLabel_asciiLabel hfold hdot hla
          rw [joinLabels_eq] at hallowed ⊢
          -- No label has a point in it, so the name falls into the same labels.
          have hpieces : Text.pieces (· == '.') (Text.joined '.' labels) = labels :=
            Text.pieces_joined hne
              (fun a ha => Text.beq_eq_false_of_not_mem (hread a ha).2.1) (by decide)
          refine ⟨fun c hc => ?_, Bool.eq_false_iff.mpr hallowed, ?_⟩
          · rcases Text.mem_joined hc with rfl | ⟨a, ha, hc⟩
            · decide
            · exact (hread a ha).1 c hc
          · rw [hpieces]
            exact fun a ha => (hread a ha).2.2

/-- A name that was printed is its own form exactly when every label is short
enough. -/
theorem IsPrinted.asciiName_eq (h : IsPrinted name) :
    asciiName name = if isReadableName name then some name else none := by
  rw [asciiName, flatMap_fold fun c hc => (h.plain c hc).2, asciiLabels_eq h.labels,
    isReadableName]
  cases (Text.pieces (· == '.') name).all isReadable with
  | false => rfl
  | true =>
      rw [if_pos rfl, if_pos rfl]
      dsimp only
      rw [joinLabels_eq, Text.joined_pieces, h.allowed]
      rfl

-- ============================================== digits and points

/-- A label of digits is its own form. -/
theorem asciiLabel_of_isDigit (h : ∀ c ∈ label, Text.isDigit c = true) :
    asciiLabel label = some label := by
  have hascii : label.all (·.toNat < 128) = true :=
    List.all_eq_true.mpr fun c hc =>
      decide_eq_true (toNat_lt_of_isHexDigit (Text.isHexDigit_of_isDigit (h c hc)))
  rw [asciiLabel, afterPrefix?_of_isDigit h]
  exact if_pos hascii

/-- Digits and points are printed as they are. -/
theorem isPrinted_of_isDigit (h : ∀ c ∈ cs, c = '.' ∨ Text.isDigit c = true) : IsPrinted cs where
  plain c hc := by
    rcases h c hc with rfl | hc
    · decide
    · exact isPlain_of_isDigit hc
  allowed := by
    refine List.any_eq_false.mpr fun c hc => Bool.eq_false_iff.mp ?_
    rcases h c hc with rfl | hc
    · decide
    · exact (of_isDigit hc).1
  labels l hl := by
    have hdigits := isDigit_of_mem_pieces h hl
    rw [asciiLabel_of_isDigit hdigits, if_pos (isReadable_of_isDigit hdigits)]

-- ============================================== the rules

/-- Whatever its tables leave out, the stand-in keeps the rules that the reading
of a host rests on. -/
theorem lawfulIdna_names : @LawfulIdna names := by
  let _ := names
  refine ⟨fun h c hc => ?_, fun h => (isPrinted_of_asciiName h).asciiName_eq, fun h => ?_⟩
  · have hprinted := isPrinted_of_asciiName h
    have hallowed := List.any_eq_false.mp hprinted.allowed c hc
    exact ⟨(hprinted.plain c hc).1, Bool.eq_false_iff.mpr hallowed⟩
  · exact (isPrinted_of_isDigit h).asciiName_eq.trans (if_pos (isReadableName_of_isDigit h))

-- ============================================== labels beyond ASCII

/-- What a label without forbidden characters is written as has none. -/
theorem allowed_punycode (hlen : label.length ≤ longestWritten)
    (hchars : ∀ c ∈ label, isForbidden c = false) :
    ("xn--".toList ++ Punycode.encode label).any isForbidden = false := by
  have hxn : ∀ c ∈ "xn--".toList, isForbidden c = false :=
    List.all_iff_forall_prop.mp (by decide)
  refine List.any_eq_false.mpr fun c hc => Bool.eq_false_iff.mp ?_
  rcases List.mem_append.mp hc with hc | hc
  · exact hxn c hc
  · rcases Punycode.of_mem_encode (length_lt_of_written hlen) hc with ⟨hc, -⟩ | rfl | hc
    · exact hchars c hc
    · decide
    · exact (isPlain_of_isCodeChar hc).2.2.2

/-- A label beyond ASCII, of characters that names hold, is a name. -/
theorem asciiName_of_isSound (hlen : label.length ≤ longestWritten)
    (hsound : isSound label = true) (hbeyond : label.any (128 ≤ ·.toNat) = true)
    (hxn : Text.afterPrefix? "xn--".toList label = none)
    (hchars : ∀ c ∈ label, isForbidden c = false) (hdot : '.' ∉ label) :
    asciiName label = some ("xn--".toList ++ Punycode.encode label) := by
  have hall : label.all (·.toNat < 128) = false := by
    simpa [List.any_eq_true] using hbeyond
  have hlabel : asciiLabel label = some ("xn--".toList ++ Punycode.encode label) := by
    rw [asciiLabel, hxn]
    dsimp only
    rw [hall, if_neg Bool.false_ne_true, hsound, decide_eq_true hlen]
    rfl
  rw [asciiName, flatMap_fold (isSound_fold hsound),
    Text.pieces_eq_singleton (Text.beq_eq_false_of_not_mem hdot), asciiLabels, hlabel]
  show (if ("xn--".toList ++ Punycode.encode label).any isForbidden = true then _ else _) = _
  rw [allowed_punycode hlen hchars]
  rfl

section Reading

attribute [local instance] names

/-- It is read as the name that it is written as. -/
theorem parse_of_isSound (hlen : label.length ≤ longestWritten) (hsound : isSound label = true)
    (hbeyond : label.any (128 ≤ ·.toNat) = true)
    (hxn : Text.afterPrefix? "xn--".toList label = none)
    (hchars : ∀ c ∈ label, isForbidden c = false) (hdot : '.' ∉ label) :
    Host.parse label = .ok (.domain ("xn--".toList ++ Punycode.encode label)) := by
  have hpercent : '%' ∉ label := fun hmem => absurd (hchars _ hmem) (by decide)
  have hbracket : ¬ (label.head? == some '[') = true := by
    rw [beq_iff_eq]
    intro hhead
    exact absurd (hchars _ (List.mem_of_head? hhead)) (by decide)
  have hnumber : endsInNumber ("xn--".toList ++ Punycode.encode label) = false := by
    have hnodot := (of_mem_punycode hlen hsound hdot).2
    rw [endsInNumber, Text.pieces_eq_singleton (Text.beq_eq_false_of_not_mem hnodot)]
    rfl
  have hname : domainToAscii label = .ok ("xn--".toList ++ Punycode.encode label) := by
    have hform : Idna.toAscii label = some ("xn--".toList ++ Punycode.encode label) :=
      asciiName_of_isSound hlen hsound hbeyond hxn hchars hdot
    rw [domainToAscii, hform]
  rw [Host.parse, if_neg hbracket, percentDecode_eq hpercent, Text.decodeUtf8_utf8, hname]
  exact if_neg (Bool.eq_false_iff.mp hnumber)

end Reading

end Sdwan.Stock
