/-
The texts that entries of a policy list accept.

# VPNs

The text is taken apart at its hyphens before any number is read, so no part
has a minus sign, and a part is accepted as a natural number with a plus sign
or without one (`checkVpn_eq_none`). There may be one part, or two in ascending
order.

# Name servers

A pattern for name servers is meant to have up to 240 characters. What is
counted are its bytes, so of the texts that are meant to pass, the ones that
take more than 240 bytes are refused. Which texts are patterns at all is left
open here.
-/
import Mathlib.Algebra.BigOperators.Group.List.Basic
import Mathlib.Data.String.Basic
import Sdwan.Policy.Entry
import Sdwan.Proofs.Validation.Check
import Sdwan.Stock.Patterns

namespace Sdwan.Policy

open Validation Text

-- ============================================== VPNs

section Vpn

variable {raw : String} {p q : List Char} {n : Nat}

/-- Of a part without hyphens no integer is read but a natural number. -/
theorem readInteger?_iff_isNatural (hp : '-' ∉ p) (hn : n ≤ 65530) :
    readInteger? (String.ofList p) = some (n : Int) ↔ IsNatural (trim p) n := by
  rw [readInteger?_iff, String.toList_ofList]
  constructor
  · intro ⟨hinteger, _⟩
    obtain ⟨m, hm, heq⟩ := hinteger.exists_natural (mt mem_of_mem_trim hp)
    rwa [Int.ofNat_inj.mp heq]
  · intro h
    exact ⟨Or.inl ⟨n, h, rfl⟩, by omega, by omega⟩

/-- A part passes if it is a natural number up to the greatest VPN. -/
theorem checkVpn_eq_none (hp : '-' ∉ p) :
    checkVpn (String.ofList p) = none ↔ ∃ n, IsNatural (trim p) n ∧ n ≤ 65530 :=
  checkIntRange_iff_isNatural 65530 (by omega) hp

/-- A part has no hyphen, and so no minus sign. -/
theorem not_mem_hyphen (h : p ∈ pieces (· == '-') raw.toList) : '-' ∉ p := fun hmem =>
  absurd (not_sep_of_mem_pieces h '-' hmem) (by decide)

/-- A text of one part passes if the part does. -/
theorem checkVpnRange_one (h : pieces (· == '-') raw.toList = [p]) :
    checkVpnRange raw = none ↔ ∃ n, IsNatural (trim p) n ∧ n ≤ 65530 := by
  -- without a hyphen the part is compared with nothing
  have hp : '-' ∉ p := not_mem_hyphen (h ▸ List.mem_cons_self)
  rw [checkVpnRange, splitAt, h]
  exact checkVpn_eq_none hp

/-- A text of two parts passes if both do, and the first one is less. -/
theorem checkVpnRange_two (h : pieces (· == '-') raw.toList = [p, q]) :
    checkVpnRange raw = none
      ↔ ∃ a b, IsNatural (trim p) a ∧ IsNatural (trim q) b ∧ a < b ∧ b ≤ 65530 := by
  have hp : '-' ∉ p := not_mem_hyphen (h ▸ List.mem_cons_self)
  have hq : '-' ∉ q := not_mem_hyphen (h ▸ List.mem_cons_of_mem p List.mem_cons_self)
  rw [checkVpnRange, splitAt, h]
  simp only [List.map_cons, List.map_nil, firstIssue_eq_none, List.forall_mem_cons,
    checkVpn_eq_none hp, checkVpn_eq_none hq]
  constructor
  · intro h
    -- each part passes on its own, so the third check compares the numbers that were read
    obtain ⟨⟨a, ha, hale⟩, ⟨b, hb, hble⟩, horder, -⟩ := h
    rw [(readInteger?_iff_isNatural hp hale).mpr ha,
      (readInteger?_iff_isNatural hq hble).mpr hb] at horder
    dsimp only at horder
    split at horder
    · next hlt => exact ⟨a, b, ha, hb, by omega, hble⟩
    · cases horder
  · intro h
    obtain ⟨a, b, ha, hb, hlt, hble⟩ := h
    have hale : a ≤ 65530 := by omega
    refine ⟨⟨a, ha, hale⟩, ⟨b, hb, hble⟩, ?_, List.forall_mem_nil _⟩
    rw [(readInteger?_iff_isNatural hp hale).mpr ha, (readInteger?_iff_isNatural hq hble).mpr hb]
    exact if_pos (by omega)

/-- A text of more parts does not pass. -/
theorem pieces_of_checkVpnRange (h : checkVpnRange raw = none) :
    (∃ p, pieces (· == '-') raw.toList = [p]) ∨ ∃ p q, pieces (· == '-') raw.toList = [p, q] := by
  rw [checkVpnRange, splitAt] at h
  rcases hpieces : pieces (· == '-') raw.toList with _ | ⟨p, _ | ⟨q, _ | ⟨r, rs⟩⟩⟩
  · exact absurd hpieces (pieces_ne_nil _ _)
  · exact Or.inl ⟨p, rfl⟩
  · exact Or.inr ⟨p, q, rfl⟩
  · rw [hpieces] at h
    cases h

/-- A text passes if it is a VPN, or two of them in ascending order. -/
theorem checkVpnRange_eq_none :
    checkVpnRange raw = none
      ↔ (∃ p n, pieces (· == '-') raw.toList = [p] ∧ IsNatural (trim p) n ∧ n ≤ 65530)
        ∨ ∃ p q a b, pieces (· == '-') raw.toList = [p, q] ∧ IsNatural (trim p) a
            ∧ IsNatural (trim q) b ∧ a < b ∧ b ≤ 65530 := by
  constructor
  · intro h
    rcases pieces_of_checkVpnRange h with ⟨p, hp⟩ | ⟨p, q, hpq⟩
    · obtain ⟨n, hn⟩ := (checkVpnRange_one hp).mp h
      exact Or.inl ⟨p, n, hp, hn⟩
    · obtain ⟨a, b, hab⟩ := (checkVpnRange_two hpq).mp h
      exact Or.inr ⟨p, q, a, b, hpq, hab⟩
  · rintro (⟨p, n, hp, hn⟩ | ⟨p, q, a, b, hpq, hab⟩)
    · exact (checkVpnRange_one hp).mpr ⟨n, hn⟩
    · exact (checkVpnRange_two hpq).mpr ⟨a, b, hab⟩

/-- The hyphen between two integers of an accepted text is its only one, so
neither of them is negative. -/
theorem ascending_of_checkVpnRange {first last : List Char} {i j : Int}
    (htext : raw.toList = first ++ '-' :: last) (hi : IsInteger (trim first) i)
    (hj : IsInteger (trim last) j) (h : checkVpnRange raw = none) :
    0 ≤ i ∧ i < j ∧ j ≤ 65530 := by
  rcases pieces_of_checkVpnRange h with ⟨p, hp⟩ | ⟨p, q, hpq⟩
  · -- one part has no hyphen in it
    have hjoined : joined '-' [p] = raw.toList := by rw [← hp, joined_pieces]
    have hmem : '-' ∈ p := by
      rw [show p = raw.toList from hjoined, htext]
      exact List.mem_append_right first List.mem_cons_self
    exact absurd hmem (not_mem_hyphen (hp ▸ List.mem_cons_self))
  · obtain ⟨a, b, ha, hb, hlt, hle⟩ := (checkVpnRange_two hpq).mp h
    rw [htext] at hpq
    obtain ⟨rfl, rfl⟩ := eq_of_pieces_append_cons hpq
    obtain rfl := hi.unique (Or.inl ⟨a, ha, rfl⟩)
    obtain rfl := hj.unique (Or.inl ⟨b, hb, rfl⟩)
    omega

theorem check_vpnEntry_eq_nil (text : String) :
    check (VpnEntry.mk text) = [] ↔ checkVpnRange text = none :=
  onText_eq_nil

/-- Nothing is cut off from digits, and they stand for their number. -/
theorem isNatural_trim_digits {ds : List Char} (h : IsNumeral ds n) : IsNatural (trim ds) n := by
  have hnatural : IsNatural ds n := ⟨ds, h, Or.inl rfl⟩
  rwa [trim_of_readNat? (readNat?_iff.mpr hnatural)]

end Vpn

/-- An entry is accepted exactly when its text, taken apart at hyphens, is one
part for a number up to 65530, or two parts for numbers in ascending order up
to 65530; a part stands for a number when it is, without the blanks at its
ends, ASCII digits with a plus sign in front or without one. However a text
is read as two integers with a hyphen between them, it is refused unless
they are in ascending order and not negative. Digits of any length are taken
for their number. -/
theorem vpnEntry_accepted :
    (∀ text, check (VpnEntry.mk text) = []
        ↔ (∃ p n, pieces (· == '-') text.toList = [p] ∧ IsNatural (trim p) n ∧ n ≤ 65530)
          ∨ ∃ p q a b, pieces (· == '-') text.toList = [p, q] ∧ IsNatural (trim p) a
              ∧ IsNatural (trim q) b ∧ a < b ∧ b ≤ 65530)
      ∧ (∀ text first last i j, text.toList = first ++ '-' :: last → IsInteger (trim first) i
          → IsInteger (trim last) j → check (VpnEntry.mk text) = [] → 0 ≤ i ∧ i < j ∧ j ≤ 65530)
      ∧ (∀ ds n, IsNumeral ds n → (check (VpnEntry.mk (String.ofList ds)) = [] ↔ n ≤ 65530))
      ∧ ∀ ds es a b, IsNumeral ds a → IsNumeral es b →
          (check (VpnEntry.mk (String.ofList (ds ++ '-' :: es))) = [] ↔ a < b ∧ b ≤ 65530) := by
  simp only [check_vpnEntry_eq_nil]
  refine ⟨?_, ?_, ?_, ?_⟩
  · intro text
    exact checkVpnRange_eq_none
  · intro text first last i j htext hi hj h
    exact ascending_of_checkVpnRange htext hi hj h
  · intro ds n hds
    -- digits have no hyphen, so they are one part
    have hpieces : pieces (· == '-') (String.ofList ds).toList = [ds] := by
      rw [String.toList_ofList, hds.pieces_eq rfl]
    have hnatural := isNatural_trim_digits hds
    rw [checkVpnRange_one hpieces]
    constructor
    · intro ⟨m, hm, hle⟩
      rwa [hnatural.unique hm]
    · intro hle
      exact ⟨n, hnatural, hle⟩
  · intro ds es a b hds hes
    have hpieces : pieces (· == '-') (String.ofList (ds ++ '-' :: es)).toList = [ds, es] := by
      rw [String.toList_ofList, pieces_append_cons rfl, hds.pieces_eq rfl, hes.pieces_eq rfl]
      rfl
    have ha := isNatural_trim_digits hds
    have hb := isNatural_trim_digits hes
    rw [checkVpnRange_two hpieces]
    constructor
    · intro ⟨m, k, hm, hk, hlt, hle⟩
      rw [ha.unique hm, hb.unique hk]
      exact ⟨hlt, hle⟩
    · intro ⟨hlt, hle⟩
      exact ⟨a, b, ha, hb, hlt, hle⟩

/-- A range with blanks and a sign in it passes, and the same range of
digits alone. -/
theorem vpnEntry_accepted_blanks :
    check (VpnEntry.mk " 7 -+00012") = [] ∧ (0 : Int) ≤ 7 ∧ (7 : Int) < 12
      ∧ check (VpnEntry.mk (String.ofList (['7'] ++ '-' :: ['1', '2']))) = [] := by
  have hseven : IsInteger (trim [' ', '7', ' ']) 7 := readInt?_iff.mp (by decide +kernel)
  have htwelve : IsInteger (trim "+00012".toList) 12 := readInt?_iff.mp (by decide +kernel)
  have hpass : check (VpnEntry.mk " 7 -+00012") = [] := by
    rw [check_vpnEntry_eq_nil]
    decide +kernel
  obtain ⟨-, hsigned, -, hdigits⟩ := vpnEntry_accepted
  obtain ⟨hleast, hlt, -⟩ :=
    hsigned " 7 -+00012" [' ', '7', ' '] "+00012".toList 7 12 (by rfl) hseven htwelve hpass
  have hds : IsNumeral ['7'] 7 := readDigits?_iff.mp (by decide)
  have hes : IsNumeral ['1', '2'] 12 := readDigits?_iff.mp (by decide)
  exact ⟨hpass, hleast, hlt, (hdigits _ _ 7 12 hds hes).mpr (by decide)⟩

-- ============================================== name servers

section NameServer

variable {raw : String}

/-- The bytes of a text are those of its characters. -/
theorem utf8ByteSize_eq_sum (s : String) :
    s.utf8ByteSize = (s.toList.map Char.utf8Size).sum := by
  have hsum : ∀ cs : List Char, String.utf8Len cs = (cs.map Char.utf8Size).sum := by
    intro cs
    induction cs with
    | nil => rfl
    | cons c cs ih => rw [String.utf8Len_cons, ih, List.map_cons, List.sum_cons, Nat.add_comm]
  rw [← hsum, ← String.utf8ByteSize_ofList, String.ofList_toList]

/-- A character takes one byte at least. -/
theorem length_le_utf8ByteSize (s : String) : s.length ≤ s.utf8ByteSize := by
  rw [utf8ByteSize_eq_sum, ← String.length_toList]
  have hone : ∀ n ∈ s.toList.map Char.utf8Size, 1 ≤ n := by
    intro n hn
    obtain ⟨c, -, rfl⟩ := List.mem_map.mp hn
    exact c.utf8Size_pos
  have hle := List.length_le_sum_of_one_le _ hone
  rwa [List.length_map] at hle

/-- The length is refused if there is nothing, or more than 240 bytes. -/
theorem badLength_iff : (raw.isEmpty || decide (maxNameServerBytes < raw.utf8ByteSize)) = true
    ↔ raw = "" ∨ 240 < raw.utf8ByteSize := by
  rw [Bool.or_eq_true, String.isEmpty_iff, decide_eq_true_iff]
  rfl

variable [Patterns]

/-- A pattern that is meant to pass: up to 240 characters, no repetition in
front, and a pattern at all. -/
structure IsNameServer (raw : String) : Prop where
  length_pos : 1 ≤ raw.length
  length_le : raw.length ≤ 240
  not_star : raw.toList.head? ≠ some '*'
  not_plus : raw.toList.head? ≠ some '+'
  compiles : Patterns.error? raw = none

/-- The text has a length in bytes, no repetition in front, and is a pattern. -/
theorem checkNameServer_eq_none : checkNameServer raw = none
    ↔ raw ≠ "" ∧ raw.utf8ByteSize ≤ 240 ∧ raw.toList.head? ≠ some '*'
      ∧ raw.toList.head? ≠ some '+' ∧ Patterns.error? raw = none := by
  have hrepeats : raw.toList.head?.any (fun c => c == '*' || c == '+') = true
      ↔ raw.toList.head? = some '*' ∨ raw.toList.head? = some '+' := by
    cases raw.toList.head? <;> simp
  unfold checkNameServer
  -- the three faults are looked for in this order, and each has a message of its own
  by_cases hlength : raw = "" ∨ 240 < raw.utf8ByteSize
  · rw [if_pos (badLength_iff.mpr hlength)]
    refine iff_of_false nofun ?_
    intro ⟨hne, hbytes, _⟩
    rcases hlength with h | h
    · exact hne h
    · omega
  · rw [if_neg (mt badLength_iff.mp hlength)]
    push Not at hlength
    by_cases hhead : raw.toList.head? = some '*' ∨ raw.toList.head? = some '+'
    · rw [if_pos (hrepeats.mpr hhead)]
      exact iff_of_false nofun fun ⟨_, _, hstar, hplus, _⟩ => hhead.elim hstar hplus
    · rw [if_neg (mt hrepeats.mp hhead)]
      push Not at hhead
      cases Patterns.error? raw with
      | none => exact iff_of_true rfl ⟨hlength.1, hlength.2, hhead.1, hhead.2, rfl⟩
      | some reason => exact iff_of_false nofun fun h => absurd h.2.2.2.2 nofun

/-- The bytes of a text are no fewer than its characters, so nothing passes
that is not meant to. -/
theorem checkNameServer_iff : checkNameServer raw = none
    ↔ IsNameServer raw ∧ (raw.toList.map Char.utf8Size).sum ≤ 240 := by
  have hlength := length_le_utf8ByteSize raw
  rw [checkNameServer_eq_none, ← utf8ByteSize_eq_sum]
  constructor
  · intro ⟨hne, hbytes, hstar, hplus, hcompiles⟩
    refine ⟨⟨?_, by omega, hstar, hplus, hcompiles⟩, hbytes⟩
    exact Nat.one_le_iff_ne_zero.mpr fun hzero => hne (String.length_eq_zero_iff.mp hzero)
  · intro ⟨⟨hpos, _, hstar, hplus, hcompiles⟩, hbytes⟩
    refine ⟨?_, hbytes, hstar, hplus, hcompiles⟩
    rintro rfl
    cases hpos

/-- Too many bytes are reported as too many characters. -/
theorem checkNameServer_of_bytes (h : 240 < raw.utf8ByteSize) : checkNameServer raw
    = some (.worded "name_server" "nameServer must be 1-240 characters long") :=
  if_pos (badLength_iff.mpr (Or.inr h))

end NameServer

/-- Whatever texts are patterns, a pattern for name servers passes exactly
when it is meant to and its characters take 240 bytes at most. One that is
meant to pass and takes more bytes is refused for its length in characters. -/
theorem nameServer_accepted [Patterns] (raw : String) :
    (check (LocalDomainEntry.mk raw) = []
        ↔ IsNameServer raw ∧ (raw.toList.map Char.utf8Size).sum ≤ 240)
      ∧ (IsNameServer raw → 240 < (raw.toList.map Char.utf8Size).sum →
        check (LocalDomainEntry.mk raw) = [⟨[.field "name_server"],
          (Issue.worded "name_server" "nameServer must be 1-240 characters long").about
            (.string raw)⟩]) := by
  have hcheck : check (LocalDomainEntry.mk raw) = onText "name_server" raw checkNameServer := rfl
  rw [hcheck]
  constructor
  · rw [onText_eq_nil, checkNameServer_iff]
  · intro _ hbytes
    rw [← utf8ByteSize_eq_sum] at hbytes
    rw [onText, checkNameServer_of_bytes hbytes]
    rfl

/-- Letters of two bytes each, 121 of them. -/
def accented : String := String.ofList (List.replicate 121 'é')

section Stock

attribute [local instance] Stock.patterns

/-- They are meant to pass, as a pattern of 121 characters, and they are
refused. -/
theorem nameServer_accepted_accented :
    IsNameServer accented ∧ check (LocalDomainEntry.mk accented) ≠ [] := by
  have hlist : accented.toList = List.replicate 121 'é' := String.toList_ofList
  have hlength : accented.length = 121 := by
    rw [← String.length_toList, hlist, List.length_replicate]
  have hhead : accented.toList.head? = some 'é' := by rw [hlist]; rfl
  have hpattern : Stock.isPattern accented = true := by
    rw [Stock.isPattern, hlength, hlist]
    decide +kernel
  have hmeant : IsNameServer accented :=
    ⟨by omega, by omega, by rw [hhead]; decide, by rw [hhead]; decide, if_pos hpattern⟩
  -- two bytes for each of the 121 characters
  have hbytes : 240 < (accented.toList.map Char.utf8Size).sum := by
    rw [hlist, List.map_replicate, List.sum_replicate]
    decide
  obtain ⟨-, hrefused⟩ := nameServer_accepted accented
  refine ⟨hmeant, ?_⟩
  rw [hrefused hmeant hbytes]
  exact List.cons_ne_nil _ _

end Stock

end Sdwan.Policy
