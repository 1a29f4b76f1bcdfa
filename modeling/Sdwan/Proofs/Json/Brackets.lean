/-
What a text holds when an array or an object is read from it.

A value that begins neither with a brace nor with a bracket is no container
(`IsContainer`): literals and strings are not, and whatever the reader makes of
a number is a number or too large for one. So a text from which an object is
read holds a brace, and one with an array of containers in it holds a brace or
two brackets (`brace_or_brackets`). What is read are the bytes of the text, in
which the marks stand as they do in the text.
-/
import Sdwan.Json.Decode
import Sdwan.Proofs.Text.Utf8

namespace Sdwan.Json.Draft

variable {negative : Bool} {sig fuel depth : Nat} {start : Int} {cs rest : List Char} {d : Draft}

/-- The draft is that of an array or an object. -/
def IsContainer : Draft → Prop
  | .array _ _ | .object _ _ => True
  | _ => False

-- ============================================== numbers

theorem not_isContainer_floatDraft (negative : Bool) (sig : Nat) (exponent : Int) :
    ¬ (floatDraft negative sig exponent).IsContainer := by
  unfold floatDraft
  split <;> exact not_false

theorem not_isContainer_integerDraft (negative : Bool) (sig : Nat) :
    ¬ (integerDraft negative sig).IsContainer := by
  unfold integerDraft
  split
  · exact not_false
  · split
    · exact not_isContainer_floatDraft true sig 0
    · exact not_false

theorem not_isContainer_withExponent (h : withExponent negative sig start cs = some (d, rest)) :
    ¬ d.IsContainer := by
  revert h
  fun_cases withExponent negative sig start cs with
  | case1 => exact nofun
  | case2 =>
      intro h
      rw [← (Prod.mk.inj (Option.some.inj h)).1]
      exact not_isContainer_floatDraft _ _ _
  | case3 | case4 =>
      intro h
      rw [← (Prod.mk.inj (Option.some.inj h)).1]
      exact not_false

theorem not_isContainer_exponentPart (h : exponentPart negative sig start cs = some (d, rest)) :
    ¬ d.IsContainer := by
  cases cs with
  | nil => grind [exponentPart, not_isContainer_floatDraft]
  | cons c cs =>
      grind [exponentPart, not_isContainer_withExponent, not_isContainer_floatDraft]

theorem not_isContainer_fractionPart (h : fractionPart negative sig start cs = some (d, rest)) :
    ¬ d.IsContainer := by
  grind [fractionPart, not_isContainer_exponentPart]

theorem not_isContainer_number (h : number? cs = some (d, rest)) : ¬ d.IsContainer := by
  have hbody : ∀ {negative cs}, numberBody negative cs = some (d, rest) → ¬ d.IsContainer := by
    intro negative cs h
    cases cs with
    | nil => cases h
    | cons c cs =>
        grind [numberBody, not_isContainer_exponentPart, not_isContainer_fractionPart,
          not_isContainer_withExponent, not_isContainer_integerDraft]
  unfold number? at h
  split at h
  · exact hbody h
  · exact hbody h

-- ============================================== values

/-- The first item is the value behind the bracket. -/
theorem head_items {x : Draft} {xs : List Draft} (h : (items fuel cs).1 = x :: xs) :
    ∃ fuel', x = (value fuel' cs).1 := by
  cases fuel with
  | zero => cases h
  | succ fuel =>
      refine ⟨fuel, ?_⟩
      unfold items at h
      grind

/-- A container begins with a brace or with a bracket, and the first item of
an array is read behind the bracket. -/
theorem begins_of_isContainer (h : (value fuel cs).1 = d) (hd : d.IsContainer) :
    (∃ rest, skipSpace cs = '\x7b' :: rest)
      ∨ ∃ rest xs closed, skipSpace cs = '[' :: rest ∧ d = .array xs closed
          ∧ ∀ x ∈ xs.head?, ∃ fuel', x = (value fuel' (skipSpace rest)).1 := by
  cases fuel with
  | zero =>
      subst h
      exact hd.elim
  | succ fuel =>
      unfold value at h
      split at h
      -- the end of the text, and the words for constants
      case h_1 | h_5 | h_6 | h_7 =>
        subst h
        exact hd.elim
      case h_2 =>
        split at h <;> subst h <;> exact hd.elim
      case h_3 rest hbegin =>
        split at h
        · exact Or.inr ⟨rest, [], true, hbegin, h.symm, nofun⟩
        · refine Or.inr ⟨rest, _, _, hbegin, h.symm, fun x hx => ?_⟩
          obtain ⟨xs, hxs⟩ := List.head?_eq_some_iff.mp hx
          exact head_items hxs
      case h_4 rest hbegin => exact Or.inl ⟨rest, hbegin⟩
      case h_8 =>
        split at h
        · subst h
          exact hd.elim
        · subst h
          exact absurd hd (not_isContainer_number ‹_›)

-- ============================================== texts

theorem suffix_skipSpace (cs : List Char) : skipSpace cs <:+ cs := List.dropWhile_suffix isSpace

/-- Limiting the depth makes nothing a container. -/
theorem isContainer_of_limit (h : (d.limit depth).IsContainer) : d.IsContainer := by
  cases d with
  | array | object => exact trivial
  | null | bool | number | string | hugeNumber | brokenString | tooDeep | fault => exact h.elim

/-- Where an object is read, or an array with a container at its head, there is
a brace or there are two brackets. -/
theorem brace_or_brackets_of_value (hd : ((value fuel cs).1).limit maxDepth = d)
    (hcontainer : d.IsContainer)
    (harray : ∀ xs closed, d = .array xs closed → ∃ x ∈ xs.head?, x.IsContainer) :
    '\x7b' ∈ cs ∨ 2 ≤ cs.count '[' := by
  have hvalue : (value fuel cs).1.IsContainer := by
    rw [← hd] at hcontainer
    exact isContainer_of_limit hcontainer
  rcases begins_of_isContainer rfl hvalue with
    ⟨rest, hbrace⟩ | ⟨rest, xs, closed, hbracket, hxs, hhead⟩
  · exact Or.inl ((suffix_skipSpace _).subset (hbrace ▸ List.mem_cons_self))
  · -- the item at the head of the array begins behind the bracket
    rw [hxs] at hd
    obtain ⟨y, hy, hcontains⟩ := harray (limitItems 126 xs) closed hd.symm
    obtain ⟨x, xs', rfl⟩ : ∃ x xs', xs = x :: xs' := by
      cases xs with
      | nil => cases hy
      | cons x xs' => exact ⟨x, xs', rfl⟩
    obtain rfl : limit 126 x = y := Option.some.inj hy
    obtain ⟨fuel', hx⟩ := hhead x rfl
    have hrest : ('[' :: rest) <:+ cs := hbracket ▸ suffix_skipSpace cs
    have hinner : skipSpace (skipSpace rest) <:+ rest :=
      (suffix_skipSpace _).trans (suffix_skipSpace _)
    rcases begins_of_isContainer hx.symm (isContainer_of_limit hcontains) with
      ⟨more, hbrace⟩ | ⟨more, -, -, hmore, -⟩
    · refine Or.inl (hrest.subset (List.mem_cons_of_mem _ (hinner.subset ?_)))
      rw [hbrace]
      exact List.mem_cons_self
    · refine Or.inr (Nat.le_trans ?_ (hrest.sublist.count_le '['))
      rw [List.count_cons_self]
      refine Nat.succ_le_succ (Nat.le_trans ?_ (hinner.sublist.count_le '['))
      rw [hmore, List.count_cons_self]
      exact Nat.succ_le_succ (Nat.zero_le _)

/-- The same of a text. Both marks are ASCII, so the text has as many of them
as its bytes. -/
theorem brace_or_brackets {s : String} (hd : (ofText s).1 = d) (hcontainer : d.IsContainer)
    (harray : ∀ xs closed, d = .array xs closed → ∃ x ∈ xs.head?, x.IsContainer) :
    '\x7b' ∈ s.toList ∨ 2 ≤ s.toList.count '[' := by
  have hlimit : ((value (2 * (Text.octets (Text.utf8 s.toList)).length + 2)
      (Text.octets (Text.utf8 s.toList))).1).limit maxDepth = d := hd
  have hmarks := brace_or_brackets_of_value hlimit hcontainer harray
  rw [Text.count_octets_utf8 (by decide)] at hmarks
  refine hmarks.imp_left fun hmem => List.count_pos_iff.mp ?_
  rw [← Text.count_octets_utf8 (by decide) s.toList]
  exact List.count_pos_iff.mpr hmem

end Sdwan.Json.Draft
