/-
What reading a URL gives, for the two texts that a client is made of: an
absolute address for the web, and a relative path without a slash in front.

# Absolute addresses

Whatever stands behind `http:` and `https:`, the path has segments, and at
least one of them (`exists_segments_of_parse`).

# Relative paths

A relative path is its segments with slashes between them
(`Text.joined '/'`). If all its characters may stand in a path as they are,
no scheme and no slash comes first (`IsReference`), it replaces the last
segment of the base, up to the dots: `join_of_isBase`. A path without dots
is added as it is, and it is the only kind of path that is
(`addSegments_eq_append`): a dot in the middle makes the path shorter, and
one at the end leaves an empty segment.
-/
import Mathlib.Data.List.TakeWhile
import Sdwan.Proofs.Text.Pieces
import Sdwan.Url.Parse

namespace Sdwan.Url

variable {u base : Url} {cs p s : List Char} {dir ws : List (List Char)} {c : Char}

-- ============================================== characters

/-- A path keeps the character as it is, and it ends no segment. -/
def IsPathChar (c : Char) : Prop := inPath c = false ∧ c ≠ '/' ∧ c ≠ '\\'

instance : DecidablePred IsPathChar := fun c =>
  inferInstanceAs (Decidable (inPath c = false ∧ c ≠ '/' ∧ c ≠ '\\'))

/-- A path keeps the whole text as it is, as one segment. -/
def IsPathText (s : List Char) : Prop := ∀ c ∈ s, IsPathChar c

instance : DecidablePred IsPathText := fun s =>
  decidable_of_iff (s.all fun c => decide (IsPathChar c)) (by simp [IsPathText])

/-- What needs no encoding in the name of a user needs none in a path, and it is no
colon. -/
theorem isPathChar_of_inUserinfo (h : inUserinfo c = false) : IsPathChar c ∧ c ≠ ':' := by
  simp only [inUserinfo, Bool.or_eq_false_iff, decide_eq_false_iff_not, List.mem_cons,
    not_or] at h
  obtain ⟨hpath, hslash, hcolon, -, -, -, -, hback, -⟩ := h
  exact ⟨⟨hpath, hslash, hback⟩, hcolon⟩

/-- No control, no blank, and no mark that ends a path is kept. -/
theorem not_inPath (h : inPath c = false) : 0x20 < c.toNat ∧ c ≠ '?' ∧ c ≠ '#' := by
  simp only [inPath, inFragment, inControls, Bool.or_eq_false_iff, decide_eq_false_iff_not,
    List.mem_cons, not_or] at h
  obtain ⟨⟨⟨hcontrol, -⟩, hblank, -⟩, hhash, hquestion, -⟩ := h
  refine ⟨?_, hquestion, hhash⟩
  have hne : c.toNat ≠ 0x20 := fun heq => hblank (Char.toNat_inj.mp heq)
  omega

/-- A text without a character of the set is written as it is. -/
theorem encodeWith_eq {set : Char → Bool} (h : ∀ c ∈ cs, set c = false) :
    encodeWith set cs = cs := by
  induction cs with
  | nil => rfl
  | cons c cs ih =>
      have hcs := ih fun d hd => h d (List.mem_cons_of_mem c hd)
      rw [encodeWith] at hcs ⊢
      rw [List.flatMap_cons, hcs, encodeChar, h c List.mem_cons_self]
      rfl

/-- A text without blanks and control characters has none to drop in front. -/
theorem dropWhile_isEdge (h : ∀ c ∈ cs, 0x20 < c.toNat) : cs.dropWhile isEdge = cs := by
  cases cs with
  | nil => rfl
  | cons c cs =>
      have hc : 0x20 < c.toNat := h c List.mem_cons_self
      exact List.dropWhile_cons_of_neg (by simpa [isEdge] using hc)

/-- What stands behind a text without controls and blanks loses some of its
characters at most, and the text itself none. -/
theorem prepared_append (h : ∀ c ∈ cs, 0x20 < c.toNat) (hne : cs ≠ []) (rest : List Char) :
    ∃ rest', prepared (cs ++ rest) = cs ++ rest' ∧ rest' ⊆ rest := by
  have hfront : (cs ++ rest).dropWhile isEdge = cs ++ rest := by
    rw [List.dropWhile_append, dropWhile_isEdge h, if_neg (by simpa using hne)]
  have hback : ((cs ++ rest).reverse.dropWhile isEdge).reverse
      = cs ++ (rest.reverse.dropWhile isEdge).reverse := by
    have hcs : cs.reverse.dropWhile isEdge = cs.reverse :=
      dropWhile_isEdge fun c hc => h c (List.mem_reverse.mp hc)
    rw [List.reverse_append, List.dropWhile_append, hcs]
    split
    · next hnil => simp [List.isEmpty_iff.mp hnil]
    · rw [List.reverse_append, List.reverse_reverse]
  -- tabs and ends of lines are control characters, and `cs` has none of them
  have hkept : cs.filter (fun c => !(c == '\t' || c == '\n' || c == '\r')) = cs := by
    refine List.filter_eq_self.mpr fun c hc => ?_
    have hgreat := h c hc
    have hne : ∀ d : Char, d.toNat ≤ 0x20 → c ≠ d := by
      rintro d hd rfl
      omega
    simp [hne '\t' (by decide), hne '\n' (by decide), hne '\r' (by decide)]
  have heq : prepared (cs ++ rest) = cs ++ (rest.reverse.dropWhile isEdge).reverse.filter
      fun c => !(c == '\t' || c == '\n' || c == '\r') := by
    unfold prepared
    dsimp only
    rw [hfront, hback, List.filter_append, hkept]
  refine ⟨_, heq, fun c hc => ?_⟩
  have hc := List.mem_reverse.mp (List.mem_filter.mp hc).1
  exact List.mem_reverse.mp (List.dropWhile_subset _ hc)

/-- A text without controls and blanks is read as it is. -/
theorem prepared_eq (h : ∀ c ∈ cs, 0x20 < c.toNat) : prepared cs = cs := by
  by_cases hne : cs = []
  · rw [hne]
    rfl
  · obtain ⟨rest, heq, hnil⟩ := prepared_append h hne []
    rwa [List.subset_nil.mp hnil, List.append_nil] at heq

/-- A text whose first colon stands behind a slash has no scheme. -/
theorem schemeHead?_eq_none {rest : List Char} (hp : ':' ∉ p)
    (hrest : ∀ c ∈ rest.head?, c = '/') : schemeHead? (p ++ rest) = none := by
  have hname : ∀ name behind, Text.splitFirst (· == ':') (p ++ rest) = some (name, behind) →
      name.all isSchemeChar = false := by
    intro name behind h
    obtain ⟨colon, hcolon, heq, -⟩ := Text.splitFirst_eq_some h
    obtain rfl := beq_iff_eq.mp hcolon
    -- the first colon is not in `p`, so `p` and the slash behind it would belong to the name
    rcases List.append_eq_append_iff.mp heq with ⟨a, rfl, hrest'⟩ | ⟨a, rfl, ha⟩
    · cases a with
      | nil =>
        rw [List.nil_append] at hrest'
        rw [hrest'] at hrest
        cases hrest ':' rfl
      | cons d a =>
        rw [hrest', List.cons_append] at hrest
        obtain rfl := hrest d rfl
        rw [List.all_append, List.all_cons]
        simp [isSchemeChar, Text.isDigit]
    · cases a with
      | nil =>
        rw [List.nil_append] at ha
        rw [← ha] at hrest
        cases hrest ':' rfl
      | cons d a =>
        rw [List.cons_append] at ha
        obtain ⟨rfl, -⟩ := List.cons.inj ha
        exact absurd (List.mem_append_right name List.mem_cons_self) hp
  unfold schemeHead?
  split
  · rfl
  · split
    · split
      · rfl
      · next name behind hsplit => rw [hname name behind hsplit]; rfl
    · rfl

-- ============================================== segments

/-- The segment stands for a place: this one, or the one above. -/
def IsDots (s : List Char) : Prop := isSingleDot s = true ∨ isDoubleDot s = true

instance : DecidablePred IsDots := fun s =>
  inferInstanceAs (Decidable (isSingleDot s = true ∨ isDoubleDot s = true))

theorem ne_nil_of_isDots (h : IsDots s) : s ≠ [] := by
  rintro rfl
  revert h
  decide +kernel

/-- On the web a segment without anything to encode is kept as it is. -/
theorem keptSegment_eq (h : IsPathText s) : keptSegment .fixed s = s := by
  unfold keptSegment
  dsimp only
  rw [encodeWith_eq fun c hc => (h c hc).1]
  rfl

theorem leaveSegment_fixed (dir : List (List Char)) : leaveSegment .fixed dir = dir.dropLast := rfl

/-- Each segment adds one at most. -/
theorem length_addSegments_le (dir ws : List (List Char)) :
    (addSegments .fixed dir ws).length ≤ dir.length + ws.length := by
  fun_induction addSegments .fixed dir ws with
  | case1 => simp
  | case2 dir s h => simp [leaveSegment_fixed]
  | case3 => simp
  | case4 => simp
  | case5 dir s ws hne h ih =>
      rw [leaveSegment_fixed, List.length_dropLast] at ih
      rw [leaveSegment_fixed, List.length_cons]
      omega
  | case6 dir s ws hne h h' ih =>
      rw [List.length_cons]
      omega
  | case7 dir s ws hne h h' ih =>
      rw [List.length_append, List.length_singleton] at ih
      rw [List.length_cons]
      omega

/-- The path of a base goes on with segments as they are exactly when none
of them stands for a place. -/
theorem addSegments_eq_append (h : ∀ w ∈ ws, IsPathText w) :
    addSegments .fixed dir ws = dir ++ ws ↔ ∀ w ∈ ws, ¬ IsDots w := by
  fun_induction addSegments .fixed dir ws with
  | case1 => simp
  | case2 dir s hdouble =>
      have hs : IsDots s := Or.inr hdouble
      refine iff_of_false (fun heq => ne_nil_of_isDots hs ?_) fun hno => hno s (by simp) hs
      simpa using (List.append_inj_right' heq rfl).symm
  | case3 dir s _ hsingle =>
      have hs : IsDots s := Or.inl hsingle
      refine iff_of_false (fun heq => ne_nil_of_isDots hs ?_) fun hno => hno s (by simp) hs
      simpa using (List.append_inj_right' heq rfl).symm
  | case4 dir s hdouble hsingle =>
      rw [keptSegment_eq (h s (by simp))]
      simp [IsDots, hdouble, hsingle]
  | case5 dir s ws hne hdouble ih =>
      -- what follows cannot make up for the segment that was left
      refine iff_of_false (fun heq => ?_) fun hno => hno s (by simp) (Or.inr hdouble)
      have hle := length_addSegments_le (leaveSegment .fixed dir) ws
      rw [heq, leaveSegment_fixed] at hle
      simp only [List.length_append, List.length_cons, List.length_dropLast] at hle
      omega
  | case6 dir s ws hne _ hsingle ih =>
      refine iff_of_false (fun heq => ?_) fun hno => hno s (by simp) (Or.inl hsingle)
      have hle := length_addSegments_le dir ws
      rw [heq] at hle
      simp only [List.length_append, List.length_cons] at hle
      omega
  | case7 dir s ws hne hdouble hsingle ih =>
      rw [keptSegment_eq (h s (by simp))] at ih ⊢
      rw [List.append_cons dir s ws, ih fun w hw => h w (List.mem_cons_of_mem s hw)]
      simp [IsDots, hdouble, hsingle]

-- ============================================== relative paths

/-- Segments that make up a relative path: nothing in them needs encoding,
and the path begins neither with a scheme nor with a slash. -/
structure IsReference (ws : List (List Char)) : Prop where
  ne_nil : ws ≠ []
  chars : ∀ w ∈ ws, IsPathText w
  no_scheme : ∀ w ∈ ws.head?, ':' ∉ w
  no_slash : ws = [[]] ∨ ws.head? ≠ some []

/-- A place on the web whose path ends with a slash. -/
structure IsDirectory (u : Url) (dir : List (List Char)) : Prop where
  web : u.isWeb = true
  path : u.path = .segments (dir ++ [[]])

/-- One that is nothing but the place. -/
structure IsBase (u : Url) (dir : List (List Char)) : Prop extends u.IsDirectory dir where
  query : u.query = none
  fragment : u.fragment = none

/-- A URL of the web has the layout of the web. -/
theorem layout_of_isWeb (h : u.isWeb = true) : layout u.scheme = .fixed := by
  rw [isWeb, Bool.or_eq_true, beq_iff_eq, beq_iff_eq] at h
  rcases h with h | h
  · rw [h]
    decide
  · rw [h]
    decide

/-- A relative path has no blank, no query and no fragment. -/
theorem IsReference.mem_joined (h : IsReference ws) (hc : c ∈ Text.joined '/' ws) :
    0x20 < c.toNat ∧ c ≠ '?' ∧ c ≠ '#' := by
  rcases Text.mem_joined hc with rfl | ⟨w, hw, hc⟩
  · decide
  · exact not_inPath (h.chars w hw c hc).1

/-- A relative path has no scheme. -/
theorem IsReference.schemeHead? (h : IsReference ws) :
    Url.schemeHead? (Text.joined '/' ws) = none := by
  match ws, h with
  | [], h => exact absurd rfl h.ne_nil
  | [w], h =>
      have hw : Url.schemeHead? (w ++ []) = none :=
        schemeHead?_eq_none (h.no_scheme w rfl) (by simp)
      rwa [List.append_nil] at hw
  | w :: w' :: ws, h =>
      exact schemeHead?_eq_none (h.no_scheme w rfl) fun c hc => (Option.some.inj hc).symm

/-- Without a scheme and a fragment of its own, a text is read relative to
a base that has segments. -/
theorem join_of_prepared [Idna] {text : String} {items : List (List Char)}
    (hpath : base.path = .segments items) (hcs : prepared text.toList = cs)
    (hscheme : Url.schemeHead? cs = none) (hhash : cs.head? ≠ some '#') :
    base.join text = relative base cs := by
  unfold join parseWith
  dsimp only
  rw [hcs, hscheme]
  dsimp only
  rw [hpath]
  split
  · exact absurd rfl hhash
  · next hplain _ => cases hplain
  · rfl

/-- A text without a scheme is read relative to the base. -/
theorem join_eq_relative [Idna] {items : List (List Char)} (hpath : base.path = .segments items)
    (hcs : ∀ c ∈ cs, 0x20 < c.toNat) (hscheme : Url.schemeHead? cs = none)
    (hhash : cs.head? ≠ some '#') : base.join (String.ofList cs) = relative base cs :=
  join_of_prepared hpath (by rw [String.toList_ofList, prepared_eq hcs]) hscheme hhash

/-- A text that begins with none of the four marks goes on behind the
directory of the base. -/
theorem relative_eq [Idna] (hbase : layout base.scheme = .fixed) {rest : List Char}
    (hslash : c ≠ '/') (hback : c ≠ '\\') (hquestion : c ≠ '?') (hhash : c ≠ '#') :
    relative base (c :: rest)
      = .ok (withTail { base with path := (readPath .fixed base.path.parent (c :: rest)).1 } .fixed
          (readPath .fixed base.path.parent (c :: rest)).2) := by
  unfold relative
  dsimp only
  rw [hbase]
  split
  · next heq => cases heq
  · next heq => exact absurd (List.cons.inj heq).1 hquestion
  · next heq => exact absurd (List.cons.inj heq).1 hhash
  · next heq =>
      obtain ⟨rfl, rfl⟩ := List.cons.inj heq
      rw [if_neg (by simp [hslash, hback])]

/-- A relative path is read as its segments, to the end. -/
theorem IsReference.readPath_joined (h : IsReference ws) (dir : List (List Char)) :
    readPath .fixed dir (Text.joined '/' ws) = (.segments (addSegments .fixed dir ws), []) := by
  have hall : ∀ c ∈ Text.joined '/' ws, (!endsPath c) = true := by
    intro c hc
    obtain ⟨-, hquestion, hhash⟩ := h.mem_joined hc
    simp [endsPath, hquestion, hhash]
  have hpieces : Text.pieces (isSlash .fixed) (Text.joined '/' ws) = ws := by
    refine Text.pieces_joined h.ne_nil (fun w hw c hc => ?_) rfl
    obtain ⟨-, hslash, hback⟩ := h.chars w hw c hc
    simp [isSlash, hslash, hback]
  unfold readPath
  dsimp only
  rw [List.takeWhile_eq_self_iff.mpr hall, List.dropWhile_eq_nil_iff.mpr hall, hpieces]
  rfl

/-- A relative path that is not empty begins with a character of its first
segment. -/
theorem IsReference.exists_head (h : IsReference ws) (hne : ws ≠ [[]]) :
    ∃ c rest, Text.joined '/' ws = c :: rest ∧ c ≠ '/' ∧ c ≠ '\\' := by
  match ws, h with
  | [], h => exact absurd rfl h.ne_nil
  | [] :: _, h => exact absurd rfl (h.no_slash.resolve_left hne)
  | [c :: w], h => exact ⟨c, w, rfl, (h.chars _ List.mem_cons_self c List.mem_cons_self).2⟩
  | (c :: w) :: w' :: ws, h =>
      exact ⟨c, _, rfl, (h.chars _ List.mem_cons_self c List.mem_cons_self).2⟩

/-- A relative path takes the place of the last segment of its base. -/
theorem join_joined [Idna] (hbase : layout base.scheme = .fixed) {last : List Char}
    (hpath : base.path = .segments (dir ++ [last])) (h : IsReference ws) (hne : ws ≠ [[]]) :
    base.join (String.ofList (Text.joined '/' ws))
      = .ok { base with
          path := .segments (addSegments .fixed dir ws)
          query := none
          fragment := none } := by
  obtain ⟨c, rest, hcs, hslash, hback⟩ := h.exists_head hne
  obtain ⟨-, hquestion, hhash⟩ := h.mem_joined (hcs ▸ List.mem_cons_self)
  have hparent : base.path.parent = dir := by
    rw [hpath, Path.parent, List.dropLast_concat]
  rw [join_eq_relative hpath (fun c hc => (h.mem_joined hc).1) h.schemeHead? (by simp [hcs, hhash]),
    hcs, relative_eq hbase hslash hback hquestion hhash, hparent, ← hcs, h.readPath_joined]
  rfl

/-- What a relative path means on the web. -/
theorem join_of_isBase [Idna] (hbase : IsBase base dir) (h : IsReference ws) :
    base.join (String.ofList (Text.joined '/' ws))
      = .ok { base with path := .segments (addSegments .fixed dir ws) } := by
  have hlayout := layout_of_isWeb hbase.web
  obtain ⟨⟨-, hpath⟩, hquery, hfragment⟩ := hbase
  obtain ⟨scheme, username, password, host, port, path, query, fragment⟩ := base
  dsimp only at hpath hquery hfragment
  subst hpath hquery hfragment
  by_cases hne : ws = [[]]
  · subst hne
    exact join_eq_relative rfl (fun c hc => (h.mem_joined hc).1) h.schemeHead? (by decide)
  · exact join_joined hlayout rfl h hne

-- ============================================== absolute addresses

/-- Some segment is always left, if only an empty one. -/
theorem addSegments_ne_nil (hws : ws ≠ []) : addSegments .fixed dir ws ≠ [] := by
  fun_induction addSegments .fixed dir ws with
  | case1 => exact absurd rfl hws
  | case2 | case3 | case4 => simp
  | case5 _ _ _ hne _ ih | case6 _ _ _ hne _ _ ih | case7 _ _ _ hne _ _ ih => exact ih hne

/-- Behind a host of the web there is always a path, if only a slash. -/
theorem pathAfterHost_fixed (cs : List Char) :
    ∃ items, items ≠ [] ∧ (pathAfterHost .fixed cs).1 = .segments items := by
  have hread : ∀ cs, ∃ items, items ≠ [] ∧ (readPath .fixed [] cs).1 = .segments items :=
    fun cs => ⟨_, addSegments_ne_nil (Text.pieces_ne_nil _ _), rfl⟩
  unfold pathAfterHost
  split
  · exact hread []
  · split
    · exact hread _
    · exact hread _

/-- What is read behind the slashes has the scheme that it was read for, and a path
that stands behind the host. -/
theorem of_afterSlashes [Idna] {scheme : List Char} (h : afterSlashes scheme cs = .ok u) :
    u.scheme = scheme ∧ ∃ behind, u.path = (pathAfterHost (layout scheme) behind).1 := by
  unfold afterSlashes at h
  simp only [bind, Except.bind] at h
  repeat' split at h
  -- each way through it fails, or ends with what stands behind the host
  all_goals
    cases h
  all_goals
    exact ⟨rfl, _, rfl⟩

/-- The URL of a file has the scheme of files. -/
theorem scheme_of_afterFileScheme [Idna] (h : afterFileScheme cs = .ok u) :
    u.scheme = "file".toList := by
  unfold afterFileScheme at h
  dsimp only at h
  simp only [bind, Except.bind] at h
  repeat' split at h
  all_goals
    cases h
  all_goals
    rfl

/-- Behind a scheme of the web and any number of slashes begins the host. -/
theorem parse_of_schemeHead [Idna] {text : String} {scheme rest : List Char}
    (hscheme : Url.schemeHead? (prepared text.toList) = some (scheme, rest))
    (hfixed : layout scheme = .fixed) :
    parse text = afterSlashes scheme (rest.dropWhile (isSlash .fixed)) := by
  unfold parse parseWith
  dsimp only
  rw [hscheme]
  dsimp only
  unfold afterScheme
  rw [hfixed]

/-- An address on the web was read so. -/
theorem exists_afterSlashes_of_parse [Idna] {text : String} (h : parse text = .ok u)
    (hweb : u.isWeb = true) :
    ∃ rest, Url.schemeHead? (prepared text.toList) = some (u.scheme, rest)
      ∧ afterSlashes u.scheme (rest.dropWhile (isSlash .fixed)) = .ok u := by
  have hfixed := layout_of_isWeb hweb
  have hfree : ∀ {scheme}, layout scheme = .free → u.scheme ≠ scheme := by
    rintro scheme hscheme rfl
    rw [hfixed] at hscheme
    cases hscheme
  unfold parse parseWith at h
  dsimp only at h
  split at h
  · next scheme rest hhead =>
      -- a scheme of files or of a free layout is not one of the web
      unfold afterScheme at h
      split at h
      · rw [scheme_of_afterFileScheme h] at hfixed
        exact absurd hfixed (by decide)
      · obtain ⟨rfl, -⟩ := of_afterSlashes h
        exact ⟨rest, hhead, h⟩
      · next hscheme =>
          split at h
          · exact absurd (of_afterSlashes h).1 (hfree hscheme)
          · split at h
            · cases h
              exact absurd rfl (hfree hscheme)
            · cases h
              exact absurd rfl (hfree hscheme)
  · cases h

/-- An address on the web has a path with segments. -/
theorem exists_segments_of_parse [Idna] {text : String} (h : parse text = .ok u)
    (hweb : u.isWeb = true) :
    ∃ items, items ≠ [] ∧ u.path = .segments items := by
  obtain ⟨rest, -, hread⟩ := exists_afterSlashes_of_parse h hweb
  obtain ⟨-, behind, hpath⟩ := of_afterSlashes hread
  rw [layout_of_isWeb hweb] at hpath
  rw [hpath]
  exact pathAfterHost_fixed behind

end Sdwan.Url
