/-
The text of an address on the web is read as this address.

Whatever text an address was read from, its parts are written as they are read
(`isNormal_of_parse`): no part encodes a character of it again, no segment of
the path stands for a place, and the host is one of the three kinds. From such
parts the text is put together, and it is taken apart at the same marks
(`IsNormal.parse_text`). Only the host can be too long to be read.
-/
import Sdwan.Proofs.Url.Host
import Sdwan.Proofs.Url.Percent

namespace Sdwan.Url

variable {u : Url} {h : Host} {c : Char} {cs rest : List Char} {dir items ws : List (List Char)}

-- ============================================== paths

/-- A path with segments that are kept as they are. -/
structure IsKept (items : List (List Char)) : Prop where
  chars : ∀ w ∈ items, IsPathText w
  no_dots : ∀ w ∈ items, ¬ IsDots w

theorem isKept_nil : IsKept [] := ⟨List.forall_mem_nil _, List.forall_mem_nil _⟩

theorem IsKept.append (hdir : IsKept dir) (hws : IsKept ws) : IsKept (dir ++ ws) :=
  ⟨List.forall_mem_append.mpr ⟨hdir.chars, hws.chars⟩,
    List.forall_mem_append.mpr ⟨hdir.no_dots, hws.no_dots⟩⟩

theorem isKept_empty : IsKept [[]] where
  chars w hw := by
    rw [List.mem_singleton.mp hw]
    exact List.forall_mem_nil _
  no_dots w hw := by
    rw [List.mem_singleton.mp hw]
    decide

theorem IsKept.dropLast (hdir : IsKept dir) : IsKept dir.dropLast :=
  ⟨fun w hw => hdir.chars w (List.mem_of_mem_dropLast hw),
    fun w hw => hdir.no_dots w (List.mem_of_mem_dropLast hw)⟩

/-- A piece of a path, as it is kept. -/
theorem isKept_keptSegment {s : List Char} (hs : ∀ c ∈ s, isSlash .fixed c = false)
    (hdots : ¬ IsDots s) : IsKept [keptSegment .fixed s] where
  chars w hw c hc := by
    rw [List.mem_singleton.mp hw] at hc
    have hc : c ∈ encodeWith inPath s := hc
    have hdigits : ∀ d < 16, Text.hexDigitUpper d ≠ '/' ∧ Text.hexDigitUpper d ≠ '\\' := by decide
    refine ⟨not_set_of_mem_encodeWith isStable_inPath hc, ?_⟩
    rcases of_mem_encodeWith hc with ⟨hc, -⟩ | rfl | ⟨d, hd, rfl⟩
    · simpa [isSlash] using hs c hc
    · decide
    · exact hdigits d hd
  no_dots w hw := by
    rw [List.mem_singleton.mp hw]
    exact fun h => hdots (isDots_encodeWith (by decide) h)

/-- Adding segments keeps what is there and adds what is kept. -/
theorem isKept_addSegments (hdir : IsKept dir)
    (hws : ∀ w ∈ ws, ∀ c ∈ w, isSlash .fixed c = false) : IsKept (addSegments .fixed dir ws) := by
  fun_induction addSegments .fixed dir ws with
  | case1 => exact hdir
  | case2 dir s _ => exact hdir.dropLast.append isKept_empty
  | case3 dir s _ _ => exact hdir.append isKept_empty
  | case4 dir s hdouble hsingle =>
      exact hdir.append (isKept_keptSegment (hws s (by simp)) fun h => h.elim hsingle hdouble)
  | case5 dir s ws _ _ ih =>
      exact ih hdir.dropLast fun w hw => hws w (List.mem_cons_of_mem s hw)
  | case6 dir s ws _ _ _ ih => exact ih hdir fun w hw => hws w (List.mem_cons_of_mem s hw)
  | case7 dir s ws _ hdouble hsingle ih =>
      have hs := isKept_keptSegment (hws s (by simp)) fun h => h.elim hsingle hdouble
      exact ih (hdir.append hs) fun w hw => hws w (List.mem_cons_of_mem s hw)

/-- A path that was read has segments that are kept. -/
theorem isKept_readPath (cs : List Char) :
    ∃ items, items ≠ [] ∧ IsKept items ∧ (readPath .fixed [] cs).1 = .segments items :=
  ⟨_, addSegments_ne_nil (Text.pieces_ne_nil _ _),
    isKept_addSegments isKept_nil fun _ hw => Text.not_sep_of_mem_pieces hw, rfl⟩

/-- So has the path behind a host. -/
theorem isKept_pathAfterHost (cs : List Char) :
    ∃ items, items ≠ [] ∧ IsKept items ∧ (pathAfterHost .fixed cs).1 = .segments items := by
  unfold pathAfterHost
  split
  · exact isKept_readPath []
  · split
    · exact isKept_readPath _
    · exact isKept_readPath _

/-- A slash in front of each segment is one between them and one in front. -/
theorem flatMap_slash (hne : items ≠ []) :
    items.flatMap ('/' :: ·) = '/' :: Text.joined '/' items := by
  induction items with
  | nil => exact absurd rfl hne
  | cons w ws ih =>
      cases ws with
      | nil => simp [Text.joined]
      | cons w' ws =>
          rw [List.flatMap_cons, ih (List.cons_ne_nil _ _)]
          rfl

/-- The text that follows a path: a query, a fragment or nothing. -/
def IsTail (rest : List Char) : Prop := Net.Stops (!endsPath ·) rest

/-- A path that is kept is read from its text. -/
theorem IsKept.pathAfterHost_chars (hitems : IsKept items) (hne : items ≠ [])
    (hrest : IsTail rest) :
    pathAfterHost .fixed ((Path.segments items).chars ++ rest) = (.segments items, rest) := by
  have hall : ∀ c ∈ Text.joined '/' items, (!endsPath c) = true := by
    intro c hc
    rcases Text.mem_joined hc with rfl | ⟨w, hw, hc⟩
    · decide
    · obtain ⟨-, hquestion, hhash⟩ := not_inPath (hitems.chars w hw c hc).1
      simp [endsPath, hquestion, hhash]
  have hpieces : Text.pieces (isSlash .fixed) (Text.joined '/' items) = items := by
    refine Text.pieces_joined hne (fun w hw c hc => ?_) rfl
    obtain ⟨-, hslash, hback⟩ := hitems.chars w hw c hc
    simp [isSlash, hslash, hback]
  have hadd : addSegments .fixed [] items = items :=
    (addSegments_eq_append hitems.chars).mpr hitems.no_dots
  rw [Path.chars, flatMap_slash hne, List.cons_append, pathAfterHost, if_pos (by decide), readPath,
    Net.takeWhile_append_stops hall hrest, Net.dropWhile_append_stops hall hrest, hpieces, hadd]
  rfl

-- ============================================== query and fragment

/-- The characters of a query and of a fragment are those that they keep. -/
structure HasTail (u : Url) : Prop where
  query : ∀ q, u.query = some q → ∀ c ∈ q, inSpecialQuery c = false
  fragment : ∀ f, u.fragment = some f → ∀ c ∈ f, inFragment c = false

/-- Query and fragment are encoded when they are read, and what is encoded stays as
it is. -/
theorem hasTail_withTail (u : Url) (cs : List Char) : (withTail u .fixed cs).HasTail := by
  -- the characters of an escape are in neither set
  have hquery : ∀ cs, ∀ c ∈ encodeWith inSpecialQuery cs, inSpecialQuery c = false :=
    fun _ _ => not_set_of_mem_encodeWith isStable_inSpecialQuery
  have hfragment : ∀ cs, ∀ c ∈ encodeWith inFragment cs, inFragment c = false :=
    fun _ _ => not_set_of_mem_encodeWith isStable_inFragment
  constructor
  · intro q hq
    unfold withTail tail at hq
    dsimp only at hq
    split at hq
    · cases hq
    · split at hq
      all_goals
        cases hq
        exact hquery _
    · cases hq
  · intro f hf
    unfold withTail tail at hf
    dsimp only at hf
    split at hf
    · cases hf
      exact hfragment _
    · split at hf
      · cases hf
      · cases hf
        exact hfragment _
    · cases hf

/-- A query and a fragment are read from their text. -/
theorem HasTail.tail_eq (hu : u.HasTail) :
    tail .fixed (u.queryPart ++ u.fragmentPart) = (u.query, u.fragment) := by
  unfold queryPart fragmentPart
  cases hq : u.query with
  | none =>
      cases hf : u.fragment with
      | none => rfl
      | some f =>
          show (none, some (encodeWith inFragment f)) = _
          rw [encodeWith_eq (hu.fragment f hf)]
  | some q =>
      have hq := hu.query q hq
      -- a hash would end the query, but it is among the characters that a query encodes
      have hno : ∀ c ∈ q, (c == '#') = false := fun c hc =>
        beq_false_of_ne (not_inSpecialQuery (hq c hc)).2
      cases hf : u.fragment with
      | none =>
          rw [List.append_nil, tail, Text.splitFirst_eq_none hno]
          show (some (encodeWith inSpecialQuery q), none) = _
          rw [encodeWith_eq hq]
      | some f =>
          rw [List.cons_append, tail, Text.splitFirst_append_cons hno (by decide)]
          show (some (encodeWith inSpecialQuery q), some (encodeWith inFragment f)) = _
          rw [encodeWith_eq hq, encodeWith_eq (hu.fragment f hf)]

/-- What is written behind the path begins with a question mark or a hash, if with
anything. -/
theorem isTail_parts (u : Url) : IsTail (u.queryPart ++ u.fragmentPart) := by
  unfold queryPart fragmentPart
  cases u.query with
  | some q => exact Net.stops_cons (by decide) _
  | none =>
      cases u.fragment with
      | some f => exact Net.stops_cons (by decide) _
      | none => exact Net.stops_nil _

/-- There are no blanks behind the path. -/
theorem HasTail.blank_lt (hu : u.HasTail) :
    ∀ c ∈ u.queryPart ++ u.fragmentPart, 0x20 < c.toNat := by
  intro c hc
  unfold queryPart fragmentPart at hc
  rcases List.mem_append.mp hc with hc | hc
  · cases hq : u.query with
    | none =>
        rw [hq] at hc
        cases hc
    | some q =>
        rw [hq] at hc
        rcases List.mem_cons.mp hc with rfl | hc
        · decide
        · exact (not_inSpecialQuery (hu.query q hq c hc)).1
  · cases hf : u.fragment with
    | none =>
        rw [hf] at hc
        cases hc
    | some f =>
        rw [hf] at hc
        rcases List.mem_cons.mp hc with rfl | hc
        · decide
        · exact not_inFragment (hu.fragment f hf c hc)

-- ============================================== the whole

/-- An address on the web whose parts are written as they are read. -/
structure IsNormal [Idna] (u : Url) (h : Host) (items : List (List Char)) : Prop extends
    u.IsWritten h, u.HasTail where
  web : u.isWeb = true
  isRead : h.IsRead
  path : u.path = .segments items
  ne_nil : items ≠ []
  kept : IsKept items

/-- What a text is read as on the web is written as it is read. -/
theorem isNormal_of_parse [Idna] [LawfulIdna] {text : String} (hparse : parse text = .ok u)
    (hweb : u.isWeb = true) :
    ∃ h items, u.IsNormal h items := by
  obtain ⟨place, behind, a, -, -, ha, hu⟩ := exists_authority_of_parse hparse hweb
  obtain ⟨⟨hostText, hhost⟩, hname, hword, hport⟩ := of_readAuthority ha
  obtain ⟨items, hne, hkept, hpath⟩ := isKept_pathAfterHost behind
  have hread := Host.isRead_of_parse hhost
  refine ⟨a.host, items, ⟨?_, hread.isHostText, ?_, ?_, ?_⟩, ?_, hweb, hread, ?_, hne, hkept⟩
  · rw [hu]
    rfl
  · rw [hu]
    exact hname
  · rw [hu]
    exact hword
  · rw [hu]
    exact hport
  · rw [hu]
    exact hasTail_withTail _ _
  · rw [hu, ← hpath]
    rfl

/-- So is one with a slash at the end of its path. -/
theorem IsNormal.withSlash [Idna] (hu : u.IsNormal h items) :
    ∃ items, u.withSlash.IsNormal h items := by
  obtain ⟨items', hpath, hne, hkept⟩ : ∃ items', u.withSlash.path = .segments items'
      ∧ items' ≠ [] ∧ IsKept items' := by
    have hslash : u.withSlash.path = u.path.withSlash := rfl
    rw [hslash, hu.path, Path.withSlash]
    split
    · exact ⟨items, rfl, hu.ne_nil, hu.kept⟩
    · exact ⟨items ++ [[]], rfl, by simp, hu.kept.append isKept_empty⟩
  exact ⟨items', ⟨hu.host, hu.hostText, hu.username, hu.password, hu.port⟩,
    ⟨hu.query, hu.fragment⟩, hu.web, hu.isRead, hpath, hne, hkept⟩

/-- There are no blanks in the text of a path that is kept. -/
theorem IsKept.blank_lt (hitems : IsKept items) :
    ∀ c ∈ (Path.segments items).chars, 0x20 < c.toNat := by
  intro c hc
  obtain ⟨w, hw, hc⟩ := List.mem_flatMap.mp hc
  rcases List.mem_cons.mp hc with rfl | hc
  · decide
  · exact (not_inPath (hitems.chars w hw c hc).1).1

/-- The text of an address: scheme, place, path, and what stands behind. -/
theorem IsNormal.chars_eq [Idna] (hu : u.IsNormal h items) :
    u.chars = u.scheme ++ ':' :: '/' :: '/' :: (u.placeChars h
      ++ ((Path.segments items).chars ++ (u.queryPart ++ u.fragmentPart))) := by
  rw [chars, authority_eq hu.host, hu.path]
  simp

/-- There are no blanks in the text of an address. -/
theorem IsNormal.blank_lt [Idna] (hu : u.IsNormal h items) : ∀ c ∈ u.chars, 0x20 < c.toNat := by
  have hscheme : ∀ c ∈ u.scheme, 0x20 < c.toNat := by
    rcases isWeb_iff.mp hu.web with heq | heq
    all_goals
      rw [heq]
      exact List.all_iff_forall_prop.mp (by decide)
  rw [hu.chars_eq]
  refine List.forall_mem_append.mpr ⟨hscheme, ?_⟩
  refine List.forall_mem_cons.mpr ⟨by decide, List.forall_mem_cons.mpr ⟨by decide, ?_⟩⟩
  refine List.forall_mem_cons.mpr ⟨by decide, List.forall_mem_append.mpr ⟨?_, ?_⟩⟩
  · exact fun c hc => (hu.isPlace_placeChars c hc).1
  · exact List.forall_mem_append.mpr ⟨hu.kept.blank_lt, hu.toHasTail.blank_lt⟩

/-- The text of an address is read as the address, if its host is. -/
theorem IsNormal.parse_text [Idna] [LawfulIdna] (hu : u.IsNormal h items) :
    parse u.text = if h.isShort then .ok u else .error .invalidDomainName := by
  have hplace : IsPlace (u.placeChars h) := fun c hc => (hu.isPlace_placeChars c hc).2
  have hne : u.placeChars h ≠ [] := by
    simp [placeChars, hu.hostText.ne_nil]
  have hbehind : IsBehind ((Path.segments items).chars ++ (u.queryPart ++ u.fragmentPart)) := by
    rw [Path.chars, flatMap_slash hu.ne_nil]
    exact Net.stops_cons (by decide) _
  have htext : u.text.toList = u.chars := String.toList_ofList
  rw [parse_append (isWeb_iff.mp hu.web) (htext.trans hu.chars_eq)
    (fun c hc => hu.blank_lt c (htext ▸ hc)) hplace hne hbehind, hu.readAuthority_placeChars,
    hu.kept.pathAfterHost_chars hu.ne_nil (isTail_parts u), hu.isRead.parse_chars]
  -- all parts are read as they are written, and the host if its labels are short
  cases h.isShort with
  | false => rfl
  | true =>
      show Except.ok (withTail _ .fixed (u.queryPart ++ u.fragmentPart)) = .ok u
      rw [withTail, hu.toHasTail.tail_eq]
      dsimp only [Authority.url]
      rw [← hu.host, ← hu.path]

end Sdwan.Url
