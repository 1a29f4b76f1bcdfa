/-
A slash at the end of an address.

With a slash behind it the path of an address has one more segment, which is
empty, unless its last segment stands for a place: then the path ends with an
empty segment anyway. So it makes no difference to an address whose path gets a
slash at its end (`withSlash_parse_concat`). A query, a fragment or a slash at
the end would make one, and a backslash does not show in the path.
-/
import Sdwan.Proofs.Url.Authority

namespace Sdwan.Url

variable {u : Url} {cs rest scheme : List Char} {dir ws items : List (List Char)} {s : List Char}

-- ============================================== paths

/-- A path that ends with an empty segment has its slash already. -/
theorem withSlash_concat (dir : List (List Char)) :
    (Path.segments (dir ++ [[]])).withSlash = .segments (dir ++ [[]]) := by
  rw [Path.withSlash, List.getLast?_concat, if_pos (by decide)]

theorem withSlash_concat_of_ne_nil (dir : List (List Char)) (hne : s ≠ []) :
    (Path.segments (dir ++ [s])).withSlash = .segments (dir ++ [s] ++ [[]]) := by
  rw [Path.withSlash, List.getLast?_concat, if_neg]
  simpa using hne

theorem addSegments_empty (dir : List (List Char)) :
    addSegments .fixed dir [[]] = dir ++ [[]] := by
  rw [addSegments, if_neg (by decide), if_neg (by decide)]
  rfl

theorem addSegments_cons (hne : ws ≠ []) :
    addSegments .fixed dir (s :: ws)
      = if isDoubleDot s then addSegments .fixed (leaveSegment .fixed dir) ws
        else if isSingleDot s then addSegments .fixed dir ws
        else addSegments .fixed (dir ++ [keptSegment .fixed s]) ws := by
  cases ws with
  | nil => exact absurd rfl hne
  | cons w ws => rw [addSegments]; exact List.cons_ne_nil w ws

/-- An empty segment at the end is all that a slash adds. -/
theorem withSlash_addSegments_concat (hne : ws ≠ []) (hlast : ws.getLast? ≠ some []) :
    (Path.segments (addSegments .fixed dir (ws ++ [[]]))).withSlash
      = (Path.segments (addSegments .fixed dir ws)).withSlash := by
  have hrest : ∀ {s ws}, ws ≠ [] → (s :: ws).getLast? ≠ some [] →
      ws.getLast? ≠ some ([] : List Char) := by
    intro s ws hws hlast
    rwa [List.getLast?_cons_of_ne_nil hws] at hlast
  fun_induction addSegments .fixed dir ws with
  | case1 => exact absurd rfl hne
  | case2 dir s hdouble =>
      rw [List.singleton_append, addSegments_cons (List.cons_ne_nil _ _), if_pos hdouble,
        addSegments_empty]
  | case3 dir s hdouble hsingle =>
      rw [List.singleton_append, addSegments_cons (List.cons_ne_nil _ _), if_neg hdouble,
        if_pos hsingle, addSegments_empty]
  -- dots at the end leave an empty segment already, and any other segment is not empty,
  -- so a slash is put behind it in any case
  | case4 dir s hdouble hsingle =>
      have hkept : keptSegment .fixed s ≠ [] := encodeWith_ne_nil (by simpa using hlast)
      rw [List.singleton_append, addSegments_cons (List.cons_ne_nil _ _), if_neg hdouble,
        if_neg hsingle, addSegments_empty, withSlash_concat, withSlash_concat_of_ne_nil _ hkept]
  | case5 dir s ws hws hdouble ih =>
      rw [List.cons_append, addSegments_cons (by simp), if_pos hdouble]
      exact ih hws (hrest hws hlast)
  | case6 dir s ws hws hdouble hsingle ih =>
      rw [List.cons_append, addSegments_cons (by simp), if_neg hdouble, if_pos hsingle]
      exact ih hws (hrest hws hlast)
  | case7 dir s ws hws hdouble hsingle ih =>
      rw [List.cons_append, addSegments_cons (by simp), if_neg hdouble, if_neg hsingle]
      exact ih hws (hrest hws hlast)

-- ============================================== addresses

/-- Neither a blank nor a mark that ends the path, and no backslash. -/
def IsPathward (cs : List Char) : Prop :=
  ∀ c ∈ cs, 0x20 < c.toNat ∧ c ≠ '?' ∧ c ≠ '#' ∧ c ≠ '\\'

theorem readPath_of_isPathward (h : IsPathward cs) :
    readPath .fixed [] cs
      = (.segments (addSegments .fixed [] (Text.pieces (isSlash .fixed) cs)), []) := by
  have hall : ∀ c ∈ cs, (!endsPath c) = true := by
    intro c hc
    obtain ⟨-, hquestion, hhash, -⟩ := h c hc
    simp [endsPath, hquestion, hhash]
  unfold readPath
  rw [List.takeWhile_eq_self_iff.mpr hall, List.dropWhile_eq_nil_iff.mpr hall]
  rfl

/-- The last piece of a text that does not end with a separator. -/
theorem getLast?_pieces_ne_nil {sep : Char → Bool} (hne : cs ≠ [])
    (hlast : ∀ c ∈ cs.getLast?, sep c = false) : (Text.pieces sep cs).getLast? ≠ some [] := by
  induction cs with
  | nil => exact absurd rfl hne
  | cons c cs ih =>
      by_cases hcs : cs = []
      · subst hcs
        have hc : sep c = false := hlast c rfl
        simp [Text.pieces, hc]
      · rw [List.getLast?_cons_of_ne_nil hcs] at hlast
        have ih := ih hcs hlast
        -- a character in front makes a piece more, or the first one longer
        have hpieces := Text.pieces_ne_nil sep cs
        rw [Text.pieces]
        split
        · rwa [List.getLast?_cons_of_ne_nil hpieces]
        · split
          · simp
          · next p ps heq =>
              rw [heq] at ih
              cases ps with
              | nil => simp
              | cons q qs => rwa [List.getLast?_cons_of_ne_nil (List.cons_ne_nil q qs)] at ih ⊢

theorem IsPathward.concat (h : IsPathward cs) : IsPathward (cs ++ ['/']) := by
  intro c hc
  rcases List.mem_append.mp hc with hc | hc
  · exact h c hc
  · rw [List.mem_singleton.mp hc]
    decide

/-- Behind a host, too, a slash at the end makes no difference. -/
theorem withSlash_pathAfterHost (h : IsPathward cs) (hbehind : IsBehind cs)
    (hlast : cs.getLast? ≠ some '/') :
    (pathAfterHost .fixed (cs ++ ['/'])).1.withSlash = (pathAfterHost .fixed cs).1.withSlash := by
  cases cs with
  | nil => rfl
  | cons c cs =>
      obtain rfl : c = '/' := by
        obtain ⟨-, hquestion, hhash, hback⟩ := h c List.mem_cons_self
        rcases hbehind.head c rfl with heq | heq | heq | heq
        · exact heq
        · exact absurd heq hback
        · exact absurd heq hquestion
        · exact absurd heq hhash
      have hcs : IsPathward cs := fun d hd => h d (List.mem_cons_of_mem _ hd)
      have hne : cs ≠ [] := by
        rintro rfl
        exact hlast rfl
      rw [List.getLast?_cons_of_ne_nil hne] at hlast
      -- the last piece is not empty, for the text does not end with a slash of either kind
      have hpieces : (Text.pieces (isSlash .fixed) cs).getLast? ≠ some [] := by
        refine getLast?_pieces_ne_nil hne fun d hd => ?_
        have hslash : d ≠ '/' := by
          rintro rfl
          exact hlast hd
        simp [isSlash, hslash, (hcs d (List.mem_of_getLast? hd)).2.2.2]
      have hsplit : Text.pieces (isSlash .fixed) (cs ++ ['/'])
          = Text.pieces (isSlash .fixed) cs ++ [[]] :=
        Text.pieces_append_cons (by decide) cs []
      rw [List.cons_append, pathAfterHost, pathAfterHost, if_pos (by decide), if_pos (by decide),
        readPath_of_isPathward hcs, readPath_of_isPathward hcs.concat, hsplit]
      exact withSlash_addSegments_concat (Text.pieces_ne_nil _ _) hpieces

theorem snd_pathAfterHost (h : IsPathward cs) : (pathAfterHost .fixed cs).2 = [] := by
  unfold pathAfterHost
  split
  · rfl
  · split
    · rw [readPath_of_isPathward fun c hc => h c (List.mem_cons_of_mem _ hc)]
    · rw [if_neg (by simp), readPath_of_isPathward h]

theorem getLast?_of_suffix {c : Char} (h : rest <:+ cs) (hlast : rest.getLast? = some c) :
    cs.getLast? = some c := by
  obtain ⟨front, rfl⟩ := h
  rw [List.getLast?_append, hlast]
  rfl

theorem schemeHead?_concat (h : schemeHead? cs = some (scheme, rest)) :
    schemeHead? (cs ++ ['/']) = some (scheme, rest ++ ['/']) ∧ rest <:+ cs := by
  unfold schemeHead? at h
  split at h
  · cases h
  · next c cs =>
      split at h
      · next hletter =>
          split at h
          · cases h
          · next name behind hsplit =>
              obtain ⟨colon, hcolon, heq, hname⟩ := Text.splitFirst_eq_some hsplit
              split at h
              · next hall =>
                  cases h
                  have hsplit' : Text.splitFirst (· == ':') (c :: (cs ++ ['/']))
                      = some (name, rest ++ ['/']) := by
                    rw [← List.cons_append, heq, List.append_assoc, List.cons_append]
                    exact Text.splitFirst_append_cons hname hcolon _
                  refine ⟨?_, ⟨name ++ [colon], by rw [heq]; simp⟩⟩
                  rw [List.cons_append, schemeHead?, if_pos hletter, hsplit']
                  exact if_pos hall
              · cases h
      · cases h

theorem IsBehind.concat {behind : List Char} (h : IsBehind behind) :
    IsBehind (behind ++ ['/']) := by
  cases behind with
  | nil => exact Net.stops_cons (by decide) _
  | cons c cs => exact Net.stops_cons (h c rfl) _

/-- An address with a slash behind it is the same address, up to the slash. -/
theorem withSlash_parse_concat [Idna] {text : String} (h : parse text = .ok u)
    (hweb : u.isWeb = true)
    (hchars : IsPathward text.toList) (hlast : text.toList.getLast? ≠ some '/') :
    ∃ u', parse (text ++ "/") = .ok u' ∧ u'.isWeb = true ∧ u'.withSlash = u.withSlash := by
  obtain ⟨rest, hhead, hread⟩ := exists_afterSlashes_of_parse h hweb
  have hfixed := layout_of_isWeb hweb
  have hconcat : (text ++ "/").toList = text.toList ++ ['/'] := String.toList_append
  rw [prepared_eq fun c hc => (hchars c hc).1] at hhead
  obtain ⟨hhead', hsuffix⟩ := schemeHead?_concat hhead
  rw [← hconcat, ← prepared_eq fun c hc => (hchars.concat c (hconcat ▸ hc)).1] at hhead'
  obtain ⟨place, behind, hsplit, hplace, hbehind⟩ :=
    exists_place (rest.dropWhile (isSlash .fixed))
  rw [hsplit, afterSlashes_append hfixed hplace hbehind, ok_map_iff] at hread
  obtain ⟨a, ha, hu⟩ := hread
  have hne : place ≠ [] := by
    rintro rfl
    cases ha
  -- the slash comes behind the whole text, so scheme and place are read as before
  have hdrop : (rest ++ ['/']).dropWhile (isSlash .fixed) = place ++ (behind ++ ['/']) := by
    rw [List.dropWhile_append, hsplit, if_neg (by simp [hne]), List.append_assoc]
  have hsuffix' : behind <:+ text.toList := by
    refine List.IsSuffix.trans ?_ ((List.dropWhile_suffix (isSlash .fixed)).trans hsuffix)
    rw [hsplit]
    exact List.suffix_append place behind
  have hpathward : IsPathward behind := fun c hc => hchars c (hsuffix'.subset hc)
  have hpath := withSlash_pathAfterHost hpathward hbehind
    fun hslash => hlast (getLast?_of_suffix hsuffix' hslash)
  have htail := snd_pathAfterHost hpathward
  have htail' := snd_pathAfterHost hpathward.concat
  have hread' : parse (text ++ "/") = .ok (withTail
      (a.url u.scheme (pathAfterHost .fixed (behind ++ ['/'])).1) .fixed
        (pathAfterHost .fixed (behind ++ ['/'])).2) := by
    rw [parse_of_schemeHead hhead' hfixed, hdrop, afterSlashes_append hfixed hplace hbehind.concat,
      ha]
    rfl
  refine ⟨_, hread', hweb, ?_⟩
  rw [← hu, htail, htail', withSlash, withSlash]
  dsimp only [withTail, Authority.url]
  rw [hpath]

end Sdwan.Url
