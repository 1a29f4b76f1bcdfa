/-
What a text takes from its base on the web, and what it brings itself.

# The place

A text that has neither a scheme of its own nor two slashes in front is read
in the place of the base (`join_of_isLocal`): path, query and fragment may
change, and nothing else does. In front of the query a backslash counts as a
slash here. Any other text names a place, and then the base only lends it the
scheme that it lacks: two bases of one scheme make the same of it
(`join_of_not_isLocal`).

# The query

The query of a URL begins with a question mark of the text that was read, or
it is that of the base (`query_of_join`). Each way through the reader ends
with the part of the text that it has not used yet, so it is enough that none
of them adds a character.
-/
import Sdwan.Proofs.Success
import Sdwan.Proofs.Url.Parse

namespace Sdwan.Url

variable {u base base' : Url} {cs place rest scheme text : List Char}
  {items items' : List (List Char)}

-- ============================================== the place

/-- What a connection goes by: the scheme, the host and the port. -/
def origin (u : Url) : List Char × Option Host × Option Nat :=
  (u.scheme, u.host, u.effectivePort)

/-- The text names no place of its own: it has no scheme, or that of the
base, and fewer than two slashes follow. -/
def IsLocal (scheme cs : List Char) : Prop :=
  match schemeHead? cs with
  | none => slashes cs < 2
  | some (name, rest) => name = scheme ∧ slashes rest < 2

instance (scheme cs : List Char) : Decidable (IsLocal scheme cs) := by
  unfold IsLocal
  split <;> infer_instance

/-- A URL that differs from another one in path, query and fragment at most. -/
def InPlaceOf (u base : Url) : Prop :=
  u = { base with path := u.path, query := u.query, fragment := u.fragment }

/-- A URL in the place of another one has its origin. -/
theorem InPlaceOf.origin (h : u.InPlaceOf base) : u.origin = base.origin := by
  rw [h]
  rfl

/-- Path, query and fragment do not move a URL. -/
theorem inPlaceOf_withTail {p : Path} (l : Layout) (cs : List Char) :
    (withTail { base with path := p } l cs).InPlaceOf base := rfl

/-- Without two slashes in front a text stays in the place of its base. -/
theorem relative_of_slashes_lt [Idna] (hfixed : layout base.scheme = .fixed) (h : slashes cs < 2) :
    ∃ u, relative base cs = .ok u ∧ u.InPlaceOf base := by
  unfold relative
  rw [hfixed]
  dsimp only
  split
  · exact ⟨_, rfl, rfl⟩
  · exact ⟨_, rfl, rfl⟩
  · exact ⟨_, rfl, rfl⟩
  · next c rest _ _ =>
      split
      -- one slash: the path begins anew, on the host of the base
      · rw [if_neg (by decide), if_neg (by omega)]
        exact ⟨_, rfl, inPlaceOf_withTail ..⟩
      · exact ⟨_, rfl, inPlaceOf_withTail ..⟩

/-- With two slashes in front nothing but the scheme is taken from the base. -/
theorem relative_of_two_slashes [Idna] (hfixed : layout base.scheme = .fixed)
    (hfixed' : layout base'.scheme = .fixed) (hscheme : base.scheme = base'.scheme)
    (h : 2 ≤ slashes cs) : relative base cs = relative base' cs := by
  cases cs with
  | nil => exact absurd h (by decide)
  | cons c rest =>
      have hslash : c = '/' ∨ c = '\\' := by
        by_contra hno
        have hnone : slashes (c :: rest) = 0 := by
          rw [not_or] at hno
          simp [slashes, isSlash, hno.1, hno.2]
        omega
      unfold relative
      rw [hfixed, hfixed', hscheme]
      rcases hslash with rfl | rfl
      · simp [h]
      · simp [h]

/-- A text with the scheme of the base is read as if it had none, unless two slashes
follow. -/
theorem afterScheme_of_isLocal [Idna] (hfixed : layout base.scheme = .fixed) (h : slashes cs < 2) :
    afterScheme (some base) base.scheme cs = relative base cs := by
  unfold afterScheme
  rw [hfixed]
  simp [h]

/-- Behind another scheme than that of the base, or behind two slashes, a text takes
nothing from the base. -/
theorem afterScheme_of_not_isLocal [Idna] (hscheme : base.scheme = base'.scheme)
    (h : ¬ (scheme = base.scheme ∧ slashes cs < 2)) :
    afterScheme (some base) scheme cs = afterScheme (some base') scheme cs := by
  have hno : ∀ b : Url, b.scheme = base.scheme →
      ¬ (b.scheme == scheme && decide (slashes cs < 2)) = true := by
    intro b hb heq
    rw [Bool.and_eq_true, beq_iff_eq, decide_eq_true_eq] at heq
    exact h ⟨heq.1.symm.trans hb, heq.2⟩
  unfold afterScheme
  split
  · rfl
  · dsimp only
    rw [if_neg (hno base rfl), if_neg (hno base' hscheme.symm)]
  · rfl

/-- A text that names no place is read in the place of the base. -/
theorem join_of_isLocal [Idna] {text : String} (hfixed : layout base.scheme = .fixed)
    (hpath : base.path = .segments items) (hcs : prepared text.toList = cs)
    (h : IsLocal base.scheme cs) : ∃ u, base.join text = .ok u ∧ u.InPlaceOf base := by
  unfold IsLocal at h
  unfold join parseWith
  dsimp only
  rw [hcs]
  split at h
  · next hnone =>
      rw [hnone]
      dsimp only
      rw [hpath]
      split
      · exact ⟨_, rfl, rfl⟩
      · next hplain _ => cases hplain
      · exact relative_of_slashes_lt hfixed h
  · next name rest hsome =>
      obtain ⟨rfl, hslashes⟩ := h
      rw [hsome]
      dsimp only
      rw [afterScheme_of_isLocal hfixed hslashes]
      exact relative_of_slashes_lt hfixed hslashes

/-- Of a text that names a place, two bases of one scheme make the same. -/
theorem join_of_not_isLocal [Idna] {text : String} (hfixed : layout base.scheme = .fixed)
    (hscheme : base.scheme = base'.scheme) (hpath : base.path = .segments items)
    (hpath' : base'.path = .segments items') (hcs : prepared text.toList = cs)
    (h : ¬ IsLocal base.scheme cs) : base.join text = base'.join text := by
  have hfixed' : layout base'.scheme = .fixed := hscheme ▸ hfixed
  unfold IsLocal at h
  unfold join parseWith
  dsimp only
  rw [hcs]
  split at h
  · next hnone =>
      -- without a scheme it must be the two slashes that name a place
      have htwo : 2 ≤ slashes cs := Nat.le_of_not_lt h
      rw [hnone]
      dsimp only
      rw [hpath, hpath']
      split
      · exact absurd htwo (by simp [slashes, isSlash])
      · next hplain _ => cases hplain
      · exact relative_of_two_slashes hfixed hfixed' hscheme htwo
  · next name rest hsome =>
      rw [hsome]
      exact afterScheme_of_not_isLocal hscheme h

-- ============================================== the query

/-- What is read of a part of a text without a question mark has no query. -/
theorem query_withTail (hsub : rest ⊆ cs) (hno : '?' ∉ cs) (w : Url) (l : Layout) :
    (withTail w l rest).query = none := by
  unfold withTail tail
  dsimp only
  split
  · rfl
  · exact absurd (hsub List.mem_cons_self) hno
  · rfl

theorem readPath_subset (l : Layout) (dir : List (List Char)) (cs : List Char) :
    (readPath l dir cs).2 ⊆ cs :=
  List.dropWhile_subset _

/-- A path behind a host leaves an end of the text, whether or not it begins with a
slash. -/
theorem pathAfterHost_subset (l : Layout) (cs : List Char) : (pathAfterHost l cs).2 ⊆ cs := by
  unfold pathAfterHost
  split
  · split
    · exact List.Subset.refl _
    · exact readPath_subset l [] []
  · split
    · exact List.subset_cons_of_subset _ (readPath_subset l [] _)
    · split
      · exact List.Subset.refl _
      · exact readPath_subset l [] _

/-- So does a host. -/
theorem hostHead_subset (inBrackets : Bool) (cs : List Char) :
    (hostHead inBrackets cs).2 ⊆ cs := by
  fun_induction hostHead inBrackets cs with
  | case1 => exact List.Subset.refl _
  | case2 => exact List.Subset.refl _
  | case3 _ c cs _ h rest heq ih =>
      rw [heq] at ih
      exact List.subset_cons_of_subset c ih

/-- What stands behind the user is a part of the text. -/
theorem splitAtLast_subset (place : List Char) :
    ((splitAtLast place).getD ([], place)).2 ⊆ place := by
  unfold splitAtLast
  split
  · exact List.Subset.refl _
  · next after before hsplit =>
      obtain ⟨s, -, heq, -⟩ := Text.splitFirst_eq_some hsplit
      intro c hc
      rw [Option.getD_some, List.mem_reverse] at hc
      rw [← List.mem_reverse, heq]
      exact List.mem_append_left _ hc

theorem portHead_subset {port : Option Nat × List Char} (h : portHead scheme cs = .ok port) :
    port.2 ⊆ cs := by
  unfold portHead at h
  dsimp only at h
  split at h
  · cases h
  · split at h
    · cases h
    · cases h
      exact List.dropWhile_subset _

/-- What stands behind the name of a host. -/
theorem behindHost_subset (p : Char → Bool) (cs : List Char) :
    (hostHead false ((splitAtLast (cs.takeWhile p)).getD ([], cs.takeWhile p)).2).2
        ++ cs.dropWhile p ⊆ cs := by
  refine List.append_subset.mpr ⟨?_, List.dropWhile_subset _⟩
  exact List.Subset.trans (hostHead_subset _ _)
    (List.Subset.trans (splitAtLast_subset _) (List.takeWhile_subset _))

theorem subset_of_cons_subset {c : Char} (h : c :: rest ++ place ⊆ cs) : rest ++ place ⊆ cs :=
  fun _ hmem => h (List.mem_cons_of_mem c hmem)

/-- Behind two slashes there is a query only with a question mark. -/
theorem query_of_afterSlashes [Idna] (h : afterSlashes scheme cs = .ok u) (hno : '?' ∉ cs) :
    u.query = none := by
  have hbehind := behindHost_subset (!endsAuthority (layout scheme) ·) cs
  unfold afterSlashes at h
  simp only [bind, Except.bind] at h
  generalize (hostHead false _).2 = behindHost at h hbehind
  repeat' split at h
  all_goals
    cases h
  -- with a port or without, what is left stands behind the name of the host
  all_goals
    refine query_withTail (List.Subset.trans (pathAfterHost_subset _ _) ?_) hno _ _
  · next hport => exact List.Subset.trans (portHead_subset hport) (subset_of_cons_subset hbehind)
  · exact hbehind
  · next hport => exact List.Subset.trans (portHead_subset hport) (subset_of_cons_subset hbehind)
  · exact hbehind

/-- The URL of a file has a query only with a question mark. -/
theorem query_fileUrl {path : Path × List Char} (hsub : path.2 ⊆ cs) (hno : '?' ∉ cs)
    (host : Option Host) : (fileUrl host path).query = none :=
  query_withTail hsub hno _ _

/-- No form of the URL of a file brings a query without a question mark. -/
theorem query_of_afterFileScheme [Idna] (h : afterFileScheme cs = .ok u) (hno : '?' ∉ cs) :
    u.query = none := by
  unfold afterFileScheme at h
  simp only [bind, Except.bind] at h
  split at h
  · next a b rest =>
      have hrest : rest ⊆ a :: b :: rest :=
        List.subset_cons_of_subset a (List.subset_cons_self b rest)
      have hbehind : rest.dropWhile (!endsAuthority .file ·) ⊆ a :: b :: rest :=
        List.Subset.trans (List.dropWhile_subset _) hrest
      -- a drive, no host, a host, or no slashes in front: each leaves a part of the text
      repeat' split at h
      all_goals
        cases h
      · exact query_fileUrl (List.Subset.trans (readPath_subset ..) hrest) hno _
      · exact query_fileUrl (List.Subset.trans (readPath_subset ..) hbehind) hno _
      · exact query_fileUrl (List.Subset.trans (pathAfterHost_subset ..) hbehind) hno _
      · exact query_fileUrl (List.Subset.trans (pathAfterHost_subset ..) hbehind) hno _
      · exact query_fileUrl (readPath_subset ..) hno _
  · cases h
    exact query_fileUrl (readPath_subset ..) hno _

/-- In the place of a base without a query, a query takes a question mark as well. -/
theorem query_of_relative [Idna] (hbase : base.query = none) (h : relative base cs = .ok u)
    (hno : '?' ∉ cs) : u.query = none := by
  unfold relative at h
  dsimp only at h
  split at h
  · cases h
    exact hbase
  -- the text begins with the question mark itself
  · exact absurd List.mem_cons_self hno
  · cases h
    exact hbase
  · next c rest _ _ =>
      split at h
      · split at h
        · exact query_of_afterFileScheme h hno
        · split at h
          · refine query_of_afterSlashes h fun hmem => hno ?_
            split at hmem
            · next behind hafter =>
                rw [Text.eq_append_of_afterPrefix hafter]
                exact List.mem_append_right _ hmem
            · exact List.dropWhile_subset _ hmem
          · cases h
            exact query_withTail (List.subset_cons_of_subset c (readPath_subset ..)) hno _ _
      · cases h
        exact query_withTail (readPath_subset ..) hno _ _

/-- The same for a text behind its scheme, with a base and without. -/
theorem query_of_afterScheme [Idna] {b : Option Url} (hbase : ∀ base ∈ b, base.query = none)
    (h : afterScheme b scheme cs = .ok u) (hno : '?' ∉ cs) : u.query = none := by
  -- the schemes of the web pass over any slashes in front of the host
  have hslashes : ∀ {s : List Char}, afterSlashes s (cs.dropWhile (isSlash .fixed)) = .ok u →
      u.query = none := fun h =>
    query_of_afterSlashes h fun hmem => hno (List.dropWhile_subset _ hmem)
  unfold afterScheme at h
  split at h
  · exact query_of_afterFileScheme h hno
  · split at h
    · next base =>
        split at h
        · exact query_of_relative (hbase base rfl) h hno
        · exact hslashes h
    · exact hslashes h
  · split at h
    · next behind hafter =>
        refine query_of_afterSlashes h fun hmem => hno ?_
        rw [Text.eq_append_of_afterPrefix hafter]
        exact List.mem_append_right _ hmem
    · split at h
      · next rest _ =>
          cases h
          have hbehind := List.subset_cons_of_subset '/' (readPath_subset .free [] rest)
          exact query_withTail hbehind hno _ _
      · cases h
        exact query_withTail (List.dropWhile_subset _) hno _ _

theorem prepared_subset (cs : List Char) : prepared cs ⊆ cs := by
  intro c hc
  have hback := List.mem_reverse.mp (List.mem_filter.mp hc).1
  exact List.dropWhile_subset _ (List.mem_reverse.mp (List.dropWhile_subset _ hback))

/-- What stands behind the scheme is a part of the text. -/
theorem subset_of_schemeHead {name : List Char} (h : schemeHead? cs = some (name, rest)) :
    rest ⊆ cs := by
  unfold schemeHead? at h
  split at h
  · cases h
  · split at h
    · split at h
      · cases h
      · next text behind hsplit =>
          obtain ⟨s, -, heq, -⟩ := Text.splitFirst_eq_some hsplit
          split at h
          · cases h
            rw [heq]
            exact List.subset_append_of_subset_right _ (List.subset_cons_self _ _)
          · cases h
    · cases h

/-- Where neither the text nor the base has a query, there is none. -/
theorem query_of_join [Idna] {text : String} (hbase : base.query = none)
    (h : base.join text = .ok u) (hno : '?' ∉ text.toList) : u.query = none := by
  have hprepared : '?' ∉ prepared text.toList := fun hmem => hno (prepared_subset _ hmem)
  unfold join parseWith at h
  dsimp only at h
  split at h
  · next name rest hscheme =>
      refine query_of_afterScheme (fun b hb => ?_) h fun hmem => ?_
      · rw [← Option.some.inj hb]
        exact hbase
      · exact hprepared (subset_of_schemeHead hscheme hmem)
  · split at h
    · cases h
      exact hbase
    · cases h
    · exact query_of_relative hbase h hprepared

-- ============================================== a query of its own

/-- Behind a question mark stands the query, up to the fragment if there is
one. -/
theorem tail_question (hcs : ∀ c ∈ cs, c ≠ '#') (hrest : ∀ c ∈ rest.head?, c = '#') :
    (tail .fixed ('?' :: (cs ++ rest))).1 = some (encodeWith inSpecialQuery cs) := by
  have hno : ∀ c ∈ cs, (c == '#') = false := fun c hc => beq_false_of_ne (hcs c hc)
  cases rest with
  | nil =>
      rw [List.append_nil, tail, Text.splitFirst_eq_none hno]
      rfl
  | cons c f =>
      obtain rfl : c = '#' := hrest c rfl
      rw [tail, Text.splitFirst_append_cons hno rfl]
      rfl

/-- One slash in front leads to the host of the base. -/
theorem relative_slash [Idna] (hfixed : layout base.scheme = .fixed)
    (hhead : ∀ c ∈ cs.head?, isSlash .fixed c = false) :
    relative base ('/' :: cs)
      = .ok (withTail { base with path := (readPath .fixed [] cs).1 } .fixed
          (readPath .fixed [] cs).2) := by
  have hone : slashes ('/' :: cs) = 1 := by
    cases cs with
    | nil => rfl
    | cons c cs =>
        have hc : isSlash .fixed c = false := hhead c rfl
        simpa [slashes, isSlash] using hc
  unfold relative
  rw [hfixed]
  simp [hone]

/-- The query of a path on the web stands between the question mark and the
fragment. The characters that a query encodes are encoded. -/
theorem query_join_of_path [Idna] {path query : List Char} (hfixed : layout base.scheme = .fixed)
    (hbase : base.path = .segments items) (hpath : ∀ c ∈ path, 0x20 < c.toNat ∧ c ≠ '?' ∧ c ≠ '#')
    (hhead : ∀ c ∈ path.head?, isSlash .fixed c = false)
    (hquery : ∀ c ∈ query, 0x20 < c.toNat ∧ c ≠ '#') (hrest : ∀ c ∈ rest.head?, c = '#') :
    ∃ u, base.join (String.ofList ('/' :: path ++ '?' :: query ++ rest)) = .ok u
      ∧ u.query = some (encodeWith inSpecialQuery query) := by
  have hgreat : ∀ c ∈ '/' :: path ++ '?' :: query, 0x20 < c.toNat := by
    intro c hc
    rcases List.mem_append.mp hc with hc | hc
    · rcases List.mem_cons.mp hc with rfl | hc
      · decide
      · exact (hpath c hc).1
    · rcases List.mem_cons.mp hc with rfl | hc
      · decide
      · exact (hquery c hc).1
  obtain ⟨rest', hprepared, hrest'⟩ : ∃ rest',
      prepared ('/' :: path ++ '?' :: query ++ rest) = '/' :: path ++ '?' :: query ++ rest'
        ∧ ∀ c ∈ rest'.head?, c = '#' := by
    cases rest with
    | nil => exact ⟨[], by rw [List.append_nil, prepared_eq hgreat], by simp⟩
    | cons c f =>
        obtain rfl : c = '#' := hrest c rfl
        -- the number sign belongs to what is read as it is
        have hgreat' : ∀ c ∈ '/' :: path ++ '?' :: query ++ ['#'], 0x20 < c.toNat := by
          intro c hc
          rcases List.mem_append.mp hc with hc | hc
          · exact hgreat c hc
          · rw [List.mem_singleton.mp hc]
            decide
        obtain ⟨f', hf, -⟩ := prepared_append hgreat' (by simp) f
        exact ⟨'#' :: f', by simpa using hf, by simp⟩
  have hscheme : schemeHead? ('/' :: (path ++ '?' :: (query ++ rest'))) = none :=
    schemeHead?_eq_none (p := []) List.not_mem_nil (by simp)
  have hends : ∀ c ∈ path, (!endsPath c) = true := by
    intro c hc
    obtain ⟨-, hquestion, hhash⟩ := hpath c hc
    simp [endsPath, hquestion, hhash]
  have hbehind : (readPath .fixed [] (path ++ '?' :: (query ++ rest'))).2
      = '?' :: (query ++ rest') := by
    rw [readPath, List.dropWhile_append_of_pos hends]
    rfl
  have hhead' : ∀ c ∈ (path ++ '?' :: (query ++ rest')).head?, isSlash .fixed c = false := by
    cases path with
    | nil => simp [isSlash]
    | cons c path => exact hhead
  have hjoin : base.join (String.ofList ('/' :: path ++ '?' :: query ++ rest))
      = relative base ('/' :: (path ++ '?' :: (query ++ rest'))) := by
    refine join_of_prepared hbase ?_ hscheme (by simp)
    rw [String.toList_ofList, hprepared]
    simp
  rw [relative_slash hfixed hhead', hbehind] at hjoin
  exact ⟨_, hjoin, tail_question (fun c hc => (hquery c hc).2) hrest'⟩

end Sdwan.Url
