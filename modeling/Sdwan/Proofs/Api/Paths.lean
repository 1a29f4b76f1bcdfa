/-
Where the requests of a call go, for endpoints whose arguments are whole
segments of the path.

# Filling in

A template is filled in segment by segment: what is written is one segment
for each of the template's, joined by slashes (`fill_joined`), because form
encoding writes no slash.

# Resolving

What is written is read again as a reference relative to the interface.
Slashes in front are taken off before, so an empty segment that is first is
lost (`dropEmpty`), and dots are resolved. Neither can happen to the
segments of a template itself (`Segment.Fit`), but both can happen to the
values of its arguments: form encoding writes points as they are, and
writes nothing for nothing. `Contained` is what the values have to be like;
`segments_kept` says that this is exactly when the path keeps its segments,
and that the place of the interface is kept in any case.
-/
import Mathlib.Data.List.Forall2
import Sdwan.Proofs.Api.Attempts
import Sdwan.Proofs.Api.Building
import Sdwan.Proofs.Api.Calls
import Sdwan.Proofs.Success
import Sdwan.Proofs.Url.Form
import Sdwan.Tenant.Client

namespace Sdwan

open Http Http.Dialogue Url Text

variable {args params : List (String × String)} {cs name w rest : List Char}
  {vs : List (List Char)}

-- ============================================== templates

namespace Template

/-- A segment of a path template: as it stands, or an argument. -/
inductive Segment where
  | literal (cs : List Char)
  | hole (name : List Char)
deriving DecidableEq, Repr

/-- How a segment is written in a template. -/
def Segment.chars : Segment → List Char
  | literal cs => cs
  | hole name => '\x7b' :: name ++ ['\x7d']

/-- The segment means in a URL what it says. -/
def Segment.Fit : Segment → Prop
  | literal cs => IsPathText cs ∧ ¬ IsDots cs
  | hole name => '\x7d' ∉ name

instance : DecidablePred Segment.Fit
  | .literal cs => inferInstanceAs (Decidable (IsPathText cs ∧ ¬ IsDots cs))
  | .hole name => inferInstanceAs (Decidable ('\x7d' ∉ name))

/-- The segment is read in a template as what it is: the text opens no
argument, and the name does not end its own. -/
def Segment.Sound : Segment → Prop
  | literal cs => '\x7b' ∉ cs
  | hole name => '\x7d' ∉ name

instance : DecidablePred Segment.Sound
  | .literal cs => inferInstanceAs (Decidable ('\x7b' ∉ cs))
  | .hole name => inferInstanceAs (Decidable ('\x7d' ∉ name))

/-- The text that a segment has whatever the arguments are. -/
def Segment.word? : Segment → Option (List Char)
  | literal [] => none
  | literal (c :: cs) => some (c :: cs)
  | hole _ => none

/-- What is written for a segment. -/
def Shows (args : List (String × String)) : Segment → List Char → Prop
  | .literal cs, w => w = cs
  | .hole name, w => ∃ v, argument? args name = some v ∧ w = Form.encodePart v.toList

variable {s : Segment} {ss : List Segment}

/-- A segment has one text for given arguments. -/
theorem rightUnique_shows : Relator.RightUnique (Shows args) := by
  intro s w w' h h'
  cases s with
  | literal cs => exact h.trans h'.symm
  | hole name =>
      obtain ⟨v, hv, rfl⟩ := h
      obtain ⟨v', hv', rfl⟩ := h'
      rw [hv] at hv'
      rw [Option.some.inj hv']

theorem argument?_singleton (name value : String) :
    argument? [(name, value)] name.toList = some value := by
  simp [argument?]

-- ============================================== filling in

/-- A character in front of the pieces is kept as it is, whatever the pieces come
to. -/
theorem fill_addChar (c : Char) (ps : List Piece) :
    fill args (addChar c ps) = (fill args ps).map (c :: ·) := by
  unfold addChar
  split
  · next ds ps =>
      rw [fill, fill]
      cases fill args ps <;> rfl
  · rw [fill]
    rfl

/-- Outside of a placeholder, a character that opens none is copied. -/
theorem fill_cons {c : Char} (h : c ≠ '\x7b') :
    fill args (pieces none (c :: cs)) = (fill args (pieces none cs)).map (c :: ·) := by
  rw [pieces, beq_false_of_ne h, if_neg Bool.false_ne_true, fill_addChar]

/-- So is a whole text without an opening brace. -/
theorem fill_text_append (h : '\x7b' ∉ cs) :
    fill args (pieces none (cs ++ rest)) = (fill args (pieces none rest)).map (cs ++ ·) := by
  induction cs with
  | nil =>
      rw [List.nil_append]
      cases fill args (pieces none rest) <;> rfl
  | cons c cs ih =>
      rw [List.mem_cons, not_or] at h
      rw [List.cons_append, fill_cons (Ne.symm h.1), ih h.2]
      cases fill args (pieces none rest) <;> rfl

/-- A placeholder goes on to the first closing brace; what has been seen of its name
is kept backwards. -/
theorem pieces_name_append (seen : List Char) (h : '\x7d' ∉ name) :
    pieces (some seen) (name ++ '\x7d' :: rest)
      = .hole (seen.reverse ++ name) :: pieces none rest := by
  induction name generalizing seen with
  | nil => simp [pieces]
  | cons c name ih =>
      have hc : (c == '\x7d') = false := beq_false_of_ne fun heq => h (heq ▸ List.mem_cons_self)
      rw [List.cons_append, pieces, hc, if_neg Bool.false_ne_true,
        ih (c :: seen) fun hmem => h (List.mem_cons_of_mem c hmem)]
      simp

/-- A placeholder in its braces is one piece. -/
theorem pieces_hole_append (h : '\x7d' ∉ name) :
    pieces none ((Segment.hole name).chars ++ rest) = .hole name :: pieces none rest := by
  rw [Segment.chars, List.cons_append, List.cons_append, List.append_assoc]
  exact pieces_name_append [] h

/-- What a segment shows is written, and then the rest. -/
theorem fill_of_shows (h : s.Sound) (hw : Shows args s w) :
    fill args (pieces none (s.chars ++ rest)) = (fill args (pieces none rest)).map (w ++ ·) := by
  cases s with
  | literal cs =>
      obtain rfl := hw
      exact fill_text_append h
  | hole name =>
      obtain ⟨v, hv, rfl⟩ := hw
      rw [pieces_hole_append h, fill, hv]

/-- A segment that shows nothing is an argument that is not there. -/
theorem fill_of_missing (h : '\x7d' ∉ name) (hv : argument? args name = none) :
    fill args (pieces none ((Segment.hole name).chars ++ rest)) = .error (.missing name) := by
  rw [pieces_hole_append h, fill, hv]

/-- A segment has a text, unless it is a placeholder whose argument is missing. -/
theorem exists_shows_or (args : List (String × String)) (s : Segment) :
    (∃ w, Shows args s w) ∨ ∃ name, s = .hole name ∧ argument? args name = none := by
  cases s with
  | literal cs => exact Or.inl ⟨cs, rfl⟩
  | hole name =>
      cases hv : argument? args name with
      | none => exact Or.inr ⟨name, rfl, hv⟩
      | some v => exact Or.inl ⟨_, v, hv, rfl⟩

/-- One segment is filled in as it shows. -/
theorem fill_segment_append (h : s.Sound) {out : List Char} :
    fill args (pieces none (s.chars ++ rest)) = .ok out
      ↔ ∃ w out', Shows args s w ∧ fill args (pieces none rest) = .ok out' ∧ out = w ++ out' := by
  rcases exists_shows_or args s with ⟨w, hw⟩ | ⟨name, rfl, hv⟩
  · rw [fill_of_shows h hw, ok_map_iff]
    constructor
    · rintro ⟨out', hout', rfl⟩
      exact ⟨w, out', hw, hout', rfl⟩
    · rintro ⟨w', out', hw', hout', rfl⟩
      exact ⟨out', hout', by rw [rightUnique_shows hw hw']⟩
  · rw [fill_of_missing h hv]
    refine iff_of_false nofun ?_
    rintro ⟨w, out', ⟨v, hv', -⟩, -⟩
    rw [hv] at hv'
    cases hv'

/-- A segment that fits has no brace in it that could be taken for another one. -/
theorem Segment.Fit.sound (h : s.Fit) : s.Sound := by
  cases s with
  | literal cs => exact fun hmem => absurd (h.1 _ hmem) (by decide)
  | hole name => exact h

/-- A template of segments is filled in with what its segments show. -/
theorem fill_joined (h : ∀ s ∈ ss, s.Sound) {out : List Char} :
    fill args (pieces none (joined '/' (ss.map Segment.chars))) = .ok out
      ↔ ∃ vs, List.Forall₂ (Shows args) ss vs ∧ out = joined '/' vs := by
  induction ss generalizing out with
  | nil => simp [joined, pieces, fill, eq_comm]
  | cons s ss ih =>
      have hs := h s List.mem_cons_self
      cases ss with
      | nil =>
          -- behind the last segment there is no slash to be written
          rw [List.map_singleton, joined, ← List.append_nil s.chars, fill_segment_append hs]
          constructor
          · rintro ⟨w, out', hw, hout', rfl⟩
            cases hout'
            exact ⟨[w], .cons hw .nil, List.append_nil w⟩
          · rintro ⟨vs, hvs, rfl⟩
            cases hvs with
            | cons hw hvs =>
                cases hvs
                exact ⟨_, [], hw, rfl, (List.append_nil _).symm⟩
      | cons t ss =>
          have htail : ∀ t' ∈ t :: ss, t'.Sound := fun t' ht' => h t' (List.mem_cons_of_mem s ht')
          rw [List.map_cons, List.map_cons, joined, fill_segment_append hs, fill_cons (by decide)]
          constructor
          · rintro ⟨w, out', hw, hout', rfl⟩
            obtain ⟨o, ho, rfl⟩ := ok_map_iff.mp hout'
            obtain ⟨vs, hvs, rfl⟩ := (ih htail).mp ho
            refine ⟨w :: vs, .cons hw hvs, ?_⟩
            cases hvs with
            | cons ht hvs => rfl
          · rintro ⟨vs, hvs, rfl⟩
            cases hvs with
            | cons hw hvs =>
                cases hvs with
                | cons ht hvs =>
                    refine ⟨_, _, hw, ?_, rfl⟩
                    rw [← List.map_cons, (ih htail).mpr ⟨_, .cons ht hvs, rfl⟩]
                    rfl

-- ============================================== segments in front

/-- Without the empty segments that come first. The last segment stays. -/
def dropEmpty : List (List Char) → List (List Char)
  | [] :: w :: ws => dropEmpty (w :: ws)
  | ws => ws

/-- Taking slashes off the text takes empty segments off the path. -/
theorem dropWhile_joined (h : ∀ v ∈ vs, '/' ∉ v) :
    (joined '/' vs).dropWhile (· == '/') = joined '/' (dropEmpty vs) := by
  fun_induction dropEmpty vs with
  | case1 w ws ih =>
      rw [← ih fun v hv => h v (List.mem_cons_of_mem [] hv)]
      rfl
  | case2 vs hvs =>
      match vs, hvs with
      | [], _ => rfl
      | [[]], _ => rfl
      | [] :: w :: ws, hvs => exact absurd rfl (hvs w ws)
      | (c :: v) :: ws, _ =>
          have hc : c ≠ '/' := fun heq => h _ List.mem_cons_self (heq ▸ List.mem_cons_self)
          cases ws <;> exact List.dropWhile_cons_of_neg (by simp [hc])

/-- Taking off empty segments makes no path longer. -/
theorem length_dropEmpty_le (vs : List (List Char)) : (dropEmpty vs).length ≤ vs.length := by
  fun_induction dropEmpty vs with
  | case1 w ws ih => exact ih.trans (Nat.le_succ _)
  | case2 vs => exact le_rfl

theorem mem_of_mem_dropEmpty (h : w ∈ dropEmpty vs) : w ∈ vs := by
  fun_induction dropEmpty vs with
  | case1 w' ws ih => exact List.mem_cons_of_mem [] (ih h)
  | case2 vs => exact h

/-- What is left is one empty segment, or begins with another. -/
theorem dropEmpty_head? (h : vs ≠ []) :
    dropEmpty vs ≠ [] ∧ (dropEmpty vs = [[]] ∨ (dropEmpty vs).head? ≠ some []) := by
  fun_induction dropEmpty vs with
  | case1 w ws ih => exact ih (List.cons_ne_nil w ws)
  | case2 vs hvs =>
      match vs, hvs with
      | [], _ => exact absurd rfl h
      | [[]], _ => exact ⟨h, Or.inl rfl⟩
      | [] :: w :: ws, hvs => exact absurd rfl (hvs w ws)
      | (c :: v) :: ws, _ => exact ⟨h, Or.inr (by simp)⟩

/-- If nothing is lost in length, nothing was taken off. -/
theorem dropEmpty_of_length (h : vs.length ≤ (dropEmpty vs).length) : dropEmpty vs = vs := by
  fun_cases dropEmpty vs with
  | case1 w ws =>
      have hle := length_dropEmpty_le (w :: ws)
      rw [dropEmpty, List.length_cons] at h
      omega
  | case2 vs => rfl

/-- Nothing is taken off unless an empty segment comes before another. -/
theorem dropEmpty_eq_self : dropEmpty vs = vs ↔ ∀ w ws, vs ≠ [] :: w :: ws := by
  constructor
  · rintro h w ws rfl
    have hle := length_dropEmpty_le (w :: ws)
    rw [← dropEmpty, h, List.length_cons] at hle
    omega
  · intro h
    unfold dropEmpty
    split
    · exact absurd rfl (h _ _)
    · rfl

-- ============================================== segments of a reference

/-- The text of a segment can stand in a path: literals are fit for it, and
arguments are form encoded. -/
theorem Shows.chars (h : Shows args s w) (hs : s.Fit) : IsPathText w := by
  cases s with
  | literal cs =>
      obtain rfl := h
      exact hs.1
  | hole name =>
      obtain ⟨v, -, rfl⟩ := h
      exact fun c hc => (isPathChar_of_inUserinfo (Form.mem_encodePart hc)).1

/-- Each text is that of a segment. -/
theorem exists_shows (h : List.Forall₂ (Shows args) ss vs) (hw : w ∈ vs) :
    ∃ s ∈ ss, Shows args s w := by
  induction h with
  | nil => cases hw
  | cons hs _ ih =>
      rcases List.mem_cons.mp hw with rfl | hw
      · exact ⟨_, List.mem_cons_self, hs⟩
      · obtain ⟨s, hmem, hs⟩ := ih hw
        exact ⟨s, List.mem_cons_of_mem _ hmem, hs⟩

/-- Form encoding leaves no colon, so only a literal can hold one. -/
theorem Shows.no_colon (h : Shows args s w) (hword : ∀ cs ∈ s.word?, ':' ∉ cs) : ':' ∉ w := by
  cases s with
  | literal cs =>
      obtain rfl := h
      cases w with
      | nil => exact List.not_mem_nil
      | cons c cs => exact hword _ rfl
  | hole name =>
      obtain ⟨v, -, rfl⟩ := h
      exact fun hmem => (isPathChar_of_inUserinfo (Form.mem_encodePart hmem)).2 rfl

/-- A segment without a text is no literal. -/
theorem Shows.word?_eq_none (h : Shows args s []) : s.word? = none := by
  cases s with
  | literal cs =>
      rw [← show [] = cs from h]
      rfl
  | hole name => rfl

/-- The first segment that is left has no colon, so the path is not taken for an
address with a scheme. -/
theorem no_scheme_dropEmpty (h : List.Forall₂ (Shows args) ss vs)
    (hword : ∀ cs ∈ ss.findSome? Segment.word?, ':' ∉ cs) :
    ∀ w ∈ (dropEmpty vs).head?, ':' ∉ w := by
  induction h with
  | nil => simp [dropEmpty]
  | @cons s w ss vs hs hrest ih =>
      rw [List.findSome?_cons] at hword
      -- what is shown first stays first, or it was empty and the next takes its place
      by_cases hdrop : dropEmpty (w :: vs) = w :: vs
      · rw [hdrop]
        intro w' hw'
        obtain rfl := Option.some.inj hw'
        refine hs.no_colon fun cs hcs => hword cs ?_
        rw [Option.mem_def.mp hcs]
        rfl
      · rw [dropEmpty_eq_self] at hdrop
        push Not at hdrop
        obtain ⟨w', ws, heq⟩ := hdrop
        obtain ⟨rfl, rfl⟩ := List.cons.inj heq
        rw [hs.word?_eq_none] at hword
        exact ih hword

end Template

-- ============================================== endpoints

open Template

variable {ss : List Segment}

/-- The path of an endpoint is made of these segments. -/
structure Endpoint.MadeOf (e : Endpoint) (ss : List Segment) : Prop where
  path : e.path.toList.dropWhile (· == '/') = joined '/' (ss.map Segment.chars)
  ne_nil : ss ≠ []
  fit : ∀ s ∈ ss, s.Fit
  /-- It has no scheme in front. -/
  no_scheme : ∀ cs ∈ ss.findSome? Segment.word?, ':' ∉ cs

instance (e : Endpoint) (ss : List Segment) : Decidable (e.MadeOf ss) :=
  decidable_of_iff
    (e.path.toList.dropWhile (· == '/') = joined '/' (ss.map Segment.chars) ∧ ss ≠ []
      ∧ (∀ s ∈ ss, s.Fit) ∧ ∀ cs ∈ ss.findSome? Segment.word?, ':' ∉ cs)
    ⟨fun ⟨path, ne_nil, fit, no_scheme⟩ => ⟨path, ne_nil, fit, no_scheme⟩,
      fun ⟨path, ne_nil, fit, no_scheme⟩ => ⟨path, ne_nil, fit, no_scheme⟩⟩

/-- The values of the arguments stay in their segments. -/
structure Contained (args : List (String × String)) (ss : List Segment) : Prop where
  no_dots : ∀ name, .hole name ∈ ss →
    argument? args name ≠ some "." ∧ argument? args name ≠ some ".."
  first : ∀ name s rest, ss = .hole name :: s :: rest → argument? args name ≠ some ""

namespace Endpoint

variable {e : Endpoint}

/-- A path is what filling its template gives, without the slashes in front. -/
theorem renderPath_eq_ok {path : String} :
    e.renderPath args = .ok path
      ↔ ∃ cs, fill args (pieces none (e.path.toList.dropWhile (· == '/'))) = .ok cs
          ∧ String.ofList cs = path := by
  unfold renderPath
  cases fill args (pieces none (e.path.toList.dropWhile (· == '/'))) with
  | ok cs => simp
  | error err => cases err <;> simp

/-- For an endpoint that is made of segments, it is their texts with slashes between
them. -/
theorem MadeOf.renderPath_eq_ok (he : e.MadeOf ss) {path : String} :
    e.renderPath args = .ok path
      ↔ ∃ vs, List.Forall₂ (Shows args) ss vs ∧ String.ofList (joined '/' vs) = path := by
  rw [Endpoint.renderPath_eq_ok, he.path]
  simp only [fill_joined fun s hs => (he.fit s hs).sound]
  constructor
  · rintro ⟨_, ⟨vs, hvs, rfl⟩, hpath⟩
    exact ⟨vs, hvs, hpath⟩
  · rintro ⟨vs, hvs, hpath⟩
    exact ⟨_, ⟨vs, hvs, rfl⟩, hpath⟩

/-- All of them can stand in a path. -/
theorem MadeOf.chars (he : e.MadeOf ss) (hvs : List.Forall₂ (Shows args) ss vs) :
    ∀ v ∈ vs, IsPathText v := by
  intro v hv
  obtain ⟨s, hs, hshow⟩ := exists_shows hvs hv
  exact hshow.chars (he.fit s hs)

/-- What is left of them is a reference that is relative to any place. -/
theorem MadeOf.isReference (he : e.MadeOf ss) (hvs : List.Forall₂ (Shows args) ss vs) :
    IsReference (dropEmpty vs) := by
  have hne : vs ≠ [] := by
    rintro rfl
    cases hvs
    exact he.ne_nil rfl
  obtain ⟨hleft, hslash⟩ := dropEmpty_head? hne
  exact ⟨hleft, fun w hw => he.chars hvs w (mem_of_mem_dropEmpty hw),
    no_scheme_dropEmpty hvs he.no_scheme, hslash⟩

/-- Such a path leads on from the place of the interface, without the empty segments
in front. -/
theorem MadeOf.buildUrl_eq [Platform] {c : Client} {dir : List (List Char)} (he : e.MadeOf ss)
    (hbase : c.apiUrl.IsBase dir) (hvs : List.Forall₂ (Shows args) ss vs) :
    c.buildUrl (String.ofList (joined '/' vs))
      = .ok { c.apiUrl with path := .segments (addSegments .fixed dir (dropEmpty vs)) } := by
  have hslash : ∀ v ∈ vs, '/' ∉ v := fun v hv hmem => (he.chars hvs v hv _ hmem).2.1 rfl
  rw [Client.buildUrl, String.toList_ofList, dropWhile_joined hslash,
    join_of_isBase hbase (he.isReference hvs)]
  rfl

end Endpoint

-- ============================================== values

/-- Only an argument can stand for a place above: it has to be the points
themselves, since encoding keeps points and no other text becomes one. -/
theorem isDots_iff {s : Segment} (h : Shows args s w) (hs : s.Fit) :
    IsDots w ↔ ∃ name, s = .hole name
      ∧ (argument? args name = some "." ∨ argument? args name = some "..") := by
  cases s with
  | literal cs =>
      obtain rfl := h
      simp [hs.2]
  | hole name =>
      obtain ⟨v, hv, rfl⟩ := h
      have htext : ∀ t : String, v.toList = t.toList ↔ v = t := fun t => String.toList_inj
      simp [IsDots, Form.isSingleDot_encodePart, Form.isDoubleDot_encodePart, hv, ← htext]

/-- The same for all segments at once. -/
theorem forall_not_isDots_iff (hfit : ∀ s ∈ ss, s.Fit) (hvs : List.Forall₂ (Shows args) ss vs) :
    (∀ w ∈ vs, ¬ IsDots w)
      ↔ ∀ name, .hole name ∈ ss →
          argument? args name ≠ some "." ∧ argument? args name ≠ some ".." := by
  induction hvs with
  | nil => simp
  | cons hs hrest ih =>
      have hfirst := isDots_iff hs (hfit _ List.mem_cons_self)
      rw [List.forall_mem_cons, hfirst, ih fun s hs => hfit s (List.mem_cons_of_mem _ hs)]
      simp only [List.mem_cons, not_exists, not_and, not_or]
      constructor
      · rintro ⟨h, h'⟩ name (heq | hmem)
        · exact h name heq.symm
        · exact h' name hmem
      · intro h
        exact ⟨fun name heq => h name (Or.inl heq.symm), fun name hmem => h name (Or.inr hmem)⟩

/-- Nothing is lost in front exactly when no argument that comes before
others is empty. -/
theorem Endpoint.MadeOf.dropEmpty_eq_self_iff {e : Endpoint} (he : e.MadeOf ss)
    (hvs : List.Forall₂ (Shows args) ss vs) :
    dropEmpty vs = vs
      ↔ ∀ name s rest, ss = .hole name :: s :: rest → argument? args name ≠ some "" := by
  rw [dropEmpty_eq_self]
  constructor
  · rintro h name s rest rfl hempty
    cases hvs with
    | cons hs hrest =>
        cases hrest with
        | cons =>
            obtain ⟨v, hv, rfl⟩ := hs
            rw [hempty] at hv
            cases hv
            exact h _ _ rfl
  · rintro h w ws rfl
    match ss, hvs with
    | .literal cs :: s :: rest, .cons hw _ =>
        -- the template would begin with a slash
        obtain rfl : [] = cs := hw
        have hpath := he.path
        rw [List.map_cons, List.map_cons, joined, Segment.chars, List.nil_append] at hpath
        have hhead := List.head?_dropWhile_not (· == '/') e.path.toList
        rw [hpath] at hhead
        simp at hhead
    | .hole name :: s :: rest, .cons ⟨v, hv, hw⟩ _ =>
        have hempty : v.toList = "".toList := Form.encodePart_eq_nil hw.symm
        rw [String.toList_inj] at hempty
        exact h name s rest rfl (hempty ▸ hv)

/-- The path goes on with what is shown exactly when the values are
contained. -/
theorem Endpoint.MadeOf.addSegments_eq_iff {e : Endpoint} (he : e.MadeOf ss)
    (hvs : List.Forall₂ (Shows args) ss vs) (dir : List (List Char)) :
    addSegments .fixed dir (dropEmpty vs) = dir ++ vs ↔ Contained args ss := by
  have hadd : addSegments .fixed dir (dropEmpty vs) = dir ++ dropEmpty vs ↔ _ :=
    addSegments_eq_append (he.isReference hvs).chars
  have hdots := forall_not_isDots_iff he.fit hvs
  have hfirst := he.dropEmpty_eq_self_iff hvs
  constructor
  · intro heq
    -- without a segment the path would be too short, and dots make none longer
    have hself : dropEmpty vs = vs := by
      have hlength := length_addSegments_le dir (dropEmpty vs)
      rw [heq, List.length_append] at hlength
      exact dropEmpty_of_length (by omega)
    rw [hself] at hadd heq
    exact ⟨hdots.mp (hadd.mp heq), hfirst.mp hself⟩
  · rintro ⟨hno, hempty⟩
    have hself := hfirst.mpr hempty
    rw [hself] at hadd ⊢
    exact hadd.mpr (hdots.mpr hno)

-- ============================================== calls

/-- Where all arguments are there, all segments show something. -/
theorem exists_forall₂_shows (h : ∀ name, .hole name ∈ ss → ∃ v, argument? args name = some v) :
    ∃ vs, List.Forall₂ (Shows args) ss vs := by
  induction ss with
  | nil => exact ⟨[], .nil⟩
  | cons s ss ih =>
      obtain ⟨vs, hvs⟩ := ih fun name hname => h name (List.mem_cons_of_mem s hname)
      cases s with
      | literal cs => exact ⟨cs :: vs, .cons rfl hvs⟩
      | hole name =>
          obtain ⟨v, hv⟩ := h name List.mem_cons_self
          exact ⟨_ :: vs, .cons ⟨v, hv, rfl⟩ hvs⟩

/-- The requests of a call go to the place of the interface and on from
there, with the query of the call. The path goes on with the segments of the
template, each literal as it is and each argument form encoded, exactly when
the values of the arguments are contained. A value that is a point or two
points is resolved instead, and an empty value that comes before other
segments is lost. -/
theorem Call.segments_kept [Platform] {α σ : Type} (k : Call α) {c : Client} (hmade : c.Made)
    {e : Endpoint}
    (he : e.MadeOf ss) (args params : List (String × String)) (serve : Server σ) (s : σ) :
    ∃ dir, c.apiUrl.IsBase dir
      ∧ (∀ r ∈ (Dialogue.run serve (k.action c e args params).run s).requests,
          ∃ vs, List.Forall₂ (Shows args) ss vs
            ∧ r.url = Url.appendQuery
                { c.apiUrl with path := .segments (addSegments .fixed dir (dropEmpty vs)) } params
            ∧ (addSegments .fixed dir (dropEmpty vs) = dir ++ vs ↔ Contained args ss))
      ∧ (c.ensureSupported e = .ok () →
          (∀ name, .hole name ∈ ss → ∃ v, argument? args name = some v) →
          (Dialogue.run serve (k.action c e args params).run s).requests ≠ []) := by
  obtain ⟨dir, hbase⟩ := hmade.isBase
  refine ⟨dir, hbase, ?_, fun hsupported hargs => ?_⟩
  · refine (k.allSent_action fun _ path url p hpath hurl => ?_).run serve s
    obtain ⟨vs, hvs, rfl⟩ := he.renderPath_eq_ok.mp hpath
    rw [he.buildUrl_eq hbase hvs] at hurl
    cases hurl
    exact ⟨vs, hvs, Client.url_request c _ _ params p, he.addSegments_eq_iff hvs dir⟩
  · obtain ⟨vs, hvs⟩ := exists_forall₂_shows hargs
    exact k.requests_ne_nil hsupported (he.renderPath_eq_ok.mpr ⟨vs, hvs, rfl⟩)
      (he.buildUrl_eq hbase hvs) serve s

/-- The path of an archive that is downloaded. -/
def downloadSegments : List Segment :=
  [.literal "tenantmigration".toList, .literal "download".toList, .hole "path".toList]

theorem madeOf_downloadSegments : MigrationClient.downloadEndpoint.MadeOf downloadSegments :=
  ⟨by decide +kernel, by decide, by decide +kernel, by decide +kernel⟩

section Stock

attribute [local instance] Stock.platform

/-- An archive of the name `..` is looked for one level above the archives. -/
theorem Call.segments_kept_dots :
    ((ClientBuilder.onLocalhost {}).client []).Made
      ∧ MigrationClient.downloadEndpoint.MadeOf downloadSegments
      ∧ ¬ Contained [("path", "..")] downloadSegments
      ∧ ∃ r ∈ (Dialogue.run (fun _ s => (.refused, s)) (MigrationClient.download
            ⟨(ClientBuilder.onLocalhost {}).client []⟩ (some "..")).run ()).requests,
        r.url.path = .segments ["dataservice".toList, "tenantmigration".toList, []] := by
  have hvalue := argument?_singleton "path" ".."
  obtain ⟨dir, hbase, hurls, hsends⟩ :=
    Call.segments_kept .bytes (Client.made_onLocalhost {}) madeOf_downloadSegments
      [("path", "..")] [] (fun _ s => (.refused, s)) ()
  have hargs : ∀ name, .hole name ∈ downloadSegments →
      ∃ v, argument? [("path", "..")] name = some v := by
    intro name hname
    obtain rfl : name = "path".toList := by simpa [downloadSegments] using hname
    exact ⟨"..", hvalue⟩
  obtain ⟨r, hr⟩ := List.exists_mem_of_ne_nil _ (hsends rfl hargs)
  obtain ⟨vs, hvs, hurl, hkept⟩ := hurls r hr
  obtain rfl : ["dataservice".toList] = dir := by
    have hpath : ["dataservice".toList] ++ [[]] = dir ++ [[]] := Path.segments.inj hbase.path
    exact List.append_inj_left' hpath rfl
  have hshows : List.Forall₂ (Shows [("path", "..")]) downloadSegments
      ["tenantmigration".toList, "download".toList, "..".toList] :=
    .cons rfl (.cons rfl (.cons ⟨"..", hvalue, by decide +kernel⟩ .nil))
  obtain rfl := List.right_unique_forall₂' rightUnique_shows hshows hvs
  refine ⟨Client.made_onLocalhost {}, madeOf_downloadSegments, ?_, r, hr, ?_⟩
  · rw [← hkept]
    decide +kernel
  · rw [hurl]
    decide +kernel

end Stock

end Sdwan
