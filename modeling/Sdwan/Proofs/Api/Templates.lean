/-
What filling in a path template comes to, for every template.

# Reading

A template is read from the left, as segments that show something and a rest
(`Begins`). The rest is nothing, or begins with an argument that is not
there, or with a brace that no other closes (`Ends`); one of the three comes
after finitely many segments (`exists_begins`), and it decides about the
outcome (`renderPath_outcomes`).

# Braces

What opens an argument is looked for in texts, and what closes it is looked for
in names. A closing brace in a text is a part of the text, and an opening
brace in a name is a part of the name. Hence an opening brace is never
written, and a closing one is written wherever a text has it.

# Values

Where the arguments are whole segments, the segment of an argument can be
taken out of the path again. Read as a segment of a URL it gives the value
that it was written for, but for blanks (`percentDecode_segments`).
-/
import Sdwan.Proofs.Api.Paths

namespace Sdwan

open Url Text

namespace Template

variable {args : List (String × String)} {cs name rest w : List Char} {ss : List Segment}
  {s : Segment} {ws : List (List Char)}

-- ============================================== reading

/-- A text begins with these segments, which show these texts, and goes on
with the rest. -/
structure Begins (args : List (String × String)) (cs : List Char) (ss : List Segment)
    (ws : List (List Char)) (rest : List Char) : Prop where
  chars : cs = ss.flatMap Segment.chars ++ rest
  sound : ∀ s ∈ ss, s.Sound
  shows : List.Forall₂ (Shows args) ss ws

/-- How reading ends: at the end, before an argument that is not there, or
before a brace that is not closed. -/
inductive Ends (args : List (String × String)) :
    List Char → Except FillError (List Char) → Prop where
  | done : Ends args [] (.ok [])
  | missing {name : List Char} (rest : List Char) (hname : '\x7d' ∉ name)
      (hv : argument? args name = none) :
    Ends args ((Segment.hole name).chars ++ rest) (.error (.missing name))
  | unclosed {name : List Char} (hname : '\x7d' ∉ name) :
    Ends args ('\x7b' :: name) (.error .unclosed)

theorem begins_nil (cs : List Char) : Begins args cs [] [] cs :=
  ⟨rfl, fun _ hs => absurd hs List.not_mem_nil, .nil⟩

/-- One more segment in front, with what it shows. -/
theorem Begins.cons (h : Begins args cs ss ws rest) (hs : s.Sound) (hw : Shows args s w) :
    Begins args (s.chars ++ cs) (s :: ss) (w :: ws) rest where
  chars := by rw [h.chars, List.flatMap_cons, List.append_assoc]
  sound := List.forall_mem_cons.mpr ⟨hs, h.sound⟩
  shows := .cons hw h.shows

/-- What the segments show is written, and then the rest. -/
theorem Begins.fill_eq (h : Begins args cs ss ws rest) :
    fill args (pieces none cs) = (fill args (pieces none rest)).map (ws.flatten ++ ·) := by
  obtain ⟨rfl, hsound, hshows⟩ := h
  induction hshows with
  | nil =>
      rw [List.flatMap_nil, List.nil_append]
      cases fill args (pieces none rest) <;> rfl
  | cons hw _ ih =>
      rw [List.flatMap_cons, List.append_assoc, fill_of_shows (hsound _ List.mem_cons_self) hw,
        ih fun s hs => hsound s (List.mem_cons_of_mem _ hs)]
      cases fill args (pieces none rest) with
      | error err => rfl
      | ok out => exact congrArg Except.ok (List.append_assoc _ _ _).symm

/-- A brace that is not closed makes the rest of the template one piece. -/
theorem pieces_unclosed (seen : List Char) (h : '\x7d' ∉ name) :
    pieces (some seen) name = [.unclosed] := by
  induction name generalizing seen with
  | nil => rfl
  | cons c name ih =>
      rw [List.mem_cons, not_or] at h
      rw [pieces, beq_false_of_ne (Ne.symm h.1), if_neg Bool.false_ne_true, ih _ h.2]

/-- Filling comes to the end that the rest of the template leads to. -/
theorem Ends.fill_eq {r : Except FillError (List Char)} (h : Ends args rest r) :
    fill args (pieces none rest) = r := by
  cases h with
  | done => rfl
  | missing rest hname hv => exact fill_of_missing hname hv
  | unclosed hname =>
      rw [pieces, beq_self_eq_true, if_pos rfl, pieces_unclosed [] hname]
      rfl

/-- Text without an opening brace comes before what is read behind it. -/
theorem Begins.text {text : List Char} (h : Begins args cs ss ws rest) (htext : '\x7b' ∉ text) :
    Begins args (text ++ cs) (.literal text :: ss) (text :: ws) rest :=
  h.cons (s := .literal text) htext rfl

/-- Every text begins with segments behind which reading ends. The induction
is on the length: behind a closing brace there is less to be read. -/
theorem exists_begins (args : List (String × String)) (cs : List Char) :
    ∃ ss ws rest r, Begins args cs ss ws rest ∧ Ends args rest r := by
  induction hn : cs.length using Nat.strong_induction_on generalizing cs with
  | _ n ih =>
      by_cases hopen : '\x7b' ∈ cs
      · obtain ⟨text, tail, rfl, htext⟩ := List.eq_append_cons_of_mem hopen
        by_cases hclose : '\x7d' ∈ tail
        · -- the first brace that closes ends the name, whatever else the name holds
          obtain ⟨name, tail, rfl, hname⟩ := List.eq_append_cons_of_mem hclose
          have hhole : '\x7b' :: (name ++ '\x7d' :: tail) = (Segment.hole name).chars ++ tail := by
            simp [Segment.chars]
          rw [hhole]
          cases hv : argument? args name with
          | none => exact ⟨_, _, _, _, (begins_nil _).text htext, .missing tail hname hv⟩
          | some v =>
              have hshorter : tail.length < n := by
                simp only [List.length_append, List.length_cons] at hn
                omega
              obtain ⟨ss, ws, rest, r, htail, hends⟩ := ih _ hshorter tail rfl
              have hbegins := htail.cons (s := .hole name) hname ⟨v, hv, rfl⟩
              exact ⟨_, _, rest, r, hbegins.text htext, hends⟩
        · exact ⟨_, _, _, _, (begins_nil _).text htext, .unclosed hclose⟩
      · have hall : Begins args (cs ++ []) _ _ [] := (begins_nil []).text hopen
        rw [List.append_nil] at hall
        exact ⟨_, _, _, _, hall, .done⟩

/-- A template that is read to its end is written. -/
theorem fill_eq_ok_iff {out : List Char} :
    fill args (pieces none cs) = .ok out
      ↔ ∃ ss ws, Begins args cs ss ws [] ∧ out = ws.flatten := by
  constructor
  · intro h
    obtain ⟨ss, ws, rest, r, hbegins, hends⟩ := exists_begins args cs
    rw [hbegins.fill_eq, hends.fill_eq] at h
    cases hends with
    | done => exact ⟨ss, ws, hbegins, by simpa [Except.map] using h.symm⟩
    | missing => cases h
    | unclosed => cases h
  · intro ⟨ss, ws, hbegins, hout⟩
    rw [hbegins.fill_eq, hout, Ends.done.fill_eq]
    exact congrArg Except.ok (List.append_nil _)

/-- Any other has the fault that reading ends with. -/
theorem fill_eq_error_iff {err : FillError} :
    fill args (pieces none cs) = .error err
      ↔ ∃ ss ws rest, Begins args cs ss ws rest ∧ Ends args rest (.error err) := by
  constructor
  · intro h
    obtain ⟨ss, ws, rest, r, hbegins, hends⟩ := exists_begins args cs
    rw [hbegins.fill_eq, hends.fill_eq] at h
    cases r with
    | ok out => cases h
    | error err' =>
        cases h
        exact ⟨ss, ws, rest, hbegins, hends⟩
  · intro ⟨ss, ws, rest, hbegins, hends⟩
    rw [hbegins.fill_eq, hends.fill_eq]
    rfl

-- ============================================== braces

/-- Of the braces only those are written that close nothing. -/
theorem Begins.mem_brace (h : Begins args cs ss ws rest) :
    '\x7b' ∉ ws.flatten
      ∧ ('\x7d' ∈ ws.flatten ↔ ∃ text, .literal text ∈ ss ∧ '\x7d' ∈ text) := by
  obtain ⟨-, hsound, hshows⟩ := h
  induction hshows with
  | nil => simp
  | @cons s w ss ws hw _ ih =>
      obtain ⟨hopen, hclose⟩ := ih fun s hs => hsound s (List.mem_cons_of_mem _ hs)
      have hs := hsound s List.mem_cons_self
      rw [List.flatten_cons, List.mem_append, List.mem_append, hclose]
      cases s with
      | literal text =>
          obtain rfl := hw
          refine ⟨not_or.mpr ⟨hs, hopen⟩, ?_⟩
          simp [or_and_right, exists_or]
      | hole name =>
          obtain ⟨v, -, rfl⟩ := hw
          have hno : ∀ {c}, Form.isFormChar c = false → c ∉ Form.encodePart v.toList :=
            fun hc hmem => by simp [Form.isFormChar_of_mem_encodePart hmem] at hc
          refine ⟨not_or.mpr ⟨hno (by decide), hopen⟩, ?_⟩
          simp [hno (c := '\x7d') (by decide)]

end Template

-- ============================================== endpoints

namespace Endpoint

open Template

variable {e : Endpoint} {args : List (String × String)} {ss : List Segment}

/-- The path without the slashes in front. -/
def template (e : Endpoint) : List Char := e.path.toList.dropWhile (· == '/')

/-- What is said of an argument that is not there. -/
def missingText (e : Endpoint) (name : List Char) : String :=
  "missing path argument " ++ backquoted (String.ofList name) ++ " for " ++ backquoted e.path

/-- What is said of a brace that is not closed. -/
def unbalancedText (e : Endpoint) : String := "unbalanced placeholder in " ++ backquoted e.path

/-- Why a path cannot be written. -/
def fault (e : Endpoint) : FillError → Error
  | .missing name => .invalidRequest (e.missingText name)
  | .unclosed => .invalidRequest e.unbalancedText

/-- Rendering fails with the fault that filling meets. -/
theorem renderPath_eq_error {err : Error} :
    e.renderPath args = .error err
      ↔ ∃ f, fill args (pieces none e.template) = .error f ∧ err = e.fault f := by
  -- each of the two faults of filling has an error of its own
  have hfault : ∀ f, fill args (pieces none e.template) = .error f →
      e.renderPath args = .error (e.fault f) := by
    intro f hf
    unfold renderPath
    rw [← template, hf]
    cases f <;> rfl
  constructor
  · intro h
    cases hfill : fill args (pieces none e.template) with
    | ok cs =>
        rw [renderPath_eq_ok.mpr ⟨cs, hfill, rfl⟩] at h
        cases h
    | error f =>
        rw [hfault f hfill] at h
        exact ⟨f, rfl, (Except.error.inj h).symm⟩
  · intro ⟨f, hf, herr⟩
    rw [hfault f hf, herr]

/-- A path is written exactly when the template consists of texts without an
opening brace and of arguments that are there, whose names have no closing
brace. It is the texts and the values, and of the braces only those stand in
it that close nothing. In every other case the request is invalid: there is
an argument that is not there, or a brace that is not closed. -/
theorem renderPath_outcomes (e : Endpoint) (args : List (String × String)) :
    (∀ path, e.renderPath args = .ok path
      ↔ ∃ ss ws, Begins args e.template ss ws [] ∧ path.toList = ws.flatten)
    ∧ (∀ path ss ws, Begins args e.template ss ws [] → e.renderPath args = .ok path →
        '\x7b' ∉ path.toList
          ∧ ('\x7d' ∈ path.toList ↔ ∃ text, .literal text ∈ ss ∧ '\x7d' ∈ text))
    ∧ (∀ err, e.renderPath args = .error err
      ↔ (∃ ss ws name rest, Begins args e.template ss ws ((Segment.hole name).chars ++ rest)
            ∧ '\x7d' ∉ name ∧ argument? args name = none
            ∧ err = .invalidRequest (e.missingText name))
        ∨ ∃ ss ws name, Begins args e.template ss ws ('\x7b' :: name)
            ∧ '\x7d' ∉ name ∧ err = .invalidRequest e.unbalancedText) := by
  have hok : ∀ path, e.renderPath args = .ok path
      ↔ ∃ ss ws, Begins args e.template ss ws [] ∧ path.toList = ws.flatten := by
    intro path
    rw [renderPath_eq_ok]
    constructor
    · intro ⟨cs, hcs, hpath⟩
      obtain ⟨ss, ws, hbegins, rfl⟩ := fill_eq_ok_iff.mp hcs
      exact ⟨ss, ws, hbegins, by rw [← hpath, String.toList_ofList]⟩
    · intro ⟨ss, ws, hbegins, hpath⟩
      exact ⟨_, fill_eq_ok_iff.mpr ⟨ss, ws, hbegins, rfl⟩, by rw [← hpath, String.ofList_toList]⟩
  refine ⟨hok, ?_, ?_⟩
  · intro path ss ws hbegins hpath
    have hwritten := (hok (String.ofList ws.flatten)).mpr ⟨ss, ws, hbegins, String.toList_ofList⟩
    rw [hpath, Except.ok.injEq] at hwritten
    rw [hwritten, String.toList_ofList]
    exact hbegins.mem_brace
  · intro err
    rw [renderPath_eq_error]
    simp only [fill_eq_error_iff]
    constructor
    · intro ⟨f, ⟨ss, ws, rest, hbegins, hends⟩, herr⟩
      cases hends with
      | missing rest hname hv => exact Or.inl ⟨ss, ws, _, rest, hbegins, hname, hv, herr⟩
      | unclosed hname => exact Or.inr ⟨ss, ws, _, hbegins, hname, herr⟩
    · intro h
      rcases h with ⟨ss, ws, _, rest, hbegins, hname, hv, herr⟩ | ⟨ss, ws, _, hbegins, hname, herr⟩
      · exact ⟨_, ⟨ss, ws, _, hbegins, .missing rest hname hv⟩, herr⟩
      · exact ⟨_, ⟨ss, ws, _, hbegins, .unclosed hname⟩, herr⟩

/-- A closing brace in a text is written, and an opening one in a name is a
part of the name. -/
theorem renderPath_outcomes_stray :
    Endpoint.renderPath ⟨.get, "/x\x7d/\x7ba\x7bb\x7d", none, none⟩ [("a\x7bb", "1")]
      = .ok "x\x7d/1" := by
  obtain ⟨hok, -, -⟩ := renderPath_outcomes ⟨.get, "/x\x7d/\x7ba\x7bb\x7d", none, none⟩
    [("a\x7bb", "1")]
  exact (hok _).mpr ⟨[.literal "x\x7d/".toList, .hole "a\x7bb".toList],
    ["x\x7d/".toList, "1".toList],
    ⟨by decide +kernel, by decide +kernel,
      .cons rfl (.cons ⟨"1", argument?_singleton _ _, by decide +kernel⟩ .nil)⟩,
    by decide +kernel⟩

-- ============================================== values

/-- The arguments of the path are whole segments of it. -/
structure Segmented (e : Endpoint) (ss : List Segment) : Prop where
  template : e.template = joined '/' (ss.map Segment.chars)
  ne_nil : ss ≠ []
  sound : ∀ s ∈ ss, s.Sound
  no_slash : ∀ text, .literal text ∈ ss → '/' ∉ text

/-- An endpoint that is made of segments has them between its slashes. -/
theorem MadeOf.segmented (he : e.MadeOf ss) : e.Segmented ss where
  template := he.path
  ne_nil := he.ne_nil
  sound s hs := (he.fit s hs).sound
  no_slash _ htext hmem := ((he.fit _ htext).1 _ hmem).2.1 rfl

/-- No value brings a slash, since forms encode it. -/
theorem Segmented.not_mem_slash {vs : List (List Char)} (he : e.Segmented ss)
    (hvs : List.Forall₂ (Shows args) ss vs) : ∀ v ∈ vs, ∀ c ∈ v, (c == '/') = false := by
  intro v hv
  obtain ⟨s, hs, hshow⟩ := exists_shows hvs hv
  cases s with
  | literal text =>
      obtain rfl := hshow
      intro c hc
      exact beq_false_of_ne fun heq => he.no_slash _ hs (heq ▸ hc)
  | hole name =>
      obtain ⟨value, -, rfl⟩ := hshow
      exact Form.ne_of_mem_encodePart (by decide)

/-- Between the slashes of the path that is written stand the segments of the
template, as they show. The segment of an argument is read as its value with
plus signs for blanks, so as the value itself exactly when it has no blanks. -/
theorem percentDecode_segments (he : e.Segmented ss)
    (hargs : ∀ name, .hole name ∈ ss → ∃ v, argument? args name = some v) :
    ∃ path, e.renderPath args = .ok path
      ∧ List.Forall₂ (fun s w => Shows args s w
          ∧ ∀ name v, s = .hole name → argument? args name = some v →
              percentDecode w = utf8 (v.toList.map Form.spaceToPlus)
                ∧ (percentDecode w = utf8 v.toList ↔ ' ' ∉ v.toList))
          ss (Text.pieces (· == '/') path.toList) := by
  obtain ⟨vs, hvs⟩ := exists_forall₂_shows hargs
  have hfill : fill args (Template.pieces none e.template) = .ok (joined '/' vs) := by
    rw [he.template, fill_joined he.sound]
    exact ⟨vs, hvs, rfl⟩
  refine ⟨_, renderPath_eq_ok.mpr ⟨_, hfill, rfl⟩, ?_⟩
  -- the slashes of the path are those between the segments, so its pieces are the values
  have hne : vs ≠ [] := by
    intro hnil
    rw [hnil, List.forall₂_nil_right_iff] at hvs
    exact he.ne_nil hvs
  rw [String.toList_ofList, pieces_joined hne (he.not_mem_slash hvs) rfl]
  refine hvs.imp fun s w hw => ⟨hw, ?_⟩
  intro name v hs hv
  obtain ⟨v', hv', rfl⟩ : ∃ v', argument? args name = some v' ∧ w = Form.encodePart v'.toList := by
    rwa [hs] at hw
  obtain rfl : v = v' := Option.some.inj (hv.symm.trans hv')
  exact ⟨Form.percentDecode_encodePart_path _, Form.percentDecode_encodePart_iff⟩

/-- The archive `a b` is asked for as the archive `a+b`. -/
theorem percentDecode_segments_blank :
    MigrationClient.downloadEndpoint.Segmented downloadSegments
      ∧ ∃ path w, MigrationClient.downloadEndpoint.renderPath [("path", "a b")] = .ok path
          ∧ w ∈ Text.pieces (· == '/') path.toList ∧ percentDecode w = bytesOf "a+b" := by
  have hvalue := argument?_singleton "path" "a b"
  have hargs : ∀ name, .hole name ∈ downloadSegments →
      ∃ v, argument? [("path", "a b")] name = some v := by
    intro name hname
    obtain rfl : name = "path".toList := by simpa [downloadSegments] using hname
    exact ⟨"a b", hvalue⟩
  obtain ⟨path, hpath, hshows⟩ :=
    percentDecode_segments madeOf_downloadSegments.segmented hargs
  have hread : utf8 ("a b".toList.map Form.spaceToPlus) = bytesOf "a+b" := by decide +kernel
  generalize hws : Text.pieces (· == '/') path.toList = ws at hshows
  obtain ⟨w, hw, hdecode⟩ : ∃ w ∈ ws, percentDecode w = bytesOf "a+b" := by
    cases hshows with
    | cons _ hshows =>
        cases hshows with
        | cons _ hshows =>
            cases hshows with
            | cons hw _ =>
                refine ⟨_, List.mem_cons_of_mem _ (List.mem_cons_of_mem _ List.mem_cons_self), ?_⟩
                rw [(hw.2 _ "a b" rfl hvalue).1, hread]
  exact ⟨madeOf_downloadSegments.segmented, path, w, hpath, hws ▸ hw, hdecode⟩

end Endpoint

end Sdwan
