/-
Constraints as they are written, and what they ask for.

# How a constraint is written

Commas part it. A part of blanks says nothing; every other part is, the blanks
around it apart, a comparison and then a version (`Specifier.IsWritten`).
Two comparisons may fit, as `<` does where `<=` stands, and the longer one is
meant (`Op.Heads`). These are the texts that are read, each part as one
specifier (`parse_eq_ok`).

# And back

The text of a constraint has the specifiers without blanks and labels. None
of them holds a comma and no version begins with an equals sign, so the
specifiers are read back as they are (`parse_text_of_parse`), and the meaning
is kept with them.
-/
import Mathlib.Data.List.Forall2
import Sdwan.Proofs.Success
import Sdwan.Proofs.Version.Order
import Sdwan.Proofs.Version.Reading

namespace Sdwan.Version

open Text

variable {cs rest p : List Char} {ps : List (List Char)} {op : Op}

-- ============================================== comparisons

namespace Op

/-- The longest comparison that a text begins with, and the rest of the
text. -/
structure Heads (op : Op) (cs rest : List Char) : Prop where
  eq : cs = op.symbol ++ rest
  longest : ∀ other : Op, other.symbol <+: cs → other.symbol.length ≤ op.symbol.length

/-- The second character is an equals sign, if there is one. -/
theorem exists_symbol_eq (op : Op) : ∃ x, op.symbol = [x] ∨ op.symbol = [x, '='] := by
  cases op with
  | lt | gt => exact ⟨_, Or.inl rfl⟩
  | le | ge | eq | ne => exact ⟨_, Or.inr rfl⟩

/-- No longer comparison fits one of two characters, nor one of which no
equals sign stands behind. -/
theorem heads_append (h : op.symbol.length = 2 ∨ rest.head? ≠ some '=') :
    op.Heads (op.symbol ++ rest) rest where
  eq := rfl
  longest other hpre := by
    obtain ⟨x, hx⟩ := op.exists_symbol_eq
    obtain ⟨y, hy⟩ := other.exists_symbol_eq
    -- a symbol is one character or that character with an equals sign, so only a longer
    -- one could begin the same text
    rcases hx with hx | hx
    · rcases hy with hy | hy
      · rw [hx, hy]
        rfl
      · rw [hx] at h hpre
        rw [hy] at hpre
        obtain ⟨t, ht⟩ := hpre
        have hrest : '=' :: t = rest := (List.cons_eq_cons.mp ht).2
        rcases h with h | h
        · cases h
        · exact absurd (congrArg List.head? hrest.symm) h
    · rcases hy with hy | hy
      · rw [hx, hy]
        exact Nat.le_succ 1
      · rw [hx, hy]
        rfl

/-- The reader of comparisons finds the longest one that the text begins with. -/
theorem head?_eq_some : head? cs = some (op, rest) ↔ op.Heads cs rest := by
  constructor
  · intro h
    unfold head? at h
    split at h
    case h_1 | h_2 | h_3 | h_4 =>
      cases h
      exact heads_append (Or.inl rfl)
    case h_5 r hequals | h_6 r hequals =>
      cases h
      refine heads_append (Or.inr fun hhead => ?_)
      obtain ⟨t, rfl⟩ := List.head?_eq_some_iff.mp hhead
      exact hequals t rfl
    case h_7 => cases h
  · rintro ⟨rfl, hlongest⟩
    -- a longer comparison would be in front, so the reader comes to the branch of this one
    have hshort : ∀ other : Op, op.symbol.length < other.symbol.length →
        ¬ other.symbol <+: op.symbol ++ rest :=
      fun other hlt hpre => absurd (hlongest other hpre) (Nat.not_le.mpr hlt)
    cases op with
    | le | ge | eq | ne => rfl
    | lt =>
        show head? ('<' :: rest) = some (lt, rest)
        rw [head?]
        rintro r rfl
        exact hshort .le (by decide) ⟨r, rfl⟩
    | gt =>
        show head? ('>' :: rest) = some (gt, rest)
        rw [head?]
        rintro r rfl
        exact hshort .ge (by decide) ⟨r, rfl⟩

end Op

-- ============================================== specifiers

/-- Nothing but blanks. -/
def IsBlank (p : List Char) : Prop := ∀ c ∈ p, isBlank c = true

namespace Specifier

variable {sp : Specifier}

/-- A comparison, the longest that fits, and a version behind it, with blanks
around both or not. -/
def IsWritten (sp : Specifier) (p : List Char) : Prop :=
  ∃ rest, sp.op.Heads (trim p) rest ∧ Version.parse (String.ofList rest) = .ok sp.version

/-- A part is read as the specifiers that are written so. -/
theorem ofChars_eq_ok : ofChars p = .ok sp ↔ sp.IsWritten p := by
  have hparse : ∀ {rest v}, Version.parse (String.ofList rest) = .ok v
      ↔ Version.ofChars rest = .ok v := by
    intro rest v
    rw [parse_eq_ok, String.toList_ofList]
  unfold IsWritten ofChars
  simp only [hparse, ← Op.head?_eq_some]
  cases hhead : Op.head? (trim p) with
  | none => simp
  | some found =>
      obtain ⟨op, rest⟩ := found
      dsimp only
      cases hversion : Version.ofChars rest with
      | error e =>
          refine iff_of_false nofun ?_
          intro ⟨rest', heq, hv⟩
          cases heq
          rw [hversion] at hv
          cases hv
      | ok v =>
          constructor
          · intro h
            cases h
            exact ⟨rest, rfl, hversion⟩
          · intro ⟨rest', heq, hv⟩
            cases heq
            rw [hversion] at hv
            cases hv
            rfl

/-- A specifier that was read has a version with a component. -/
theorem IsWritten.components_ne_nil (h : sp.IsWritten p) : sp.version.components ≠ [] := by
  obtain ⟨rest, -, hversion⟩ := h
  obtain ⟨head, hlong⟩ := Version.ofChars_eq_ok.mp (parse_eq_ok.mp hversion)
  exact fun hnil => hlong.dotted.numbers_ne_nil (by rw [hnil]; rfl)

/-- Neither a comma nor a blank is written for a specifier. -/
theorem of_mem_chars {c : Char} (h : c ∈ sp.chars) : c ≠ ',' ∧ isBlank c = false := by
  have hsymbol : sp.op.symbol.all (fun c => c != ',' && !isBlank c) = true := by
    cases sp.op <;> rfl
  rcases List.mem_append.mp h with h | h
  · simpa using List.all_eq_true.mp hsymbol c h
  · refine ⟨?_, isBlank_of_mem_chars h⟩
    rintro rfl
    rcases mem_chars h with h | h
    · exact absurd h (by decide)
    · exact absurd h (by decide)

theorem trim_chars (sp : Specifier) : trim sp.chars = sp.chars :=
  trim_eq_self fun _ hc => (of_mem_chars hc).2

theorem not_isBlank_chars (sp : Specifier) : ¬ IsBlank sp.chars := by
  have hne : sp.chars ≠ [] := by
    obtain ⟨x, hx⟩ := sp.op.exists_symbol_eq
    rcases hx with hx | hx <;> simp [chars, hx]
  intro h
  rw [IsBlank, ← trim_eq_nil_iff, trim_chars] at h
  exact hne h

/-- The text of a specifier is one way to write it. -/
theorem isWritten_chars (h : sp.version.components ≠ []) : sp.IsWritten sp.chars := by
  refine ⟨sp.version.chars, ?_, parse_text h⟩
  rw [trim_chars]
  refine Op.heads_append (Or.inr fun hhead => ?_)
  rcases mem_chars (List.mem_of_mem_head? hhead) with h | h
  · exact absurd h (by decide)
  · exact absurd h (by decide)

end Specifier

-- ============================================== constraints

namespace Constraint

variable {s : String} {c : Constraint}

/-- A constraint is its specifiers with commas between them. -/
theorem withCommas_eq_joined (ps : List (List Char)) : withCommas ps = joined ',' ps := by
  fun_induction joined ',' ps with
  | case1 => rfl
  | case2 p => rfl
  | case3 p q ps ih =>
      rw [withCommas, ih]
      exact List.cons_ne_nil _ _

/-- The parts are read one by one, and each of them has to be a specifier. -/
theorem readParts_eq_ok {sps : List Specifier} :
    readParts ps = .ok sps ↔ List.Forall₂ (fun p sp => sp.IsWritten p) ps sps := by
  induction ps generalizing sps with
  | nil =>
      rw [List.forall₂_nil_left_iff, readParts]
      exact ⟨fun h => by cases h; rfl, fun h => by rw [h]⟩
  | cons p ps ih =>
      rw [readParts, ok_bind_iff]
      simp only [ok_bind_iff, Specifier.ofChars_eq_ok, ih]
      constructor
      · intro ⟨sp, hsp, sps', hsps, heq⟩
        cases heq
        exact .cons hsp hsps
      · intro h
        cases h with
        | cons hsp hsps => exact ⟨_, hsp, _, hsps, rfl⟩

/-- Every specifier that was read has been written. -/
theorem exists_isWritten {sps : List Specifier} {sp : Specifier}
    (h : List.Forall₂ (fun p sp => sp.IsWritten p) ps sps) (hsp : sp ∈ sps) :
    ∃ p, sp.IsWritten p := by
  induction h with
  | nil => cases hsp
  | cons hwritten _ ih =>
      rcases List.mem_cons.mp hsp with rfl | hsp
      · exact ⟨_, hwritten⟩
      · exact ih hsp

/-- Parts that are specifiers each are a list of them. -/
theorem exists_forall₂_isWritten :
    (∃ sps, List.Forall₂ (fun p sp => Specifier.IsWritten sp p) ps sps)
      ↔ ∀ p ∈ ps, ∃ sp, Specifier.IsWritten sp p := by
  induction ps with
  | nil => exact iff_of_true ⟨[], .nil⟩ nofun
  | cons p ps ih =>
      rw [List.forall_mem_cons, ← ih]
      constructor
      · intro ⟨_, h⟩
        cases h with
        | cons hsp hsps => exact ⟨⟨_, hsp⟩, _, hsps⟩
      · intro ⟨⟨sp, hsp⟩, sps, hsps⟩
        exact ⟨sp :: sps, .cons hsp hsps⟩

/-- The parts between the commas that are not blank. -/
def parts (s : String) : List (List Char) :=
  (pieces (· == ',') s.toList).filter fun p => !p.all isBlank

theorem mem_parts : p ∈ parts s ↔ p ∈ pieces (· == ',') s.toList ∧ ¬ IsBlank p := by
  simp [parts, IsBlank]

/-- Reading takes the parts that are not blank for specifiers, of which
there has to be one. -/
theorem parse_eq_ok : parse s = .ok c
    ↔ c.specifiers ≠ [] ∧ List.Forall₂ (fun p sp => sp.IsWritten p) (parts s) c.specifiers := by
  have hparts : (pieces (· == ',') s.toList).filter (fun p => !(trim p).isEmpty) = parts s := by
    refine List.filter_congr fun p _ => congrArg (!·) ?_
    rw [Bool.eq_iff_iff, List.isEmpty_iff, trim_eq_nil_iff, List.all_eq_true]
  obtain ⟨specifiers⟩ := c
  unfold parse
  rw [hparts, ok_bind_iff]
  simp only [readParts_eq_ok]
  -- an empty list of parts is the only other reason to fail
  constructor
  · intro ⟨sps, hsps, heq⟩
    cases sps with
    | nil => cases heq
    | cons sp sps =>
        cases heq
        exact ⟨List.cons_ne_nil sp sps, hsps⟩
  · intro ⟨hne, hsps⟩
    refine ⟨specifiers, hsps, ?_⟩
    cases specifiers with
    | nil => exact absurd rfl hne
    | cons sp sps => rfl

/-- The parts of a constraint that was written are its specifiers. -/
theorem parts_text (h : c.specifiers ≠ []) : parts c.text = c.specifiers.map Specifier.chars := by
  have hpieces : pieces (· == ',') c.text.toList = c.specifiers.map Specifier.chars := by
    rw [text, String.toList_ofList, withCommas_eq_joined]
    refine pieces_joined (by simpa using h) ?_ rfl
    intro p hp d hd
    obtain ⟨sp, -, rfl⟩ := List.mem_map.mp hp
    exact beq_eq_false_iff_ne.mpr (Specifier.of_mem_chars hd).1
  rw [parts, hpieces, List.filter_eq_self]
  intro p hp
  obtain ⟨sp, -, rfl⟩ := List.mem_map.mp hp
  have hblank := sp.not_isBlank_chars
  simpa [IsBlank] using hblank

/-- What was read is read again from its text. -/
theorem parse_text_of_parse (h : parse s = .ok c) : parse c.text = .ok c := by
  obtain ⟨hne, hwritten⟩ := parse_eq_ok.mp h
  refine parse_eq_ok.mpr ⟨hne, ?_⟩
  rw [parts_text hne, List.forall₂_map_left_iff, List.forall₂_same]
  intro sp hsp
  obtain ⟨p, hp⟩ := exists_isWritten hwritten hsp
  exact Specifier.isWritten_chars hp.components_ne_nil

/-- A constraint can be read if there is a part, and all of them are specifiers. -/
theorem exists_parse : (∃ c, parse s = .ok c)
    ↔ parts s ≠ [] ∧ ∀ p ∈ parts s, ∃ sp, Specifier.IsWritten sp p := by
  simp only [parse_eq_ok]
  rw [← exists_forall₂_isWritten]
  constructor
  · intro ⟨c, hne, hwritten⟩
    refine ⟨?_, c.specifiers, hwritten⟩
    intro hnil
    rw [hnil, List.forall₂_nil_left_iff] at hwritten
    exact hne hwritten
  · intro ⟨hne, sps, hwritten⟩
    refine ⟨⟨sps⟩, ?_, hwritten⟩
    rintro rfl
    exact hne (List.forall₂_nil_right_iff.mp hwritten)

/-- A text is read as a constraint exactly when some part between its commas
is not blank and every such part is, without the blanks at its ends, a
comparison, the longest that fits, and then a version. The specifiers are the
ones these parts write, in their order. The text of the constraint is read as
the same constraint, and a version is matched exactly when it satisfies every
specifier. -/
theorem parse_specifiers (s : String) :
    ((∃ c, parse s = .ok c)
        ↔ (∃ p ∈ pieces (· == ',') s.toList, ¬ IsBlank p)
          ∧ ∀ p ∈ pieces (· == ',') s.toList, ¬ IsBlank p → ∃ (op : Op) (rest : List Char)
              (v : Version), op.Heads (trim p) rest ∧ Version.parse (String.ofList rest) = .ok v)
      ∧ ∀ c, parse s = .ok c →
        List.Forall₂ (fun p sp => sp.IsWritten p) (parts s) c.specifiers
          ∧ parse c.text = .ok c
          ∧ ∀ v, c.holds v = true ↔ ∀ sp ∈ c.specifiers, sp.Met v := by
  refine ⟨?_, fun c hc => ⟨(parse_eq_ok.mp hc).2, parse_text_of_parse hc, fun v => c.holds_iff⟩⟩
  have hsome : parts s ≠ [] ↔ ∃ p ∈ pieces (· == ',') s.toList, ¬ IsBlank p := by
    rw [Ne, List.eq_nil_iff_forall_not_mem, not_forall_not]
    exact exists_congr fun p => mem_parts
  have hwritten : ∀ p, (∃ sp, Specifier.IsWritten sp p) ↔ ∃ (op : Op) (rest : List Char)
      (v : Version), op.Heads (trim p) rest ∧ Version.parse (String.ofList rest) = .ok v := by
    intro p
    constructor
    · intro ⟨⟨op, v⟩, rest, h⟩
      exact ⟨op, rest, v, h⟩
    · intro ⟨op, rest, v, h⟩
      exact ⟨⟨op, v⟩, rest, h⟩
  rw [exists_parse, hsome]
  simp only [mem_parts, hwritten, and_imp]

/-- A label, an empty part and blanks between two specifiers. -/
theorem parse_specifiers_spaced :
    parse " >= 20.9-2 ,, <20.13" = .ok ⟨[⟨.ge, ⟨[20, 9]⟩⟩, ⟨.lt, ⟨[20, 13]⟩⟩]⟩
      ∧ parse ">=20.9,<20.13" = .ok ⟨[⟨.ge, ⟨[20, 9]⟩⟩, ⟨.lt, ⟨[20, 13]⟩⟩]⟩ := by
  have hread : parse " >= 20.9-2 ,, <20.13"
      = .ok ⟨[⟨.ge, ⟨[20, 9]⟩⟩, ⟨.lt, ⟨[20, 13]⟩⟩]⟩ := by rfl
  obtain ⟨-, hagain, -⟩ := (parse_specifiers " >= 20.9-2 ,, <20.13").2 _ hread
  exact ⟨hread, hagain⟩

end Constraint

end Sdwan.Version
