/-
Reading a version takes the longest head of the text that has the form of
one, and nothing behind it counts.

# The form

A version is written as numerals with points between them (`Dotted`). A text
has at most one longest head of this form (`IsLongest.unique`), and it may have
none (`NoHead`): a text that begins with anything but a digit.

# How a head goes on

Let digits come first and then something that is no digit. A dotted head
either ends within the digits, or it takes all of them, a point and a dotted
head of what follows the point (`Dotted.of_prefix`). So the longest head is
found from the left, numeral by numeral, which is how the pieces between the
points are read: a piece of digits alone leaves it to the next piece whether
the point still belongs to the head, a piece with a label behind its digits
ends the head, and so does a piece without digits (`readPieces_joined`).
-/
import Sdwan.Proofs.Text.Readers
import Sdwan.Proofs.Version.Text

namespace Sdwan.Version

open Text

variable {cs ds head p rest : List Char} {ns ms : List Nat} {n : Nat}

-- ============================================== the form

/-- Numerals with points between them, and the numbers they stand for. -/
inductive Dotted : List Char → List Nat → Prop
  | single {ds : List Char} {n : Nat} (h : IsNumeral ds n) : Dotted ds [n]
  | point {ds cs : List Char} {n : Nat} {ns : List Nat} (h : IsNumeral ds n)
      (more : Dotted cs ns) : Dotted (ds ++ '.' :: cs) (n :: ns)

/-- The longest head of a text that is dotted, and its numbers. -/
structure IsLongest (cs head : List Char) (ns : List Nat) : Prop where
  dotted : Dotted head ns
  isPrefix : head <+: cs
  longest : ∀ p ms, Dotted p ms → p <+: cs → p.length ≤ head.length

/-- No head of the text is dotted. -/
def NoHead (cs : List Char) : Prop := ∀ p ns, Dotted p ns → ¬ p <+: cs

/-- A dotted text begins with a digit. -/
theorem Dotted.exists_digit (h : Dotted p ns) : ∃ c q, p = c :: q ∧ isDigit c = true := by
  cases h with
  | single h | point h _ =>
      obtain ⟨c, q, rfl⟩ := List.exists_cons_of_ne_nil h.ne_nil
      exact ⟨c, _, rfl, h.isDigit List.mem_cons_self⟩

theorem Dotted.numbers_ne_nil (h : Dotted p ns) : ns ≠ [] := by
  cases h <;> exact List.cons_ne_nil _ _

/-- A dotted text is made of digits and points. -/
theorem Dotted.mem (h : Dotted p ns) : ∀ c ∈ p, isDigit c = true ∨ c = '.' := by
  induction h with
  | single h => exact fun c hc => Or.inl (h.isDigit hc)
  | point h _ ih =>
      intro c hc
      rcases List.mem_append.mp hc with hc | hc
      · exact Or.inl (h.isDigit hc)
      · rcases List.mem_cons.mp hc with rfl | hc
        · exact Or.inr rfl
        · exact ih c hc

/-- The numbers are the values of the pieces between the points. -/
theorem Dotted.map_pieces (h : Dotted p ns) : (pieces (· == '.') p).map digitsValue = ns := by
  induction h with
  | single h => rw [h.pieces_eq rfl, List.map_singleton, h.digitsValue_eq]
  | point h _ ih =>
      rw [pieces_append_cons rfl, h.pieces_eq rfl, List.map_append, ih, List.map_singleton,
        h.digitsValue_eq, List.singleton_append]

/-- There is one longest head at most, and it has one sequence of numbers. -/
theorem IsLongest.unique {head' : List Char} (h : IsLongest cs head ns)
    (h' : IsLongest cs head' ms) : head = head' ∧ ns = ms := by
  have hle := h'.longest _ _ h.dotted h.isPrefix
  have hge := h.longest _ _ h'.dotted h'.isPrefix
  have heq : head = head' :=
    (List.prefix_of_prefix_length_le h.isPrefix h'.isPrefix hle).eq_of_length_le hge
  refine ⟨heq, ?_⟩
  rw [← h.dotted.map_pieces, heq, h'.dotted.map_pieces]

-- ============================================== how a head goes on

section Digits

variable (hrest : ∀ c r, rest = c :: r → isDigit c = false)

include hrest

/-- A dotted head ends within the digits, or it goes on behind a point that
follows them. -/
theorem Dotted.of_prefix (hds : ∀ c ∈ ds, isDigit c = true) (hp : Dotted p ms)
    (hpre : p <+: ds ++ rest) :
    p.length ≤ ds.length ∨ ∃ q ks, p = ds ++ '.' :: q ∧ Dotted q ks ∧ '.' :: q <+: rest := by
  obtain ⟨t, ht⟩ := hpre
  -- the numeral in front ends with the digits: what follows them is none
  have hfront : ∀ {es : List Char} {n : Nat}, IsNumeral es n → ∀ bs u, es = ds ++ bs →
      rest = bs ++ u → bs = [] := by
    intro es n hes bs u heq hu
    cases bs with
    | nil => rfl
    | cons b bs =>
        have hmem : b ∈ es := heq ▸ List.mem_append_right ds List.mem_cons_self
        exact absurd (hes.isDigit hmem) (Bool.eq_false_iff.mp (hrest b _ hu))
  cases hp with
  | single h =>
      refine Or.inl ?_
      rcases List.append_eq_append_iff.mp ht with ⟨as, has, -⟩ | ⟨bs, hbs, hu⟩
      · rw [has, List.length_append]
        omega
      · rw [hbs, hfront h bs t hbs hu, List.append_nil]
  | @point es q n ks h more =>
      rw [List.append_assoc, List.cons_append] at ht
      have hends : es = ds ∧ rest = '.' :: (q ++ t) := by
        rcases List.append_eq_append_iff.mp ht with ⟨as, has, hu⟩ | ⟨bs, hbs, hu⟩
        · cases as with
          | nil => exact ⟨by rw [has, List.append_nil], hu.symm⟩
          | cons a as =>
              obtain ⟨rfl, -⟩ := List.cons_eq_cons.mp hu
              have hpoint := hds '.' (has ▸ List.mem_append_right es List.mem_cons_self)
              exact absurd hpoint (by decide)
        · obtain rfl := hfront h bs _ hbs hu
          exact ⟨by rw [hbs, List.append_nil], hu⟩
      obtain ⟨rfl, rfl⟩ := hends
      exact Or.inr ⟨q, ks, rfl, more, t, rfl⟩

/-- A text that does not begin with a digit has no dotted head. -/
theorem noHead_of_no_digit : NoHead rest := by
  intro p ns hp ⟨t, ht⟩
  obtain ⟨c, q, rfl, hc⟩ := hp.exists_digit
  rw [hrest c (q ++ t) ht.symm] at hc
  cases hc

/-- The head ends with the digits when no point and dotted text follow. -/
theorem isLongest_digits (h : IsNumeral ds n)
    (hnone : ∀ q ks, Dotted q ks → ¬ '.' :: q <+: rest) : IsLongest (ds ++ rest) ds [n] where
  dotted := .single h
  isPrefix := List.prefix_append ds rest
  longest p ms hp hpre := by
    rcases hp.of_prefix hrest (fun _ => h.isDigit) hpre with hle | ⟨q, ks, -, hq, hqpre⟩
    · exact hle
    · exact absurd hqpre (hnone q ks hq)

end Digits

/-- The head goes on behind a point when it can. -/
theorem IsLongest.point (h : IsNumeral ds n) (hlong : IsLongest cs head ns) :
    IsLongest (ds ++ '.' :: cs) (ds ++ '.' :: head) (n :: ns) where
  dotted := .point h hlong.dotted
  isPrefix := by
    rw [List.prefix_append_right_inj, List.cons_prefix_cons]
    exact ⟨rfl, hlong.isPrefix⟩
  longest p ms hp hpre := by
    have hpoint : ∀ c r, '.' :: cs = c :: r → isDigit c = false := by
      rintro c r ⟨⟩
      decide
    rcases hp.of_prefix hpoint (fun _ => h.isDigit) hpre with hle | ⟨q, ks, rfl, hq, hqpre⟩
    · rw [List.length_append]
      omega
    · have hle := hlong.longest q ks hq (List.cons_prefix_cons.mp hqpre).2
      simp only [List.length_append, List.length_cons]
      omega

-- ============================================== the pieces

/-- The numbers as components, if all of them fit. -/
def components? (ns : List Nat) : Option (List UInt64) :=
  if ∀ n ∈ ns, n < 2 ^ 64 then some (ns.map UInt64.ofNat) else none

/-- The first number must fit, and then the others. -/
theorem components?_cons :
    components? (n :: ns)
      = if n < 2 ^ 64 then (components? ns).map (UInt64.ofNat n :: ·) else none := by
  have hall : (∀ m ∈ n :: ns, m < 2 ^ 64) ↔ n < 2 ^ 64 ∧ ∀ m ∈ ns, m < 2 ^ 64 :=
    List.forall_mem_cons
  unfold components?
  by_cases hn : n < 2 ^ 64
  · rw [if_pos hn]
    by_cases hns : ∀ m ∈ ns, m < 2 ^ 64
    · rw [if_pos (hall.mpr ⟨hn, hns⟩), if_pos hns]
      rfl
    · rw [if_neg fun h => hns (hall.mp h).2, if_neg hns]
      rfl
  · rw [if_neg hn, if_neg fun h => hn (hall.mp h).1]

theorem components?_singleton :
    components? [n] = if n < 2 ^ 64 then some [UInt64.ofNat n] else none := by
  rw [components?_cons]
  rfl

/-- The components are the numbers, in 64 bits. -/
theorem components?_eq_some {components : List UInt64} :
    components? ns = some components ↔ components.map UInt64.toNat = ns := by
  unfold components?
  constructor
  · intro h
    split at h
    · next hns =>
        obtain rfl := Option.some.inj h
        rw [List.map_map]
        refine (List.map_congr_left fun n hn => ?_).trans (List.map_id ns)
        exact UInt64.toNat_ofNat_of_lt' (hns n hn)
    · cases h
  · rintro rfl
    -- conversely the numbers of components always fit
    have hfit : ∀ n ∈ components.map UInt64.toNat, n < 2 ^ 64 := by
      intro n hn
      obtain ⟨c, -, rfl⟩ := List.mem_map.mp hn
      exact c.toNat_lt
    rw [if_pos hfit, List.map_map]
    refine congrArg some ((List.map_congr_left fun c _ => ?_).trans (List.map_id components))
    exact UInt64.ofNat_toNat

/-- What a piece contributes: its digits, and if they are all of it the
pieces behind it. -/
theorem readPieces_append (h : IsNumeral ds n) (hrest : ∀ c r, rest = c :: r → isDigit c = false)
    (ps : List (List Char)) :
    readPieces ((ds ++ rest) :: ps)
      = if n < 2 ^ 64 then
          if rest = [] then (readPieces ps).map (UInt64.ofNat n :: ·) else some [UInt64.ofNat n]
        else none := by
  have htake : (ds ++ rest).takeWhile isDigit = ds := by
    rw [List.takeWhile_append_of_pos fun c hc => h.isDigit hc]
    cases rest with
    | nil => exact List.append_nil ds
    | cons c r => rw [List.takeWhile_cons_of_neg (by simp [hrest c r rfl]), List.append_nil]
  have hne : ds.isEmpty = false := List.isEmpty_eq_false_iff.mpr h.ne_nil
  have hall : (ds.length == (ds ++ rest).length) = decide (rest = []) := by
    cases rest <;> simp
  have hsize : UInt64.size = 2 ^ 64 := rfl
  rw [readPieces, htake, h.digitsValue_eq, hsize, hall]
  simp [hne]

/-- Reading stops at a piece that does not begin with a digit. -/
theorem readPieces_label (hrest : ∀ c r, rest = c :: r → isDigit c = false)
    (ps : List (List Char)) : readPieces (rest :: ps) = some [] := by
  have htake : rest.takeWhile isDigit = [] := by
    cases rest with
    | nil => rfl
    | cons c r => rw [List.takeWhile_cons_of_neg (by simp [hrest c r rfl])]
  rw [readPieces, htake]
  rfl

/-- Digits in front, and then something that is no digit. -/
theorem exists_digits_append (p : List Char) :
    ∃ ds label, p = ds ++ label ∧ (∀ c ∈ ds, isDigit c = true)
      ∧ ∀ c r, label = c :: r → isDigit c = false := by
  refine ⟨p.takeWhile isDigit, p.dropWhile isDigit, List.takeWhile_append_dropWhile.symm,
    fun c => List.mem_takeWhile_imp, ?_⟩
  intro c r h
  have hhead := List.head?_dropWhile_not isDigit p
  rw [h] at hhead
  exact hhead

/-- Nor does a digit come first when the other pieces follow: a point does,
where there is no label. -/
theorem not_digit_of_joined (hrest : ∀ c r, rest = c :: r → isDigit c = false)
    (ps : List (List Char)) :
    ∀ c r, joined '.' (rest :: ps) = c :: r → isDigit c = false := by
  intro c r h
  cases rest with
  | cons d label =>
      rw [joined_cons_cons] at h
      obtain ⟨rfl, -⟩ := List.cons_eq_cons.mp h
      exact hrest d label rfl
  | nil =>
      cases ps with
      | nil => cases h
      | cons q qs =>
          obtain ⟨rfl, -⟩ := List.cons_eq_cons.mp h
          decide

/-- The pieces of a text are read as the longest dotted head of the text, or
as no component at all if there is none. -/
theorem readPieces_joined {ps : List (List Char)} (hps : ∀ p ∈ ps, '.' ∉ p) :
    (∃ head ns, IsLongest (joined '.' ps) head ns ∧ readPieces ps = components? ns)
      ∨ NoHead (joined '.' ps) ∧ readPieces ps = some [] := by
  induction ps with
  | nil => exact Or.inr ⟨noHead_of_no_digit nofun, rfl⟩
  | cons p ps ih =>
      obtain ⟨ds, label, rfl, hds, hlabel⟩ := exists_digits_append p
      rw [joined_append]
      have hbehind := not_digit_of_joined hlabel ps
      by_cases hne : ds = []
      · subst hne
        exact Or.inr ⟨noHead_of_no_digit hbehind, readPieces_label hlabel ps⟩
      · have hnumeral := isNumeral_digitsValue hne hds
        have hends := isLongest_digits hbehind hnumeral
        refine Or.inl ?_
        rw [readPieces_append hnumeral hlabel]
        cases label with
        | cons c label =>
            rw [if_neg (List.cons_ne_nil c label)]
            refine ⟨ds, _, hends ?_, components?_singleton.symm⟩
            rintro q ks - hpre
            rw [joined_cons_cons, List.cons_prefix_cons] at hpre
            obtain ⟨rfl, -⟩ := hpre
            exact hps _ List.mem_cons_self (by simp)
        | nil =>
            rw [if_pos rfl]
            cases ps with
            | nil =>
                refine ⟨ds, _, hends ?_, components?_singleton.symm⟩
                rintro q ks - ⟨t, ht⟩
                cases ht
            | cons q qs =>
                -- the point belongs to the head when a dotted text follows it
                rcases ih fun r hr => hps r (List.mem_cons_of_mem _ hr) with
                  ⟨head, ns, hlong, hread⟩ | ⟨hnone, hread⟩
                · exact ⟨_, _, hlong.point hnumeral, by rw [hread, components?_cons]⟩
                · rw [hread]
                  refine ⟨ds, _, hends ?_, components?_singleton.symm⟩
                  intro r ks hr hpre
                  exact hnone r ks hr (List.cons_prefix_cons.mp hpre).2

-- ============================================== texts

/-- The pieces of a text are read as the numbers of its longest dotted head, or as
none if it has no such head. -/
theorem readPieces_pieces (cs : List Char) :
    (∃ head ns, IsLongest cs head ns ∧ readPieces (pieces (· == '.') cs) = components? ns)
      ∨ NoHead cs ∧ readPieces (pieces (· == '.') cs) = some [] := by
  have hpieces : ∀ p ∈ pieces (· == '.') cs, '.' ∉ p := fun p hp hpoint =>
    absurd (not_sep_of_mem_pieces hp '.' hpoint) (by decide)
  have h := readPieces_joined hpieces
  rwa [joined_pieces] at h

/-- A text with a dotted head is read as the numbers of the longest one. -/
theorem ofChars_of_isLongest (h : IsLongest (trim cs) head ns) :
    ofChars cs = ((components? ns).map Version.mk).elim (.error .tooLarge) .ok := by
  obtain ⟨c, q, rfl, -⟩ := h.dotted.exists_digit
  have hne : (trim cs).isEmpty = false := by
    obtain ⟨t, ht⟩ := h.isPrefix
    rw [← ht]
    rfl
  rcases readPieces_pieces (trim cs) with ⟨head', ns', h', hread⟩ | ⟨hnone, -⟩
  · obtain ⟨-, rfl⟩ := h.unique h'
    simp only [ofChars, hne, hread]
    cases hns : components? ns with
    | none => rfl
    | some components =>
        cases components with
        | cons c components => rfl
        -- a dotted head has a number, so the case of no components does not occur
        | nil =>
            exact absurd (components?_eq_some.mp hns).symm h.dotted.numbers_ne_nil
  · exact absurd h.isPrefix (hnone _ _ h.dotted)

/-- A text without a dotted head is no version. -/
theorem ofChars_ne_ok_of_noHead (h : NoHead (trim cs)) (v : Version) : ofChars cs ≠ .ok v := by
  rcases readPieces_pieces (trim cs) with ⟨head, ns, hlong, -⟩ | ⟨-, hread⟩
  · exact absurd hlong.isPrefix (h _ _ hlong.dotted)
  · intro hv
    simp only [ofChars, hread] at hv
    split at hv
    · cases hv
    · cases hv

/-- A text is read as a version exactly if its longest dotted head has the
components as numbers. -/
theorem ofChars_eq_ok {v : Version} :
    ofChars cs = .ok v ↔ ∃ head, IsLongest (trim cs) head (v.components.map UInt64.toNat) := by
  constructor
  · intro h
    rcases readPieces_pieces (trim cs) with ⟨head, ns, hlong, -⟩ | ⟨hnone, -⟩
    · rw [ofChars_of_isLongest hlong] at h
      cases hns : components? ns with
      | none =>
          rw [hns] at h
          cases h
      | some components =>
          rw [hns] at h
          cases h
          rw [components?_eq_some.mp hns]
          exact ⟨head, hlong⟩
    · exact absurd h (ofChars_ne_ok_of_noHead hnone v)
  · intro ⟨head, hlong⟩
    rw [ofChars_of_isLongest hlong, components?_eq_some.mpr rfl]
    rfl

/-- The same for strings: only the error tells them apart. -/
theorem parse_eq_ok {s : String} {v : Version} : parse s = .ok v ↔ ofChars s.toList = .ok v := by
  unfold parse
  cases ofChars s.toList with
  | ok w => exact ⟨fun h => by cases h; rfl, fun h => by cases h; rfl⟩
  | error e => exact iff_of_false nofun nofun

/-- The head alone is read as the whole text is. -/
theorem ofChars_head (h : IsLongest (trim cs) head ns) : ofChars cs = ofChars head := by
  have htrim : trim head = head := by
    apply trim_eq_self
    intro c hc
    rcases h.dotted.mem c hc with hdigit | rfl
    · exact isBlank_of_isDigit hdigit
    · decide
  have hhead : IsLongest (trim head) head ns := by
    rw [htrim]
    exact ⟨h.dotted, List.prefix_rfl, fun p ms _ hpre => hpre.length_le⟩
  rw [ofChars_of_isLongest h, ofChars_of_isLongest hhead]

/-- A text is read as a version exactly when it has, without the blanks at
its ends, a longest head of numerals with points between them, and each of
the numbers has 64 bits. The components are these numbers, and the head is
read as the whole text is, whatever follows it. A version that has components
is read back from its text. -/
theorem parse_longest (s : String) (v : Version) :
    (parse s = .ok v ↔ ∃ head, IsLongest (trim s.toList) head (v.components.map UInt64.toNat))
      ∧ ((∃ w, parse s = .ok w)
        ↔ ∃ head ns, IsLongest (trim s.toList) head ns ∧ ∀ n ∈ ns, n < 2 ^ 64)
      ∧ (∀ head ns, IsLongest (trim s.toList) head ns → ofChars s.toList = ofChars head)
      ∧ (v.components ≠ [] → parse v.text = .ok v) := by
  have hread : ∀ w, parse s = .ok w
      ↔ ∃ head, IsLongest (trim s.toList) head (w.components.map UInt64.toNat) :=
    fun w => parse_eq_ok.trans ofChars_eq_ok
  refine ⟨hread v, ?_, fun head ns h => ofChars_head h, parse_text⟩
  constructor
  · intro ⟨w, hw⟩
    obtain ⟨head, hlong⟩ := (hread w).mp hw
    refine ⟨head, _, hlong, ?_⟩
    intro n hn
    obtain ⟨c, -, rfl⟩ := List.mem_map.mp hn
    exact c.toNat_lt
  · intro ⟨head, ns, hlong, hfit⟩
    obtain ⟨components, hcomponents⟩ : ∃ components, components? ns = some components :=
      ⟨_, if_pos hfit⟩
    refine ⟨⟨components⟩, (hread _).mpr ⟨head, ?_⟩⟩
    rw [components?_eq_some.mp hcomponents]
    exact hlong

/-- Two components in front of a build label, and what they are written as. -/
theorem parse_longest_labelled :
    parse "20.9" = .ok ⟨[20, 9]⟩
      ∧ ∃ head, IsLongest (trim " 20.009-5.x".toList) head [20, 9]
        ∧ ofChars " 20.009-5.x".toList = ofChars head := by
  obtain ⟨hread, -, hhead, htext⟩ := parse_longest " 20.009-5.x" ⟨[20, 9]⟩
  obtain ⟨head, hlong⟩ := hread.mp (by decide +kernel)
  exact ⟨htext (by decide), head, hlong, hhead head _ hlong⟩

end Sdwan.Version
