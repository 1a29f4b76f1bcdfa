/-
A host is read as what it was printed for.

# Names

What brings a name into its one form is not looked into. Three of its rules are
enough (`LawfulIdna`): no character of the form is one that would end the host,
the form has itself as its form, and digits and points are kept. To the second
there is an exception. Only so much of Punycode is read at all, so a label may
be written for a text that is too long to be read again (`isReadable`).

# Addresses

An address of four octets is a name whose last label is a number. An address in
brackets is no name, and the brackets keep its colons from being read as the
one in front of a port.
-/
import Sdwan.Proofs.Url.Authority
import Sdwan.Proofs.Url.Pairs

namespace Sdwan.Url

variable {c : Char} {cs label name : List Char}

-- ============================================== the rules for names

namespace Host

/-- Punycode that is short enough to be read, or none. -/
def isReadable (label : List Char) : Bool :=
  match Text.afterPrefix? "xn--".toList label with
  | some code => code.length ≤ 2000
  | none => true

/-- What stands behind the mark of a label in Punycode. -/
theorem afterPrefix?_xn (code : List Char) :
    Text.afterPrefix? "xn--".toList ("xn--".toList ++ code) = some code := rfl

/-- Every label of the name is short enough. -/
def isReadableName (name : List Char) : Bool := (Text.pieces (· == '.') name).all isReadable

end Host

/-- The standard's rules for the form of a name, as far as reading it again
rests on them. -/
class LawfulIdna [Idna] : Prop where
  /-- The form is in ASCII, and nothing stands in it that no URL has in a name. -/
  allowed {cs name : List Char} : Idna.toAscii cs = some name →
    ∀ c ∈ name, c.toNat < 128 ∧ Host.isForbidden c = false
  /-- The form of a name is its own form. A label with more Punycode than is read
  at a time is refused. -/
  again {cs name : List Char} : Idna.toAscii cs = some name →
    Idna.toAscii name = if Host.isReadableName name then some name else none
  /-- Digits and points are a name as they are. -/
  digits {cs : List Char} : (∀ c ∈ cs, c = '.' ∨ Text.isDigit c = true) →
    Idna.toAscii cs = some cs

namespace Host

-- ============================================== names

/-- A name as it is printed: nothing in it ends a host, and it is its own form
if it is short enough. -/
structure IsName [Idna] (name : List Char) : Prop where
  allowed : ∀ c ∈ name, isForbidden c = false
  again : Idna.toAscii name = if isReadableName name then some name else none

/-- Every form of a name is such a name. -/
theorem isName_of_domainToAscii [Idna] [LawfulIdna] (h : domainToAscii cs = .ok name) :
    IsName name := by
  have hform : Idna.toAscii cs = some name := by
    unfold domainToAscii at h
    cases hascii : Idna.toAscii cs with
    | none =>
        rw [hascii] at h
        cases h
    | some form =>
        rw [hascii] at h
        cases h
        rfl
  exact ⟨fun c hc => (LawfulIdna.allowed hform c hc).2, LawfulIdna.again hform⟩

/-- A name that was printed is read as itself exactly when every label is short
enough. -/
theorem domainToAscii_of_isName [Idna] (h : IsName name) :
    domainToAscii name = if isReadableName name then .ok name else .error .invalidDomainName := by
  rw [domainToAscii, h.again]
  cases isReadableName name <;> rfl

/-- Where nothing is encoded, decoding gives the bytes of the text. -/
theorem percentDecode_eq (h : '%' ∉ cs) : percentDecode cs = Text.utf8 cs := by
  induction cs with
  | nil => rfl
  | cons c cs ih =>
      rw [List.mem_cons, not_or] at h
      obtain ⟨hc, hcs⟩ := h
      rw [Form.percentDecode_cons (Ne.symm hc), ih hcs, Text.utf8, Text.utf8, List.flatMap_cons]

/-- What is allowed in a name is visible and none of the marks that end a host. -/
theorem isForbidden_eq_false (h : isForbidden c = false) : 0x20 < c.toNat
    ∧ c ∉ ['#', '/', ':', '<', '>', '?', '@', '[', '\\', ']', '^', '|', '%'] := by
  simp only [isForbidden, Bool.or_eq_false_iff, decide_eq_false_iff_not] at h
  exact ⟨by omega, h.2⟩

/-- All that is forbidden is in ASCII. -/
theorem isForbidden_of_beyond (h : 128 ≤ c.toNat) : isForbidden c = false := by
  have hascii : ∀ d ∈ ['#', '/', ':', '<', '>', '?', '@', '[', '\\', ']', '^', '|', '%'],
      d.toNat < 128 :=
    List.all_iff_forall_prop.mp (by decide)
  refine Bool.eq_false_iff.mpr fun hforbidden => ?_
  simp only [isForbidden, Bool.or_eq_true, decide_eq_true_eq, beq_iff_eq] at hforbidden
  rcases hforbidden with hblank | hmem
  · omega
  · exact absurd (hascii c hmem) (by omega)

/-- No character of a printed name ends the host or is encoded. -/
theorem IsName.not_mem [Idna] (h : IsName name) (hc : c ∈ name) : 0x20 < c.toNat
    ∧ c ∉ ['#', '/', ':', '<', '>', '?', '@', '[', '\\', ']', '^', '|', '%'] :=
  isForbidden_eq_false (h.allowed c hc)

/-- What a name that was printed is read as: an address, if it ends in a
number. -/
theorem parse_of_isName [Idna] (h : IsName name) (hne : name ≠ []) :
    parse name = if isReadableName name then
        if endsInNumber name then (ipv4OfName name).map .ipv4 else .ok (.domain name)
      else .error .invalidDomainName := by
  have hhead : ¬ (name.head? == some '[') = true := by
    rw [beq_iff_eq]
    intro hhead
    exact absurd (h.not_mem (List.mem_of_head? hhead)).2 (by decide)
  have hpercent : '%' ∉ name := fun hmem => absurd (h.not_mem hmem).2 (by decide)
  have hempty : name.isEmpty = false := by simpa using hne
  rw [parse, if_neg hhead, percentDecode_eq hpercent, Text.decodeUtf8_utf8,
    domainToAscii_of_isName h]
  cases isReadableName name with
  | false => rfl
  | true =>
      show (if name.isEmpty = true then _ else _) = _
      rw [hempty]
      rfl

-- ============================================== addresses of four octets

/-- A number in decimal has no zero in front, so it is not taken for octal or
hexadecimal. -/
theorem ipv4Part?_decimal (n : Nat) : ipv4Part? (Net.decimal n) = some n := by
  have hdigits : (Net.decimal n).all Text.isDigit = true :=
    List.all_eq_true.mpr (Text.forall_mem_toDigits (by decide) fun d => Text.isDigit_digitChar)
  have hvalue : Text.valueInBase 10 (Net.decimal n) = n :=
    Text.valueInBase_toDigits (by decide) (by decide)
  have hzero : ∀ d ds, Net.decimal n ≠ '0' :: d :: ds := by
    intro d ds heq
    refine Text.head?_toDigits_of_one_lt (b := 10) (n := n) (by decide) (by decide) ?_ ?_
    · show 1 < (Net.decimal n).length
      rw [heq]
      simp
    · show (Net.decimal n).head? = _
      rw [heq]
      rfl
  unfold ipv4Part?
  split
  · next hnil => exact absurd hnil Nat.toDigits_ne_nil
  · next ds heq => exact absurd heq (hzero 'x' ds)
  · next ds heq => exact absurd heq (hzero 'X' ds)
  · next d ds _ _ heq => exact absurd heq (hzero d ds)
  · dsimp only
    rw [if_pos hdigits, hvalue]

/-- The four labels of an address. -/
def octets (x : Net.Ipv4) : List (List Char) :=
  [Net.decimal x.a.toNat, Net.decimal x.b.toNat, Net.decimal x.c.toNat, Net.decimal x.d.toNat]

theorem chars_eq_joined (x : Net.Ipv4) : x.chars = Text.joined '.' (octets x) := by
  simp [Net.Ipv4.chars, octets, Text.joined]

/-- Each of the four labels has a digit, and nothing else. -/
theorem isDigit_of_mem_octets {x : Net.Ipv4} (h : label ∈ octets x) :
    label ≠ [] ∧ ∀ c ∈ label, Text.isDigit c = true := by
  have hdecimal : ∀ n, Net.decimal n ≠ [] ∧ ∀ c ∈ Net.decimal n, Text.isDigit c = true := fun n =>
    ⟨Nat.toDigits_ne_nil, Text.forall_mem_toDigits (by decide) fun d => Text.isDigit_digitChar⟩
  simp only [octets, List.mem_cons, List.not_mem_nil, or_false] at h
  rcases h with rfl | rfl | rfl | rfl
  all_goals exact hdecimal _

/-- A digit is allowed in a name, and it begins no mark of another base. -/
theorem of_isDigit (h : Text.isDigit c = true) :
    isForbidden c = false ∧ c ≠ '.' ∧ c ≠ 'x' := by
  refine Text.forall_ascii (P := fun c => Text.isDigit c = true →
    isForbidden c = false ∧ c ≠ '.' ∧ c ≠ 'x') ?_
    (toNat_lt_of_isHexDigit (Text.isHexDigit_of_isDigit h)) h
  decide

/-- A label of digits is no Punycode. -/
theorem afterPrefix?_of_isDigit (h : ∀ c ∈ label, Text.isDigit c = true) :
    Text.afterPrefix? "xn--".toList label = none := by
  cases label with
  | nil => rfl
  | cons c cs =>
      have hc : ('x' == c) = false :=
        beq_false_of_ne (Ne.symm (of_isDigit (h c List.mem_cons_self)).2.2)
      show (if ('x' == c) = true then _ else none) = none
      rw [hc]
      rfl

theorem isReadable_of_isDigit (h : ∀ c ∈ label, Text.isDigit c = true) :
    isReadable label = true := by
  rw [isReadable, afterPrefix?_of_isDigit h]

/-- Between the points of an address there is nothing but digits. -/
theorem isDigit_of_mem_pieces (h : ∀ c ∈ cs, c = '.' ∨ Text.isDigit c = true)
    (hlabel : label ∈ Text.pieces (· == '.') cs) : ∀ c ∈ label, Text.isDigit c = true := by
  intro c hc
  obtain ⟨before, after, heq, -⟩ := Text.isPiece_of_mem_pieces hlabel
  have hmem : c ∈ cs := by
    rw [heq]
    exact List.mem_append_left _ (List.mem_append_right _ hc)
  refine (h c hmem).resolve_left ?_
  rintro rfl
  exact absurd (Text.not_sep_of_mem_pieces hlabel _ hc) (by decide)

/-- Digits and points are short enough in any number. -/
theorem isReadableName_of_isDigit (h : ∀ c ∈ cs, c = '.' ∨ Text.isDigit c = true) :
    isReadableName cs = true :=
  List.all_eq_true.mpr fun _ hl => isReadable_of_isDigit (isDigit_of_mem_pieces h hl)

/-- The points cut an address into its labels again. -/
theorem pieces_chars (x : Net.Ipv4) : Text.pieces (· == '.') x.chars = octets x := by
  rw [chars_eq_joined]
  refine Text.pieces_joined (by simp [octets]) (fun l hl c hc => beq_false_of_ne ?_) (by decide)
  exact (of_isDigit ((isDigit_of_mem_octets hl).2 c hc)).2.1

/-- The text of an address is digits and points. -/
theorem isDigit_of_mem_chars {x : Net.Ipv4} (hc : c ∈ x.chars) :
    c = '.' ∨ Text.isDigit c = true := by
  rw [chars_eq_joined] at hc
  exact (Text.mem_joined hc).imp_right fun ⟨l, hl, hc⟩ => (isDigit_of_mem_octets hl).2 c hc

/-- No label of an address is too long. -/
theorem isReadableName_chars (x : Net.Ipv4) : isReadableName x.chars = true :=
  isReadableName_of_isDigit fun _ => isDigit_of_mem_chars

/-- The text of an address is a name. -/
theorem isName_chars [Idna] [LawfulIdna] (x : Net.Ipv4) : IsName x.chars := by
  refine ⟨fun c hc => ?_, ?_⟩
  · rcases isDigit_of_mem_chars hc with rfl | hc
    · decide
    · exact (of_isDigit hc).1
  · rw [LawfulIdna.digits fun c => isDigit_of_mem_chars, isReadableName_chars]
    rfl

/-- The last label of an address is a number, which is what an address is told from
a name by. -/
theorem endsInNumber_chars (x : Net.Ipv4) : endsInNumber x.chars = true := by
  have hlast : Net.decimal x.d.toNat ∈ octets x := by simp [octets]
  obtain ⟨hne, hdigits⟩ := isDigit_of_mem_octets hlast
  obtain ⟨c, cs, hcons⟩ := List.exists_cons_of_ne_nil hne
  have hreverse : (octets x).reverse = (c :: cs) :: [Net.decimal x.c.toNat,
      Net.decimal x.b.toNat, Net.decimal x.a.toNat] := by
    rw [← hcons]
    rfl
  have hall : (c :: cs).all Text.isDigit = true := List.all_eq_true.mpr (hcons ▸ hdigits)
  rw [endsInNumber, pieces_chars, hreverse]
  dsimp only
  rw [hall]
  rfl

/-- A byte is what is left of a number above it. -/
theorem ofNat_eq_of_mod {n : Nat} {b : UInt8} (h : n % 256 = b.toNat) : UInt8.ofNat n = b := by
  refine UInt8.toNat_inj.mp ?_
  rw [UInt8.toNat_ofNat', h]

/-- The octets of the number that four octets make up. -/
theorem ipv4OfNat_octets (x : Net.Ipv4) :
    ipv4OfNat (octetsValue 3 [x.a.toNat, x.b.toNat, x.c.toNat] + x.d.toNat) = x := by
  have ha := x.a.toNat_lt
  have hb := x.b.toNat_lt
  have hc := x.c.toNat_lt
  have hd := x.d.toNat_lt
  have hvalue : octetsValue 3 [x.a.toNat, x.b.toNat, x.c.toNat] + x.d.toNat
      = x.a.toNat * 16777216 + (x.b.toNat * 65536 + (x.c.toNat * 256 + 0)) + x.d.toNat := rfl
  rw [hvalue, ipv4OfNat, ofNat_eq_of_mod (b := x.a) (by omega),
    ofNat_eq_of_mod (b := x.b) (by omega),
    ofNat_eq_of_mod (b := x.c) (by omega), ofNat_eq_of_mod (b := x.d) (by omega)]

/-- Four labels of one byte each are read as these four bytes. -/
theorem ipv4OfName_chars (x : Net.Ipv4) : ipv4OfName x.chars = .ok x := by
  have hlast : ((octets x).getLast? == some []) = false := by
    refine beq_false_of_ne fun heq => ?_
    exact (isDigit_of_mem_octets (List.mem_of_getLast? heq)).1 rfl
  have hread : (octets x).mapM ipv4Part?
      = some [x.a.toNat, x.b.toNat, x.c.toNat, x.d.toNat] := by
    simp [octets, ipv4Part?_decimal]
  have hparts : ipv4OfParts [x.a.toNat, x.b.toNat, x.c.toNat, x.d.toNat]
      = if Nat.pow 256 1 ≤ x.d.toNat || [x.a.toNat, x.b.toNat, x.c.toNat].any (256 ≤ ·) then
          .error .invalidIpv4
        else .ok (ipv4OfNat (octetsValue 3 [x.a.toNat, x.b.toNat, x.c.toNat] + x.d.toNat)) := rfl
  have ha := x.a.toNat_lt
  have hb := x.b.toNat_lt
  have hc := x.c.toNat_lt
  have hd := x.d.toNat_lt
  rw [ipv4OfName, pieces_chars, hlast, if_neg Bool.false_ne_true, hread]
  dsimp only
  rw [hparts, ipv4OfNat_octets, if_neg]
  simp only [List.any_cons, List.any_nil, Bool.or_eq_true, decide_eq_true_eq, Bool.false_eq_true,
    or_false]
  show ¬ (256 ≤ _ ∨ _)
  omega

/-- An address of four octets is read as itself. It takes the way of the names, so
the rules for these are needed. -/
theorem parse_ipv4 [Idna] [LawfulIdna] (x : Net.Ipv4) : parse x.chars = .ok (.ipv4 x) := by
  have hne : x.chars ≠ [] := by simp [Net.Ipv4.chars]
  rw [parse_of_isName (isName_chars x) hne, if_pos (isReadableName_chars x),
    if_pos (endsInNumber_chars x), ipv4OfName_chars]
  rfl

-- ============================================== addresses in brackets

/-- Groups with a colon in front of each are hexadecimal digits and colons. -/
theorem of_mem_colonGroups {gs : List UInt16} (h : c ∈ Net.colonGroups gs) :
    Text.isHexDigit c = true ∨ c = ':' := by
  induction gs with
  | nil => cases h
  | cons g gs ih =>
      rcases List.mem_cons.mp h with rfl | h
      · exact .inr rfl
      · rcases List.mem_append.mp h with h | h
        · exact .inl (Net.isHexDigit_of_mem_hexDigits _ c h)
        · exact ih h

/-- So are groups with colons between them. -/
theorem of_mem_groupChars {gs : List UInt16} (h : c ∈ Net.groupChars gs) :
    Text.isHexDigit c = true ∨ c = ':' := by
  cases gs with
  | nil => cases h
  | cons g gs =>
      rw [Net.groupChars_cons] at h
      rcases List.mem_append.mp h with h | h
      · exact .inl (Net.isHexDigit_of_mem_hexDigits _ c h)
      · exact of_mem_colonGroups h

/-- So is the whole address, with or without the two colons that stand for zeros. -/
theorem of_mem_ipv6Chars {x : Net.Ipv6} (h : c ∈ ipv6Chars x) :
    Text.isHexDigit c = true ∨ c = ':' := by
  unfold ipv6Chars at h
  dsimp only at h
  split at h
  · simp only [List.mem_append, List.mem_cons] at h
    rcases h with h | rfl | rfl | h
    · exact of_mem_groupChars h
    · exact .inr rfl
    · exact .inr rfl
    · exact of_mem_groupChars h
  · exact of_mem_groupChars h

/-- The longest run of zeros is left out and filled in again. -/
theorem ipv6Head_ipv6Chars (x : Net.Ipv6) : Net.ipv6Head false (ipv6Chars x) = some (x, []) := by
  have hrun := Net.isRun_longest x.groups
  have hends := Net.ends_nil false
  unfold ipv6Chars
  generalize Net.longestZeros 0 (0, 0) x.groups = run at hrun
  obtain ⟨start, n⟩ := run
  dsimp only
  split
  · next hn =>
      have hhead := Net.ipv6Head_colons hends hn (Net.eq_of_isRun hrun)
      rwa [List.append_nil] at hhead
  · have hhead := Net.ipv6Head_groupChars hends x
    rwa [List.append_nil] at hhead

/-- An address in brackets is read as itself. The brackets are taken off before
anything is made of it. -/
theorem parse_ipv6 [Idna] (x : Net.Ipv6) : parse (chars (.ipv6 x)) = .ok (.ipv6 x) := by
  have hchars : chars (.ipv6 x) = '[' :: (ipv6Chars x ++ [']']) := rfl
  have hlast : ('[' :: (ipv6Chars x ++ [']'])).getLast? = some ']' := by
    rw [← List.cons_append, List.getLast?_append]
    rfl
  rw [hchars, parse, List.head?_cons, if_pos (by decide), bracketed, hlast, if_pos (by decide),
    List.drop_one, List.tail_cons, List.dropLast_concat, ipv6Head_ipv6Chars]
  rfl

-- ============================================== hosts

/-- The three kinds of hosts that there are. -/
inductive IsRead [Idna] : Host → Prop where
  | domain {name : List Char} (hname : IsName name) (hne : name ≠ [])
      (hnumber : endsInNumber name = false) : IsRead (.domain name)
  | ipv4 (x : Net.Ipv4) : IsRead (.ipv4 x)
  | ipv6 (x : Net.Ipv6) : IsRead (.ipv6 x)

variable {host : Host}

/-- In brackets there is nothing but an address. -/
theorem isRead_of_bracketed [Idna] (h : bracketed cs = .ok host) : host.IsRead := by
  unfold bracketed at h
  split at h
  · split at h
    · cases h
      exact .ipv6 _
    · cases h
  · cases h

/-- Whatever a text is read as is one of the three kinds, and a name among them is
one that was printed. -/
theorem isRead_of_parse [Idna] [LawfulIdna] (h : parse cs = .ok host) : host.IsRead := by
  unfold parse at h
  split at h
  · exact isRead_of_bracketed h
  · obtain ⟨name, hname, h⟩ := ok_bind_iff.mp h
    split at h
    · cases h
    · next hempty =>
        split at h
        · obtain ⟨x, -, rfl⟩ := ok_map_iff.mp h
          exact .ipv4 x
        · next hnumber =>
            cases h
            exact .domain (isName_of_domainToAscii hname) (by simpa using hempty)
              (Bool.eq_false_iff.mpr hnumber)

/-- Nothing in the text of the host is too long to be read. -/
def isShort : Host → Bool
  | .domain name => isReadableName name
  | .ipv4 _ => true
  | .ipv6 _ => true

/-- A host is read as what it was printed for, unless it is too long. -/
theorem IsRead.parse_chars [Idna] [LawfulIdna] (h : host.IsRead) :
    parse host.chars = if host.isShort then .ok host else .error .invalidDomainName := by
  cases h with
  | @domain name hname hne hnumber =>
      rw [chars, parse_of_isName hname hne, hnumber]
      rfl
  | ipv4 x => exact parse_ipv4 x
  | ipv6 x => exact parse_ipv6 x

/-- Without a bracket and a colon the host goes on to the end, or to the colon in
front of a port. -/
theorem hostHead_of_not_mark (hcs : ∀ c ∈ cs, c ≠ ':' ∧ c ≠ '[') {rest : List Char}
    (hrest : ∀ c ∈ rest.head?, c = ':') : hostHead false (cs ++ rest) = (cs, rest) := by
  induction cs with
  | nil =>
      cases rest with
      | nil => rfl
      | cons c rest =>
          obtain rfl := hrest c rfl
          rfl
  | cons c cs ih =>
      obtain ⟨⟨hcolon, hbracket⟩, hcs⟩ := List.forall_mem_cons.mp hcs
      rw [List.cons_append, hostHead, beq_false_of_ne hcolon, beq_false_of_ne hbracket]
      simp [ih hcs]

/-- Up to the bracket no colon ends the host. -/
theorem hostHead_in_brackets (hcs : ∀ c ∈ cs, c ≠ ']') (rest : List Char) :
    hostHead true (cs ++ ']' :: rest)
      = (cs ++ ']' :: (hostHead false rest).1, (hostHead false rest).2) := by
  induction cs with
  | nil => simp [hostHead]
  | cons c cs ih =>
      obtain ⟨hc, hcs⟩ := List.forall_mem_cons.mp hcs
      rw [List.cons_append, hostHead, bne_iff_ne.mpr hc]
      simp [ih hcs]

/-- A text without the marks that end a host is the whole of one. -/
theorem isHostText_of_not_mark (hne : cs ≠ [])
    (h : ∀ c ∈ cs, 0x20 < c.toNat ∧ c ∉ ['#', '/', ':', '?', '@', '[', '\\']) : IsHostText cs where
  ne_nil := hne
  chars c hc := by
    obtain ⟨hblank, hmark⟩ := h c hc
    simp only [List.mem_cons, List.not_mem_nil, or_false, not_or] at hmark
    exact ⟨hblank, by simp [endsAuthority, isSlash, endsPath, hmark], hmark.2.2.2.2.1⟩
  whole rest hrest := by
    refine hostHead_of_not_mark (fun c hc => ?_) hrest
    have hmark := (h c hc).2
    simp only [List.mem_cons, List.not_mem_nil, or_false, not_or] at hmark
    exact ⟨hmark.2.2.1, hmark.2.2.2.2.2.1⟩

/-- Neither is there a mark in an address, apart from the colons, and these stand in
brackets. -/
theorem isHostText_brackets (h : ∀ c ∈ cs, Text.isHexDigit c = true ∨ c = ':') :
    IsHostText ('[' :: cs ++ [']']) where
  ne_nil := by simp
  chars c hc := by
    simp only [List.mem_append, List.mem_cons, List.not_mem_nil, or_false] at hc
    rcases hc with (rfl | hc) | rfl
    · decide
    · rcases h c hc with hc | rfl
      · obtain ⟨hblank, hends, hat, -⟩ := of_isHexDigit hc
        exact ⟨hblank, hends, hat⟩
      · decide
    · decide
  whole rest hrest := by
    have hcs : ∀ c ∈ cs, c ≠ ']' := by
      intro c hc
      rcases h c hc with hc | rfl
      · exact (of_isHexDigit hc).2.2.2.2.2
      · decide
    have hnone : hostHead false ([] ++ rest) = ([], rest) :=
      hostHead_of_not_mark (List.forall_mem_nil _) hrest
    rw [List.nil_append] at hnone
    rw [List.append_assoc, List.singleton_append, List.cons_append, hostHead]
    simp [hostHead_in_brackets hcs, hnone]

/-- What is forbidden in names takes in all marks that end a host. -/
theorem isHostText_of_allowed (hne : cs ≠ []) (h : ∀ c ∈ cs, isForbidden c = false) :
    IsHostText cs := by
  refine isHostText_of_not_mark hne fun c hc => ?_
  obtain ⟨hblank, hmark⟩ := isForbidden_eq_false (h c hc)
  refine ⟨hblank, fun hmem => hmark ?_⟩
  simp only [List.mem_cons, List.not_mem_nil, or_false] at hmem ⊢
  tauto

/-- A printed name is a whole host. -/
theorem IsName.isHostText [Idna] (h : IsName name) (hne : name ≠ []) : IsHostText name :=
  isHostText_of_allowed hne h.allowed

/-- No mark in the text of a host ends it. -/
theorem IsRead.isHostText [Idna] [LawfulIdna] (h : host.IsRead) : IsHostText host.chars := by
  cases h with
  | domain hname hne => exact hname.isHostText hne
  | ipv4 x => exact (isName_chars x).isHostText (by simp [Net.Ipv4.chars])
  | ipv6 x => exact isHostText_brackets fun c => of_mem_ipv6Chars

end Host

end Sdwan.Url
