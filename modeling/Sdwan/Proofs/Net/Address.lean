/-
Addresses and networks are read as what they were printed for.

# Reading at the head of a text

The readers take what they need off the head of a text, so each lemma says
what they do with a printed thing and a rest behind it. The rest must not
go on with the thing: no digit behind a number, and neither a point nor a
colon behind a group of an IPv6 address (`Ends`).

# IPv6

An address is printed in one of three forms, and the reader does not know
in which. It first takes groups until there is no colon or no group behind
one (`groupsHead_colonGroups`). That is all of an address without zeros to
leave out. Else it stops at the two colons, and the groups behind them are
taken in the same way; what is left out between both are the zeros
(`eq_of_isRun`). The form that ends with an IPv4 address differs in
its last two groups only.

No IPv4 address begins where hexadecimal digits end with a colon
(`ipv4Head_hex`), which keeps the two families apart.
-/
import Sdwan.Net.Address
import Sdwan.Proofs.Text.Numeral

namespace Sdwan.Net

open Text

-- ============================================== numbers at the head

/-- The text does not begin with a character of the kind. -/
def Stops (p : Char → Bool) (cs : List Char) : Prop := ∀ c ∈ cs.head?, p c = false

theorem stops_nil (p : Char → Bool) : Stops p [] := fun c hc => by cases hc

/-- A text stops a kind of character if its first one is of another kind. -/
theorem stops_cons {p : Char → Bool} {c : Char} (h : p c = false) (cs : List Char) :
    Stops p (c :: cs) := by
  intro d hd
  obtain rfl := Option.some.inj hd
  exact h

/-- Of a text that stops, nothing is taken. -/
theorem takeWhile_of_stops {p : Char → Bool} {cs : List Char} (h : Stops p cs) :
    cs.takeWhile p = [] := by
  cases cs with
  | nil => rfl
  | cons c cs => rw [List.takeWhile_cons_of_neg (by rw [h c rfl]; exact Bool.false_ne_true)]

theorem dropWhile_of_stops {p : Char → Bool} {cs : List Char} (h : Stops p cs) :
    cs.dropWhile p = cs := by
  cases cs with
  | nil => rfl
  | cons c cs => rw [List.dropWhile_cons_of_neg (by rw [h c rfl]; exact Bool.false_ne_true)]

/-- Digits in front of a text that stops are taken, and no more. -/
theorem takeWhile_append_stops {p : Char → Bool} {ds rest : List Char} (hds : ∀ d ∈ ds, p d = true)
    (hrest : Stops p rest) : (ds ++ rest).takeWhile p = ds := by
  rw [List.takeWhile_append_of_pos hds, takeWhile_of_stops hrest, List.append_nil]

/-- What is left behind the digits is the text that stops them. -/
theorem dropWhile_append_stops {p : Char → Bool} {ds rest : List Char} (hds : ∀ d ∈ ds, p d = true)
    (hrest : Stops p rest) : (ds ++ rest).dropWhile p = rest := by
  rw [List.dropWhile_append_of_pos hds, dropWhile_of_stops hrest]

/-- A number that was printed is read, up to the text behind it. -/
theorem number_toDigits {p : Char → Bool} {b digits bound n : Nat} {zeros : Bool}
    {rest : List Char} (hb : 1 < b) (hb' : b ≤ 16) (hp : ∀ d, d < b → p d.digitChar = true)
    (hbound : n < bound) (hdigits : 0 < digits) (hlen : n < b ^ digits) (hrest : Stops p rest) :
    number p b digits bound zeros (Nat.toDigits b n ++ rest) = some (n, rest) := by
  have hds : ∀ c ∈ Nat.toDigits b n, p c = true := forall_mem_toDigits hb hp
  have hlength : ¬ digits < (Nat.toDigits b n).length :=
    Nat.not_lt.mpr ((Nat.length_toDigits_le_iff hb hdigits).mpr hlen)
  -- a zero in front is refused, but a printed number has none unless it is 0
  have hzero : (1 < (Nat.toDigits b n).length && (Nat.toDigits b n).head? == some '0') = false := by
    by_cases h : 1 < (Nat.toDigits b n).length
    · have hne := head?_toDigits_of_one_lt hb hb' h
      simp [hne]
    · simp [h]
  unfold number
  rw [takeWhile_append_stops hds hrest, dropWhile_append_stops hds hrest]
  dsimp only
  rw [valueInBase_toDigits hb hb', if_neg]
  rw [Bool.and_assoc, hzero]
  simp [hlength, hbound]

-- ============================================== IPv4

/-- An octet that was printed is read. -/
theorem octet_decimal (zeros : Bool) (x : UInt8) {rest : List Char} (h : Stops isDigit rest) :
    octet zeros (decimal x.toNat ++ rest) = some (x, rest) := by
  have hx : x.toNat < 256 := x.toNat_lt
  unfold octet decimal
  rw [number_toDigits (by decide) (by decide) (fun d => isDigit_digitChar) hx (by decide) (by omega)
    h]
  exact congrArg (fun y => some (y, rest)) x.ofNat_toNat

/-- An address that was printed is read, up to the text behind it. -/
theorem ipv4Head_chars (zeros : Bool) (x : Ipv4) {rest : List Char} (h : Stops isDigit rest) :
    ipv4Head zeros (x.chars ++ rest) = some (x, rest) := by
  have hpoint : ∀ cs, Stops isDigit ('.' :: cs) := stops_cons (by decide)
  have hgiven : ∀ cs, given '.' ('.' :: cs) = some cs := fun _ => rfl
  have hchars : x.chars ++ rest
      = decimal x.a.toNat ++ ('.' :: (decimal x.b.toNat ++ ('.' :: (decimal x.c.toNat
        ++ ('.' :: (decimal x.d.toNat ++ rest)))))) := by
    simp [Ipv4.chars]
  unfold ipv4Head
  simp only [hchars, octet_decimal zeros _ (hpoint _), octet_decimal zeros _ h, hgiven,
    Option.bind_eq_bind, Option.bind_some]
  rfl

/-- An IPv4 address is read as what it was printed for. -/
theorem Ipv4.parse?_text (x : Ipv4) : Ipv4.parse? x.text = some x := by
  have hhead := ipv4Head_chars false x (stops_nil isDigit)
  rw [List.append_nil] at hhead
  rw [parse?, text, String.toList_ofList, hhead]
  rfl

/-- The length of a prefix is read as what it was printed for. -/
theorem prefixLength_decimal {digits max n : Nat} (h : n ≤ max) (hdigits : 0 < digits)
    (hlen : max < 10 ^ digits) : prefixLength digits max (decimal n) = some ⟨n, h⟩ := by
  have hnumber : number isDigit 10 digits (max + 1) true (decimal n ++ []) = some (n, []) :=
    number_toDigits (by decide) (by decide) (fun d => isDigit_digitChar) (Nat.lt_succ_of_le h)
      hdigits (Nat.lt_of_le_of_lt h hlen) (stops_nil isDigit)
  rw [List.append_nil] at hnumber
  unfold prefixLength
  rw [hnumber]
  exact dif_pos h

/-- An IPv4 network is read as what it was printed for. The slash ends the last
octet. -/
theorem Ipv4Net.parse?_text (x : Ipv4Net) : Ipv4Net.parse? x.text = some x := by
  have hslash : Stops isDigit ('/' :: decimal x.length) := stops_cons (by decide) _
  have hhead := ipv4Head_chars true x.addr hslash
  have hlength := prefixLength_decimal x.length_le (by decide : 0 < 2) (by decide)
  have hgiven : given '/' ('/' :: decimal x.length) = some (decimal x.length) := rfl
  unfold parse? text
  simp only [String.toList_ofList, hhead, hgiven, hlength, Option.bind_eq_bind, Option.bind_some]
  rfl

-- ============================================== groups of IPv6

/-- The text goes on neither with a digit of a group nor with a point, so
a group ends in front of it. -/
def Closes (cs : List Char) : Prop := ∀ c ∈ cs.head?, isHexDigit c = false ∧ c ≠ '.'

theorem closes_nil : Closes [] := fun c hc => by cases hc

/-- A group ends in front of a character that is neither a digit of it nor a point. -/
theorem closes_cons {c : Char} (h : isHexDigit c = false ∧ c ≠ '.') (cs : List Char) :
    Closes (c :: cs) := by
  intro d hd
  obtain rfl := Option.some.inj hd
  exact h

theorem closes_colon (cs : List Char) : Closes (':' :: cs) := closes_cons (by decide) cs

theorem Closes.stops {cs : List Char} (h : Closes cs) : Stops isHexDigit cs :=
  fun c hc => (h c hc).1

/-- A decimal number does not go on where a group ends. -/
theorem Closes.stops_isDigit {cs : List Char} (h : Closes cs) : Stops isDigit cs := by
  intro c hc
  by_contra hd
  have hhex := isHexDigit_of_isDigit (Bool.not_eq_false _ ▸ hd)
  rw [(h c hc).1] at hhex
  cases hhex

/-- Of hexadecimal digits, the decimal ones in front are dropped, and the
text behind them stays. -/
theorem dropWhile_append_closes (ds : List Char) {rest : List Char} (h : Closes rest) :
    (ds ++ rest).dropWhile isDigit = ds.dropWhile isDigit ++ rest := by
  induction ds with
  | nil => exact dropWhile_of_stops h.stops_isDigit
  | cons d ds ih =>
      rw [List.cons_append]
      by_cases hd : isDigit d = true
      · rw [List.dropWhile_cons_of_pos hd, List.dropWhile_cons_of_pos hd, ih]
      · rw [List.dropWhile_cons_of_neg hd, List.dropWhile_cons_of_neg hd, List.cons_append]

/-- What is left behind a number is what follows its digits. -/
theorem rest_of_number {p : Char → Bool} {b digits bound n : Nat} {zeros : Bool}
    {cs rest : List Char} (h : number p b digits bound zeros cs = some (n, rest)) :
    rest = cs.dropWhile p := by
  unfold number at h
  dsimp only at h
  split at h
  · cases h
  · exact (congrArg Prod.snd (Option.some.inj h)).symm

/-- Neither digits nor what closes them begin with a point. -/
theorem given_point_of_closes {ds rest : List Char} (hds : ∀ d ∈ ds, isHexDigit d = true)
    (hrest : Closes rest) : given '.' (ds ++ rest) = none := by
  cases ds with
  | nil =>
      cases rest with
      | nil => rfl
      | cons c rest => rw [List.nil_append, given, if_neg (by simpa using (hrest c rfl).2)]
  | cons d ds =>
      have hne : d ≠ '.' := by
        rintro rfl
        exact absurd (hds '.' List.mem_cons_self) (by decide)
      rw [List.cons_append, given, if_neg (by simpa using hne)]

/-- Where hexadecimal digits end without a point, no IPv4 address begins:
behind its first number there is no point. -/
theorem ipv4Head_hex (zeros : Bool) {ds rest : List Char} (hds : ∀ d ∈ ds, isHexDigit d = true)
    (hrest : Closes rest) : ipv4Head zeros (ds ++ rest) = none := by
  unfold ipv4Head
  cases ho : octet zeros (ds ++ rest) with
  | none => rfl
  | some r =>
      obtain ⟨x, cs⟩ := r
      obtain ⟨⟨n, cs'⟩, hn, hx⟩ := Option.map_eq_some_iff.mp ho
      obtain rfl : cs' = cs := congrArg Prod.snd hx
      -- if there is a number in front, its digits end among the hexadecimal ones or with them
      have hgiven : given '.' cs' = none := by
        rw [rest_of_number hn, dropWhile_append_closes ds hrest]
        exact given_point_of_closes (fun d hd => hds d ((List.dropWhile_sublist _).subset hd)) hrest
      simp only [hgiven, Option.bind_eq_bind, Option.bind_some, Option.bind_none]

/-- A group that was printed is read. -/
theorem number_hexDigits (g : UInt16) {rest : List Char} (h : Closes rest) :
    number isHexDigit 16 4 65536 true (hexDigits g.toNat ++ rest) = some (g.toNat, rest) :=
  number_toDigits (by decide) (by decide) (fun _ => isHexDigit_digitChar) g.toNat_lt (by decide)
    g.toNat_lt h.stops

/-- A group is printed with hexadecimal digits only. -/
theorem isHexDigit_of_mem_hexDigits (n : Nat) : ∀ c ∈ hexDigits n, isHexDigit c = true :=
  forall_mem_toDigits (by decide) fun _ => isHexDigit_digitChar

/-- Groups with a colon in front of each. -/
def colonGroups : List UInt16 → List Char
  | [] => []
  | g :: gs => ':' :: (hexDigits g.toNat ++ colonGroups gs)

/-- Only the first group has no colon in front. -/
theorem groupChars_cons (g : UInt16) (gs : List UInt16) :
    groupChars (g :: gs) = hexDigits g.toNat ++ colonGroups gs := by
  induction gs generalizing g with
  | nil => rw [groupChars, colonGroups, List.append_nil]
  | cons g' gs ih =>
      rw [groupChars, ih, colonGroups]
      exact List.cons_ne_nil _ _

/-- What closes a group also closes one in front of further groups. -/
theorem closes_colonGroups (gs : List UInt16) {rest : List Char} (h : Closes rest) :
    Closes (colonGroups gs ++ rest) := by
  cases gs with
  | nil => exact h
  | cons g gs => exact closes_colon _

/-- No more groups are taken from the text. -/
def Ends (zeros : Bool) (cs : List Char) : Prop :=
  Closes cs ∧ ∀ limit, groupsHead zeros limit false cs = ([], false, cs)

/-- Groups with colons are taken one by one, up to the end of them. -/
theorem groupsHead_colonGroups {zeros : Bool} {rest : List Char} (h : Ends zeros rest)
    (gs : List UInt16) {limit : Nat} (hlimit : gs.length ≤ limit) :
    groupsHead zeros limit false (colonGroups gs ++ rest) = (gs, false, rest) := by
  induction gs generalizing limit with
  | nil => exact h.2 limit
  | cons g gs ih =>
      obtain ⟨limit, rfl⟩ : ∃ l, limit = l + 1 := ⟨limit - 1, by
        rw [List.length_cons] at hlimit
        omega⟩
      have hclose := closes_colonGroups gs h.1
      have hbody : given ':' (colonGroups (g :: gs) ++ rest)
          = some (hexDigits g.toNat ++ (colonGroups gs ++ rest)) := by
        rw [colonGroups, List.cons_append, List.append_assoc]
        rfl
      -- before each group the reader tries an IPv4 address, and here there is none
      have hno : (if (limit == 0) = true then none
          else ipv4Head zeros (hexDigits g.toNat ++ (colonGroups gs ++ rest))) = none := by
        rw [ipv4Head_hex zeros (isHexDigit_of_mem_hexDigits _) hclose, ite_self]
      have hrec := ih (Nat.le_of_succ_le_succ hlimit)
      rw [groupsHead]
      simp only [Bool.false_eq_true, if_false, hbody, hno, number_hexDigits g hclose, hrec,
        UInt16.ofNat_toNat]

/-- No group is taken where there is no digit. -/
theorem number_of_closes {rest : List Char} (h : Closes rest) :
    number isHexDigit 16 4 65536 true rest = none := by
  unfold number
  rw [takeWhile_of_stops h.stops]
  rfl

/-- No IPv4 address begins with what closes a group. -/
theorem ipv4Head_of_closes (zeros : Bool) {rest : List Char} (h : Closes rest) :
    ipv4Head zeros rest = none :=
  ipv4Head_hex zeros (List.forall_mem_nil fun d => isHexDigit d = true) h

/-- Groups at the beginning of a text are taken, up to the end of them. -/
theorem groupsHead_groupChars {zeros : Bool} {rest : List Char} (h : Ends zeros rest)
    (gs : List UInt16) {limit : Nat} (hlimit : gs.length ≤ limit) :
    groupsHead zeros limit true (groupChars gs ++ rest) = (gs, false, rest) := by
  cases gs with
  | nil =>
      cases limit with
      | zero => rfl
      | succ limit =>
          rw [groupsHead]
          simp only [groupChars, List.nil_append, if_true, ipv4Head_of_closes zeros h.1,
            number_of_closes h.1, ite_self]
  | cons g gs =>
      obtain ⟨limit, rfl⟩ : ∃ l, limit = l + 1 := ⟨limit - 1, by
        rw [List.length_cons] at hlimit
        omega⟩
      have hclose := closes_colonGroups gs h.1
      have hrec := groupsHead_colonGroups h gs (Nat.le_of_succ_le_succ hlimit)
      have hno := ipv4Head_hex zeros (isHexDigit_of_mem_hexDigits g.toNat) hclose
      rw [groupsHead, groupChars_cons, List.append_assoc]
      simp only [if_true, hno, ite_self, number_hexDigits g hclose, hrec, UInt16.ofNat_toNat]

/-- No group is taken from the empty text. -/
theorem ends_nil (zeros : Bool) : Ends zeros [] := by
  refine ⟨closes_nil, fun limit => ?_⟩
  cases limit with
  | zero => rfl
  | succ limit => rfl

/-- The slash of a network ends its groups. -/
theorem ends_slash (zeros : Bool) (cs : List Char) : Ends zeros ('/' :: cs) := by
  refine ⟨closes_cons (by decide) cs, fun limit => ?_⟩
  cases limit with
  | zero => rfl
  | succ limit => rfl

/-- Two colons end the groups: the first of them is taken for one that goes between
groups, and behind it there is no digit. -/
theorem ends_colons (zeros : Bool) (cs : List Char) : Ends zeros (':' :: ':' :: cs) := by
  refine ⟨closes_colon _, fun limit => ?_⟩
  cases limit with
  | zero => rfl
  | succ limit =>
      have hgiven : given ':' (':' :: ':' :: cs) = some (':' :: cs) := rfl
      have hclose : Closes (':' :: cs) := closes_colon cs
      rw [groupsHead]
      simp only [Bool.false_eq_true, if_false, hgiven, ipv4Head_of_closes zeros hclose,
        number_of_closes hclose, ite_self]

-- ============================================== the zeros left out

/-- The groups that are counted at the head are zeros. -/
theorem take_zerosAtHead (gs : List UInt16) :
    gs.take (zerosAtHead gs) = List.replicate (zerosAtHead gs) 0 ∧ zerosAtHead gs ≤ gs.length := by
  induction gs with
  | nil => exact ⟨rfl, Nat.le_refl 0⟩
  | cons g gs ih =>
      rw [zerosAtHead]
      by_cases hg : (g == 0) = true
      · rw [if_pos hg, List.take_succ_cons, List.replicate_succ, ih.1, eq_of_beq hg]
        exact ⟨rfl, Nat.succ_le_succ ih.2⟩
      · rw [if_neg hg]
        exact ⟨rfl, Nat.zero_le _⟩

/-- A run of zeros: so many groups from a position on. -/
def IsRun (groups : List UInt16) (run : Nat × Nat) : Prop :=
  (groups.drop run.1).take run.2 = List.replicate run.2 0 ∧ run.1 + run.2 ≤ groups.length

/-- What is found is a run, if the best one so far is. -/
theorem isRun_longestZeros {groups : List UInt16} {best : Nat × Nat} (hbest : IsRun groups best)
    (before gs : List UInt16) (hgs : groups = before ++ gs) :
    IsRun groups (longestZeros before.length best gs) := by
  induction gs generalizing before best with
  | nil => exact hbest
  | cons g gs ih =>
      rw [longestZeros]
      have hnext := fun best' (h : IsRun groups best') => ih h (before ++ [g])
        (by rw [hgs, List.append_assoc]; rfl)
      rw [List.length_append] at hnext
      -- the run that begins here replaces the best one only if it is longer
      refine hnext _ ?_
      split
      · obtain ⟨htake, hle⟩ := take_zerosAtHead (g :: gs)
        refine ⟨?_, ?_⟩
        · rw [hgs, List.drop_left]
          exact htake
        · rw [hgs, List.length_append]
          exact Nat.add_le_add_left hle _
      · exact hbest

/-- The run that is looked for in an address is one: the search starts with the
empty run. -/
theorem isRun_longest (groups : List UInt16) : IsRun groups (longestZeros 0 (0, 0) groups) :=
  isRun_longestZeros ⟨rfl, Nat.zero_le _⟩ [] groups rfl

/-- The groups before a run, the zeros and the groups behind make up the
address. -/
theorem eq_of_isRun {groups : List UInt16} {start n : Nat} (h : IsRun groups (start, n)) :
    groups.take start ++ List.replicate n 0 ++ groups.drop (start + n) = groups := by
  rw [← h.1, List.append_assoc, ← List.drop_drop]
  show groups.take start ++ ((groups.drop start).take n ++ (groups.drop start).drop n) = groups
  rw [List.take_append_drop, List.take_append_drop]

-- ============================================== IPv6

/-- The groups of an address are eight, so they make it up again. -/
theorem ofGroups?_groups (x : Ipv6) : Ipv6.ofGroups? x.groups = some x := dif_pos x.length_eq

/-- An address without zeros to leave out. -/
theorem ipv6Head_groupChars {zeros : Bool} {rest : List Char} (h : Ends zeros rest) (x : Ipv6) :
    ipv6Head zeros (groupChars x.groups ++ rest) = some (x, rest) := by
  have hlength : (x.groups.length == 8) = true := beq_iff_eq.mpr x.length_eq
  unfold ipv6Head
  rw [groupsHead_groupChars h x.groups (Nat.le_of_eq x.length_eq)]
  dsimp only
  rw [if_pos hlength, ofGroups?_groups]
  rfl

/-- An address with two colons for its zeros. -/
theorem ipv6Head_colons {zeros : Bool} {rest : List Char} (h : Ends zeros rest) {x : Ipv6}
    {head tail : List UInt16} {n : Nat} (hn : 1 < n)
    (hx : head ++ List.replicate n 0 ++ tail = x.groups) :
    ipv6Head zeros (groupChars head ++ ':' :: ':' :: (groupChars tail ++ rest))
      = some (x, rest) := by
  have hsum : head.length + n + tail.length = 8 := by
    have := congrArg List.length hx
    rwa [x.length_eq, List.length_append, List.length_append, List.length_replicate] at this
  have hshort : ¬ (head.length == 8) = true := by
    rw [beq_iff_eq]
    omega
  have hzeros : 8 - head.length - tail.length = n := by omega
  unfold ipv6Head
  rw [groupsHead_groupChars (ends_colons zeros _) head (by omega)]
  dsimp only
  rw [if_neg hshort, if_neg Bool.false_ne_true]
  show (Ipv6.ofGroups? (head ++ List.replicate (8 - head.length
    - (groupsHead zeros (7 - head.length) true (groupChars tail ++ rest)).1.length) 0
    ++ (groupsHead zeros (7 - head.length) true (groupChars tail ++ rest)).1)).map _ = _
  rw [groupsHead_groupChars h tail (by omega : tail.length ≤ 7 - head.length)]
  dsimp only
  rw [hzeros, hx, ofGroups?_groups]
  rfl

/-- The two octets of a group make it up. -/
theorem ofNat_octets (g : UInt16) :
    UInt16.ofNat ((g >>> 8).toUInt8.toNat * 256 + g.toUInt8.toNat) = g := by
  have hg : g.toNat < 65536 := g.toNat_lt
  refine UInt16.toNat_inj.mp ?_
  rw [UInt16.toNat_ofNat', UInt16.toNat_toUInt8, UInt16.toNat_toUInt8, UInt16.toNat_shiftRight]
  show ((g.toNat >>> 8) % 256 * 256 + g.toNat % 256) % 65536 = g.toNat
  rw [Nat.shiftRight_eq_div_pow]
  omega

/-- The octets of the last two groups stand for them. -/
theorem embedded_octets (g k : UInt16) :
    embedded ⟨(g >>> 8).toUInt8, g.toUInt8, (k >>> 8).toUInt8, k.toUInt8⟩ = [g, k] := by
  rw [embedded, ofNat_octets, ofNat_octets]

/-- An IPv4 address behind a colon stands for two groups. -/
theorem groupsHead_ipv4 {zeros : Bool} {rest : List Char} (h : Closes rest) (x : Ipv4)
    (limit : Nat) :
    groupsHead zeros (limit + 2) false (':' :: (x.chars ++ rest)) = (embedded x, true, rest) := by
  have hgiven : given ':' (':' :: (x.chars ++ rest)) = some (x.chars ++ rest) := rfl
  have hlimit : ¬ (limit + 1 == 0) = true := by simp
  rw [groupsHead]
  simp only [Bool.false_eq_true, if_false, hgiven, if_neg hlimit,
    ipv4Head_chars zeros x h.stops_isDigit]

/-- An address that ends with the points of an IPv4 address. -/
theorem ipv6Head_mapped {zeros : Bool} {rest : List Char} (h : Closes rest) {x : Ipv6}
    {g k : UInt16} (hx : x.groups = [0, 0, 0, 0, 0, 0xFFFF, g, k]) (y : Ipv4)
    (hy : embedded y = [g, k]) :
    ipv6Head zeros ("::ffff:".toList ++ y.chars ++ rest) = some (x, rest) := by
  -- the form is read like any other one with two colons: no group in front, and behind
  -- them `ffff` and the points
  have hffff : ("::ffff:".toList ++ y.chars ++ rest)
      = groupChars [] ++ ':' :: ':' :: (hexDigits (0xFFFF : UInt16).toNat
        ++ ':' :: (y.chars ++ rest)) := by
    rw [List.append_assoc]
    rfl
  have hclose : Closes (':' :: (y.chars ++ rest)) := closes_colon _
  have htail : groupsHead zeros 7 true (hexDigits (0xFFFF : UInt16).toNat
      ++ ':' :: (y.chars ++ rest)) = ([0xFFFF, g, k], true, rest) := by
    have hno := ipv4Head_hex zeros (isHexDigit_of_mem_hexDigits (0xFFFF : UInt16).toNat) hclose
    rw [groupsHead]
    simp only [if_true, hno, ite_self, number_hexDigits _ hclose, groupsHead_ipv4 h y 4, hy,
      UInt16.ofNat_toNat]
  unfold ipv6Head
  rw [hffff, groupsHead_groupChars (ends_colons zeros _) [] (Nat.zero_le 8)]
  dsimp only
  rw [if_neg (by decide), if_neg Bool.false_ne_true]
  simp only [List.length_nil, Nat.sub_zero, htail]
  have hgroups : [] ++ List.replicate (8 - [0xFFFF, g, k].length) 0 ++ [0xFFFF, g, k]
      = x.groups := hx.symm
  rw [hgroups, ofGroups?_groups]
  rfl

/-- An address that was printed is read, up to the text behind it. -/
theorem ipv6Head_chars {zeros : Bool} {rest : List Char} (h : Ends zeros rest) (x : Ipv6) :
    ipv6Head zeros (x.chars ++ rest) = some (x, rest) := by
  unfold Ipv6.chars
  split
  case h_1 g k hx => exact ipv6Head_mapped h.1 hx _ (embedded_octets g k)
  case h_2 =>
      have hrun := isRun_longest x.groups
      generalize longestZeros 0 (0, 0) x.groups = run at hrun
      obtain ⟨start, n⟩ := run
      dsimp only
      split
      case isTrue hn =>
          rw [List.append_assoc]
          exact ipv6Head_colons h hn (eq_of_isRun hrun)
      case isFalse => exact ipv6Head_groupChars h x

/-- An IPv6 address is read as what it was printed for. -/
theorem Ipv6.parse?_text (x : Ipv6) : Ipv6.parse? x.text = some x := by
  have hhead := ipv6Head_chars (ends_nil false) x
  rw [List.append_nil] at hhead
  rw [parse?, text, String.toList_ofList, hhead]
  rfl

/-- An IPv6 network is read as what it was printed for. -/
theorem Ipv6Net.parse?_text (x : Ipv6Net) : Ipv6Net.parse? x.text = some x := by
  have hhead := ipv6Head_chars (ends_slash true (decimal x.length)) x.addr
  have hlength := prefixLength_decimal x.length_le (by decide : 0 < 3) (by decide)
  have hgiven : given '/' ('/' :: decimal x.length) = some (decimal x.length) := rfl
  unfold parse? text
  simp only [String.toList_ofList, hhead, hgiven, hlength, Option.bind_eq_bind, Option.bind_some]
  rfl

-- ============================================== either family

/-- Groups are not the beginning of an IPv4 address. -/
theorem ipv4Head_groupChars (zeros : Bool) (gs : List UInt16) {rest : List Char}
    (h : Closes rest) : ipv4Head zeros (groupChars gs ++ rest) = none := by
  cases gs with
  | nil => exact ipv4Head_of_closes zeros h
  | cons g gs =>
      rw [groupChars_cons, List.append_assoc]
      exact ipv4Head_hex zeros (isHexDigit_of_mem_hexDigits _) (closes_colonGroups gs h)

/-- No form of an IPv6 address begins with an IPv4 address. -/
theorem ipv4Head_ipv6 (zeros : Bool) (x : Ipv6) {rest : List Char} (h : Closes rest) :
    ipv4Head zeros (x.chars ++ rest) = none := by
  unfold Ipv6.chars
  split
  case h_1 g k hx =>
      rw [List.append_assoc]
      exact ipv4Head_of_closes zeros (closes_colon _)
  case h_2 =>
      dsimp only
      split
      case isTrue =>
          rw [List.append_assoc]
          exact ipv4Head_groupChars zeros _ (closes_colon _)
      case isFalse => exact ipv4Head_groupChars zeros _ h

/-- An address of either family is read as what it was printed for. -/
theorem Ip.parse?_text (x : Ip) : Ip.parse? x.text = some x := by
  cases x with
  | v4 x => rw [parse?, text, Ipv4.parse?_text]
  | v6 x =>
      have hv4 : Ipv4.parse? x.text = none := by
        have hhead := ipv4Head_ipv6 false x closes_nil
        rw [List.append_nil] at hhead
        rw [Ipv4.parse?, Ipv6.text, String.toList_ofList, hhead]
        rfl
      rw [parse?, text, hv4, Ipv6.parse?_text]
      rfl

/-- A network of either family is read as what it was printed for. The reader tries
IPv4 first, and no printed IPv6 address begins with an IPv4 one. -/
theorem IpNet.parse?_text (x : IpNet) : IpNet.parse? x.text = some x := by
  cases x with
  | v4 x => rw [parse?, text, Ipv4Net.parse?_text]
  | v6 x =>
      have hv4 : Ipv4Net.parse? x.text = none := by
        have hhead := ipv4Head_ipv6 true x.addr (ends_slash true (decimal x.length)).1
        rw [Ipv4Net.parse?, Ipv6Net.text, String.toList_ofList, hhead]
        rfl
      rw [parse?, text, hv4, Ipv6Net.parse?_text]
      rfl

end Sdwan.Net
