/-
Internet addresses and networks, with their texts.

The grammar comes in two strengths, which differ in one point only: an
address on its own refuses an octet with a leading zero, the address of
a network accepts it.
-/
import Sdwan.Text.Numeral

namespace Sdwan.Net

-- ============================================== types

/-- An IPv4 address. -/
structure Ipv4 where
  a : UInt8
  b : UInt8
  c : UInt8
  d : UInt8
deriving DecidableEq, Repr, Inhabited

/-- An IPv6 address: eight groups of sixteen bits. -/
structure Ipv6 where
  groups : List UInt16
  length_eq : groups.length = 8 := by rfl
deriving DecidableEq, Repr

/-- An address of either family. -/
inductive Ip where
  | v4 (addr : Ipv4)
  | v6 (addr : Ipv6)
deriving DecidableEq, Repr

/-- An IPv4 address with the length of its network prefix. -/
structure Ipv4Net where
  addr : Ipv4
  length : Nat
  length_le : length ≤ 32
deriving DecidableEq, Repr

/-- An IPv6 address with the length of its network prefix. -/
structure Ipv6Net where
  addr : Ipv6
  length : Nat
  length_le : length ≤ 128
deriving DecidableEq, Repr

/-- A network of either family. -/
inductive IpNet where
  | v4 (net : Ipv4Net)
  | v6 (net : Ipv6Net)
deriving DecidableEq, Repr

/-- The address as a number of 32 bits. -/
def Ipv4.toNat (x : Ipv4) : Nat :=
  ((x.a.toNat * 256 + x.b.toNat) * 256 + x.c.toNat) * 256 + x.d.toNat

/-- The address as a number of 128 bits. -/
def Ipv6.toNat (x : Ipv6) : Nat := x.groups.foldl (fun n g => 65536 * n + g.toNat) 0

/-- The address has no bit set behind the prefix. -/
def Ipv4Net.isNetwork (x : Ipv4Net) : Bool := x.addr.toNat % Nat.pow 2 (32 - x.length) == 0

/-- The address has no bit set behind the prefix. -/
def Ipv6Net.isNetwork (x : Ipv6Net) : Bool := x.addr.toNat % Nat.pow 2 (128 - x.length) == 0

-- ============================================== printing

/-- The decimal digits of a number. -/
def decimal (n : Nat) : List Char := Nat.toDigits 10 n

/-- Four octets with points. -/
def Ipv4.chars (x : Ipv4) : List Char :=
  decimal x.a.toNat ++ '.' :: decimal x.b.toNat ++ '.' :: decimal x.c.toNat
    ++ '.' :: decimal x.d.toNat

/-- The groups in lower case hexadecimal with colons between them. -/
def groupChars : List UInt16 → List Char
  | [] => []
  | [g] => Text.hexDigits g.toNat
  | g :: gs => Text.hexDigits g.toNat ++ ':' :: groupChars gs

/-- The number of zero groups at the head. -/
def zerosAtHead : List UInt16 → Nat
  | [] => 0
  | g :: gs => if g == 0 then zerosAtHead gs + 1 else 0

/-- Start and length of the first of the longest runs of zero groups;
`best` is the one found so far among the `i` groups before. -/
def longestZeros : (i : Nat) → (best : Nat × Nat) → List UInt16 → Nat × Nat
  | _, best, [] => best
  | i, best, g :: gs =>
    let n := zerosAtHead (g :: gs)
    longestZeros (i + 1) (if best.2 < n then (i, n) else best) gs

/-- The first longest run of at least two zero groups becomes `::`; an
IPv4 address mapped into the range `::ffff:0:0/96` keeps its points. -/
def Ipv6.chars (x : Ipv6) : List Char :=
  match x.groups with
  | [0, 0, 0, 0, 0, 0xFFFF, g, h] =>
    "::ffff:".toList
      ++ Ipv4.chars ⟨(g >>> 8).toUInt8, g.toUInt8, (h >>> 8).toUInt8, h.toUInt8⟩
  | groups =>
    let (start, n) := longestZeros 0 (0, 0) groups
    if 1 < n then
      groupChars (groups.take start) ++ ':' :: ':' :: groupChars (groups.drop (start + n))
    else groupChars groups

/-- The text of an address. -/
def Ipv4.text (x : Ipv4) : String := String.ofList x.chars
/-- The text of an address. -/
def Ipv6.text (x : Ipv6) : String := String.ofList x.chars

/-- The text of an address. -/
def Ip.text : Ip → String
  | .v4 x => x.text
  | .v6 x => x.text

/-- Address, slash, length of the prefix. -/
def Ipv4Net.text (x : Ipv4Net) : String :=
  String.ofList (x.addr.chars ++ '/' :: decimal x.length)
/-- Address, slash, length of the prefix. -/
def Ipv6Net.text (x : Ipv6Net) : String :=
  String.ofList (x.addr.chars ++ '/' :: decimal x.length)

/-- The text of a network. -/
def IpNet.text : IpNet → String
  | .v4 x => x.text
  | .v6 x => x.text

-- ============================================== reading

/-- A number of at most `digits` digits below `bound`, at the head of a
text. All digits that stand there belong to it. -/
def number (isDigit : Char → Bool) (base digits bound : Nat) (leadingZeros : Bool)
    (cs : List Char) : Option (Nat × List Char) :=
  let ds := cs.takeWhile isDigit
  let n := Text.valueInBase base ds
  if ds.isEmpty || digits < ds.length || bound ≤ n
      || (!leadingZeros && 1 < ds.length && ds.head? == some '0') then none
  else some (n, cs.dropWhile isDigit)

/-- An octet of an IPv4 address. -/
def octet (leadingZeros : Bool) (cs : List Char) : Option (UInt8 × List Char) :=
  (number Text.isDigit 10 3 256 leadingZeros cs).map fun (n, r) => (UInt8.ofNat n, r)

/-- Takes a given character off the head. -/
def given (c : Char) : List Char → Option (List Char)
  | [] => none
  | x :: xs => if x == c then some xs else none

/-- An IPv4 address at the head of a text. -/
def ipv4Head (lz : Bool) (cs : List Char) : Option (Ipv4 × List Char) := do
  let (a, cs) ← octet lz cs
  let (b, cs) ← octet lz (← given '.' cs)
  let (c, cs) ← octet lz (← given '.' cs)
  let (d, cs) ← octet lz (← given '.' cs)
  pure (⟨a, b, c, d⟩, cs)

/-- The two groups an embedded IPv4 address stands for. -/
def embedded (x : Ipv4) : List UInt16 :=
  [UInt16.ofNat (x.a.toNat * 256 + x.b.toNat), UInt16.ofNat (x.c.toNat * 256 + x.d.toNat)]

/-- Up to `limit` groups with colons between them; an IPv4 address may
stand for the last two. Gives the groups, whether they end with an IPv4
address, and the rest of the text. -/
def groupsHead (lz : Bool) : (limit : Nat) → (first : Bool) → List Char →
    List UInt16 × Bool × List Char
  | 0, _, cs => ([], false, cs)
  | limit + 1, first, cs =>
    match if first then some cs else given ':' cs with
    | none => ([], false, cs)
    | some body =>
      match if limit == 0 then none else ipv4Head lz body with
      | some (x, rest) => (embedded x, true, rest)
      | none =>
        match number Text.isHexDigit 16 4 65536 true body with
        | none => ([], false, cs)
        | some (g, rest) =>
          let (gs, dotted, rest) := groupsHead lz limit false rest
          (UInt16.ofNat g :: gs, dotted, rest)

/-- The address of these groups, if there are eight. -/
def Ipv6.ofGroups? (gs : List UInt16) : Option Ipv6 :=
  if h : gs.length = 8 then some ⟨gs, h⟩ else none

/-- An IPv6 address at the head of a text: eight groups, or fewer with
`::` for at least one group of zeros. -/
def ipv6Head (lz : Bool) (cs : List Char) : Option (Ipv6 × List Char) :=
  let (head, dotted, rest) := groupsHead lz 8 true cs
  if head.length == 8 then (Ipv6.ofGroups? head).map (·, rest)
  else if dotted then none
  else
    match rest with
    | ':' :: ':' :: rest =>
      let (tail, _, rest) := groupsHead lz (7 - head.length) true rest
      (Ipv6.ofGroups? (head ++ List.replicate (8 - head.length - tail.length) 0 ++ tail)).map
        (·, rest)
    | _ => none

/-- The value, if nothing follows it. -/
def whole {α : Type} : Option (α × List Char) → Option α
  | some (a, []) => some a
  | _ => none

/-- An IPv4 address. -/
def Ipv4.parse? (s : String) : Option Ipv4 := whole (ipv4Head false s.toList)

/-- An IPv6 address. -/
def Ipv6.parse? (s : String) : Option Ipv6 := whole (ipv6Head false s.toList)

/-- An address of either family. -/
def Ip.parse? (s : String) : Option Ip :=
  match Ipv4.parse? s with
  | some x => some (.v4 x)
  | none => (Ipv6.parse? s).map .v6

/-- The length of a prefix, of at most `digits` digits and up to `max`. -/
def prefixLength (digits max : Nat) (cs : List Char) : Option { n : Nat // n ≤ max } :=
  match whole (number Text.isDigit 10 digits (max + 1) true cs) with
  | none => none
  | some n => if h : n ≤ max then some ⟨n, h⟩ else none

/-- An IPv4 network. -/
def Ipv4Net.parse? (s : String) : Option Ipv4Net := do
  let (addr, cs) ← ipv4Head true s.toList
  let len ← prefixLength 2 32 (← given '/' cs)
  pure ⟨addr, len.1, len.2⟩

/-- An IPv6 network. -/
def Ipv6Net.parse? (s : String) : Option Ipv6Net := do
  let (addr, cs) ← ipv6Head true s.toList
  let len ← prefixLength 3 128 (← given '/' cs)
  pure ⟨addr, len.1, len.2⟩

/-- A network of either family. -/
def IpNet.parse? (s : String) : Option IpNet :=
  match Ipv4Net.parse? s with
  | some x => some (.v4 x)
  | none => (Ipv6Net.parse? s).map .v6

end Sdwan.Net
