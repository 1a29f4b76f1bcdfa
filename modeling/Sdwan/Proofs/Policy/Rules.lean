/-
Which rules pass their check.

# Ports

A text of ports is taken apart at its blanks, and each word is a port or two
ports with a hyphen between them. The parts of a range go through two
readers. The one that looks at the bounds takes any sign, so it lets a minus
sign in front of zeros pass; the one that compares the two ports does not. So
what passes both are natural numbers, there is one way to read a word as a
range, and it is the one that was compared (`isPort_append`).

# Rules

The fields of a rule are checked one by one. Whether they go together is
looked at only when all of them pass, but a rule without issues has passed
both stages (`check_rule_eq_nil`), so the order of the checks leaves no trace
in which rules are accepted.
-/
import Sdwan.Policy.RuleSet
import Sdwan.Proofs.Validation.Check

namespace Sdwan.Policy

open Validation Text

namespace Rule

-- ============================================== ports

section Ports

variable {p q t : List Char} {text : String} {n : Nat}

/-- A port, or two ports in ascending order with a hyphen between them. -/
def IsPort (t : List Char) : Prop :=
  (∃ n, IsNatural t n ∧ n ≤ 65535)
    ∨ ∃ p q a b, t = p ++ '-' :: q ∧ IsNatural p a ∧ IsNatural q b ∧ a < b ∧ b ≤ 65535

/-- Each word of the text is a port or a range of ports. -/
def ArePorts (text : String) : Prop := ∀ w, IsWord text.toList w → IsPort w

/-- A word with a hyphen is read as a range in one way only, since neither of
two ports has a hyphen in it. -/
theorem isPort_append :
    IsPort (p ++ '-' :: q)
      ↔ ∃ a b, IsNatural p a ∧ IsNatural q b ∧ a < b ∧ b ≤ 65535 := by
  constructor
  · intro h
    rcases h with ⟨n, hn, _⟩ | ⟨p', q', a, b, heq, ha, hb, hlt, hle⟩
    · have hmem : '-' ∈ p ++ '-' :: q := by simp
      exact absurd hmem hn.hyphen_not_mem
    · have hpieces : pieces (· == '-') (p ++ '-' :: q) = [p', q'] := by
        rw [heq, pieces_append_cons rfl, ha.pieces_eq, hb.pieces_eq]
        rfl
      obtain ⟨rfl, rfl⟩ := eq_of_pieces_append_cons hpieces
      exact ⟨a, b, ha, hb, hlt, hle⟩
  · intro ⟨a, b, ha, hb, hlt, hle⟩
    exact Or.inr ⟨p, q, a, b, rfl, ha, hb, hlt, hle⟩

/-- A number passes as a port up to the greatest one. -/
theorem checkPort_of_isNatural (h : IsNatural p n) :
    checkPort (String.ofList p) = none ↔ n ≤ 65535 := by
  have hcheck : checkPort (String.ofList p) = none ↔ ∃ m, IsNatural (trim p) m ∧ m ≤ 65535 :=
    checkIntRange_iff_isNatural 65535 (by omega) h.hyphen_not_mem
  rw [hcheck, h.trim_eq, h.exists_and_iff]

/-- Of a range the reader of natural numbers is the last to look at the parts,
and it settles what they are. -/
theorem checkPortToken_append (hp : '-' ∉ p) :
    checkPortToken (p ++ '-' :: q) = none ↔ IsPort (p ++ '-' :: q) := by
  have hsplit : splitFirst (· == '-') (p ++ '-' :: q) = some (p, q) :=
    splitFirst_append_cons (beq_eq_false_of_not_mem hp) rfl q
  rw [isPort_append, checkPortToken, hsplit]
  simp only [firstIssue_eq_none, List.forall_mem_cons]
  have hsize : UInt32.size = 4294967296 := rfl
  constructor
  · intro ⟨_, hlast, hcompared, _⟩
    -- a part that is no number of 32 bits is refused when the two are compared
    split at hcompared
    · next a b ha hb =>
        split at hcompared
        · next hlt =>
            obtain ⟨hp, -⟩ := readBelow?_eq_some.mp ha
            obtain ⟨hq, -⟩ := readBelow?_eq_some.mp hb
            exact ⟨a, b, hp, hq, hlt, (checkPort_of_isNatural hq).mp hlast⟩
        · cases hcompared
    · cases hcompared
  · intro ⟨a, b, ha, hb, hlt, hle⟩
    refine ⟨(checkPort_of_isNatural ha).mpr (by omega), (checkPort_of_isNatural hb).mpr hle, ?_,
      nofun⟩
    rw [readBelow?_eq_some.mpr ⟨ha, by omega⟩, readBelow?_eq_some.mpr ⟨hb, by omega⟩]
    exact if_pos hlt

/-- A word without a hyphen passes if it is a port: no range can be read from it. -/
theorem checkPortToken_of_not_mem (ht : '-' ∉ t) (htrim : trim t = t) :
    checkPortToken t = none ↔ IsPort t := by
  have hsplit : splitFirst (· == '-') t = none :=
    splitFirst_eq_none (beq_eq_false_of_not_mem ht)
  have hcheck : checkPort (String.ofList t) = none ↔ ∃ n, IsNatural (trim t) n ∧ n ≤ 65535 :=
    checkIntRange_iff_isNatural 65535 (by omega) ht
  rw [checkPortToken, hsplit]
  show checkPort (String.ofList t) = none ↔ _
  -- the check trims what it reads, but of a word there is nothing to trim
  rw [hcheck, htrim]
  constructor
  · intro h
    exact Or.inl h
  · intro h
    -- a range would bring a hyphen
    rcases h with h | ⟨p, q, _, _, rfl, _⟩
    · exact h
    · exact absurd (List.mem_append_right p List.mem_cons_self) ht

/-- A word passes if it is a port or a range of ports. -/
theorem checkPortToken_eq_none (htrim : trim t = t) :
    checkPortToken t = none ↔ IsPort t := by
  cases hsplit : splitFirst (· == '-') t with
  | none =>
      refine checkPortToken_of_not_mem (fun hmem => ?_) htrim
      exact absurd (not_sep_of_splitFirst hsplit '-' hmem) (by decide)
  | some parts =>
      obtain ⟨s, hs, rfl, hp⟩ := splitFirst_eq_some hsplit
      obtain rfl := beq_iff_eq.mp hs
      exact checkPortToken_append fun hmem => absurd (hp '-' hmem) (by decide)

/-- A text passes if each of its words does. -/
theorem checkPorts_eq_none : checkPorts text = none ↔ ArePorts text := by
  simp only [checkPorts, ArePorts, firstIssue_eq_none, List.forall_mem_map, mem_words]
  refine forall_congr' fun w => ?_
  refine forall_congr' fun hw => ?_
  exact checkPortToken_eq_none hw.trim_eq

/-- A text of ports passes exactly when each of its words is a port up to
65535, or two such ports in ascending order with a hyphen between them; a port
is ASCII digits with a plus sign in front or without one. In a text that
passes, however a word is cut in two at a hyphen, both parts are read as
numbers of 32 bits, the first below the second. -/
theorem ports_accepted (text : String) :
    (checkPorts text = none ↔ ∀ w, IsWord text.toList w →
        (∃ n, IsNatural w n ∧ n ≤ 65535)
          ∨ ∃ p q a b, w = p ++ '-' :: q ∧ IsNatural p a ∧ IsNatural q b ∧ a < b ∧ b ≤ 65535)
      ∧ ∀ p q, IsWord text.toList (p ++ '-' :: q) → checkPorts text = none →
          ∃ a b, readBelow? UInt32.size p = some a ∧ readBelow? UInt32.size q = some b
            ∧ a < b ∧ b ≤ 65535 := by
  refine ⟨checkPorts_eq_none, ?_⟩
  intro p q hw hpass
  obtain ⟨a, b, ha, hb, hlt, hle⟩ := isPort_append.mp (checkPorts_eq_none.mp hpass _ hw)
  have hsize : UInt32.size = 4294967296 := rfl
  exact ⟨a, b, readBelow?_eq_some.mpr ⟨ha, by omega⟩, readBelow?_eq_some.mpr ⟨hb, by omega⟩, hlt,
    hle⟩

/-- A port with zeros in front and a range with a sign and a blank of
another script behind it; with a sign on a zero the range would not pass. -/
theorem ports_accepted_mixed :
    ∃ a b, readBelow? UInt32.size "+7".toList = some a
      ∧ readBelow? UInt32.size "65535".toList = some b ∧ a < b ∧ b ≤ 65535
      ∧ checkPorts " 0080 +7-65535\u3000" = none ∧ checkPorts "0080 -0-7" ≠ none
      ∧ checkPorts "0--0" ≠ none := by
  have hpass : checkPorts " 0080 +7-65535\u3000" = none := by decide +kernel
  have hword : IsWord " 0080 +7-65535\u3000".toList ("+7".toList ++ '-' :: "65535".toList) :=
    mem_words.mp (by decide +kernel)
  obtain ⟨a, b, ha, hb, hlt, hle⟩ := (ports_accepted " 0080 +7-65535\u3000").2 _ _ hword hpass
  exact ⟨a, b, ha, hb, hlt, hle, hpass, by decide +kernel, by decide +kernel⟩

end Ports

-- ============================================== protocols

/-- A text of protocols passes if each of its words is a number of one byte. -/
theorem checkProtocols_eq_none {text : String} :
    checkProtocols text = none
      ↔ ∀ w, IsWord text.toList w → ∃ i, IsInteger w i ∧ 0 ≤ i ∧ i ≤ 255 := by
  simp only [checkProtocols, firstIssue_eq_none, List.forall_mem_map, mem_words]
  refine forall_congr' fun w => ?_
  refine forall_congr' fun hw => ?_
  rw [checkIntRange_iff (by omega) (by omega), String.toList_ofList, hw.trim_eq]

-- ============================================== conditions

section Conditions

variable {r : Rule}

/-- The networks of a family. -/
inductive IsOf : Family → Net.IpNet → Prop where
  | ipv4 (n : Net.Ipv4Net) : IsOf .ipv4 (.v4 n)
  | ipv6 (n : Net.Ipv6Net) : IsOf .ipv6 (.v6 n)

/-- A network passes if it is of the family of the rule, and so does none. -/
theorem checkFamily_eq_none {network : Option Net.IpNet} :
    r.checkFamily network = none ↔ ∀ n ∈ network, IsOf r.family n := by
  unfold checkFamily
  cases network with
  | none => simp
  | some n =>
      cases hfamily : r.family with
      -- a network of the other family is of no use to the rule
      | ipv4 =>
          cases n with
          | v4 n => simpa using IsOf.ipv4 n
          | v6 n =>
              refine iff_of_false nofun fun h => ?_
              cases h _ rfl
      | ipv6 =>
          cases n with
          | v4 n =>
              refine iff_of_false nofun fun h => ?_
              cases h _ rfl
          | v6 n => simpa using IsOf.ipv6 n

/-- The conditions between fields: of each group one is set at most, and the
networks are of the family. -/
theorem checkConditions_eq_none :
    r.checkConditions = none
      ↔ (∀ g ∈ r.groups, AtMostOne (g.map (·.2)))
        ∧ (∀ n ∈ r.sourcePrefix, IsOf r.family n) ∧ ∀ n ∈ r.destinationPrefix, IsOf r.family n := by
  rw [checkConditions, firstIssue_eq_none, List.forall_mem_append, List.forall_mem_map]
  simp only [checkExclusive_eq_none, List.forall_mem_cons, checkFamily_eq_none]
  simp

end Conditions

-- ============================================== rules

/-- What a rule has to observe: texts that stand for numbers in range, at most
one condition of each group, and networks of the family. -/
structure IsSound (r : Rule) : Prop where
  order : ∃ i, IsInteger (trim r.order.toList) i ∧ 1 ≤ i ∧ i ≤ 2 ^ 32 - 1
  sourcePort : ∀ text ∈ r.sourcePort, ArePorts text
  destinationPort : ∀ text ∈ r.destinationPort, ArePorts text
  protocol : ∀ text ∈ r.protocol, ∀ w, IsWord text.toList w →
    ∃ i, IsInteger w i ∧ 0 ≤ i ∧ i ≤ 255
  oneSource : AtMostOne [r.sourcePrefix.isSome, r.sourcePrefixVariable.isSome,
    r.sourcePrefixList.isSome]
  oneDestination : AtMostOne [r.destinationPrefix.isSome, r.destinationPrefixVariable.isSome,
    r.destinationPrefixList.isSome]
  oneSourceFqdn : AtMostOne [r.sourceFqdn.isSome, r.sourceFqdnList.isSome]
  oneDestinationFqdn : AtMostOne [r.destinationFqdn.isSome, r.destinationFqdnList.isSome]
  oneSourcePort : AtMostOne [r.sourcePort.isSome, r.sourcePortList.isSome]
  oneDestinationPort : AtMostOne [r.destinationPort.isSome, r.destinationPortList.isSome]
  oneSourceGeo : AtMostOne [r.sourceGeoLocation.isSome, r.sourceGeoLocationList.isSome]
  oneDestinationGeo : AtMostOne [r.destinationGeoLocation.isSome,
    r.destinationGeoLocationList.isSome]
  oneProtocol : AtMostOne [r.protocol.isSome, r.protocolName.isSome, r.protocolNameList.isSome]
  sourceFamily : ∀ n ∈ r.sourcePrefix, IsOf r.family n
  destinationFamily : ∀ n ∈ r.destinationPrefix, IsOf r.family n

variable {r : Rule}

/-- The report of a rule is that of its fields and of its conditions. -/
theorem check_rule_eq_nil :
    check r = [] ↔ checkOrder r.order = none ∧ (∀ text ∈ r.sourcePort, checkPorts text = none)
      ∧ (∀ text ∈ r.destinationPort, checkPorts text = none)
      ∧ (∀ text ∈ r.protocol, checkProtocols text = none) ∧ r.checkConditions = none := by
  show thenWhole _ _ = [] ↔ _
  simp only [thenWhole_eq_nil, List.append_eq_nil_iff, onText_eq_nil, onTextIf_eq_nil, and_assoc]

/-- An order is a number of 32 bits from one on. -/
theorem checkOrder_eq_none :
    checkOrder r.order = none
      ↔ ∃ i, IsInteger (trim r.order.toList) i ∧ 1 ≤ i ∧ i ≤ 2 ^ 32 - 1 :=
  checkIntRange_iff (by omega) (by omega)

/-- A rule passes exactly when its order is a number from one to the last of
32 bits, its ports are ports and ranges of ports, the numbers of its protocols
go up to 255, no two of the conditions that exclude each other are set, and
its networks are of its family. -/
theorem rule_accepted (r : Rule) : check r = [] ↔ r.IsSound := by
  rw [check_rule_eq_nil, checkOrder_eq_none, checkConditions_eq_none]
  simp only [checkPorts_eq_none, checkProtocols_eq_none]
  constructor
  · intro ⟨horder, hsource, hdestination, hprotocol, hgroups, hfamily, hfamily'⟩
    simp only [groups, List.forall_mem_cons, List.map_cons, List.map_nil] at hgroups
    obtain ⟨hnetwork, hnetwork', hfqdn, hfqdn', hport, hport', hgeo, hgeo', hname, -⟩ := hgroups
    exact ⟨horder, hsource, hdestination, hprotocol, hnetwork, hnetwork', hfqdn, hfqdn', hport,
      hport', hgeo, hgeo', hname, hfamily, hfamily'⟩
  · intro h
    refine ⟨h.order, h.sourcePort, h.destinationPort, h.protocol, ?_, h.sourceFamily,
      h.destinationFamily⟩
    simp only [groups, List.forall_mem_cons, List.map_cons, List.map_nil]
    exact ⟨h.oneSource, h.oneDestination, h.oneSourceFqdn, h.oneDestinationFqdn, h.oneSourcePort,
      h.oneDestinationPort, h.oneSourceGeo, h.oneDestinationGeo, h.oneProtocol, nofun⟩

end Rule

end Sdwan.Policy
